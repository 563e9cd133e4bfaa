/-
The comparators that the combinators build from the natural order, in any
nesting (`Composed`), asked about definite values. Each of them behaves
like a difference of two places wherever it answers (`SignedOn`): it
refuses a pair in both orders or in neither, turning the operands round
negates the number, and from two answers that are not positive a third
one follows, which is negative as soon as one of the two is.

The natural order is so because definite values stand to one another in a
partial order that they keep through values that agree, and the rest is
one lemma for each combinator. A key has no other part in it than to give
definite values for definite ones; it may fail, for then it fails on its
value in either place. Null last is null first in the opposite order, seen
from the other side.

On sound values less is true: a NaN is level with every number, and a set
with any other of which it is no part and that is no part of it, so that
"not above" does not go from pair to pair. What is left is that the
comparators do not contradict themselves (`builtins_consistentOn`).
-/
import Collation.Proofs.Fallible
import Collation.Proofs.Value.Standing

namespace Collation.Comparison

open Value (Definite Sound stands?)

variable {c : Comparison} {D : Value → Prop} {a b d : Value} {key : SortKey}

-- ============================================================== promises

/-- A comparator that behaves like a difference of two places on some
values, wherever it answers. -/
structure SignedOn (D : Value → Prop) (c : Comparison) : Prop where
  /-- Both orders of the operands are refused, or the answers are opposite
  integers. -/
  converse : ∀ a b, D a → D b →
    (∃ e f, c a b = .error e ∧ c b a = .error f)
      ∨ ∃ n, c a b = .ok (.int n) ∧ c b a = .ok (.int (-n))
  /-- What is not above what is not above a third one is not above it. -/
  trans : ∀ a b d, D a → D b → D d → ∀ m n, c a b = .ok (.int m) → c b d = .ok (.int n) →
    m ≤ 0 → n ≤ 0 → ∃ k, c a d = .ok (.int k) ∧ k ≤ 0 ∧ (m < 0 ∨ n < 0 → k < 0)

namespace SignedOn

/-- What is answered is an integer, and its opposite the other way round. -/
theorem answered (h : SignedOn D c) (ha : D a) (hb : D b) {r : Answer} (hr : c a b = .ok r) :
    ∃ n, r = .int n ∧ c b a = .ok (.int (-n)) := by
  rcases h.converse a b ha hb with ⟨e, f, hab, -⟩ | ⟨n, hab, hba⟩
  · rw [hr] at hab
    cases hab
  · rw [hr] at hab
    exact ⟨n, Except.ok.inj hab, hba⟩

/-- What is refused is refused in both orders. -/
theorem refused (h : SignedOn D c) (ha : D a) (hb : D b) {e : Fault} (he : c a b = .error e) :
    ∃ f, c b a = .error f := by
  rcases h.converse a b ha hb with ⟨_, f, -, hba⟩ | ⟨n, hab, -⟩
  · exact ⟨f, hba⟩
  · rw [he] at hab
    cases hab

end SignedOn

-- ========================================================= natural order

/-- The number that says on which side a value stands. -/
def sign : Ordering → Int
  | .lt => -1
  | .eq => 0
  | .gt => 1

/-- What the natural order answers to a standing, `e` if there is none. -/
def verdict (e : Fault) : Option Ordering → Except Fault Answer
  | some o => .ok (.int (sign o))
  | none => .error e

/-- The natural order gives the side on which sound values stand. -/
theorem natural_eq (ha : a.Sound) (hb : b.Sound) :
    ∃ e, natural a b = verdict e (stands? a b) := by
  obtain ⟨e, hab⟩ := ha.related_below hb
  obtain ⟨f, hba⟩ := hb.related_below ha
  refine ⟨e, ?_⟩
  unfold natural
  rw [Value.less, Value.less, hab, hba]
  cases hs : stands? a b with
  | none => rfl
  | some o =>
    rw [ha.stands?_swap b o hb hs]
    cases o <;> rfl

/-- The natural order answers with the sign of how two sound values stand. -/
private theorem natural_eq_ok {r : Answer} (ha : a.Sound) (hb : b.Sound) (h : natural a b = .ok r) :
    ∃ o, stands? a b = some o ∧ r = .int (sign o) := by
  obtain ⟨e, he⟩ := natural_eq ha hb
  rw [h] at he
  cases hs : stands? a b with
  | none =>
    rw [hs] at he
    cases he
  | some o =>
    rw [hs] at he
    cases he
    exact ⟨o, rfl, rfl⟩

private theorem natural_of_stands {o : Ordering} (ha : a.Sound) (hb : b.Sound)
    (h : stands? a b = some o) : natural a b = .ok (.int (sign o)) := by
  obtain ⟨e, he⟩ := natural_eq ha hb
  rw [he, h]
  rfl

private theorem side?_sign (o : Ordering) : (Answer.int (sign o)).side? = some o := by
  rw [Answer.side?_int]
  cases o <;> rfl

/-- It says what they stand in, no more and no less. -/
private theorem natural_gives_iff {o : Ordering} (ha : a.Sound) (hb : b.Sound) :
    natural.Gives a b o ↔ stands? a b = some o := by
  constructor
  · rintro ⟨r, hr, hside⟩
    obtain ⟨o', ho', rfl⟩ := natural_eq_ok ha hb hr
    rw [side?_sign] at hside
    rw [ho', hside]
  · exact fun h => ⟨_, natural_of_stands ha hb h, side?_sign o⟩

/-- The natural order refuses sound values in both orders, or they stand
opposite ways. -/
theorem natural_converse (ha : a.Sound) (hb : b.Sound) :
    (∃ e f, natural a b = .error e ∧ natural b a = .error f)
      ∨ ∃ o, stands? a b = some o ∧ stands? b a = some o.swap := by
  cases hs : stands? a b with
  | some o => exact .inr ⟨o, rfl, ha.stands?_swap b o hb hs⟩
  | none =>
    have hback : stands? b a = none := by
      by_contra hne
      obtain ⟨o, ho⟩ := Option.ne_none_iff_exists'.1 hne
      rw [hb.stands?_swap a o ha ho] at hs
      cases hs
    obtain ⟨e, hab⟩ := natural_eq ha hb
    obtain ⟨f, hba⟩ := natural_eq hb ha
    rw [hs] at hab
    rw [hback] at hba
    exact .inl ⟨e, f, hab, hba⟩

/-- On sound values the natural order does not contradict itself, though
values that it finds level may stand differently to others. -/
theorem natural_consistentOn : natural.ConsistentOn Sound where
  converse a b ha hb := by
    refine (natural_converse ha hb).imp_right ?_
    rintro ⟨o, hab, hba⟩
    exact ⟨o, (natural_gives_iff ha hb).2 hab, (natural_gives_iff hb ha).2 hba⟩
  trans a b d ha hb hd hab hbd := by
    rw [natural_gives_iff ha hb] at hab
    rw [natural_gives_iff hb hd] at hbd
    rw [natural_gives_iff ha hd]
    exact ha.stands?_trans b d hb hd hab hbd

/-- The natural order answers with opposite signs both ways round. -/
private theorem natural_signed : SignedOn Definite natural where
  converse a b ha hb := by
    refine (natural_converse ha.sound hb.sound).imp_right ?_
    rintro ⟨o, hab, hba⟩
    refine ⟨sign o, natural_of_stands ha.sound hb.sound hab, ?_⟩
    rw [natural_of_stands hb.sound ha.sound hba]
    cases o <;> rfl
  trans a b d ha hb hd m n hab hbd hm hn := by
    obtain ⟨o, ho, ⟨⟩⟩ := natural_eq_ok ha.sound hb.sound hab
    obtain ⟨o', ho', ⟨⟩⟩ := natural_eq_ok hb.sound hd.sound hbd
    -- a level pair is exchanged for one value, and the other pair decides
    cases o with
    | gt => exact absurd hm (by decide)
    | eq =>
      have hagree : Value.agree b a = true :=
        ha.sound.agree_symm b hb.sound (ha.agree_of_level b hb ho)
      have had : stands? a d = some o' :=
        hb.sound.stands?_congr a d o' ha.sound hd.sound hagree ho'
      exact ⟨sign o', natural_of_stands ha.sound hd.sound had, hn,
        fun h => h.resolve_left (Int.lt_irrefl 0)⟩
    | lt =>
      have had : stands? a d = some .lt := by
        cases o' with
        | gt => exact absurd hn (by decide)
        | eq =>
          exact ha.sound.stands?_congr_right hb.sound hd.sound (hb.agree_of_level d hd ho') ho
        | lt => exact ha.sound.stands?_trans b d hb.sound hd.sound ho ho'
      exact ⟨-1, natural_of_stands ha.sound hd.sound had, by decide, fun _ => by decide⟩

-- =========================================================== combinators

private theorem SignedOn.reversed (h : SignedOn D c) : SignedOn D c.reversed where
  converse a b ha hb := h.converse b a hb ha
  trans a b d ha hb hd m n hab hbd hm hn := by
    obtain ⟨k, hk, hle, hlt⟩ := h.trans d b a hd hb ha n m hbd hab hn hm
    exact ⟨k, hk, hle, fun hneg => hlt hneg.symm⟩

private theorem ConsistentOn.reversed (h : c.ConsistentOn D) : c.reversed.ConsistentOn D where
  converse a b ha hb := h.converse b a hb ha
  trans a b d ha hb hd hab hbd := h.trans d b a hd hb ha hbd hab

/-- Only if neither is null are two values compared. -/
theorem nullsFirst_eq (c : Comparison) (a b : Value) : c.nullsFirst a b =
    if a.isNull then .ok (.int (if b.isNull then 0 else -1))
    else if b.isNull then .ok (.int 1) else c a b := by
  unfold Comparison.nullsFirst
  cases a.isNull <;> cases b.isNull <;> rfl

private theorem SignedOn.nullsFirst (h : SignedOn D c) : SignedOn D c.nullsFirst where
  converse a b ha hb := by
    rw [nullsFirst_eq, nullsFirst_eq]
    cases a.isNull with
    | true =>
      cases b.isNull with
      | true => exact .inr ⟨0, rfl, rfl⟩
      | false => exact .inr ⟨-1, rfl, rfl⟩
    | false =>
      cases b.isNull with
      | true => exact .inr ⟨1, rfl, rfl⟩
      | false => exact h.converse a b ha hb
  trans a b d ha hb hd m n hab hbd hm hn := by
    rw [nullsFirst_eq] at hab hbd ⊢
    by_cases hna : a.isNull = true
    · rw [if_pos hna] at hab ⊢
      by_cases hnd : d.isNull = true
      · -- Nothing but null is at most null.
        have hnb : b.isNull = true := by
          by_contra hnb
          rw [if_neg hnb, if_pos hnd] at hbd
          cases hbd
          exact absurd hn (by decide)
        rw [if_pos hnb] at hab hbd
        rw [if_pos hnd] at hbd ⊢
        cases hab
        cases hbd
        exact ⟨0, rfl, Int.le_refl 0, fun h => h.elim id id⟩
      · rw [if_neg hnd]
        exact ⟨-1, rfl, by decide, fun _ => by decide⟩
    · rw [if_neg hna] at hab ⊢
      have hnb : ¬b.isNull = true := by
        intro hnb
        rw [if_pos hnb] at hab
        cases hab
        exact absurd hm (by decide)
      rw [if_neg hnb] at hab hbd
      have hnd : ¬d.isNull = true := by
        intro hnd
        rw [if_pos hnd] at hbd
        cases hbd
        exact absurd hn (by decide)
      rw [if_neg hnd] at hbd ⊢
      exact h.trans a b d ha hb hd m n hab hbd hm hn

/-- A fixed answer lies on its own side. -/
theorem given_sign {o s : Ordering} :
    (∃ r, (.ok (.int (sign o)) : Except Fault Answer) = .ok r ∧ r.side? = some s) ↔ o = s := by
  constructor
  · rintro ⟨_, ⟨⟩, hside⟩
    rw [side?_sign] at hside
    exact Option.some.inj hside
  · rintro rfl
    exact ⟨_, rfl, side?_sign o⟩

/-- Below something is null, before all that is not, and what was. -/
theorem nullsFirst_gives_lt_iff : c.nullsFirst.Gives a b .lt ↔
    b.isNull = false ∧ (a.isNull = true ∨ c.Gives a b .lt) := by
  unfold Gives
  rw [nullsFirst_eq]
  cases a.isNull with
  | true =>
    cases b.isNull with
    | true => exact iff_of_false (fun h => nomatch given_sign (o := .eq).1 h) fun h => nomatch h.1
    | false => exact iff_of_true (given_sign (o := .lt).2 rfl) ⟨rfl, .inl rfl⟩
  | false =>
    cases b.isNull with
    | true => exact iff_of_false (fun h => nomatch given_sign (o := .gt).1 h) fun h => nomatch h.1
    | false => exact ⟨fun h => ⟨rfl, .inr h⟩, fun h => h.2.resolve_left Bool.false_ne_true⟩

/-- Nor does it with the nulls before all others. -/
private theorem ConsistentOn.nullsFirst (h : c.ConsistentOn D) : c.nullsFirst.ConsistentOn D where
  converse a b ha hb := by
    unfold Gives
    rw [nullsFirst_eq, nullsFirst_eq]
    cases a.isNull with
    | true =>
      cases b.isNull with
      | true => exact .inr ⟨.eq, ⟨_, rfl, side?_sign .eq⟩, _, rfl, side?_sign .eq⟩
      | false => exact .inr ⟨.lt, ⟨_, rfl, side?_sign .lt⟩, _, rfl, side?_sign .gt⟩
    | false =>
      cases b.isNull with
      | true => exact .inr ⟨.gt, ⟨_, rfl, side?_sign .gt⟩, _, rfl, side?_sign .lt⟩
      | false => exact h.converse a b ha hb
  trans a b d ha hb hd hab hbd := by
    rw [nullsFirst_gives_lt_iff] at hab hbd ⊢
    obtain ⟨hb', hab⟩ := hab
    obtain ⟨hd', hbd⟩ := hbd
    have hbd := hbd.resolve_left (Bool.eq_false_iff.1 hb')
    exact ⟨hd', hab.imp_right fun hab => h.trans a b d ha hb hd hab hbd⟩

/-- Not above anything is null, and what was unless the other is null. -/
theorem nullsFirst_atMost_iff : c.nullsFirst.AtMost a b ↔
    a.isNull = true ∨ b.isNull = false ∧ c.AtMost a b := by
  unfold AtMost Gives
  rw [nullsFirst_eq]
  cases a.isNull with
  | true =>
    cases b.isNull with
    | true => exact iff_of_true (.inr (given_sign (o := .eq).2 rfl)) (.inl rfl)
    | false => exact iff_of_true (.inl (given_sign (o := .lt).2 rfl)) (.inl rfl)
  | false =>
    cases b.isNull with
    | true =>
      refine iff_of_false (fun h => ?_) (by simp)
      rcases h with h | h
      · cases given_sign (o := .gt).1 h
      · cases given_sign (o := .gt).1 h
    | false => simp

/-- Null and what a total preorder is about are in a total preorder. -/
theorem TotalOn.nullsFirst (h : c.TotalOn D) :
    c.nullsFirst.TotalOn fun v => v.isNull = true ∨ D v where
  converse a b ha hb := by
    unfold Gives
    rw [nullsFirst_eq, nullsFirst_eq]
    cases hna : a.isNull with
    | true =>
      cases b.isNull with
      | true => exact ⟨.eq, ⟨_, rfl, side?_sign .eq⟩, _, rfl, side?_sign .eq⟩
      | false => exact ⟨.lt, ⟨_, rfl, side?_sign .lt⟩, _, rfl, side?_sign .gt⟩
    | false =>
      cases hnb : b.isNull with
      | true => exact ⟨.gt, ⟨_, rfl, side?_sign .gt⟩, _, rfl, side?_sign .lt⟩
      | false =>
        rw [hna] at ha
        rw [hnb] at hb
        exact h.converse a b (ha.resolve_left Bool.false_ne_true)
          (hb.resolve_left Bool.false_ne_true)
  trans a b d ha hb hd hab hbd := by
    rw [nullsFirst_atMost_iff] at hab hbd ⊢
    -- a null in front is not above anything; without one, none of the three is null
    by_cases hna : a.isNull = true
    · exact .inl hna
    obtain ⟨hnb, hab⟩ := hab.resolve_left hna
    have hnb := Bool.eq_false_iff.1 hnb
    obtain ⟨hnd, hbd⟩ := hbd.resolve_left hnb
    exact .inr ⟨hnd, h.trans a b d (ha.resolve_left hna) (hb.resolve_left hnb)
      (hd.resolve_left (Bool.eq_false_iff.1 hnd)) hab hbd⟩

/-- Null last is null first seen from the other side. -/
theorem nullsLast_eq (c : Comparison) : c.nullsLast = c.reversed.nullsFirst.reversed := by
  funext a b
  unfold nullsLast reversed nullsFirst
  cases a.isNull <;> cases b.isNull <;> rfl

private theorem SignedOn.nullsLast (h : SignedOn D c) : SignedOn D c.nullsLast := by
  rw [nullsLast_eq]
  exact h.reversed.nullsFirst.reversed

private theorem ConsistentOn.nullsLast (h : c.ConsistentOn D) : c.nullsLast.ConsistentOn D := by
  rw [nullsLast_eq]
  exact h.reversed.nullsFirst.reversed

private theorem comparing_eq_ok {r : Answer} : c.comparing key a b = .ok r ↔
    ∃ v, key a = .ok v ∧ ∃ w, key b = .ok w ∧ c v w = .ok r := by
  unfold Comparison.comparing
  rw [bind_eq_ok]
  simp only [bind_eq_ok]

/-- An order by a key is as good as the order of the keys, on values for
which the key gives such keys or fails. -/
theorem SignedOn.comparing {E : Value → Prop} (h : SignedOn E c)
    (hkey : ∀ v w, D v → key v = .ok w → E w) : SignedOn D (c.comparing key) where
  converse a b ha hb := by
    unfold Comparison.comparing
    cases hka : key a with
    | error e =>
      refine .inl ⟨e, ?_⟩
      cases key b with
      | error f => exact ⟨f, rfl, rfl⟩
      | ok w => exact ⟨e, rfl, rfl⟩
    | ok v =>
      cases hkb : key b with
      | error f => exact .inl ⟨f, f, rfl, rfl⟩
      | ok w => exact h.converse v w (hkey a v ha hka) (hkey b w hb hkb)
  trans a b d ha hb hd m n hab hbd hm hn := by
    obtain ⟨u, hu, v, hv, huv⟩ := comparing_eq_ok.1 hab
    obtain ⟨v', hv', w, hw, hvw⟩ := comparing_eq_ok.1 hbd
    obtain rfl : v = v' := by
      rw [hv] at hv'
      exact Except.ok.inj hv'
    obtain ⟨k, hk, hle, hlt⟩ :=
      h.trans u v w (hkey a u ha hu) (hkey b v hb hv) (hkey d w hd hw) m n huv hvw hm hn
    exact ⟨k, comparing_eq_ok.2 ⟨u, hu, w, hw, hk⟩, hle, hlt⟩

-- =============================================================== nesting

/-- A comparator built from the natural order by any finite nesting of the
combinators, with keys that may fail but give definite values for definite
values. -/
inductive Composed : Comparison → Prop where
  | natural : Composed natural
  | reversed {c : Comparison} : Composed c → Composed c.reversed
  | nullsFirst {c : Comparison} : Composed c → Composed c.nullsFirst
  | nullsLast {c : Comparison} : Composed c → Composed c.nullsLast
  | comparing {key : SortKey} {c : Comparison} :
      (∀ v w, v.Definite → key v = .ok w → w.Definite) → Composed c → Composed (c.comparing key)

/-- Whatever is built by combinators answers with opposite signs both ways
round. -/
private theorem Composed.signedOn (h : Composed c) : SignedOn Definite c := by
  induction h with
  | natural => exact natural_signed
  | reversed _ ih => exact ih.reversed
  | nullsFirst _ ih => exact ih.nullsFirst
  | nullsLast _ ih => exact ih.nullsLast
  | comparing hkey _ ih => exact ih.comparing hkey

private theorem foldedKey_definite (v w : Value) (h : foldedKey v = .ok w) : w.Definite := by
  unfold foldedKey at h
  cases ht : v.text? with
  | none =>
    rw [ht] at h
    cases h
  | some s =>
    rw [ht] at h
    cases h
    exact .atom rfl

/-- What the natural order has, the combinators keep, and folding case has
as well, all ready-made comparators have. -/
theorem forall_builtins {P : Comparison → Prop} (hnatural : P natural)
    (hreversed : ∀ {c}, P c → P c.reversed) (hfirst : ∀ {c}, P c → P c.nullsFirst)
    (hlast : ∀ {c}, P c → P c.nullsLast) (hfolded : P (natural.comparing foldedKey)) :
    ∀ e ∈ Comparator.builtins, P e.2.compare := by
  intro e he
  simp only [Comparator.builtins, List.mem_cons, List.not_mem_nil, or_false] at he
  rcases he with rfl | rfl | rfl | rfl | rfl
  · exact hnatural
  · exact hreversed hnatural
  · exact hfirst hnatural
  · exact hlast hnatural
  · exact hfolded

/-- On sound values none of them contradicts itself. -/
theorem builtins_consistentOn : ∀ e ∈ Comparator.builtins, e.2.compare.ConsistentOn Sound :=
  forall_builtins (P := fun c => c.ConsistentOn Sound) natural_consistentOn .reversed .nullsFirst
    .nullsLast (Comparator.caseFold_consistent.mono fun _ _ => trivial)

/-- A comparator built by combinators refuses a pair of definite values in
both orders or in neither, gives opposite integers in the two orders, and
carries "not above", with whether it is strict, from two pairs to the
third, about which it then answers. -/
theorem composed_algebra (hc : Composed c) (ha : a.Definite) (hb : b.Definite) (hd : d.Definite) :
    ((∃ e, c a b = .error e) ↔ ∃ e, c b a = .error e)
      ∧ (∀ r, c a b = .ok r → ∃ n, r = .int n ∧ c b a = .ok (.int (-n)))
      ∧ ∀ m n, c a b = .ok (.int m) → c b d = .ok (.int n) → m ≤ 0 → n ≤ 0 →
        ∃ k, c a d = .ok (.int k) ∧ k ≤ 0 ∧ (m < 0 ∨ n < 0 → k < 0) := by
  have hsigned := hc.signedOn
  refine ⟨⟨?_, ?_⟩, ?_, hsigned.trans a b d ha hb hd⟩
  · rintro ⟨e, he⟩
    exact hsigned.refused ha hb he
  · rintro ⟨e, he⟩
    exact hsigned.refused hb ha he
  · intro r hr
    exact hsigned.answered ha hb hr

/-- Null first, and texts from the last to the first, their case apart. -/
theorem composed_algebra_caseFold :
    let c := (natural.comparing foldedKey).reversed.nullsFirst
    c.Composed ∧ Value.null.Definite ∧ (Value.text "b").Definite ∧ (Value.text "A").Definite
      ∧ c .null (.text "b") = .ok (.int (-1)) ∧ c (.text "b") (.text "A") = .ok (.int (-1))
      ∧ (∃ n, Answer.int (-1) = .int n ∧ c (.text "b") .null = .ok (.int (-n)))
      ∧ ∃ k, c .null (.text "A") = .ok (.int k) ∧ k < 0 := by
  intro c
  have hc : c.Composed :=
    .nullsFirst (.reversed (.comparing (fun v w _ => foldedKey_definite v w) .natural))
  have hnull : Value.null.Definite := .atom rfl
  have hb : (Value.text "b").Definite := .atom rfl
  have hA : (Value.text "A").Definite := .atom rfl
  have hfirst : c .null (.text "b") = .ok (.int (-1)) := rfl
  have hsecond : c (.text "b") (.text "A") = .ok (.int (-1)) := rfl
  obtain ⟨-, hconverse, htrans⟩ := composed_algebra hc hnull hb hA
  obtain ⟨k, hk, -, hlt⟩ := htrans (-1) (-1) hfirst hsecond (by decide) (by decide)
  exact ⟨hc, hnull, hb, hA, hfirst, hsecond, hconverse _ hfirst, k, hk, hlt (.inl (by decide))⟩

end Collation.Comparison
