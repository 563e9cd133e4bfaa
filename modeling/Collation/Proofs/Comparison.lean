/-
What a comparator has to keep to for the order of a container to mean
anything. A comparison is read through the side of zero on which its
answer lies (`Gives`), so that integers and floats are treated alike and a
refused pair lies on no side.

Three promises are named. A consistent comparator may refuse pairs, but in
both orders of the operands or in neither; what it answers, it does not
take back; and being below is transitive. Giving zero need not be. For a
congruent one values between which it gives zero stand alike to any other.
A total preorder refuses nothing and has both relations transitive, which
makes giving zero an equivalence. Each promise is about the values of some
domain only, so that it can be made for the operands that are in use.

Folding case keeps the first two on all values
(`Comparator.caseFold_congruentOn`) and the last on texts
(`Comparator.caseFold_totalOn`).
-/
import Collation.Comparator.Basic
import Collation.Proofs.Number.Rounding
import Collation.Proofs.Text.Order

namespace Collation

private theorem Position.compare_eq_lt_iff (p q : Position) :
    p.compare q = .lt ↔ p.less q = true := by
  unfold Position.compare
  split
  · simp [*]
  · split <;> simp [*]

/-- Positions of which neither is the lesser are the same one. -/
theorem Position.compare_eq_eq_iff (p q : Position) : p.compare q = .eq ↔ p = q := by
  unfold Position.compare
  cases p <;> cases q
  case finite.finite a b =>
    simp only [Position.less, decide_eq_true_eq, Position.finite.injEq]
    rcases Int.lt_trichotomy a b with h | h | h
    · rw [if_pos h]
      exact iff_of_false (by simp) (Int.ne_of_lt h)
    · rw [h, if_neg (Int.lt_irrefl b), if_neg (Int.lt_irrefl b)]
      exact iff_of_true rfl rfl
    · rw [if_neg (Int.lt_asymm h), if_pos h]
      exact iff_of_false (by simp) (Int.ne_of_gt h)
  all_goals simp [Position.less]

namespace Answer

/-- The side of zero on which an answer lies; a NaN lies on none. -/
def side? (a : Answer) : Option Ordering := a.position?.map (·.compare (.finite 0))

private theorem isNegative_iff (a : Answer) : a.isNegative = true ↔ a.side? = some .lt := by
  unfold isNegative side?
  cases a.position? with
  | none => simp
  | some p => simp [Position.compare_eq_lt_iff]

/-- A zero says "equivalent". -/
theorem isZero_iff (a : Answer) : a.isZero = true ↔ a.side? = some .eq := by
  unfold isZero side?
  cases a.position? with
  | none => simp
  | some p => simp [Position.compare_eq_eq_iff]

theorem isNegative_eq (a : Answer) : a.isNegative = (a.side? == some .lt) := by
  rw [Bool.eq_iff_iff, isNegative_iff, beq_iff_eq]

theorem isZero_eq (a : Answer) : a.isZero = (a.side? == some .eq) := by
  rw [Bool.eq_iff_iff, isZero_iff, beq_iff_eq]

/-- An integer always lies on a side. -/
theorem side?_int (n : Int) : (int n).side? = some (Ord.compare n 0) := by
  have hone : (0 : Int) < Binary64.unitsPerOne := Int.natCast_pos.2 Binary64.unitsPerOne_pos
  simp only [side?, position?, intPosition, Option.map_some, Position.compare, Position.less,
    decide_eq_true_eq, compare, compareOfLessAndEq]
  rcases Int.lt_trichotomy n 0 with h | h | h
  · have hprod : n * Binary64.unitsPerOne < 0 := Int.mul_neg_of_neg_of_pos h hone
    rw [if_pos hprod, if_pos h]
  · rw [h, Int.zero_mul, if_neg (Int.lt_irrefl 0), if_neg (Int.lt_irrefl 0),
      if_neg (Int.lt_irrefl 0), if_pos rfl]
  · have hprod : 0 < n * Binary64.unitsPerOne := Int.mul_pos h hone
    rw [if_neg (Int.lt_asymm hprod), if_pos hprod, if_neg (Int.lt_asymm h),
      if_neg (Int.ne_of_gt h)]

end Answer

namespace Comparison

variable (c : Comparison) {D : Value → Prop} {a b d : Value} {s t : Ordering}

/-- The comparator answers about two values, given in this order, with a
number on the side `s` of zero. -/
def Gives (a b : Value) (s : Ordering) : Prop := ∃ r, c a b = .ok r ∧ r.side? = some s

/-- What a comparator tells about two values: the side of zero on which its
answer lies, which a NaN does not have; nothing where it refuses. -/
def told (a b : Value) : Option (Option Ordering) := (c a b).toOption.map Answer.side?

/-- The first value is below the second or equivalent to it. -/
def AtMost (a b : Value) : Prop := c.Gives a b .lt ∨ c.Gives a b .eq

/-- A comparator that does not contradict itself on some values. -/
structure ConsistentOn (D : Value → Prop) : Prop where
  /-- Both orders of the operands are refused, or the answers have opposite
  signs. -/
  converse : ∀ a b, D a → D b →
    (∃ e f, c a b = .error e ∧ c b a = .error f) ∨ ∃ s, c.Gives a b s ∧ c.Gives b a s.swap
  trans : ∀ a b d, D a → D b → D d →
    c.Gives a b .lt → c.Gives b d .lt → c.Gives a d .lt

/-- Consistent on all values. -/
def Consistent : Prop := c.ConsistentOn fun _ => True

/-- A comparator that is a total preorder on some values. -/
structure TotalOn (D : Value → Prop) : Prop where
  converse : ∀ a b, D a → D b → ∃ s, c.Gives a b s ∧ c.Gives b a s.swap
  trans : ∀ a b d, D a → D b → D d → c.AtMost a b → c.AtMost b d → c.AtMost a d

variable {c}

-- ============================================================ one pair

/-- A pair lies on one side. -/
theorem Gives.unique (hs : c.Gives a b s) (ht : c.Gives a b t) : s = t := by
  obtain ⟨r, hr, hs⟩ := hs
  obtain ⟨r', hr', ht⟩ := ht
  rw [hr] at hr'
  injection hr' with hr'
  rw [hr', ht] at hs
  injection hs with hs
  exact hs.symm

/-- What lies on a side of itself and on the opposite one lies on neither. -/
theorem Gives.itself (h : c.Gives a a s) (h' : c.Gives a a s.swap) : c.Gives a a .eq := by
  have hs := h.unique h'
  cases s with
  | lt => cases hs
  | eq => exact h
  | gt => cases hs

/-- An answer says one thing only. -/
theorem Gives.iff (h : c.Gives a b s) : c.Gives a b t ↔ s = t :=
  ⟨h.unique, fun heq => heq ▸ h⟩

/-- Of what a search asks for, whether it is negative. -/
theorem Gives.isNegative (h : c.Gives a b s) :
    (c a b).map Answer.isNegative = .ok (s == .lt) := by
  obtain ⟨r, hr, hs⟩ := h
  rw [hr, Except.map]
  congr 1
  rw [Bool.eq_iff_iff, Answer.isNegative_iff, hs]
  cases s <;> simp

/-- Of what a search asks for, whether it is not negative. -/
theorem Gives.isNotNegative (h : c.Gives a b s) :
    (c a b).map (fun r => !r.isNegative) = .ok (s != .lt) := by
  have hneg := h.isNegative
  obtain ⟨r, hr, -⟩ := h
  rw [hr, Except.map] at hneg ⊢
  injection hneg with hneg
  rw [hneg]
  rfl

/-- Of what a search asks for, whether it is zero. -/
theorem Gives.isZero (h : c.Gives a b s) : (c a b).map Answer.isZero = .ok (s == .eq) := by
  obtain ⟨r, hr, hs⟩ := h
  rw [hr, Except.map]
  congr 1
  rw [Bool.eq_iff_iff, Answer.isZero_iff, hs]
  cases s <;> simp

/-- A negative answer says that the left value is below. -/
theorem gives_lt_of_isNegative (h : (c a b).map Answer.isNegative = .ok true) :
    c.Gives a b .lt := by
  match hr : c a b, h with
  | .ok r, h =>
    injection h with h
    exact ⟨r, hr, (Answer.isNegative_iff r).1 h⟩

-- ======================================================= what is told

/-- What a comparator tells of two values is the side that it gives. -/
theorem told_eq_side : c.told a b = some (some s) ↔ c.Gives a b s := by
  unfold told Gives
  cases c a b with
  | error e => exact iff_of_false (fun h => nomatch h) fun ⟨_, h, _⟩ => nomatch h
  | ok r => simp [Except.toOption]

/-- On which side a pair lies is found out by asking. -/
instance : Decidable (c.Gives a b s) :=
  decidable_of_iff (c.told a b = some (some s)) told_eq_side

instance : Decidable (c.AtMost a b) := inferInstanceAs (Decidable (_ ∨ _))

/-- What is read off the side of an answer is known from what is told. -/
theorem map_congr_of_told {β : Type} {g : Answer → β} (f : Option Ordering → β)
    (hg : ∀ r : Answer, g r = f r.side?) {a' b' : Value} (h : c.told a b = c.told a' b') :
    ((c a b).map g).toOption = ((c a' b').map g).toOption := by
  have hmap : ∀ x : Except Fault Answer,
      (x.map g).toOption = (x.toOption.map Answer.side?).map f := by
    intro x
    cases x with
    | error e => rfl
    | ok r => exact congrArg some (hg r)
  rw [hmap, hmap]
  exact congrArg (Option.map f) h

-- ========================================================== consistency

namespace ConsistentOn

/-- What is answered in one order of the operands is answered in the other,
with the opposite sign. -/
theorem swap (hc : c.ConsistentOn D) (ha : D a) (hb : D b) (h : c.Gives a b s) :
    c.Gives b a s.swap := by
  rcases hc.converse a b ha hb with ⟨e, f, he, -⟩ | ⟨t, hab, hba⟩
  · obtain ⟨r, hr, -⟩ := h
    rw [hr] at he
    cases he
  · rw [h.unique hab]
    exact hba

/-- What contradicts itself on no value of a kind does so on none of a
narrower one. -/
theorem mono {E : Value → Prop} (hc : c.ConsistentOn D) (h : ∀ v, E v → D v) :
    c.ConsistentOn E where
  converse a b ha hb := hc.converse a b (h a ha) (h b hb)
  trans a b d ha hb hd := hc.trans a b d (h a ha) (h b hb) (h d hd)

/-- A value is equivalent to itself, or cannot be compared with itself. -/
theorem itself (hc : c.ConsistentOn D) (ha : D a) : c.Gives a a .eq ∨ ∃ e, c a a = .error e := by
  rcases hc.converse a a ha ha with ⟨e, -, he, -⟩ | ⟨s, h, h'⟩
  · exact .inr ⟨e, he⟩
  · exact .inl (h.itself h')

/-- An answer that is neither negative nor zero puts the operands the other
way round. -/
theorem gives_lt_swap (hc : c.ConsistentOn D) (ha : D a) (hb : D b)
    (hneg : (c a b).map Answer.isNegative = .ok false)
    (hzero : (c a b).map Answer.isZero = .ok false) : c.Gives b a .lt := by
  rcases hc.converse a b ha hb with ⟨e, f, he, -⟩ | ⟨s, hab, hba⟩
  · rw [he] at hneg
    cases hneg
  · rw [hab.isNegative] at hneg
    rw [hab.isZero] at hzero
    cases s with
    | lt => cases hneg
    | eq => cases hzero
    | gt => exact hba

end ConsistentOn

-- ======================================================= total preorders

namespace TotalOn

/-- The other way round the answer is the opposite one. -/
theorem swap (hc : c.TotalOn D) (ha : D a) (hb : D b) (h : c.Gives a b s) :
    c.Gives b a s.swap := by
  obtain ⟨t, hab, hba⟩ := hc.converse a b ha hb
  rw [h.unique hab]
  exact hba

/-- A total order of a kind is one of any narrower kind. -/
theorem mono {E : Value → Prop} (hc : c.TotalOn D) (h : ∀ v, E v → D v) : c.TotalOn E where
  converse a b ha hb := hc.converse a b (h a ha) (h b hb)
  trans a b d ha hb hd := hc.trans a b d (h a ha) (h b hb) (h d hd)

/-- A value is equivalent to itself. -/
theorem refl (hc : c.TotalOn D) (ha : D a) : c.Gives a a .eq := by
  obtain ⟨s, h, h'⟩ := hc.converse a a ha ha
  exact h.itself h'

/-- Below or equivalent leads back only between equivalents. -/
theorem eq_of_atMost (hc : c.TotalOn D) (ha : D a) (hb : D b) (hab : c.AtMost a b)
    (hba : c.AtMost b a) : c.Gives a b .eq := by
  rcases hab with hlt | heq
  · have hgt := hc.swap ha hb hlt
    rcases hba with h | h
    · cases hgt.unique h
    · cases hgt.unique h
  · exact heq

/-- Below what is not above. -/
theorem lt_of_lt_of_atMost (hc : c.TotalOn D) (ha : D a) (hb : D b) (hd : D d)
    (hab : c.Gives a b .lt) (hbd : c.AtMost b d) : c.Gives a d .lt := by
  rcases hc.trans a b d ha hb hd (.inl hab) hbd with h | h
  · exact h
  · have hda : c.AtMost d a := .inr (hc.swap ha hd h)
    cases hab.unique (hc.eq_of_atMost ha hb (.inl hab) (hc.trans b d a hb hd ha hbd hda))

/-- Not above what is below. -/
theorem lt_of_atMost_of_lt (hc : c.TotalOn D) (ha : D a) (hb : D b) (hd : D d)
    (hab : c.AtMost a b) (hbd : c.Gives b d .lt) : c.Gives a d .lt := by
  rcases hc.trans a b d ha hb hd hab (.inl hbd) with h | h
  · exact h
  · have hda : c.AtMost d a := .inr (hc.swap ha hd h)
    cases hbd.unique (hc.eq_of_atMost hb hd (.inl hbd) (hc.trans d a b hd ha hb hda hab))

/-- A total preorder does not contradict itself. -/
theorem consistentOn (hc : c.TotalOn D) : c.ConsistentOn D where
  converse a b ha hb := .inr (hc.converse a b ha hb)
  trans _ _ _ ha hb hd hab hbd := hc.lt_of_lt_of_atMost ha hb hd hab (.inl hbd)

/-- What is equivalent to one is equivalent to its equivalents. -/
theorem eq_trans (hc : c.TotalOn D) (ha : D a) (hb : D b) (hd : D d)
    (hab : c.Gives a b .eq) (hbd : c.Gives b d .eq) : c.Gives a d .eq :=
  hc.eq_of_atMost ha hd (hc.trans a b d ha hb hd (.inr hab) (.inr hbd))
    (hc.trans d b a hd hb ha (.inr (hc.swap hb hd hbd)) (.inr (hc.swap ha hb hab)))

/-- Equivalent values stand alike to any other. -/
theorem congr (hc : c.TotalOn D) (ha : D a) (hb : D b) (hd : D d) (hab : c.Gives a b .eq)
    (h : c.Gives b d s) : c.Gives a d s := by
  cases s with
  | lt => exact hc.lt_of_atMost_of_lt ha hb hd (.inr hab) h
  | eq => exact hc.eq_trans ha hb hd hab h
  | gt =>
    have hdb : c.Gives d b .lt := hc.swap hb hd h
    exact hc.swap hd ha (hc.lt_of_lt_of_atMost hd hb ha hdb (.inr (hc.swap ha hb hab)))

end TotalOn

-- ============================================= preorders that may refuse

/-- A comparator for which equivalent values stand alike to any other. It
may refuse pairs, but then it refuses them for all equivalents. -/
structure CongruentOn (c : Comparison) (D : Value → Prop) : Prop extends ConsistentOn c D where
  alike : ∀ a b d, D a → D b → D d → c.Gives a b .eq → c.told d a = c.told d b

/-- Equivalents stand the same way to everything else. -/
theorem CongruentOn.congr (hc : c.CongruentOn D) (ha : D a) (hb : D b) (hd : D d)
    (hab : c.Gives a b .eq) (h : c.Gives d a s) : c.Gives d b s := by
  rw [← told_eq_side] at h ⊢
  rw [← hc.alike a b d ha hb hd hab]
  exact h

end Comparison

-- ============================================================ case folding

/-- Texts are ordered by their code points. -/
theorem Value.less_text (s t : Text) :
    Value.less (.text s) (.text t) = .ok (decide (s < t)) := by
  show Except.ok (compareOfLessAndEq s t).isLT = _
  unfold compareOfLessAndEq
  split
  · next h => simp [h, Ordering.isLT]
  · next h =>
    split
    · simp [h, Ordering.isLT]
    · simp [h, Ordering.isLT]

/-- The natural order of texts is that of their code points. -/
private theorem Comparison.natural_text (s t : Text) :
    natural (.text s) (.text t)
      = .ok (.int (if s < t then -1 else if t < s then 1 else 0)) := by
  unfold natural
  rw [Value.less_text, Value.less_text]
  by_cases hlt : s < t
  · simp [hlt, bind, Except.bind, pure, Except.pure]
  · by_cases hgt : t < s
    · simp [hlt, hgt, bind, Except.bind, pure, Except.pure]
    · simp [hlt, hgt, bind, Except.bind, pure, Except.pure]

namespace Comparator

variable {a b : Value} {s t : Text}

/-- Texts are compared by what they fold to. -/
private theorem caseFold_text (ha : a.text? = some s) (hb : b.text? = some t) :
    caseFold.compare.Gives a b
      (if Text.fold s < Text.fold t then .lt
        else if Text.fold t < Text.fold s then .gt else .eq) := by
  refine ⟨.int (if Text.fold s < Text.fold t then -1
    else if Text.fold t < Text.fold s then 1 else 0), ?_, ?_⟩
  · show (do let ka ← foldedKey a; let kb ← foldedKey b; Comparison.natural ka kb) = _
    simp only [foldedKey, ha, hb, bind, Except.bind]
    rw [Comparison.natural_text]
  · rw [Answer.side?_int]
    split
    · rfl
    · split <;> rfl

/-- What is no text is refused on either side. -/
theorem caseFold_refused (h : a.text? = none ∨ b.text? = none) :
    ∃ e, caseFold.compare a b = .error e := by
  show ∃ e, (do let ka ← foldedKey a; let kb ← foldedKey b; Comparison.natural ka kb) = .error e
  simp only [foldedKey]
  cases ha : a.text? with
  | none => exact ⟨_, rfl⟩
  | some s =>
    rcases h with h | h
    · rw [ha] at h
      cases h
    · rw [h]
      exact ⟨_, rfl⟩

/-- Only texts are answered about. -/
theorem caseFold_answered {o : Ordering} (h : caseFold.compare.Gives a b o) :
    ∃ s t, a.text? = some s ∧ b.text? = some t := by
  have hanswered : ¬∃ e, caseFold.compare a b = .error e := by
    rintro ⟨e, he⟩
    obtain ⟨r, hr, -⟩ := h
    rw [he] at hr
    cases hr
  cases ha : a.text? with
  | none => exact absurd (caseFold_refused (.inl ha)) hanswered
  | some s =>
    cases hb : b.text? with
    | none => exact absurd (caseFold_refused (.inr hb)) hanswered
    | some t => exact ⟨s, t, rfl, rfl⟩

/-- It sees nothing of a value but the text that it is. -/
theorem caseFold_congr {a' b' : Value} {o : Ordering} (ha : a'.text? = a.text?)
    (hb : b'.text? = b.text?) (h : caseFold.compare.Gives a b o) :
    caseFold.compare.Gives a' b' o := by
  obtain ⟨s, t, hs, ht⟩ := caseFold_answered h
  rw [h.unique (caseFold_text hs ht)]
  exact caseFold_text (ha.trans hs) (hb.trans ht)

/-- Only texts are found below others without regard to case. -/
private theorem caseFold_gives_lt (h : caseFold.compare.Gives a b .lt) :
    ∃ s t, a.text? = some s ∧ b.text? = some t ∧ Text.fold s < Text.fold t := by
  obtain ⟨s, t, ha, hb⟩ := caseFold_answered h
  refine ⟨s, t, ha, hb, ?_⟩
  have hside := (caseFold_text ha hb).unique h
  by_contra hlt
  rw [if_neg hlt] at hside
  split at hside <;> cases hside

/-- Folding case compares texts and refuses everything else, without
contradicting itself. -/
theorem caseFold_consistent : caseFold.compare.Consistent where
  converse a b _ _ := by
    cases ha : a.text? with
    | none =>
      obtain ⟨e, he⟩ := caseFold_refused (b := b) (.inl ha)
      obtain ⟨f, hf⟩ := caseFold_refused (a := b) (.inr ha)
      exact .inl ⟨e, f, he, hf⟩
    | some s =>
      cases hb : b.text? with
      | none =>
        obtain ⟨e, he⟩ := caseFold_refused (a := a) (.inr hb)
        obtain ⟨f, hf⟩ := caseFold_refused (b := a) (.inl hb)
        exact .inl ⟨e, f, he, hf⟩
      | some t =>
        refine .inr ⟨_, caseFold_text ha hb, ?_⟩
        have h := caseFold_text hb ha
        rcases lt_trichotomy (Text.fold s) (Text.fold t) with hlt | heq | hgt
        · simpa [hlt, hlt.not_gt] using h
        · simpa [heq] using h
        · simpa [hgt, hgt.not_gt] using h
  trans a b d _ _ _ hab hbd := by
    obtain ⟨s, t, ha, hb, hst⟩ := caseFold_gives_lt hab
    obtain ⟨t', u, hb', hd, htu⟩ := caseFold_gives_lt hbd
    obtain rfl : t = t' := Option.some.inj (hb.symm.trans hb')
    have h := caseFold_text ha hd
    rw [if_pos (hst.trans htu)] at h
    exact h

/-- Only texts are found equivalent without regard to case. -/
private theorem caseFold_gives_eq (h : caseFold.compare.Gives a b .eq) :
    ∃ s t, a.text? = some s ∧ b.text? = some t ∧ Text.fold s = Text.fold t := by
  obtain ⟨s, t, ha, hb⟩ := caseFold_answered h
  refine ⟨s, t, ha, hb, ?_⟩
  have hside := (caseFold_text ha hb).unique h
  rcases lt_trichotomy (Text.fold s) (Text.fold t) with hlt | heq | hgt
  · rw [if_pos hlt] at hside
    cases hside
  · exact heq
  · rw [if_neg hgt.not_gt, if_pos hgt] at hside
    cases hside

/-- What has the same fold stands alike to any other value. -/
theorem caseFold_congruentOn : caseFold.compare.CongruentOn fun _ => True where
  toConsistentOn := caseFold_consistent
  alike a b d _ _ _ hab := by
    obtain ⟨s, t, ha, hb, hfold⟩ := caseFold_gives_eq hab
    cases hd : d.text? with
    | none =>
      obtain ⟨e, he⟩ := caseFold_refused (b := a) (.inl hd)
      obtain ⟨f, hf⟩ := caseFold_refused (b := b) (.inl hd)
      unfold Comparison.told
      rw [he, hf]
      rfl
    | some u =>
      rw [Comparison.told_eq_side.2 (caseFold_text hd ha), hfold,
        Comparison.told_eq_side.2 (caseFold_text hd hb)]

/-- Of two texts the first is at most the second by their folds. -/
theorem caseFold_atMost_iff (ha : a.text? = some s) (hb : b.text? = some t) :
    caseFold.compare.AtMost a b ↔ Text.fold s ≤ Text.fold t := by
  have h := caseFold_text ha hb
  constructor
  · intro hle
    by_contra hlt
    rw [not_le] at hlt
    rw [if_neg hlt.not_gt, if_pos hlt] at h
    rcases hle with h' | h'
    · cases h.unique h'
    · cases h.unique h'
  · intro hle
    rcases hle.lt_or_eq with hlt | heq
    · rw [if_pos hlt] at h
      exact .inl h
    · rw [heq, if_neg (lt_irrefl _), if_neg (lt_irrefl _)] at h
      exact .inr h

/-- On texts folding case is a total preorder. -/
theorem caseFold_totalOn : caseFold.compare.TotalOn fun v => ∃ s, v.text? = some s where
  converse a b := by
    rintro ⟨s, ha⟩ ⟨t, hb⟩
    exact ⟨_, caseFold_text ha hb, caseFold_consistent.swap trivial trivial (caseFold_text ha hb)⟩
  trans a b d := by
    rintro ⟨s, ha⟩ ⟨t, hb⟩ ⟨u, hd⟩ hab hbd
    rw [caseFold_atMost_iff ha hb] at hab
    rw [caseFold_atMost_iff hb hd] at hbd
    rw [caseFold_atMost_iff ha hd]
    exact hab.trans hbd

end Comparator

end Collation
