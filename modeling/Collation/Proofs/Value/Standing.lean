/-
How values stand to one another: the side on which a value stands of
another as asking which of the two is below tells it, none if asking is an
error (`stands?`). Two sets of which neither is part of the other are
level then, and a NaN is level with every number.

Two lists stand as the first two elements that disagree, which may have no
order; but elements that agree are passed over whether they have one or
not. So that two values have an order can only be carried from pair to
pair together with what the order is, and every law of `stands?` comes
with its definedness: turned round it is the opposite one, values that
agree stand alike to all others, and below is transitive. All three hold
of sound values, and each is an induction over the first value, in which
everything but a list or a tuple is one case (`Sound.flat_induction`).

What fails of an order is that values which stand level need not stand
alike to others. A definite value is built from null, numbers that are no
NaN, texts and octets, by lists, tuples and dictionaries under texts
(`Definite`). Such values agree with themselves, and agree where they
stand level (`Definite.agree_of_level`).
-/
import Collation.Proofs.Value.Sequences

namespace Collation.Value

variable {a b c : Value} {o : Ordering} {xs ys zs : List Value} {es fs gs : List (Value × Value)}

-- ============================================================= standings

/-- How two numbers stand. -/
def numbersStand (a b : Value) : Ordering :=
  match a.position?, b.position? with
  | some p, some q => p.compare q
  | _, _ => .eq

/-- How two sets stand. -/
def setsStand (xs ys : List Value) : Ordering :=
  if included .below xs ys then .lt else if included .below ys xs then .gt else .eq

/-- How two values that are no sequences of one kind stand. -/
def atomsStand? (a b : Value) : Option Ordering :=
  if a.isNumber && b.isNumber then some (numbersStand a b)
  else
    match a, b with
    | set xs, set ys => some (setsStand xs ys)
    | _, _ => a.mark?.bind fun m => b.mark?.bind m.compare?

/-- The side of what was found to decide. -/
def Decision.stands? : Decision → Option Ordering
  | .values a b => atomsStand? a b
  | .lengths m n => some (Ord.compare m n)

/-- The side on which the first value stands of the second, if they have an
order. -/
def stands? (a b : Value) : Option Ordering := (decision a b).stands?

private theorem stands?_lengths (m n : Nat) :
    (Decision.lengths m n).stands? = some (Ord.compare m n) := rfl

/-- A list stands to lists only, as their first difference says. -/
private theorem stands?_list_iff : stands? (list xs) b = some o ↔
    ∃ ys, b = list ys ∧ (decisionItems xs ys).stands? = some o := by
  constructor
  · intro h
    cases b
    case list ys => exact ⟨ys, rfl, h⟩
    all_goals cases h
  · rintro ⟨ys, rfl, h⟩
    exact h

/-- A tuple stands to tuples only, as their first difference says. -/
private theorem stands?_tuple_iff : stands? (tuple xs) b = some o ↔
    ∃ ys, b = tuple ys ∧ (decisionItems xs ys).stands? = some o := by
  constructor
  · intro h
    cases b
    case tuple ys => exact ⟨ys, rfl, h⟩
    all_goals cases h
  · rintro ⟨ys, rfl, h⟩
    exact h

-- ----------------------------------------------------------------- atoms

/-- A value that is no list and no tuple. -/
def Flat (a : Value) : Prop := ∀ b, decision a b = .values a b ∧ decision b a = .values b a

private theorem Flat.stands? (h : a.Flat) : stands? a b = atomsStand? a b := by
  rw [Value.stands?, (h b).1, Decision.stands?]

private theorem Flat.stands?_right (h : b.Flat) : Value.stands? a b = atomsStand? a b := by
  rw [Value.stands?, (h a).2, Decision.stands?]

private theorem Flat.of_mark {m : Mark} (h : a.mark? = some m) : a.Flat := by
  intro b
  cases a
  case list => cases h
  case tuple => cases h
  all_goals
    refine ⟨rfl, ?_⟩
    cases b <;> rfl

private theorem Flat.of_number (h : a.isNumber = true) : a.Flat := by
  intro b
  cases a
  case bool | int | float =>
    refine ⟨rfl, ?_⟩
    cases b <;> rfl
  all_goals cases h

private theorem Flat.set (xs : List Value) : (set xs).Flat := by
  intro b
  cases b <;> exact ⟨rfl, rfl⟩

/-- Values with marks stand as their marks do. -/
private theorem atomsStand?_of_marks {m n : Mark} (ha : a.mark? = some m) (hb : b.mark? = some n) :
    atomsStand? a b = m.compare? n := by
  unfold atomsStand?
  split
  · next hnumbers =>
    obtain ⟨hna, hnb⟩ := Bool.and_eq_true_iff.1 hnumbers
    rw [(kind_of_mark ha).1] at hna
    rw [(kind_of_mark hb).1] at hnb
    cases m
    case number p =>
      cases n
      case number q =>
        rw [numbersStand, position?_eq_some_iff.2 ha, position?_eq_some_iff.2 hb]
        rfl
      all_goals cases hnb
    all_goals cases hna
  · split
    · cases ha
    · rw [ha, hb]
      rfl

/-- Two values that have an order are two sets, or two numbers, or have
marks. -/
theorem atomsStand?_eq_some (h : atomsStand? a b = some o) :
    (∃ xs ys, a = set xs ∧ b = set ys ∧ setsStand xs ys = o)
      ∨ (a.isNumber = true ∧ b.isNumber = true ∧ numbersStand a b = o)
      ∨ ∃ m n, a.mark? = some m ∧ b.mark? = some n ∧ m.compare? n = some o := by
  unfold atomsStand? at h
  split at h
  · next hnumbers =>
    obtain ⟨ha, hb⟩ := Bool.and_eq_true_iff.1 hnumbers
    exact .inr (.inl ⟨ha, hb, Option.some.inj h⟩)
  · split at h
    · exact .inl ⟨_, _, rfl, rfl, Option.some.inj h⟩
    · obtain ⟨m, ha, h⟩ := Option.bind_eq_some_iff.1 h
      obtain ⟨n, hb, h⟩ := Option.bind_eq_some_iff.1 h
      exact .inr (.inr ⟨m, n, ha, hb, h⟩)

private theorem atomsStand?_numbers (ha : a.isNumber = true) (hb : b.isNumber = true) :
    atomsStand? a b = some (numbersStand a b) :=
  if_pos (Bool.and_eq_true_iff.2 ⟨ha, hb⟩)

/-- What has an order with anything by itself is flat. -/
theorem flat_of_atomsStand? (h : atomsStand? a b = some o) : a.Flat ∧ b.Flat := by
  rcases atomsStand?_eq_some h with ⟨xs, ys, rfl, rfl, -⟩ | ⟨ha, hb, -⟩ | ⟨m, n, ha, hb, -⟩
  · exact ⟨.set xs, .set ys⟩
  · exact ⟨.of_number ha, .of_number hb⟩
  · exact ⟨.of_mark ha, .of_mark hb⟩

-- --------------------------------------------------------------- numbers

/-- Numbers stand the other way round as they should. -/
private theorem numbersStand_swap (a b : Value) : numbersStand b a = (numbersStand a b).swap := by
  unfold numbersStand
  cases a.position? with
  | none => cases b.position? <;> rfl
  | some p =>
    cases b.position? with
    | none => rfl
    | some q => exact Position.compare_swap q p

/-- A number that is below another is no NaN, and neither is the other. -/
theorem marks_of_numbersStand (h : numbersStand a b = .lt) :
    ∃ m n, a.mark? = some m ∧ b.mark? = some n ∧ m.compare? n = some .lt := by
  unfold numbersStand at h
  split at h
  · next p q hp hq =>
    exact ⟨.number p, .number q, position?_eq_some_iff.1 hp, position?_eq_some_iff.1 hq,
      congrArg some h⟩
  · cases h

/-- What agrees with a number is a number in the same place. -/
theorem number_of_agree (ha : a.isNumber = true) (h : agree a b = true) :
    b.isNumber = true ∧ b.position? = a.position? := by
  cases hp : a.position? with
  | some p =>
    have hb := (agree_iff_of_position hp).1 h
    refine ⟨?_, hb⟩
    cases b
    case bool | int | float => rfl
    all_goals cases hb
  | none =>
    cases a
    case float x =>
      obtain rfl := (agree_nan_iff hp).1 h
      exact ⟨rfl, hp⟩
    case bool | int => cases hp
    all_goals cases ha

-- ------------------------------------------------------------------ sets

private theorem included_below_iff : included .below xs ys = true ↔
    xs.length < ys.length ∧ itemsWithin xs ys = true := by
  rw [included, Bool.and_eq_true, Relation.holds, Ordering.isLT_iff_eq_lt, Nat.compare_eq_lt]

/-- Inclusion in two steps. -/
private theorem itemsWithin_trans (hxs : ∀ x ∈ xs, x.Sound) (hys : ∀ y ∈ ys, y.Sound)
    (hzs : ∀ z ∈ zs, z.Sound) (hxy : itemsWithin xs ys = true) (hyz : itemsWithin ys zs = true) :
    itemsWithin xs zs = true := by
  refine itemsWithin_iff.2 fun x hx => ?_
  obtain ⟨y, hy, hagree⟩ := itemsWithin_iff.1 hxy x hx
  obtain ⟨z, hz, hagree'⟩ := itemsWithin_iff.1 hyz y hy
  exact ⟨z, hz, (hxs x hx).agree_trans y z (hys y hy) (hzs z hz) hagree hagree'⟩

private theorem setsStand_eq_lt_iff : setsStand xs ys = .lt ↔ included .below xs ys = true := by
  unfold setsStand
  split
  · exact iff_of_true rfl ‹_›
  · refine iff_of_false ?_ ‹_›
    split <;> exact fun h => nomatch h

/-- Sets stand the other way round as they should. -/
private theorem setsStand_swap (xs ys : List Value) : setsStand ys xs = (setsStand xs ys).swap := by
  unfold setsStand
  by_cases hxy : included .below xs ys = true
  · have hyx : ¬included .below ys xs = true := by
      rw [included_below_iff] at hxy ⊢
      omega
    rw [if_pos hxy, if_neg hyx, if_pos hxy]
    rfl
  · rw [if_neg hxy, if_neg hxy]
    split <;> rfl

/-- Sets that agree stand alike to any other. -/
theorem setsStand_congr (hxs : (set xs).Sound) (hys : (set ys).Sound) (hzs : (set zs).Sound)
    (h : agree (set xs) (set ys) = true) : setsStand xs zs = setsStand ys zs := by
  obtain ⟨hlength, hxy⟩ := agree_sets_iff.1 h
  obtain ⟨-, hyx⟩ := agree_sets_iff.1 (hxs.agree_symm _ hys h)
  have hxy := itemsWithin_iff.2 hxy
  have hyx := itemsWithin_iff.2 hyx
  have hxs := hxs.of_set.2
  have hys := hys.of_set.2
  have hzs := hzs.of_set.2
  have hbelow : included .below xs zs = included .below ys zs := by
    rw [Bool.eq_iff_iff, included_below_iff, included_below_iff, hlength]
    exact and_congr_right fun _ =>
      ⟨itemsWithin_trans hys hxs hzs hyx, itemsWithin_trans hxs hys hzs hxy⟩
  have habove : included .below zs xs = included .below zs ys := by
    rw [Bool.eq_iff_iff, included_below_iff, included_below_iff, hlength]
    exact and_congr_right fun _ =>
      ⟨(itemsWithin_trans hzs hxs hys · hxy), (itemsWithin_trans hzs hys hxs · hyx)⟩
  rw [setsStand, hbelow, habove, setsStand]

private theorem included_trans (hxs : (set xs).Sound) (hys : (set ys).Sound) (hzs : (set zs).Sound)
    (hxy : included .below xs ys = true) (hyz : included .below ys zs = true) :
    included .below xs zs = true := by
  rw [included_below_iff] at hxy hyz ⊢
  exact ⟨hxy.1.trans hyz.1,
    itemsWithin_trans hxs.of_set.2 hys.of_set.2 hzs.of_set.2 hxy.2 hyz.2⟩

-- ================================================================= laws

/-- Flat values stand the other way round as they should. -/
private theorem atomsStand?_swap (h : atomsStand? a b = some o) :
    atomsStand? b a = some o.swap := by
  rcases atomsStand?_eq_some h with ⟨xs, ys, rfl, rfl, rfl⟩ | ⟨ha, hb, rfl⟩ | ⟨m, n, ha, hb, h⟩
  · exact congrArg some (setsStand_swap xs ys)
  · rw [atomsStand?_numbers hb ha, numbersStand_swap]
  · rw [atomsStand?_of_marks hb ha, Mark.compare?_swap, h]
    rfl

/-- They stand to others as what agrees with them does. -/
private theorem atomsStand?_congr (ha : a.Sound) (hb : b.Sound) (hc : c.Sound)
    (hab : agree a b = true)
    (h : atomsStand? a c = some o) : atomsStand? b c = some o := by
  rcases atomsStand?_eq_some h with ⟨xs, zs, rfl, rfl, rfl⟩ | ⟨hna, hnc, rfl⟩ | ⟨m, n, hm, hn, ho⟩
  · obtain ⟨ys, rfl, -⟩ := (agree_set_iff hb).1 hab
    exact congrArg some (setsStand_congr ha hb hc hab).symm
  · obtain ⟨hnb, hposition⟩ := number_of_agree hna hab
    rw [atomsStand?_numbers hnb hnc, numbersStand, hposition, numbersStand]
  · rw [atomsStand?_of_marks ((agree_iff_of_mark hm).1 hab) hn, ho]

/-- What is below another is a proper part of a set, or has a mark. -/
theorem atomsStand?_eq_lt (h : atomsStand? a b = some .lt) :
    (∃ xs ys, a = set xs ∧ b = set ys ∧ included .below xs ys = true)
      ∨ ∃ m n, a.mark? = some m ∧ b.mark? = some n ∧ m.compare? n = some .lt := by
  rcases atomsStand?_eq_some h with ⟨xs, ys, rfl, rfl, hsets⟩ | ⟨-, -, hnumbers⟩ | hmarks
  · exact .inl ⟨xs, ys, rfl, rfl, setsStand_eq_lt_iff.1 hsets⟩
  · exact .inr (marks_of_numbersStand hnumbers)
  · exact .inr hmarks

/-- What is below what is below. -/
private theorem atomsStand?_trans (ha : a.Sound) (hb : b.Sound) (hc : c.Sound)
    (hab : atomsStand? a b = some .lt) (hbc : atomsStand? b c = some .lt) :
    atomsStand? a c = some .lt := by
  rcases atomsStand?_eq_lt hab with ⟨xs, ys, rfl, rfl, hxy⟩ | ⟨l, m, hl, hm, hlm⟩
  · rcases atomsStand?_eq_lt hbc with ⟨_, zs, ⟨⟩, rfl, hyz⟩ | ⟨m, n, hm, -, -⟩
    · exact congrArg some (setsStand_eq_lt_iff.2 (included_trans ha hb hc hxy hyz))
    · cases hm
  · rcases atomsStand?_eq_lt hbc with ⟨ys, zs, rfl, rfl, -⟩ | ⟨m', n, hm', hn, hmn⟩
    · cases hm
    · obtain rfl : m = m' := Option.some.inj (hm.symm.trans hm')
      rw [atomsStand?_of_marks hl hn, Mark.compare?_trans hlm hmn]

-- ------------------------------------------------------------- sequences

/-- Sound values are flat, or lists or tuples of sound ones. -/
@[elab_as_elim]
theorem Sound.flat_induction {motive : (a : Value) → a.Sound → Prop}
    (flat : ∀ a, (ha : a.Sound) → a.Flat → motive a ha)
    (list : ∀ xs, (hxs : ∀ x ∈ xs, x.Sound) → (∀ x, (hx : x ∈ xs) → motive x (hxs x hx)) →
      motive (.list xs) (.list hxs))
    (tuple : ∀ xs, (hxs : ∀ x ∈ xs, x.Sound) → (∀ x, (hx : x ∈ xs) → motive x (hxs x hx)) →
      motive (.tuple xs) (.tuple hxs))
    (ha : a.Sound) : motive a ha := by
  induction ha with
  | list hxs ih => exact list _ hxs ih
  | tuple hxs ih => exact tuple _ hxs ih
  | atom h => exact flat _ (.atom h) (.of_mark h)
  | nan h => exact flat _ (.nan h) (.of_number rfl)
  | set hxs h _ => exact flat _ (.set hxs h) (.set _)
  | dict hes hkeys hvalues _ _ =>
    exact flat _ (.dict hes hkeys hvalues) fun b => by cases b <;> exact ⟨rfl, rfl⟩
  | iterator type xs =>
    exact flat _ (.iterator type xs) fun b => by cases b <;> exact ⟨rfl, rfl⟩
  | object xs ho => exact flat _ (.object xs ho) fun b => by cases b <;> exact ⟨rfl, rfl⟩

namespace Sound

/-- Turned round, two values stand the opposite way. -/
theorem stands?_swap (ha : a.Sound) : ∀ (b : Value) (o : Ordering), b.Sound →
    stands? a b = some o → stands? b a = some o.swap := by
  induction ha using Sound.flat_induction with
  | flat a _ hflat =>
    intro b o _ ho
    rw [hflat.stands?] at ho
    rw [hflat.stands?_right]
    exact atomsStand?_swap ho
  | list xs hxs ih =>
    intro b o hb ho
    obtain ⟨ys, rfl, ho⟩ := stands?_list_iff.1 ho
    exact items_swap stands?_lengths agreeing ih hxs hb.of_list ho
  | tuple xs hxs ih =>
    intro b o hb ho
    obtain ⟨ys, rfl, ho⟩ := stands?_tuple_iff.1 ho
    exact items_swap stands?_lengths agreeing ih hxs hb.of_tuple ho

/-- Values that agree stand alike to any other. -/
theorem stands?_congr (ha : a.Sound) : ∀ (b c : Value) (o : Ordering), b.Sound → c.Sound →
    agree a b = true → stands? a c = some o → stands? b c = some o := by
  induction ha using Sound.flat_induction with
  | flat a ha hflat =>
    intro b c o hb hc h ho
    rw [hflat.stands?] at ho
    have hback := atomsStand?_congr ha hb hc h ho
    rw [(flat_of_atomsStand? hback).1.stands?, hback]
  | list xs hxs ih =>
    intro b c o hb hc h ho
    obtain ⟨ys, rfl, h⟩ := agree_list_iff.1 h
    obtain ⟨zs, rfl, ho⟩ := stands?_list_iff.1 ho
    exact items_congr stands?_lengths agreeing ih hxs hb.of_list hc.of_list h ho
  | tuple xs hxs ih =>
    intro b c o hb hc h ho
    obtain ⟨ys, rfl, h⟩ := agree_tuple_iff.1 h
    obtain ⟨zs, rfl, ho⟩ := stands?_tuple_iff.1 ho
    exact items_congr stands?_lengths agreeing ih hxs hb.of_tuple hc.of_tuple h ho

/-- Any other value stands alike to values that agree. -/
theorem stands?_congr_right (ha : a.Sound) (hb : b.Sound) (hc : c.Sound)
    (h : agree b c = true) (ho : stands? a b = some o) : stands? a c = some o := by
  have hcb := hb.stands?_congr c a _ hc ha h (ha.stands?_swap b o hb ho)
  have hback := hc.stands?_swap a _ ha hcb
  rwa [Ordering.swap_swap] at hback

/-- Below is transitive. -/
theorem stands?_trans (ha : a.Sound) : ∀ b c : Value, b.Sound → c.Sound →
    stands? a b = some .lt → stands? b c = some .lt → stands? a c = some .lt := by
  induction ha using Sound.flat_induction with
  | flat a ha hflat =>
    intro b c hb hc hab hbc
    rw [hflat.stands?] at hab ⊢
    rw [(flat_of_atomsStand? hab).2.stands?] at hbc
    exact atomsStand?_trans ha hb hc hab hbc
  | list xs hxs ih =>
    intro b c hb hc hab hbc
    obtain ⟨ys, rfl, hab⟩ := stands?_list_iff.1 hab
    obtain ⟨zs, rfl, hbc⟩ := stands?_list_iff.1 hbc
    exact items_trans stands?_lengths agreeing (fun x y o hx hy => hx.stands?_swap y o hy)
      (fun x y z o hx hy hz => hx.stands?_congr y z o hy hz) ih hxs hb.of_list hc.of_list hab hbc
  | tuple xs hxs ih =>
    intro b c hb hc hab hbc
    obtain ⟨ys, rfl, hab⟩ := stands?_tuple_iff.1 hab
    obtain ⟨zs, rfl, hbc⟩ := stands?_tuple_iff.1 hbc
    exact items_trans stands?_lengths agreeing (fun x y o hx hy => hx.stands?_swap y o hy)
      (fun x y z o hx hy hz => hx.stands?_congr y z o hy hz) ih hxs hb.of_tuple hc.of_tuple hab hbc

end Sound

-- ============================================================= relations

/-- Only sound values decide. -/
def Decision.IsSound : Decision → Prop
  | .values a b => a.Sound ∧ b.Sound
  | .lengths _ _ => True

private theorem decisionItems_isSound
    (h : ∀ x ∈ xs, ∀ y, Sound y → (decision x y).IsSound) (hys : ∀ y ∈ ys, Sound y) :
    (decisionItems xs ys).IsSound := by
  induction xs generalizing ys with
  | nil => cases ys <;> trivial
  | cons x xs ih =>
    obtain ⟨hhead, htail⟩ := List.forall_mem_cons.1 h
    cases ys with
    | nil => trivial
    | cons y ys =>
      obtain ⟨hy, hys⟩ := List.forall_mem_cons.1 hys
      rw [decisionItems]
      split
      · exact ih htail hys
      · exact hhead y hy

/-- What decides between sound values is sound. -/
private theorem Sound.decision_isSound (ha : a.Sound) : ∀ b : Value, b.Sound →
    (decision a b).IsSound := by
  induction ha using Sound.flat_induction with
  | flat a ha hflat =>
    intro b hb
    rw [(hflat b).1]
    exact ⟨ha, hb⟩
  | list xs hxs ih =>
    intro b hb
    cases b
    case list ys => exact decisionItems_isSound ih hb.of_list
    all_goals exact ⟨.list hxs, hb⟩
  | tuple xs hxs ih =>
    intro b hb
    cases b
    case tuple ys => exact decisionItems_isSound ih hb.of_tuple
    all_goals exact ⟨.tuple hxs, hb⟩

/-- Of sound values only sets are compared as sets. -/
theorem Sound.eq_set_of_members (ha : a.Sound) {xs : Except Fault (List Value)}
    (h : a.members? = some xs) : ∃ ys, a = .set ys ∧ xs = .ok ys := by
  cases a
  case set ys => exact ⟨ys, rfl, (Option.some.inj h).symm⟩
  case object o ys =>
    have ho := ha.of_object
    change (if o.isSet = true then _ else none) = some xs at h
    rw [if_neg (Bool.eq_false_iff.1 ho)] at h
    cases h
  all_goals cases h

private theorem relatedAtoms_sets :
    relatedAtoms .below (set xs) (set ys) = .ok (Relation.below.holds (setsStand xs ys)) := by
  show Except.ok (included .below xs ys) = _
  rw [Relation.holds]
  refine congrArg Except.ok (Bool.eq_iff_iff.2 ?_)
  rw [Ordering.isLT_iff_eq_lt, setsStand_eq_lt_iff]

private theorem relatedAtoms_numbers (ha : a.isNumber = true) (hb : b.isNumber = true) :
    relatedAtoms .below a b = .ok (Relation.below.holds (numbersStand a b)) := by
  refine (if_pos (Bool.and_eq_true_iff.2 ⟨ha, hb⟩)).trans (congrArg Except.ok ?_)
  unfold relatedNumbers numbersStand
  cases a.position? with
  | none => rfl
  | some p => cases b.position? <;> rfl

/-- Sound values that hold no place are not related. -/
theorem relatedAtoms_of_none (ha : a.Sound) (hb : b.Sound) (h : atomsStand? a b = none) :
    relatedAtoms .below a b = .error (unordered .below a b) := by
  have hmarks : ∀ m n, a.mark? = some m → b.mark? = some n → m.compare? n = none := by
    intro m n hm hn
    rw [← atomsStand?_of_marks hm hn, h]
  unfold relatedAtoms
  split
  · next hnumbers =>
    obtain ⟨hna, hnb⟩ := Bool.and_eq_true_iff.1 hnumbers
    rw [atomsStand?_numbers hna hnb] at h
    cases h
  · split
    · next hs ht => cases hmarks _ _ (text?_eq_some_iff.1 hs) (text?_eq_some_iff.1 ht)
    · next hxs hys _ =>
      obtain ⟨xs, rfl, rfl⟩ := ha.eq_set_of_members hxs
      obtain ⟨ys, rfl, rfl⟩ := hb.eq_set_of_members hys
      cases h
    · split
      · cases hmarks _ _ rfl rfl
      · rfl

/-- The question whether a flat value is below another is answered by how they
stand, or refused. -/
private theorem relatedAtoms_below (ha : a.Sound) (hb : b.Sound) : relatedAtoms .below a b
    = Relation.below.verdict (unordered .below a b) (atomsStand? a b) := by
  cases hstand : atomsStand? a b with
  | none => exact relatedAtoms_of_none ha hb hstand
  | some o =>
    rcases atomsStand?_eq_some hstand with
      ⟨xs, ys, rfl, rfl, rfl⟩ | ⟨hna, hnb, rfl⟩ | ⟨m, n, hm, hn, h⟩
    · exact relatedAtoms_sets
    · exact relatedAtoms_numbers hna hnb
    · rw [relatedAtoms_of_marks .below hm hn, h]

/-- Sound values are below one another as they stand, and if they do not
stand in any order, asking is an error. -/
theorem Sound.related_below (ha : a.Sound) (hb : b.Sound) :
    ∃ e, related .below a b = Relation.below.verdict e (stands? a b) := by
  have hdecision := ha.decision_isSound b hb
  unfold related stands?
  cases hd : decision a b with
  | lengths m n => exact ⟨unordered .below a b, rfl⟩
  | values u v =>
    rw [hd] at hdecision
    exact ⟨_, relatedAtoms_below hdecision.1 hdecision.2⟩

/-- Nulls are passed over, though no two of them are in order. -/
example : related .below (list [null, text "a"]) (list [null, text "b"]) = .ok true := rfl

-- ======================================================= definite values

/-- A value in which no NaN, no set and no other object occurs, and every
dictionary has texts for keys. -/
inductive Definite : Value → Prop where
  | atom {v : Value} {m : Mark} : v.mark? = some m → Definite v
  | list {xs : List Value} : (∀ x ∈ xs, Definite x) → Definite (list xs)
  | tuple {xs : List Value} : (∀ x ∈ xs, Definite x) → Definite (tuple xs)
  | dict {es : List (Value × Value)} : Named es → (∀ e ∈ es, Definite e.2) → Definite (dict es)

private theorem Definite.of_list (h : (Value.list xs).Definite) : ∀ x ∈ xs, x.Definite := by
  cases h with
  | atom h => cases h
  | list h => exact h

private theorem Definite.of_tuple (h : (Value.tuple xs).Definite) : ∀ x ∈ xs, x.Definite := by
  cases h with
  | atom h => cases h
  | tuple h => exact h

/-- Keys that are texts agree only with themselves. -/
theorem Definite.sound (h : a.Definite) : a.Sound := by
  induction h with
  | atom h => exact .atom h
  | list _ ih => exact .list ih
  | tuple _ ih => exact .tuple ih
  | dict hes _ ih =>
    refine .dict hes.pairwise (fun e he => ?_) ih
    obtain ⟨s, hs⟩ := hes.texts e he
    rw [hs]
    exact .atom rfl

private theorem agreeItems_refl (h : ∀ x ∈ xs, agree x x = true) : agreeItems xs xs = true := by
  induction xs with
  | nil => rfl
  | cons x xs ih =>
    obtain ⟨hx, hxs⟩ := List.forall_mem_cons.1 h
    exact Bool.and_eq_true_iff.2 ⟨hx, ih hxs⟩

/-- A definite value agrees with itself. -/
theorem Definite.agree_refl (h : a.Definite) : agree a a = true := by
  induction h with
  | atom h => exact (agree_iff_of_mark h).2 h
  | list _ ih => exact agreeItems_refl ih
  | tuple _ ih => exact agreeItems_refl ih
  | dict hes _ ih =>
    refine agree_dict_iff.2 ⟨_, rfl, rfl, fun e he => ⟨e, he, ?_, ih e he⟩⟩
    obtain ⟨s, hs⟩ := hes.texts e he
    rw [hs]
    exact (agree_iff_of_text (k := text s) rfl).2 rfl

/-- Texts agree as keys only if they are one and the same key. -/
theorem Named.agree_iff (hes : Named es) (hfs : Named fs) {e f : Value × Value} (he : e ∈ es)
    (hf : f ∈ fs) : agree e.1 f.1 = true ↔ e.1 = f.1 := by
  obtain ⟨s, hs⟩ := hes.texts e he
  obtain ⟨t, ht⟩ := hfs.texts f hf
  rw [hs, ht, agree_text, beq_iff_eq, text.injEq]

/-- Lists that nothing tells apart agree. -/
private theorem agreeItems_of_level
    (h : ∀ x ∈ xs, ∀ y, Definite y → stands? x y = some .eq → agree x y = true)
    (hys : ∀ y ∈ ys, Definite y) (ho : (decisionItems xs ys).stands? = some .eq) :
    agreeItems xs ys = true := by
  induction xs generalizing ys with
  | nil =>
    cases ys with
    | nil => rfl
    | cons y ys => cases ho
  | cons x xs ih =>
    obtain ⟨hhead, htail⟩ := List.forall_mem_cons.1 h
    cases ys with
    | nil => cases ho
    | cons y ys =>
      obtain ⟨hy, hys⟩ := List.forall_mem_cons.1 hys
      by_cases hxy : agree x y = true
      · rw [decisionItems_agree hxy] at ho
        exact Bool.and_eq_true_iff.2 ⟨hxy, ih htail hys ho⟩
      · rw [decisionItems_differ hxy] at ho
        exact absurd (hhead y hy ho) hxy

/-- A definite number has a mark. -/
private theorem Definite.mark_of_number (ha : a.Definite) (h : a.isNumber = true) :
    ∃ m, a.mark? = some m := by
  cases ha with
  | atom hm => exact ⟨_, hm⟩
  | list _ => cases h
  | tuple _ => cases h
  | dict _ _ => cases h

/-- Definite values that stand level agree. -/
theorem Definite.agree_of_level (ha : a.Definite) : ∀ b : Value, b.Definite →
    stands? a b = some .eq → agree a b = true := by
  induction ha with
  | @atom a m hm =>
    intro b hb ho
    rw [(Flat.of_mark hm).stands?] at ho
    have hn : ∃ n, b.mark? = some n := by
      rcases atomsStand?_eq_some ho with ⟨_, _, rfl, -⟩ | ⟨-, hnumber, -⟩ | ⟨_, n, -, hn, -⟩
      · cases hm
      · exact hb.mark_of_number hnumber
      · exact ⟨n, hn⟩
    obtain ⟨n, hn⟩ := hn
    rw [atomsStand?_of_marks hm hn] at ho
    rw [agree_iff_of_mark hm, hn, (Mark.compare?_eq_iff ho).1 rfl]
  | list _ ih =>
    intro b hb ho
    obtain ⟨ys, rfl, ho⟩ := stands?_list_iff.1 ho
    exact agreeItems_of_level ih hb.of_list ho
  | tuple _ ih =>
    intro b hb ho
    obtain ⟨ys, rfl, ho⟩ := stands?_tuple_iff.1 ho
    exact agreeItems_of_level ih hb.of_tuple ho
  | dict _ _ _ =>
    intro b _ ho
    cases b <;> cases ho

end Collation.Value
