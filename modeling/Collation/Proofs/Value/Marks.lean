/-
The values that hold no others, by what they are compared by. A truth
value, an integer and a float that is a number are their place on the
line, a text of either kind is its characters, and octets are themselves
(`Value.mark?`). Two such values agree exactly if their marks are one and
the same, and stand in an order exactly if their marks are of one kind
that has an order. So what is to be known of them are three facts about
marks: turned round, two marks stand the opposite way; only equal marks
stand level; and below is transitive.
-/
import Collation.Proofs.Comparison
import Collation.Proofs.Value.Lookup

namespace Collation

-- ================================================== three-way comparisons

namespace Position

/-- Not above is not having the other one below. -/
theorem isLE_compare_iff (p q : Position) : (p.compare q).isLE = true ↔ q.less p = false := by
  unfold compare
  cases p <;> cases q
  case finite.finite a b =>
    simp only [less, decide_eq_true_eq, decide_eq_false_iff_not]
    by_cases hlt : a < b
    · rw [if_pos hlt]
      exact iff_of_true rfl (Int.lt_asymm hlt)
    · rw [if_neg hlt]
      by_cases hgt : b < a
      · rw [if_pos hgt]
        exact iff_of_false Bool.false_ne_true (not_not_intro hgt)
      · rw [if_neg hgt]
        exact iff_of_true rfl hgt
  all_goals simp [less]

/-- Two positions compare the other way round as they should. -/
theorem compare_swap (p q : Position) : p.compare q = (q.compare p).swap := by
  unfold compare
  cases p <;> cases q
  case finite.finite a b =>
    simp only [less, decide_eq_true_eq]
    rcases Int.lt_trichotomy a b with h | h | h
    · rw [if_pos h, if_neg (Int.lt_asymm h), if_pos h]
      rfl
    · rw [h, if_neg (Int.lt_irrefl b), if_neg (Int.lt_irrefl b)]
      rfl
    · rw [if_neg (Int.lt_asymm h), if_pos h, if_pos h]
      rfl
  all_goals rfl

instance transCmp : Std.TransCmp compare where
  eq_swap := compare_swap _ _
  isLE_trans := by
    intro p q r hpq hqr
    rw [isLE_compare_iff] at hpq hqr ⊢
    cases p <;> cases q <;> cases r
    case finite.finite.finite a b c =>
      simp only [less, decide_eq_false_iff_not] at hpq hqr ⊢
      omega
    all_goals simp_all [less]

end Position

section

variable {α : Type} [LT α] [DecidableLT α] [DecidableEq α]

private theorem eq_of_compareOfLessAndEq {a b : α} (h : compareOfLessAndEq a b = .eq) : a = b := by
  unfold compareOfLessAndEq at h
  split at h
  · cases h
  · split at h
    · assumption
    · cases h

end

instance text_transCmp : Std.TransCmp fun s t : Text => compareOfLessAndEq s t :=
  .compareOfLessAndEq_of_irrefl_of_trans_of_antisymm lt_irrefl lt_trans fun hst hts =>
    le_antisymm (not_lt.1 hts) (not_lt.1 hst)

instance text_lawfulEqCmp : Std.LawfulEqCmp fun s t : Text => compareOfLessAndEq s t where
  eq_of_compare := eq_of_compareOfLessAndEq

instance octets_transCmp : Std.TransCmp fun s t : List UInt8 => compareOfLessAndEq s t :=
  .compareOfLessAndEq_of_irrefl_of_trans_of_antisymm List.lt_irrefl List.lt_trans fun hst hts =>
    List.le_antisymm (Std.not_lt.1 hts) (Std.not_lt.1 hst)

instance octets_lawfulEqCmp : Std.LawfulEqCmp fun s t : List UInt8 => compareOfLessAndEq s t where
  eq_of_compare := eq_of_compareOfLessAndEq

/-- What a standing says about a relation, `e` if there is no standing. -/
def Relation.verdict (r : Relation) (e : Fault) : Option Ordering → Except Fault Bool
  | some o => .ok (r.holds o)
  | none => .error e

-- ================================================================ marks

/-- What a value that holds no others is compared by. -/
inductive Mark where
  | null
  | number (p : Position)
  | text (s : Text)
  | octets (bs : List UInt8)
  deriving DecidableEq

namespace Mark

variable {l m n : Mark} {o : Ordering}

/-- How a mark stands to another one, if both are of one kind and that kind
has an order. -/
def compare? : Mark → Mark → Option Ordering
  | number p, number q => some (p.compare q)
  | text s, text t => some (compareOfLessAndEq s t)
  | octets bs, octets cs => some (compareOfLessAndEq bs cs)
  | _, _ => none

/-- The characters that a mark is. -/
def text? : Mark → Option Text
  | text s => some s
  | _ => none

def isNumber : Mark → Bool
  | number _ => true
  | _ => false

theorem compare?_swap (m n : Mark) : n.compare? m = (m.compare? n).map Ordering.swap := by
  cases m <;> cases n
  case number.number p q => exact congrArg some (Position.compare_swap q p)
  case text.text s t =>
    exact congrArg some (@Std.OrientedCmp.eq_swap _ (compareOfLessAndEq · ·) _ t s)
  case octets.octets bs cs =>
    exact congrArg some (@Std.OrientedCmp.eq_swap _ (compareOfLessAndEq · ·) _ cs bs)
  all_goals rfl

/-- Marks stand level only with themselves. -/
theorem compare?_eq_iff (h : m.compare? n = some o) : o = .eq ↔ m = n := by
  cases m <;> cases n
  case number.number p q =>
    obtain rfl := Option.some.inj h
    rw [Position.compare_eq_eq_iff, number.injEq]
  case text.text s t =>
    obtain rfl := Option.some.inj h
    rw [@Std.LawfulEqCmp.compare_eq_iff_eq _ (compareOfLessAndEq · ·), text.injEq]
  case octets.octets bs cs =>
    obtain rfl := Option.some.inj h
    rw [@Std.LawfulEqCmp.compare_eq_iff_eq _ (compareOfLessAndEq · ·), octets.injEq]
  all_goals cases h

/-- What is below what is below, by the marks. -/
theorem compare?_trans (h : l.compare? m = some .lt) (h' : m.compare? n = some .lt) :
    l.compare? n = some .lt := by
  cases l <;> cases m
  case number.number p q =>
    cases n
    case number r =>
      exact congrArg some (Std.TransCmp.lt_trans (Option.some.inj h) (Option.some.inj h'))
    all_goals cases h'
  case text.text s t =>
    cases n
    case text u =>
      exact congrArg some (@Std.TransCmp.lt_trans _ (compareOfLessAndEq · ·) _ s t u
        (Option.some.inj h) (Option.some.inj h'))
    all_goals cases h'
  case octets.octets bs cs =>
    cases n
    case octets ds =>
      exact congrArg some (@Std.TransCmp.lt_trans _ (compareOfLessAndEq · ·) _ bs cs ds
        (Option.some.inj h) (Option.some.inj h'))
    all_goals cases h'
  all_goals cases h

end Mark

namespace Value

/-- What a value is compared by, if it holds no others and is not a NaN. -/
def mark? : Value → Option Mark
  | null => some .null
  | bool b => some (.number (intPosition b.toInt))
  | int n => some (.number (intPosition n))
  | float x => x.position?.map .number
  | text s => some (.text s)
  | label s => some (.text s)
  | bytes bs => some (.octets bs)
  | _ => none

variable {a b : Value} {m n : Mark} {p : Position} {s : Text}

/-- The position of a number is its mark. -/
theorem position?_eq_some_iff : b.position? = some p ↔ b.mark? = some (.number p) := by
  cases b <;> simp [position?, mark?]

/-- The characters of a text are its mark. -/
theorem text?_eq_some_iff : b.text? = some s ↔ b.mark? = some (.text s) := by
  cases b <;> simp [text?, mark?]

/-- A number agrees with what stands at its place on the line. That it
agrees with itself says no more, for it is not a NaN. -/
theorem agree_iff_of_position (h : a.position? = some p) :
    agree a b = true ↔ b.position? = some p := by
  -- numbers agree as atoms do, and a float with itself besides
  have hatoms : agree a b = equalAtoms a b := by
    cases a
    case float x =>
      cases b
      case float y =>
        show (x.bits == y.bits || equalAtoms (float x) (float y)) = _
        by_cases hbits : x.bits = y.bits
        · obtain rfl : x = y := Binary64.mk.injEq x.bits y.bits ▸ hbits
          simp [equalAtoms, h]
        · rw [beq_false_of_ne hbits, Bool.false_or]
      all_goals rfl
    case bool => cases b <;> rfl
    case int => cases b <;> rfl
    all_goals cases h
  have htext : a.text? = none := by
    cases a
    case text => cases h
    case label => cases h
    all_goals rfl
  rw [hatoms]
  unfold equalAtoms
  rw [h, htext]
  cases hb : b.position? with
  | some q =>
    show (p == q) = true ↔ some q = some p
    rw [beq_iff_eq, Option.some.injEq]
    exact eq_comm
  | none =>
    refine iff_of_false ?_ fun h => nomatch h
    cases a
    case null => cases h
    case bytes => cases h
    all_goals exact Bool.false_ne_true

private theorem eq_null_of_mark (h : a.mark? = some .null) : a = null := by
  cases a
  case null => rfl
  case float x => obtain ⟨p, -, ⟨⟩⟩ := Option.map_eq_some_iff.1 h
  all_goals cases h

private theorem eq_bytes_of_mark {bs : List UInt8} (h : a.mark? = some (.octets bs)) :
    a = bytes bs := by
  cases a
  case bytes cs =>
    cases h
    rfl
  case float x => obtain ⟨p, -, ⟨⟩⟩ := Option.map_eq_some_iff.1 h
  all_goals cases h

/-- A value with a mark agrees exactly with those of the same mark. -/
theorem agree_iff_of_mark (h : a.mark? = some m) : agree a b = true ↔ b.mark? = some m := by
  cases m with
  | null =>
    obtain rfl := eq_null_of_mark h
    cases b
    case null => exact iff_of_true rfl rfl
    case float x => exact iff_of_false Bool.false_ne_true (by simp [mark?])
    all_goals exact iff_of_false Bool.false_ne_true fun h => nomatch h
  | number p =>
    rw [agree_iff_of_position (position?_eq_some_iff.2 h), position?_eq_some_iff]
  | text s => rw [agree_iff_of_text (text?_eq_some_iff.2 h), text?_eq_some_iff]
  | octets bs =>
    obtain rfl := eq_bytes_of_mark h
    cases b
    case bytes cs =>
      show (bs == cs) = true ↔ some (Mark.octets cs) = some (.octets bs)
      rw [beq_iff_eq, Option.some.injEq, Mark.octets.injEq]
      exact eq_comm
    case float x => exact iff_of_false Bool.false_ne_true (by simp [mark?])
    all_goals exact iff_of_false Bool.false_ne_true fun h => nomatch h

-- ============================================================= relations

/-- The mark tells what kind of value it is. -/
theorem kind_of_mark (h : a.mark? = some m) :
    a.isNumber = m.isNumber ∧ a.text? = m.text? ∧ a.members? = none := by
  cases a
  case float x =>
    obtain ⟨p, -, rfl⟩ := Option.map_eq_some_iff.1 h
    exact ⟨rfl, rfl, rfl⟩
  all_goals cases h
  all_goals exact ⟨rfl, rfl, rfl⟩

/-- Values with marks are related as their marks stand. -/
theorem relatedAtoms_of_marks (r : Relation) (ha : a.mark? = some m) (hb : b.mark? = some n) :
    relatedAtoms r a b = r.verdict (unordered r a b) (m.compare? n) := by
  obtain ⟨hnumber, htext, hset⟩ := kind_of_mark ha
  obtain ⟨hnumber', htext', hset'⟩ := kind_of_mark hb
  unfold relatedAtoms
  rw [hnumber, hnumber', htext, htext', hset, hset']
  cases m <;> cases n
  case number.number p q =>
    show Except.ok (relatedNumbers r a b) = .ok (r.holds (p.compare q))
    unfold relatedNumbers
    rw [position?_eq_some_iff.2 ha, position?_eq_some_iff.2 hb]
  case text.text s t => rfl
  case octets.octets bs cs =>
    obtain rfl := eq_bytes_of_mark ha
    obtain rfl := eq_bytes_of_mark hb
    rfl
  -- Only two values that are both octets have an order left.
  all_goals
    refine (if_neg Bool.false_ne_true).trans ?_
    dsimp only [Mark.text?]
    split
    · cases ha
      all_goals cases hb
    · rfl

end Value

end Collation
