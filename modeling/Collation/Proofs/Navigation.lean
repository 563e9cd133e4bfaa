/-
What navigation answers in an ascending list under a total preorder. A
probe parts the list into what is below it, what stands at it and what is
above it (`Ascends.parted`), and the two bounds that the searches find are
the ends of the middle part (`Parted.lowerBound`, `Parted.upperBound`). So
the four neighbours of the probe are ends of parts, and walking the list
backwards under the opposite comparator swaps the outer parts and leaves
the rest (`Parted.reversed`).
-/
import Collation.Navigation
import Collation.Proofs.Multimap.Lookup
import Mathlib.Data.List.InsertIdx

namespace Collation

namespace Comparison

variable {c : Comparison} {D : Value → Prop} {a b : Value} {s : Ordering}

/-- How one value stands to another, whichever is asked about first. -/
def Stands (c : Comparison) (a b : Value) (s : Ordering) : Prop :=
  c.Gives a b s ∧ c.Gives b a s.swap

private theorem TotalOn.stands (hc : c.TotalOn D) (ha : D a) (hb : D b) (h : c.Gives a b s) :
    c.Stands a b s :=
  ⟨h, hc.swap ha hb h⟩

private theorem Stands.reversed (h : c.Stands a b s) : c.reversed.Stands a b s.swap := by
  refine ⟨h.2, ?_⟩
  rw [Ordering.swap_swap]
  exact h.1

/-- The opposite of a total preorder is one. -/
theorem TotalOn.reversed (hc : c.TotalOn D) : c.reversed.TotalOn D where
  converse a b ha hb := by
    obtain ⟨s, hba, hab⟩ := hc.converse b a hb ha
    exact ⟨s, hba, hab⟩
  trans a b d ha hb hd hab hbd := hc.trans d b a hd hb ha hbd hab

end Comparison

namespace Bisect

variable {α β : Type} {c : Comparison} {key : α → Value} {xs below level above : List α}
  {x : Value}

/-- An ascending list backwards ascends under the opposite comparator. -/
theorem Ascends.reversed (h : Ascends c key xs) : Ascends c.reversed key xs.reverse :=
  List.pairwise_reverse.2 h

/-- The element before a place is the last one of what comes before it. -/
theorem before_place (low high : List α) :
    (if low.length = 0 then none else (low ++ high)[low.length - 1]?) = low.getLast? := by
  rw [List.getLast?_eq_getElem?]
  cases low with
  | nil => rfl
  | cons y ys => rw [if_neg (by simp), List.getElem?_append_left (by simp)]

/-- The element at a place is the first one of what comes from there on. -/
theorem at_place (low high : List α) : (low ++ high)[low.length]? = high.head? := by
  rw [List.getElem?_append_right (Nat.le_refl _), Nat.sub_self, List.head?_eq_getElem?]

-- ================================================================ parts

/-- A list parted by a probe: what is below it, what is equivalent to it
and what is above it. -/
structure Parted (c : Comparison) (key : α → Value) (xs : List α) (x : Value)
    (below level above : List α) : Prop where
  parts : xs = below ++ (level ++ above)
  below : ∀ y ∈ below, c.Stands (key y) x .lt
  level : ∀ y ∈ level, c.Stands (key y) x .eq
  above : ∀ y ∈ above, c.Stands (key y) x .gt

/-- A probe parts every ascending list. -/
theorem Ascends.parted {D : Value → Prop} (hc : c.TotalOn D) (hasc : Ascends c key xs)
    (hxs : ∀ y ∈ xs, D (key y)) (hx : D x) :
    ∃ below level above, Parted c key xs x below level above := by
  induction xs with
  | nil =>
    refine ⟨[], [], [], rfl, ?_, ?_, ?_⟩
    all_goals exact fun y hy => absurd hy List.not_mem_nil
  | cons y ys ih =>
    rw [List.forall_mem_cons] at hxs
    obtain ⟨hfirst, hrest⟩ := List.pairwise_cons.1 hasc
    obtain ⟨hy, hys⟩ := hxs
    obtain ⟨s, hgives, -⟩ := hc.converse (key y) x hy hx
    -- what comes after an element at the probe or above it is above it
    have hlater : c.AtMost x (key y) → ∀ z ∈ ys, c.Stands (key z) x .gt := by
      intro hle z hz
      have hlt := hc.lt_of_atMost_of_lt hx hy (hys z hz) hle (hfirst z hz)
      exact hc.stands (hys z hz) hx (hc.swap hx (hys z hz) hlt)
    cases s with
    | lt =>
      obtain ⟨below, level, above, hparted⟩ := ih hrest hys
      refine ⟨y :: below, level, above, ?_, ?_, hparted.level, hparted.above⟩
      · rw [hparted.parts, List.cons_append]
      · exact List.forall_mem_cons.2 ⟨hc.stands hy hx hgives, hparted.below⟩
    | eq =>
      refine ⟨[], [y], ys, rfl, fun z hz => absurd hz List.not_mem_nil, ?_, ?_⟩
      · exact List.forall_mem_singleton.2 (hc.stands hy hx hgives)
      · exact hlater (.inr (hc.swap hy hx hgives))
    | gt =>
      refine ⟨[], [], y :: ys, rfl, fun z hz => absurd hz List.not_mem_nil,
        fun z hz => absurd hz List.not_mem_nil, ?_⟩
      exact List.forall_mem_cons.2
        ⟨hc.stands hy hx hgives, hlater (.inl (hc.swap hy hx hgives))⟩

namespace Parted

variable (h : Parted c key xs x below level above)

include h

/-- The first bound is behind what is below. -/
theorem lowerBound : lowerBound c key xs x = .ok below.length := by
  rw [h.parts]
  refine search_of_split (by simp) ?_ ?_
  · rw [List.take_left]
    exact fun y hy => (h.below y hy).1.isNegative
  · rw [List.drop_left, List.forall_mem_append]
    exact ⟨fun y hy => (h.level y hy).1.isNegative, fun y hy => (h.above y hy).1.isNegative⟩

/-- The second one is behind the equivalents. -/
theorem upperBound : upperBound c key xs x = .ok (below ++ level).length := by
  rw [h.parts, ← List.append_assoc]
  refine search_of_split (by simp) ?_ ?_
  · rw [List.take_left, List.forall_mem_append]
    exact ⟨fun y hy => (h.below y hy).2.isNotNegative, fun y hy => (h.level y hy).2.isNotNegative⟩
  · rw [List.drop_left]
    exact fun y hy => (h.above y hy).2.isNotNegative

-- =========================================================== neighbours

/-- The last element below the probe. -/
theorem lower : lower c key xs x = .ok below.getLast? := by
  unfold Bisect.lower
  rw [h.lowerBound, h.parts]
  exact congrArg Except.ok (before_place below (level ++ above))

/-- The last element that is not above the probe. -/
theorem floor : floor c key xs x = .ok (below ++ level).getLast? := by
  unfold Bisect.floor
  rw [h.upperBound, h.parts, ← List.append_assoc]
  exact congrArg Except.ok (before_place (below ++ level) above)

/-- The first element that is not below the probe. -/
theorem ceiling : ceiling c key xs x = .ok (level ++ above).head? := by
  unfold Bisect.ceiling
  rw [h.lowerBound, h.parts]
  exact congrArg Except.ok (at_place below (level ++ above))

/-- The first element above the probe. -/
theorem higher : higher c key xs x = .ok above.head? := by
  unfold Bisect.higher
  rw [h.upperBound, h.parts, ← List.append_assoc]
  exact congrArg Except.ok (at_place (below ++ level) above)

-- ======================================================= the other way

/-- Backwards and under the opposite comparator the outer parts are
swapped. -/
theorem reversed :
    Parted c.reversed key xs.reverse x above.reverse level.reverse below.reverse where
  parts := by rw [h.parts, List.reverse_append, List.reverse_append, List.append_assoc]
  below y hy := (h.above y (List.mem_reverse.1 hy)).reversed
  level y hy := (h.level y (List.mem_reverse.1 hy)).reversed
  above y hy := (h.below y (List.mem_reverse.1 hy)).reversed

end Parted

-- ============================================================ keys alone

section

variable (c : Comparison) (key : α → Value) (xs : List α) (x : Value)

private theorem lowerBound_map :
    Bisect.lowerBound c id (xs.map key) x = Bisect.lowerBound c key xs x :=
  search_map ..

private theorem upperBound_map :
    Bisect.upperBound c id (xs.map key) x = Bisect.upperBound c key xs x :=
  search_map ..

/-- Keys take the place among the keys that their elements take. -/
theorem insert_map (a : α) :
    Bisect.insert c id (xs.map key) (key a) = (Bisect.insert c key xs a).map (List.map key) := by
  unfold Bisect.insert
  dsimp only [id]
  rw [upperBound_map]
  cases Bisect.upperBound c key xs (key a) with
  | error e => rfl
  | ok i => simp [Except.map, List.map_insertIdx]

private theorem lower_map :
    Bisect.lower c id (xs.map key) x = (Bisect.lower c key xs x).map (Option.map key) := by
  unfold Bisect.lower
  rw [lowerBound_map]
  cases Bisect.lowerBound c key xs x with
  | error e => rfl
  | ok i => cases i <;> simp [Except.map]

private theorem floor_map :
    Bisect.floor c id (xs.map key) x = (Bisect.floor c key xs x).map (Option.map key) := by
  unfold Bisect.floor
  rw [upperBound_map]
  cases Bisect.upperBound c key xs x with
  | error e => rfl
  | ok i => cases i <;> simp [Except.map]

private theorem ceiling_map :
    Bisect.ceiling c id (xs.map key) x = (Bisect.ceiling c key xs x).map (Option.map key) := by
  unfold Bisect.ceiling
  rw [lowerBound_map]
  cases Bisect.lowerBound c key xs x with
  | error e => rfl
  | ok i => simp [Except.map]

private theorem higher_map :
    Bisect.higher c id (xs.map key) x = (Bisect.higher c key xs x).map (Option.map key) := by
  unfold Bisect.higher
  rw [upperBound_map]
  cases Bisect.upperBound c key xs x with
  | error e => rfl
  | ok i => simp [Except.map]

/-- A range of the keys is that of their elements. -/
private theorem Range.select_map (r : Range) :
    r.select c id (xs.map key) = (r.select c key xs).map (List.map key) := by
  have hstart : r.start c id (xs.map key) = r.start c key xs := by
    unfold Range.start
    rw [lowerBound_map, upperBound_map]
  have hstop : r.stop c id (xs.map key) = r.stop c key xs := by
    unfold Range.stop
    rw [lowerBound_map, upperBound_map, List.length_map]
  unfold Range.select
  rw [hstart, hstop, List.isEmpty_map, List.length_map]
  by_cases hempty : xs.isEmpty = true
  · rw [if_pos hempty, if_pos hempty]
    rfl
  rw [if_neg hempty, if_neg hempty]
  cases r.start c key xs with
  | error e => rfl
  | ok i =>
    by_cases hend : i = xs.length
    · simp [hend, bind, Except.bind, pure, Except.pure, Except.map]
    cases r.stop c key xs with
    | error e => simp [hend, bind, Except.bind, Except.map]
    | ok j =>
      cases hback : r.backwards with
      | true => simp [hend, bind, Except.bind, pure, Except.pure, Except.map]
      | false => simp [hend, bind, Except.bind, pure, Except.pure, Except.map]

end

end Bisect

namespace OrderedMap

variable {β : Type} (m : OrderedMap β)

/-- The keys of a map as a set. -/
def keySet : OrderedSet := ⟨m.comparator, m.keys⟩

-- Apart from the messages about empty ends, a map is navigated as the set
-- of its keys is.

variable {m} {x : Value}

/-- The first key of a map is the first of its keys as a set. -/
theorem firstKey_eq (h : m.keys ≠ []) : m.firstKey = m.keySet.first := by
  unfold firstKey OrderedSet.first keySet keys
  cases hslots : m.slots with
  | nil => exact absurd (congrArg (List.map Slot.key) hslots) h
  | cons s rest => rfl

/-- So is the last one. -/
theorem lastKey_eq (h : m.keys ≠ []) : m.lastKey = m.keySet.last := by
  unfold lastKey OrderedSet.last keySet keys
  rw [List.getLast?_map]
  cases hlast : m.slots.getLast? with
  | none =>
    rw [List.getLast?_eq_none_iff] at hlast
    exact absurd (congrArg (List.map Slot.key) hlast) h
  | some s => rfl

/-- The neighbours of a probe among the keys are those in the set of keys. -/
theorem lowerKey_eq : m.lowerKey x = m.keySet.lower x := (Bisect.lower_map ..).symm

/-- So with the key that is not above the probe. -/
theorem floorKey_eq : m.floorKey x = m.keySet.floor x := (Bisect.floor_map ..).symm

/-- So with the key that is not below it. -/
theorem ceilingKey_eq : m.ceilingKey x = m.keySet.ceiling x := (Bisect.ceiling_map ..).symm

/-- So with the key above it. -/
theorem higherKey_eq : m.higherKey x = m.keySet.higher x := (Bisect.higher_map ..).symm

/-- A range of the keys is the range of that set. -/
theorem keyRange_eq (r : Bisect.Range) : m.keyRange r = m.keySet.range r :=
  (Bisect.Range.select_map ..).symm

end OrderedMap

namespace SlotView

variable {v : SlotView} {s : OrderedSet} {x : Value}

/-- A view of values that are there is navigated as their set is. -/
theorem navigation_eq (h : v.values? = .ok (some s)) : v.navigation = s.navigation := by
  unfold navigation first last lower floor ceiling higher range navigate
  rw [h]
  rfl

/-- Where there are no values navigation leads nowhere. -/
theorem navigate_none (h : v.values? = .ok none)
    (go : OrderedSet → Except Fault (Option Value)) : v.navigate go = .ok none := by
  unfold navigate
  rw [h]
  rfl

end SlotView

end Collation
