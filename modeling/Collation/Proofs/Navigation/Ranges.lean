/-
The elements of a range. Each end of a range is a place in the listing, and
a place of a test at that: up to it the elements pass the test, from it on
none does (`Bisect.Bounds`). The elements between two such places are those
that pass the second test and not the first, wherever the two places stand
to each other (`Bounds.between`). So a range that starts past the end of the
listing, one that is empty and one whose ends are crossed are not different
from any other: a range is a filter of the listing (`range_filtered`).
-/
import Collation.Proofs.Comparator.Composed
import Collation.Proofs.Navigation.Neighbours

namespace Collation

open Bisect (Ascends Range)

-- =============================================================== the ends

namespace Comparison

/-- Past the lower end of a range, or at it if the end belongs to the range.
A null end is no end. -/
def From (c : Comparison) (minimum : Value) (inclusive : Bool) (e : Value) : Prop :=
  minimum.isNull = true ∨ c.Gives minimum e .lt ∨ inclusive = true ∧ c.Gives minimum e .eq

/-- Before the upper end of a range, or at it. -/
def UpTo (c : Comparison) (maximum : Value) (inclusive : Bool) (e : Value) : Prop :=
  maximum.isNull = true ∨ c.Gives e maximum .lt ∨ inclusive = true ∧ c.Gives e maximum .eq

instance (c : Comparison) (minimum : Value) (inclusive : Bool) (e : Value) :
    Decidable (c.From minimum inclusive e) := inferInstanceAs (Decidable (_ ∨ _ ∨ _))

instance (c : Comparison) (maximum : Value) (inclusive : Bool) (e : Value) :
    Decidable (c.UpTo maximum inclusive e) := inferInstanceAs (Decidable (_ ∨ _ ∨ _))

variable {c : Comparison} {e x : Value} {inclusive : Bool} {s : Ordering}

private theorem Stands.from_iff (h : c.Stands e x s) (hx : x.isNull = false) :
    c.From x inclusive e ↔ s = .gt ∨ inclusive = true ∧ s = .eq := by
  unfold From
  rw [h.2.iff, h.2.iff, hx]
  cases s <;> simp

private theorem Stands.upTo_iff (h : c.Stands e x s) (hx : x.isNull = false) :
    c.UpTo x inclusive e ↔ s = .lt ∨ inclusive = true ∧ s = .eq := by
  unfold UpTo
  rw [h.1.iff, h.1.iff, hx]
  simp

end Comparison

namespace Bisect

variable {α : Type} {p q : α → Bool} {xs : List α} {i j : Nat}

/-- A place in a list up to which the elements pass a test and from which on
they do not. -/
structure Bounds (p : α → Bool) (xs : List α) (i : Nat) : Prop where
  passed : ∀ x ∈ xs.take i, p x = true
  failed : ∀ x ∈ xs.drop i, p x = false

namespace Bounds

private theorem filter_eq (h : Bounds p xs i) : xs.filter p = xs.take i := by
  have hpassed := List.filter_eq_self.2 h.passed
  have hfailed : (xs.drop i).filter p = [] :=
    List.filter_eq_nil_iff.2 fun x hx => Bool.eq_false_iff.1 (h.failed x hx)
  rw [← List.take_append_drop i xs, List.filter_append, hpassed, hfailed, List.append_nil,
    List.take_append_drop]

/-- What fails is what is behind it. -/
private theorem filter_not_eq (h : Bounds p xs i) : (xs.filter fun x => !p x) = xs.drop i := by
  have hpassed : ((xs.take i).filter fun x => !p x) = [] :=
    List.filter_eq_nil_iff.2 fun x hx => by simp [h.passed x hx]
  have hfailed : ((xs.drop i).filter fun x => !p x) = xs.drop i :=
    List.filter_eq_self.2 fun x hx => by simp [h.failed x hx]
  rw [← List.take_append_drop i xs, List.filter_append, hpassed, hfailed, List.nil_append,
    List.take_append_drop]

/-- Without the elements before a place the other place moves ahead, at most
to the front. -/
theorem drop (h : Bounds p xs j) (i : Nat) : Bounds p (xs.drop i) (j - i) where
  passed x hx := by
    rw [← List.drop_take] at hx
    exact h.passed x (List.mem_of_mem_drop hx)
  failed x hx := by
    rw [List.drop_drop] at hx
    exact h.failed x (List.drop_subset_drop_left xs (by omega) hx)

/-- Between two places is what passes the second test and not the first. -/
theorem between (hp : Bounds p xs i) (hq : Bounds q xs j) :
    (xs.drop i).take (j - i) = xs.filter fun x => !p x && q x := by
  rw [← (hq.drop i).filter_eq, ← hp.filter_not_eq, List.filter_filter]
  simp only [Bool.and_comm]

/-- A place between what passes and what does not. -/
theorem of_parts {low high : List α} (hparts : xs = low ++ high) (hlow : ∀ x ∈ low, p x = true)
    (hhigh : ∀ x ∈ high, p x = false) : Bounds p xs low.length where
  passed := by
    rw [hparts, List.take_left]
    exact hlow
  failed := by
    rw [hparts, List.drop_left]
    exact hhigh

end Bounds

section

variable {c : Comparison} {D : Value → Prop} {key : α → Value} {r : Range} {inclusive : Bool}

/-- A test that goes by how an element stands to a probe, and that is passed
below it and failed above it, has its place at one of the probe's bounds. -/
theorem Parted.bounds {q : Ordering → Bool} {x : Value} {below level above : List α}
    (h : Parted c key xs x below level above) (hp : ∀ y s, c.Stands (key y) x s → p y = q s)
    (hlt : q .lt = true) (hgt : q .gt = false) :
    ∃ i, (if q .eq then Bisect.upperBound c key xs x else Bisect.lowerBound c key xs x) = .ok i
      ∧ Bounds p xs i := by
  have hbelow : ∀ y ∈ below, p y = true := fun y hy => (hp y .lt (h.below y hy)).trans hlt
  have hlevel : ∀ y ∈ level, p y = q .eq := fun y hy => hp y .eq (h.level y hy)
  have habove : ∀ y ∈ above, p y = false := fun y hy => (hp y .gt (h.above y hy)).trans hgt
  cases heq : q .eq with
  | true =>
    rw [heq] at hlevel
    have hparts : xs = (below ++ level) ++ above := by
      rw [List.append_assoc]
      exact h.parts
    refine ⟨_, h.upperBound, .of_parts hparts ?_ habove⟩
    exact List.forall_mem_append.2 ⟨hbelow, hlevel⟩
  | false =>
    rw [heq] at hlevel
    refine ⟨_, h.lowerBound, .of_parts h.parts hbelow ?_⟩
    exact List.forall_mem_append.2 ⟨hlevel, habove⟩

variable (hc : c.TotalOn D) (hxs : ∀ x ∈ xs, D (key x)) (hasc : Ascends c key xs)

include hc hxs hasc

/-- A range starts where what is short of its lower end is over. -/
theorem Range.start_bounds (hend : r.minimum.isNull = false → D r.minimum)
    (hinclusive : r.withMinimum = .ok inclusive) :
    ∃ i, r.start c key xs = .ok i
      ∧ Bounds (fun x => !decide (c.From r.minimum inclusive (key x))) xs i := by
  unfold Range.start
  cases hnull : r.minimum.isNull with
  | true =>
    refine ⟨0, rfl, .of_parts (List.nil_append xs).symm (fun x hx => absurd hx List.not_mem_nil)
      fun x _ => ?_⟩
    simp [Comparison.From, hnull]
  | false =>
    obtain ⟨below, level, above, hparted⟩ := hasc.parted hc hxs (hend hnull)
    obtain ⟨i, hi, hbounds⟩ := hparted.bounds
      (q := fun s => !decide (s = .gt ∨ inclusive = true ∧ s = .eq))
      (p := fun x => !decide (c.From r.minimum inclusive (key x)))
      (fun y s hs => by simp only [hs.from_iff hnull]) (by simp) (by simp)
    refine ⟨i, ?_, hbounds⟩
    rw [hinclusive]
    cases inclusive with
    | true => exact hi
    | false => exact hi

/-- It stops where what is short of its upper end is over. -/
theorem Range.stop_bounds (hend : r.maximum.isNull = false → D r.maximum)
    (hinclusive : r.withMaximum = .ok inclusive) :
    ∃ j, r.stop c key xs = .ok j
      ∧ Bounds (fun x => decide (c.UpTo r.maximum inclusive (key x))) xs j := by
  unfold Range.stop
  cases hnull : r.maximum.isNull with
  | true =>
    refine ⟨xs.length, rfl, .of_parts (List.append_nil xs).symm (fun x _ => ?_)
      fun x hx => absurd hx List.not_mem_nil⟩
    simp [Comparison.UpTo, hnull]
  | false =>
    obtain ⟨below, level, above, hparted⟩ := hasc.parted hc hxs (hend hnull)
    obtain ⟨j, hj, hbounds⟩ := hparted.bounds
      (q := fun s => decide (s = .lt ∨ inclusive = true ∧ s = .eq))
      (p := fun x => decide (c.UpTo r.maximum inclusive (key x)))
      (fun y s hs => by simp only [hs.upTo_iff hnull]) (by simp) (by simp)
    refine ⟨j, ?_, hbounds⟩
    rw [hinclusive]
    cases inclusive with
    | true => exact hj
    | false => exact hj

omit hc hxs hasc in
/-- What a range gives lies between its places, also where it is not looked
for. -/
theorem Range.select_eq (hi : r.start c key xs = .ok i) (hj : r.stop c key xs = .ok j) :
    r.select c key xs = .ok (if r.backwards then ((xs.drop i).take (j - i)).reverse
      else (xs.drop i).take (j - i)) := by
  unfold Range.select
  by_cases hempty : xs.isEmpty = true
  · rw [List.isEmpty_iff] at hempty
    simp [hempty, pure, Except.pure]
  rw [if_neg hempty, hi]
  by_cases hend : i = xs.length
  · simp [hend, bind, Except.bind, pure, Except.pure]
  · simp [hend, hj, bind, Except.bind, pure, Except.pure]

/-- A range is a filter. -/
theorem Range.select_filter {withMinimum withMaximum : Bool}
    (hminimum : r.minimum.isNull = false → D r.minimum) (hfirst : r.withMinimum = .ok withMinimum)
    (hmaximum : r.maximum.isNull = false → D r.maximum) (hlast : r.withMaximum = .ok withMaximum) :
    let found := xs.filter fun x =>
      c.From r.minimum withMinimum (key x) ∧ c.UpTo r.maximum withMaximum (key x)
    r.select c key xs = .ok (if r.backwards then found.reverse else found) := by
  intro found
  obtain ⟨i, hi, hstart⟩ := start_bounds hc hxs hasc hminimum hfirst
  obtain ⟨j, hj, hstop⟩ := stop_bounds hc hxs hasc hmaximum hlast
  have hfound : (xs.drop i).take (j - i) = found := by
    rw [hstart.between hstop]
    simp [found]
  rw [select_eq hi hj, hfound]

end

end Bisect

-- ============================================================= every range

open Operand (Navigable)

variable {c : Comparator} {D : Value → Prop} {o : Operand}

/-- Whatever has its elements in order gives for a range the elements that
lie between its ends, in the order of the listing or in the reverse of it,
whether the ends are stored or not and however they stand to each other. -/
theorem range_filtered (hc : c.compare.TotalOn D) (h : Navigable c D o) :
    ∃ nav, ∃ xs : List Value, o.navigation? = some nav ∧ o.listing = xs.map .ok
      ∧ ∀ (minimum maximum : Value) (inclusive : Bool × Bool) (backwards : Bool),
        (minimum.isNull = false → D minimum) → (maximum.isNull = false → D maximum) →
        let found := xs.filter fun e =>
          c.compare.From minimum inclusive.1 e ∧ c.compare.UpTo maximum inclusive.2 e
        nav.range ⟨minimum, maximum, .ok inclusive.1, .ok inclusive.2, backwards⟩
          = .ok (if backwards then found.reverse else found) := by
  obtain ⟨nav, xs, hnav⟩ := h.navigated hc
  refine ⟨nav, xs, hnav.navigation, hnav.listing, ?_⟩
  intro minimum maximum inclusive backwards hminimum hmaximum found
  rw [hnav.answers.range]
  exact Range.select_filter hc hnav.mem hnav.ascends hminimum rfl hmaximum rfl

/-- Null and texts by their case fold, null being stored too: a set and a map
of their own, and the keys of a multimap. -/
theorem range_filtered_nullsFirst :
    let c : Comparator := { identity := 5, compare := Comparator.caseFold.compare.nullsFirst }
    let D : Value → Prop := fun v => v.isNull = true ∨ ∃ s, v.text? = some s
    let own := SlotChange.afterSet (SlotChange.afterSet (SlotChange.afterSet (.empty c)
      (.add (.text "C"))) (.add .null)) (.add (.text "a"))
    let map := OrderedMap.Change.after (OrderedMap.Change.after (.empty c)
      (.set (.text "B") .null)) (.setDefault .null .null)
    let history : List Operation := [.putAll .null [.text "d"], .putAll (.text "b") [.null]]
    let m := (Multimap.empty c c).afterAll history
    let operands : List Operand := [.orderedSet own, .orderedMap map, .keyView ⟨m⟩]
    let within : Bisect.Range → Operand → Option (List (Option String)) := fun r o =>
      o.navigation?.bind fun nav =>
        (nav.range r).toOption.map (List.map fun v => v.text?.map Text.lossy)
    c.compare.TotalOn D
      ∧ (∀ o ∈ operands, Navigable c D o ∧ ∃ nav, ∃ xs : List Value, o.navigation? = some nav
        ∧ o.listing = xs.map .ok ∧ nav.range ⟨.text "A", .text "c", .ok false, .ok true, true⟩
          = .ok (xs.filter fun e =>
            c.compare.From (.text "A") false e ∧ c.compare.UpTo (.text "c") true e).reverse)
      ∧ operands.map (within ⟨.text "A", .text "c", .ok false, .ok true, true⟩)
        = [some [some "C"], some [some "B"], some [some "b"]]
      ∧ operands.map (within ⟨.null, .text "b", .ok false, .ok true, false⟩)
        = [some [none, some "a"], some [none, some "B"], some [none, some "b"]]
      ∧ operands.map (within ⟨.text "c", .text "a", .ok true, .ok true, false⟩)
        = [some [], some [], some []]
      ∧ operands.map (within ⟨.text "B", .null, .ok true, .ok false, true⟩)
        = [some [some "C"], some [some "B"], some [some "b"]] := by
  intro c D own map history m operands within
  have htotal : c.compare.TotalOn D := Comparator.caseFold_totalOn.nullsFirst
  have hputs : ∀ operation ∈ history, operation.Puts D D := by
    simp [history, D, Operation.Puts, Value.text?, Value.isNull]
  have hm : m.Reached c c D D := ⟨history, hputs, rfl⟩
  have hown : own.Reached c D :=
    .changed _ (.changed _ (.changed _ .empty (.inr ⟨_, rfl⟩)) (.inl rfl)) (.inr ⟨_, rfl⟩)
  have hmap : map.Reached c D := .changed _ (.changed _ .empty (.inr ⟨_, rfl⟩)) (.inl rfl)
  have hnavigable : ∀ o ∈ operands, Navigable c D o := by
    intro o ho
    simp only [operands, List.mem_cons, List.not_mem_nil, or_false] at ho
    rcases ho with rfl | rfl | rfl
    · exact .set (.set hown)
    · exact .map hmap
    · exact .set (.keys hm)
  refine ⟨htotal, fun o ho => ⟨hnavigable o ho, ?_⟩, by decide +kernel, by decide +kernel,
    by decide +kernel, by decide +kernel⟩
  obtain ⟨nav, xs, hnav, hlisting, hall⟩ := range_filtered htotal (hnavigable o ho)
  exact ⟨nav, xs, hnav, hlisting, hall (.text "A") (.text "c") (false, true) true
    (fun _ => .inr ⟨_, rfl⟩) fun _ => .inr ⟨_, rfl⟩⟩

end Collation
