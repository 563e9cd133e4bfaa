/-
Ordered sets in the course of time. A set starts empty, or as what was taken
out of a multimap under a key, and goes on by changes of its own, which are
those that the view of a key's values takes as well (`SlotChange.afterSet`).
A set of some values, a copy and the result of an operator are elements
added to an empty set one by one.

A change that adds puts a value between lesser and greater ones; all others
leave elements out. So the elements ascend (`Reached.sorted`), and adding
comes to what a scan for an equivalent element says (`Sorted.add_effect`).
Values that differ among themselves are all there after they were added,
but those of which an equivalent was there before (`Sorted.addAll_differing`).
-/
import Collation.Proofs.Multimap.Lookup

namespace Collation

open Bisect (Ascends)
open Session (SetOperator)

/-- An equivalent value is among some. -/
def Comparison.among (c : Comparison) (xs : List Value) (x : Value) : Bool :=
  xs.any fun w => c.same w x

-- ============================================================ histories

/-- What a change of a set of its own leaves behind, also if it fails. -/
def SlotChange.afterSet (s : OrderedSet) : SlotChange → OrderedSet
  | add v => (Outcome.ofExcept s (s.add v)).state
  | discard v => (Outcome.ofExcept s (s.discard v)).state
  | remove v => (Outcome.ofExcept s ((s.remove v).map fun rest => (rest, ()))).state
  | clear => s.clear
  | popFirst => (Outcome.ofExcept s s.popFirst).state
  | popLast => (Outcome.ofExcept s s.popLast).state
  | edit operator itself o => (operator.edit (Operand.editSet s.comparator) itself s o).state

/-- What the change may add is of the domain. -/
def SlotChange.Adds (D : Value → Prop) : SlotChange → Prop
  | add v => D v
  | edit .union _ o | edit .symmDiff _ o => ∀ v, .ok v ∈ o.listing → D v
  | _ => True

namespace OrderedSet

/-- The sets that come about by adding values of a domain. -/
inductive Reached (c : Comparator) (D : Value → Prop) : OrderedSet → Prop where
  | empty : Reached c D (.empty c)
  | changed {s : OrderedSet} (change : SlotChange) : Reached c D s → change.Adds D →
    Reached c D (change.afterSet s)
  /-- What taking a key out of a multimap gives, whatever its keys are. -/
  | takenOut {keys : Comparator} {K : Value → Prop} {m : Multimap} {k : Value}
    {s : OrderedSet} : m.Reached keys c K D → (m.removeAll k).result = .ok s → Reached c D s

variable {c : Comparator} {D : Value → Prop} {s s' : OrderedSet} {v : Value} {vs : List Value}

/-- Elements are added in their turn. -/
theorem addAll_append (vs ws : List Value) :
    s.addAll (vs ++ ws) = s.addAll vs >>= fun s' => s'.addAll ws := by
  induction vs generalizing s with
  | nil => rfl
  | cons v vs ih =>
    rw [List.cons_append, addAll, addAll]
    cases s.add v with
    | error e => rfl
    | ok added => exact ih

/-- The set of some values is reached by adding them. -/
theorem reached_addAll (hvs : ∀ v ∈ vs, D v) (hs : Reached c D s) (h : s.addAll vs = .ok s') :
    Reached c D s' := by
  induction vs generalizing s with
  | nil =>
    cases h
    exact hs
  | cons v vs ih =>
    obtain ⟨hv, hvs⟩ := List.forall_mem_cons.1 hvs
    rw [addAll] at h
    cases hadd : s.add v with
    | error e =>
      rw [hadd] at h
      cases h
    | ok added =>
      have hstep := hs.changed (.add v) hv
      rw [SlotChange.afterSet, hadd] at hstep
      rw [hadd] at h
      exact ih hvs hstep h

-- ============================================================ the order

/-- A set in order: its elements are of the domain, and they ascend. -/
structure Sorted (c : Comparator) (D : Value → Prop) (s : OrderedSet) : Prop where
  comparator : s.comparator = c
  mem : ∀ v ∈ s.items, D v
  ascends : Ascends c.compare id s.items

namespace Sorted

/-- Nothing is out of order in an empty set. -/
theorem empty (c : Comparator) (D : Value → Prop) : Sorted c D (.empty c) :=
  ⟨rfl, fun _ h => absurd h List.not_mem_nil, List.Pairwise.nil⟩

/-- Fewer elements are in order too. -/
theorem sublist {items : List Value} (h : Sorted c D s) (hsub : items.Sublist s.items) :
    Sorted c D { s with items } :=
  ⟨h.comparator, fun v hv => h.mem v (hsub.mem hv), h.ascends.sublist hsub⟩

/-- The elements, which are their own keys. -/
theorem key_mem (h : Sorted c D s) : ∀ v ∈ s.items, D (id v) := h.mem

private theorem find_eq (h : Sorted c D s) : s.find v = Bisect.find c.compare id s.items v := by
  rw [← h.comparator]
  rfl

/-- An element more keeps the order. -/
theorem add (h : Sorted c D s) (hc : c.compare.ConsistentOn D) (hv : D v) {grew : Bool}
    (hadd : s.add v = .ok (s', grew)) : Sorted c D s' := by
  rcases add_eq_ok hadd with ⟨i, -, rfl, -⟩ | ⟨low, high, hnone, hitems, hu, rfl, -⟩
  · exact h
  · rw [h.find_eq] at hnone
    rw [h.comparator] at hu
    obtain ⟨hbelow, habove⟩ := Bisect.absent_parted hc h.key_mem hv h.ascends hnone hitems hu
    have hmem := h.mem
    have hasc := h.ascends
    rw [hitems] at hmem hasc
    rw [List.forall_mem_append] at hmem
    refine ⟨h.comparator, ?_, hasc.insert hbelow habove⟩
    exact List.forall_mem_append.2 ⟨hmem.1, List.forall_mem_cons.2 ⟨hv, hmem.2⟩⟩

/-- What is left without an element is in order. -/
private theorem discard (h : Sorted c D s) {gone : Bool} (hdiscard : s.discard v = .ok (s', gone)) :
    Sorted c D s' := by
  -- there was nothing to take out, or one item is gone from between the others
  rcases discard_eq_ok hdiscard with ⟨-, rfl, -⟩ | ⟨low, w, high, -, hitems, -, rfl, -⟩
  · exact h
  · refine h.sublist ?_
    rw [hitems]
    exact (List.sublist_cons_self w high).append_left low

private theorem remove (h : Sorted c D s) (hremove : s.remove v = .ok s') : Sorted c D s' := by
  obtain ⟨has, -, hremove⟩ := bind_eq_ok.1 hremove
  cases has with
  | false => cases hremove
  | true =>
    obtain ⟨r, hdiscard, hpure⟩ := bind_eq_ok.1 hremove
    cases hpure
    exact h.discard hdiscard

private theorem clear (h : Sorted c D s) : Sorted c D s.clear := by
  unfold OrderedSet.clear
  rw [h.comparator]
  exact .empty c D

private theorem popFirst (h : Sorted c D s) (hpop : s.popFirst = .ok (s', v)) : Sorted c D s' := by
  unfold OrderedSet.popFirst at hpop
  split at hpop
  · next hitems =>
    cases hpop
    exact h.sublist (hitems ▸ List.sublist_cons_self _ _)
  · cases hpop

private theorem popLast (h : Sorted c D s) (hpop : s.popLast = .ok (s', v)) : Sorted c D s' := by
  unfold OrderedSet.popLast at hpop
  split at hpop
  · cases hpop
    exact h.sublist (List.dropLast_sublist s.items)
  · cases hpop

/-- An operator in place adds the other's elements, discards elements or
clears the set. -/
theorem edit (h : Sorted c D s) (hc : c.compare.ConsistentOn D) (operator : SetOperator)
    (itself : Bool) {o : Operand} (hadds : (SlotChange.edit operator itself o).Adds D) :
    Sorted c D (operator.edit (Operand.editSet s.comparator) itself s o).state := by
  refine operator.edit_keeps (P := Sorted c D) _ itself (fun hunion v hv s h => ?_)
    (fun v s h => ?_) (fun s h => h.clear) h
  · have hD : D v := by
      rcases hunion with rfl | rfl
      · exact hadds v hv
      · exact hadds v hv
    exact Outcome.state_ofExcept_map h fun r hadd => h.add hc hD hadd
  · exact Outcome.state_ofExcept_map h fun r hdiscard => h.discard hdiscard

/-- No change that adds values of the domain breaks the order. -/
theorem afterSet (h : Sorted c D s) (hc : c.compare.ConsistentOn D) {change : SlotChange}
    (hadds : change.Adds D) : Sorted c D (change.afterSet s) := by
  cases change with
  | add v => exact Outcome.state_ofExcept h fun s' a hadd => h.add hc hadds hadd
  | discard v => exact Outcome.state_ofExcept h fun s' a hdiscard => h.discard hdiscard
  | remove v => exact Outcome.state_ofExcept_map h fun s' hremove => h.remove hremove
  | clear => exact h.clear
  | popFirst => exact Outcome.state_ofExcept h fun s' a hpop => h.popFirst hpop
  | popLast => exact Outcome.state_ofExcept h fun s' a hpop => h.popLast hpop
  | edit operator itself o => exact h.edit hc operator itself hadds

-- ==================================================== under total preorders

variable (hc : c.compare.TotalOn D)

include hc

/-- Asking for an element is looking through the items. -/
theorem contains_eq (h : Sorted c D s) (hv : D v) :
    s.contains v = .ok (c.compare.among s.items v) := by
  rw [OrderedSet.contains, h.find_eq, isSome_find hc h.key_mem hv h.ascends]
  rfl

/-- Adding finds an equivalent element or puts the value in. -/
theorem add_effect (h : Sorted c D s) (hv : D v) :
    (c.compare.among s.items v = true ∧ s.add v = .ok (s, false))
      ∨ c.compare.among s.items v = false ∧ ∃ low high, s.items = low ++ high
        ∧ s.add v = .ok ({ s with items := low ++ v :: high }, true) := by
  have hcontains := h.contains_eq hc hv
  obtain ⟨place, hplace⟩ := find_total hc h.key_mem hv
  rw [OrderedSet.contains, h.find_eq, hplace] at hcontains
  rw [← Except.ok.inj hcontains]
  cases hadd : s.add v with
  | error e =>
    rcases add_eq_error hadd with he | ⟨hnone, he⟩
    · rw [h.find_eq, hplace] at he
      cases he
    · rw [h.find_eq] at hnone
      obtain ⟨low, high, -, hu, -⟩ :=
        Bisect.upperBound_of_absent hc.consistentOn h.key_mem hv h.ascends hnone
      rw [h.comparator, hu] at he
      cases he
  | ok added =>
    obtain ⟨s', grew⟩ := added
    rcases add_eq_ok hadd with ⟨i, hfind, rfl, rfl⟩ | ⟨low, high, hfind, hitems, -, rfl, rfl⟩
    · rw [h.find_eq, hplace] at hfind
      cases hfind
      exact .inl ⟨rfl, rfl⟩
    · rw [h.find_eq, hplace] at hfind
      cases hfind
      exact .inr ⟨rfl, low, high, hitems, rfl⟩

/-- Values that differ among themselves are added, each unless an equivalent
one was there before. -/
theorem addAll_differing (h : Sorted c D s) (hvs : ∀ v ∈ vs, D v)
    (hdiffer : vs.Pairwise fun v w => c.compare.same v w = false) :
    ∃ s', s.addAll vs = .ok s' ∧ Sorted c D s'
      ∧ s'.items.Perm (s.items ++ vs.filter fun v => !c.compare.among s.items v) := by
  induction vs generalizing s with
  | nil => exact ⟨s, rfl, h, by simp⟩
  | cons v vs ih =>
    obtain ⟨hv, hvs⟩ := List.forall_mem_cons.1 hvs
    obtain ⟨hfirst, hdiffer⟩ := List.pairwise_cons.1 hdiffer
    rcases h.add_effect hc hv with ⟨hheld, hadd⟩ | ⟨hnew, low, high, hitems, hadd⟩
    · obtain ⟨s', hs', hsorted, hperm⟩ := ih h hvs hdiffer
      rw [addAll, hadd, List.filter_cons_of_neg (by simp [hheld])]
      exact ⟨s', hs', hsorted, hperm⟩
    · obtain ⟨s', hs', hsorted, hperm⟩ := ih (h.add hc.consistentOn hv hadd) hvs hdiffer
      rw [addAll, hadd, List.filter_cons_of_pos (by simp [hnew])]
      refine ⟨s', hs', hsorted, hperm.trans ?_⟩
      -- what differs from the new element is there if it was there before
      have hgrown : (low ++ v :: high).Perm (v :: s.items) := hitems ▸ List.perm_middle
      have hfilter : (vs.filter fun w => !c.compare.among (low ++ v :: high) w)
          = vs.filter fun w => !c.compare.among s.items w := by
        refine List.filter_congr fun w hw => ?_
        rw [Comparison.among, hgrown.any_eq, List.any_cons, hfirst w hw]
        rfl
      dsimp only
      rw [hfilter]
      exact (hgrown.append_right _).trans List.perm_middle.symm

end Sorted

/-- The values of a slot are in order. -/
theorem sorted_slot {keys : Comparator} {m : Multimap} (h : m.ValuesOrdered keys c D)
    {t : Slot OrderedSet} (ht : t ∈ m.map.slots) : Sorted c D t.value :=
  ⟨(h.slots t ht).comparator, h.value_mem t ht, h.ascends t ht⟩

/-- Whatever changes led to a set, it is in order. -/
theorem Reached.sorted (h : Reached c D s) (hc : c.compare.ConsistentOn D) : Sorted c D s := by
  induction h with
  | empty => exact .empty c D
  | changed change _ hadds ih => exact ih.afterSet hc hadds
  | @takenOut keys K m k s hm hresult =>
    have hvalues := hm.valuesOrdered hc
    have hstep := Multimap.removeAll_step m k
    generalize m.removeAll k = o at hstep hresult
    cases hstep with
    | failed => cases hresult
    | keyless =>
      cases hresult
      rw [hvalues.valueComparator]
      exact .empty c D
    | removed hslots _ =>
      cases hresult
      exact sorted_slot hvalues (mem_of_parted hslots)

end OrderedSet

end Collation
