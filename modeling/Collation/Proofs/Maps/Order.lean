/-
Ordered maps in the course of time. A map starts empty and goes on by
changes of its own, of which one that fails leaves the map as it was; to
take in the entries of another map is to assign them one by one.

A map is ordered by its keys, and its keys are a set
(`OrderedMap.keySet`). To that set an assignment adds the key, if it is a
new one (`keySet_set`), and every other change leaves keys out or leaves
them alone. So a map is in order as sets are (`Reached.sorted`).
-/
import Collation.Proofs.Navigation
import Collation.Proofs.Sets.Order

namespace Collation.OrderedMap

-- ============================================================ histories

/-- A change of a map of its own. -/
inductive Change (β : Type) where
  | set (k : Value) (v : β)
  | erase (k : Value)
  /-- Taking a key out, which may be absent if there is a default. -/
  | pop (k : Value) (withDefault : Bool)
  | popItem
  | setDefault (k : Value) (v : β)
  | clear

variable {β : Type}

/-- What a change leaves behind, also if it fails. -/
def Change.after (m : OrderedMap β) : Change β → OrderedMap β
  | set k v => (Outcome.ofExcept m ((m.set k v).map fun m' => (m', ()))).state
  | erase k => (Outcome.ofExcept m ((m.erase k).map fun m' => (m', ()))).state
  | pop k true => (Outcome.ofExcept m (m.pop? k)).state
  | pop k false => (Outcome.ofExcept m (m.pop k)).state
  | popItem => (Outcome.ofExcept m m.popItem).state
  | setDefault k v => (Outcome.ofExcept m (m.setDefault k v)).state
  | clear => m.clear

/-- The key that the change may assign to is of the domain. -/
def Change.Assigns (D : Value → Prop) : Change β → Prop
  | set k _ | setDefault k _ => D k
  | _ => True

/-- The maps that come about by assigning to keys of a domain. -/
inductive Reached (c : Comparator) (D : Value → Prop) : OrderedMap β → Prop where
  | empty : Reached c D (.empty c)
  | changed {m : OrderedMap β} (change : Change β) : Reached c D m → change.Assigns D →
    Reached c D (change.after m)

-- ============================================================= the keys

variable {c : Comparator} {D : Value → Prop} {m m' : OrderedMap β} {k : Value} {v : β}

private theorem find_keySet : m.keySet.find k = m.find k := Bisect.find_map ..

/-- Another value in a slot leaves the keys as they are. -/
theorem keySet_setAt (i : Nat) : (m.setAt i v).keySet = m.keySet := by
  have hkeys : (m.setAt i v).keys = m.keys := by
    apply List.ext_getElem?
    intro j
    simp only [keys, setAt, List.getElem?_map, List.getElem?_modify]
    cases m.slots[j]? with
    | none => rfl
    | some s => by_cases hij : i = j <;> simp [hij]
  exact congrArg (OrderedSet.mk m.comparator) hkeys

/-- An assignment replaces a value, or it adds its key. -/
theorem keySet_set (h : m.set k v = .ok m') :
    m'.keySet = m.keySet ∨ m.keySet.add k = .ok (m'.keySet, true) := by
  unfold set at h
  split at h
  · cases h
  · cases h
    exact .inl (keySet_setAt _)
  · next hnone =>
    obtain ⟨slots, hslots, rfl⟩ := map_eq_ok.1 h
    right
    have hkeys : Bisect.insert m.comparator.compare id m.keys k = .ok (slots.map Slot.key) := by
      show Bisect.insert m.comparator.compare id (m.slots.map Slot.key) (Slot.mk k v).key = _
      rw [Bisect.insert_map, hslots]
      rfl
    unfold OrderedSet.add
    rw [find_keySet, hnone]
    show (Bisect.insert m.comparator.compare id m.keys k).map _ = _
    rw [hkeys]
    rfl

/-- Erasing leaves a key out. -/
theorem keySet_erase (h : m.erase k = .ok m') :
    ∃ rest, rest.Sublist m.keys ∧ m'.keySet = { m.keySet with items := rest } := by
  unfold erase at h
  split at h
  · cases h
  · next i _ =>
    cases h
    exact ⟨_, (m.slots.eraseIdx_sublist i).map Slot.key, rfl⟩
  · cases h

-- ============================================================ the order

/-- A map in order: its keys are of the domain, and they ascend. -/
abbrev Sorted (c : Comparator) (D : Value → Prop) (m : OrderedMap β) : Prop := m.keySet.Sorted c D

namespace Sorted

/-- Nothing is out of order in an empty map. -/
theorem empty (c : Comparator) (D : Value → Prop) : Sorted c D (.empty c : OrderedMap β) :=
  OrderedSet.Sorted.empty c D

/-- An assignment keeps the order of the keys. -/
theorem set (h : Sorted c D m) (hc : c.compare.ConsistentOn D) (hk : D k)
    (hset : m.set k v = .ok m') : Sorted c D m' := by
  rcases keySet_set hset with hsame | hadd
  · unfold Sorted
    rw [hsame]
    exact h
  · exact h.add hc hk hadd

/-- So does a deletion. -/
theorem erase (h : Sorted c D m) (herase : m.erase k = .ok m') : Sorted c D m' := by
  obtain ⟨rest, hsub, hrest⟩ := keySet_erase herase
  unfold Sorted
  rw [hrest]
  exact h.sublist hsub

private theorem pop (h : Sorted c D m) (hpop : m.pop k = .ok (m', v)) : Sorted c D m' := by
  obtain ⟨_, -, hrest⟩ := bind_eq_ok.1 hpop
  obtain ⟨rest, herase, heq⟩ := bind_eq_ok.1 hrest
  cases heq
  exact h.erase herase

private theorem pop? {found : Option β} (h : Sorted c D m) (hpop : m.pop? k = .ok (m', found)) :
    Sorted c D m' := by
  unfold OrderedMap.pop? at hpop
  split at hpop
  · cases hpop
  · cases hpop
    exact h
  · obtain ⟨rest, herase, heq⟩ := map_eq_ok.1 hpop
    cases heq
    exact h.erase herase

private theorem popItem {item : Value × β} (h : Sorted c D m) (hpop : m.popItem = .ok (m', item)) :
    Sorted c D m' := by
  unfold OrderedMap.popItem at hpop
  split at hpop
  · cases hpop
  · obtain ⟨rest, hrest, heq⟩ := map_eq_ok.1 hpop
    cases heq
    exact h.pop hrest

private theorem setDefault {found : β} (h : Sorted c D m) (hc : c.compare.ConsistentOn D) (hk : D k)
    (hset : m.setDefault k v = .ok (m', found)) : Sorted c D m' := by
  unfold OrderedMap.setDefault at hset
  split at hset
  · cases hset
  · cases hset
    exact h
  · obtain ⟨rest, hrest, heq⟩ := map_eq_ok.1 hset
    cases heq
    exact h.set hc hk hrest

private theorem clear (h : Sorted c D m) : Sorted c D m.clear := by
  have hcomparator : m.comparator = c := h.comparator
  unfold OrderedMap.clear
  rw [hcomparator]
  exact .empty c D

/-- No change that assigns to keys of the domain breaks the order. -/
theorem after (h : Sorted c D m) (hc : c.compare.ConsistentOn D) {change : Change β}
    (hassigns : change.Assigns D) : Sorted c D (change.after m) := by
  cases change with
  | set k v => exact Outcome.state_ofExcept_map h fun m' hset => h.set hc hassigns hset
  | erase k => exact Outcome.state_ofExcept_map h fun m' herase => h.erase herase
  | pop k withDefault =>
    cases withDefault with
    | true => exact Outcome.state_ofExcept h fun m' a hpop => h.pop? hpop
    | false => exact Outcome.state_ofExcept h fun m' a hpop => h.pop hpop
  | popItem => exact Outcome.state_ofExcept h fun m' a hpop => h.popItem hpop
  | setDefault k v => exact Outcome.state_ofExcept h fun m' a hset => h.setDefault hc hassigns hset
  | clear => exact h.clear

end Sorted

/-- Whatever changes led to a map, its keys are in order. -/
theorem Reached.sorted (h : Reached c D m) (hc : c.compare.ConsistentOn D) : Sorted c D m := by
  induction h with
  | empty => exact .empty c D
  | changed change _ hassigns ih => exact ih.after hc hassigns

end Collation.OrderedMap
