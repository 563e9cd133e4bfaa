/-
Adding to an ordered set and assigning to an ordered map. Both look the
element up, and if it is absent search a second time, for the place where
it goes. The second search puts the operands the other way round and may
ask about other elements than the first one, so under a comparator that
refuses pairs it could fail where the first one did not.

It does not (`Bisect.placed_of_absent`). The first search has asked about
the elements on either side of the place where it stopped, and in an
ascending list these speak for all others (`Bisect.bounds_of_absent`). So
an addition goes as its look-up does (`OrderedSet.AddsAsFound`), and so does
an assignment (`OrderedMap.SetsAsFound`): what is found compares zero, what
is absent goes to the very place where it was sought, and the only errors
are those of the look-up, before anything is changed.
-/
import Collation.Proofs.Maps.Refinement
import Collation.Proofs.Session.Assigning

namespace Collation

-- ================================================================ lists

namespace Bisect

variable {α : Type} {c : Comparison} {key : α → Value} {xs : List α} {a : α}

/-- The place of an absent element in an ascending list: a look-up stops
there, an insertion puts the element there, and the list still ascends. -/
structure Placed (c : Comparison) (key : α → Value) (xs : List α) (a : α) (i : Nat) : Prop where
  le_length : i ≤ xs.length
  sought : lowerBound c key xs (key a) = .ok i
  found : upperBound c key xs (key a) = .ok i
  inserted : insert c key xs a = .ok (xs.insertIdx i a)
  ascends : Ascends c key (xs.insertIdx i a)

/-- What is not found has a place of its own. -/
private theorem placed_of_absent {D : Value → Prop} (hc : c.ConsistentOn D)
    (hxs : ∀ y ∈ xs, D (key y))
    (ha : D (key a)) (hasc : Ascends c key xs) (h : find c key xs (key a) = .ok none) :
    ∃ i, Placed c key xs a i := by
  obtain ⟨i, hi, hlower, hupper, hbelow, habove⟩ := bounds_of_absent hc hxs ha hasc h
  refine ⟨i, hi, hlower, hupper, ?_, ?_⟩
  · rw [insert, hupper]
    rfl
  · rw [← List.take_append_drop i xs] at hasc
    rw [insertIdx_eq hi]
    exact hasc.insert hbelow habove

end Bisect

open Bisect (Placed)

-- ================================================================= sets

namespace OrderedSet

variable {c : Comparator} {D : Value → Prop} {s : OrderedSet} {v : Value} {e : Fault}

/-- What adding a value comes to, told by the look-up for it. -/
def AddsAsFound (s : OrderedSet) (v : Value) : Except Fault (Option Nat) → Prop
  | .ok (some i) =>
    (∃ w, s.items[i]? = some w ∧ s.comparator.compare.Gives w v .eq) ∧ s.add v = .ok (s, false)
  | .ok none =>
    ∃ i, Placed s.comparator.compare id s.items v i
      ∧ s.add v = .ok ({ s with items := s.items.insertIdx i v }, true)
  | .error e => s.add v = .error e

private theorem add_of_find_error (h : s.find v = .error e) : s.add v = .error e := by
  rw [add, h]

/-- Adding does what the search has found: nothing, a new place, or the
failure. -/
private theorem Sorted.adds_as_found (h : Sorted c D s) (hc : c.compare.ConsistentOn D) (hv : D v) :
    s.AddsAsFound v (s.find v) := by
  obtain ⟨rfl, hmem, hasc⟩ := h
  cases hfind : s.find v with
  | error e => exact add_of_find_error hfind
  | ok place =>
    cases place with
    | some i =>
      refine ⟨Bisect.find_some hfind, ?_⟩
      rw [OrderedSet.add, hfind]
    | none =>
      obtain ⟨i, hplaced⟩ : ∃ i, Placed s.comparator.compare id s.items v i :=
        Bisect.placed_of_absent hc hmem hv hasc hfind
      refine ⟨i, hplaced, ?_⟩
      rw [OrderedSet.add, hfind]
      dsimp only
      rw [hplaced.inserted]
      rfl

end OrderedSet

-- ================================================================= maps

namespace OrderedMap

variable {β : Type} {c : Comparator} {D : Value → Prop} {m : OrderedMap β} {k : Value} {e : Fault}

/-- What assigning to a key comes to, told by the look-up for it. -/
def SetsAsFound (m : OrderedMap β) (k : Value) (v : β) : Except Fault (Option Nat) → Prop
  | .ok (some i) =>
    (∃ s, m.slots[i]? = some s ∧ m.comparator.compare.Gives s.key k .eq)
      ∧ m.set k v = .ok (m.setAt i v) ∧ (m.setAt i v).keys = m.keys
  | .ok none =>
    ∃ i, Placed m.comparator.compare Slot.key m.slots ⟨k, v⟩ i
      ∧ m.set k v = .ok { m with slots := m.slots.insertIdx i ⟨k, v⟩ }
  | .error e => m.set k v = .error e

/-- Assigning fails if the search does. -/
private theorem set_of_find_error (h : m.find k = .error e) (v : β) : m.set k v = .error e := by
  rw [set, h]

/-- Assigning does what the search has found: the slot, a new place, or the
failure. -/
private theorem Sorted.sets_as_found (h : Sorted c D m) (hc : c.compare.ConsistentOn D) (hk : D k)
    (v : β) : m.SetsAsFound k v (m.find k) := by
  have hmem : ∀ s ∈ m.slots, D s.key := h.slot_mem
  have hasc : Bisect.Ascends c.compare Slot.key m.slots := h.slots_ascend
  obtain rfl : m.comparator = c := h.comparator
  -- a failed search, the slot that is there, or the place of a new one
  cases hfind : m.find k with
  | error e => exact set_of_find_error hfind v
  | ok place =>
    cases place with
    | some i =>
      refine ⟨Bisect.find_some hfind, ?_, congrArg OrderedSet.items (keySet_setAt i)⟩
      rw [OrderedMap.set, hfind]
    | none =>
      obtain ⟨i, hplaced⟩ := Bisect.placed_of_absent (a := Slot.mk k v) hc hmem hk hasc hfind
      refine ⟨i, hplaced, ?_⟩
      rw [OrderedMap.set, hfind]
      dsimp only
      rw [hplaced.inserted]
      rfl

end OrderedMap

-- ============================================================ sessions

namespace Session

open Collation.Action

variable {t : Session} {r x : Ref} {s : OrderedSet} {m : OrderedMap Value} {k v : Value}
  {e : Fault}

/-- A change of a set that fails changes nothing. -/
theorem runOn_changeSet_error {α : Type} {change : OrderedSet → Except Fault (OrderedSet × α)}
    (hs : t.things[r]? = some (.orderedSet s)) (h : change s = .error e) :
    (changeSet r change).runOn t = (.error e, t) := by
  have hset : (Action.orderedSet r).runOn t = (.ok s, t) := by
    unfold Action.orderedSet
    rw [runOn_bind_ok (runOn_thing_of hs)]
    rfl
  unfold changeSet
  rw [runOn_bind_ok hset, h]
  exact runOn_bind_error (runOn_ofExcept _)

/-- A value whose look-up fails is not added. -/
theorem runOn_add_refused (hs : t.things[r]? = some (.orderedSet s))
    (hx : (value x).runOn t = (.ok v, t)) (h : s.find v = .error e) :
    (callOn r "add" ⟨[x], []⟩).runOn t = (.error e, t) := by
  have hcall : (callOn r "add" ⟨[x], []⟩).runOn t
      = (do
          let v ← value x
          changeSet r (·.add v) >>= answerFlag).runOn t := by
    unfold callOn
    rw [runOn_bind_ok (runOn_thing_of hs)]
    rfl
  rw [hcall, runOn_bind_ok hx]
  exact runOn_bind_error (runOn_changeSet_error hs (OrderedSet.add_of_find_error h))

/-- Nor is anything assigned to a key whose look-up fails. -/
theorem runOn_setItem_refused (hm : t.Keeps r m) (h : m.find k = .error e) :
    (setItem r k v).runOn t = (.error e, t) := by
  unfold setItem
  rw [runOn_bind_ok (runOn_thing_of hm)]
  dsimp only
  rw [runOn_changeMap hm, OrderedMap.set_of_find_error h]
  rfl

end Session

-- ============================================================ the calls

open Session (callOn setItem)

/-- Under a comparator that is consistent but may refuse pairs, adding to a
set in order and assigning to a map in order go as the look-up they start
with. In a session a look-up that fails leaves everything as it is, whatever
the comparator. -/
theorem placed_where_sought {c : Comparator} {D : Value → Prop} (hc : c.compare.ConsistentOn D) :
    (∀ (s : OrderedSet) (v : Value), s.Sorted c D → D v → s.AddsAsFound v (s.find v))
      ∧ (∀ (β : Type) (m : OrderedMap β) (k : Value) (v : β), OrderedMap.Sorted c D m → D k →
        m.SetsAsFound k v (m.find k))
      ∧ ∀ (t : Session) (r : Ref) (e : Fault),
        (∀ (s : OrderedSet) (x : Ref) (v : Value), t.things[r]? = some (.orderedSet s) →
          (Action.value x).runOn t = (.ok v, t) → s.find v = .error e →
          (callOn r "add" ⟨[x], []⟩).runOn t = (.error e, t))
        ∧ ∀ (m : OrderedMap Value) (k v : Value), t.Keeps r m → m.find k = .error e →
          (setItem r k v).runOn t = (.error e, t) := by
  refine ⟨fun s v hs hv => hs.adds_as_found hc hv, fun β m k v hm hk => ?_, fun t r e => ⟨?_, ?_⟩⟩
  · exact hm.sets_as_found hc hk v
  · exact fun s x v hs hx h => Session.runOn_add_refused hs hx h
  · exact fun m k v hm h => Session.runOn_setItem_refused hm h

/-- Texts by their case fold: one that is there under another spelling, one
that goes in between, and a number, which is refused. -/
theorem placed_where_sought_caseFold :
    let s : OrderedSet := ⟨.caseFold, [.text "a", .text "C"]⟩
    let m : OrderedMap Value := ⟨.caseFold, [⟨.text "a", .int 1⟩, ⟨.text "C", .int 2⟩]⟩
    let probes : List Value := [.text "c", .text "B", .int 7]
    let t : Session :=
      { things := #[.orderedSet s, .orderedMap m, .plain (.int 7)], names := [], settings := {} }
    Comparator.caseFold.compare.Consistent ∧ s.Sorted .caseFold (fun _ => True)
      ∧ OrderedMap.Sorted .caseFold (fun _ => True) m
      ∧ probes.map (fun v => (s.find v).toOption) = [some (some 1), some none, none]
      ∧ probes.map (fun v => (m.find v).toOption) = [some (some 1), some none, none]
      ∧ (∀ v ∈ probes, s.AddsAsFound v (s.find v) ∧ m.SetsAsFound v .null (m.find v))
      ∧ ∃ e, (callOn 0 "add" ⟨[2], []⟩).runOn t = (.error e, t)
        ∧ (setItem 1 (.int 7) .null).runOn t = (.error e, t) := by
  intro s m probes t
  have hlt : Comparator.caseFold.compare.Gives (.text "a") (.text "C") .lt := by decide +kernel
  have hs : s.Sorted .caseFold (fun _ => True) :=
    ⟨rfl, fun _ _ => trivial, List.pairwise_pair.2 hlt⟩
  have hm : OrderedMap.Sorted .caseFold (fun _ => True) m :=
    ⟨rfl, fun _ _ => trivial, List.pairwise_pair.2 hlt⟩
  obtain ⟨hset, hmap, hrefused⟩ := placed_where_sought Comparator.caseFold_consistent
  have hadd := (hrefused t 0 (.notFoldable "int")).1 s 2 (.int 7) rfl rfl rfl
  have hassign := (hrefused t 1 (.notFoldable "int")).2 m (.int 7) .null rfl rfl
  refine ⟨Comparator.caseFold_consistent, hs, hm, by decide +kernel, by decide +kernel, ?_,
    _, hadd, hassign⟩
  exact fun v _ => ⟨hset s v hs trivial, hmap Value m v .null hm trivial⟩

end Collation
