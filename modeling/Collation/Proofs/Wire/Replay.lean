/-
Replaying the slots of a document. The comparisons made are not those by
which the document's multimap came about: there keys came in any order,
here each key is greater than all that are in already, and so are the
values of a slot. If the comparators say so of each pair (`Replayable`),
no question is refused and nothing collapses: the replay makes the slots
of the document and no others (`replay_last`).
-/
import Collation.Proofs.Multimap.Order
import Collation.Proofs.Wire.Parsing

namespace Collation

/-- What follows an operation that succeeded. -/
theorem Outcome.done_andThen {σ α β : Type} (s : σ) (a : α) (events : List Event)
    (f : σ → α → Outcome σ β) :
    (done s a events).andThen f = ⟨(f s a).state, (f s a).result, events ++ (f s a).events⟩ := rfl

/-- The first value is below the second, whichever is asked about first. -/
def Comparison.Below (c : Comparison) (a b : Value) : Prop := c.Gives a b .lt ∧ c.Gives b a .gt

/-- A value above all others goes to the end of a set. -/
theorem OrderedSet.add_last {c : Comparator} {vs : List Value} {v : Value}
    (h : ∀ w ∈ vs, c.compare.Below w v) : add ⟨c, vs⟩ v = .ok (⟨c, vs ++ [v]⟩, true) := by
  have hnone : find ⟨c, vs⟩ v = .ok none := Bisect.find_of_below fun w hw => (h w hw).1
  have hinsert : Bisect.insert c.compare id vs v = .ok (vs ++ [v]) :=
    Bisect.insert_of_below fun w hw => (h w hw).2
  rw [add, hnone]
  dsimp only
  rw [hinsert]
  rfl

namespace Multimap

variable {m : Multimap} {k v : Value}

-- ========================================================== putting last

/-- A key that is equivalent to itself is accepted even if it is null. -/
theorem checkEntry_of_itself (hk : m.keyComparator.compare.Gives k k .eq)
    (hv : v = .null → m.valueComparator.AcceptsNull) : m.checkEntry k v = .ok () := by
  refine checkEntry_eq_ok ?_ hv
  rintro rfl
  obtain ⟨r, hr, -⟩ := hk
  exact ⟨r, hr⟩

/-- The multimap with one more slot at the end. -/
def withLast (m : Multimap) (k : Value) (vs : List Value) (total : Nat) : Multimap :=
  m.holding (m.map.slots ++ [⟨k, ⟨m.valueComparator, vs⟩⟩]) total

/-- The multimap with the slot of a key between others. -/
def withSlot (m : Multimap) (before : List (Slot OrderedSet)) (k : Value) (vs : List Value)
    (after : List (Slot OrderedSet)) (total : Nat) : Multimap :=
  m.holding (before ++ ⟨k, ⟨m.valueComparator, vs⟩⟩ :: after) total

variable {before after : List (Slot OrderedSet)}

/-- A value above all others goes to the end of the slot of its key. -/
theorem put_last_value {vs : List Value} {total : Nat}
    (hcheck : (m.withSlot before k vs after total).checkEntry k v = .ok ())
    (hbefore : ∀ t ∈ before, m.keyComparator.compare.Gives t.key k .lt)
    (hkey : m.keyComparator.compare.Gives k k .eq)
    (hafter : ∀ t ∈ after, m.keyComparator.compare.Gives t.key k .gt)
    (hvalues : ∀ w ∈ vs, m.valueComparator.compare.Below w v) :
    (m.withSlot before k vs after total).put k v
      = .done (m.withSlot before k (vs ++ [v]) after (total + 1)) true := by
  have hfind : (m.withSlot before k vs after total).map.find k = .ok (some before.length) :=
    Bisect.find_of_parted hbefore hkey hafter
  have hslots : (m.withSlot before k vs after total).map.slots
      = before ++ ⟨k, ⟨m.valueComparator, vs⟩⟩ :: after := rfl
  rw [put_of_find_some hcheck hslots hfind, OrderedSet.add_last hvalues]
  rfl

end Multimap

namespace Wire

open Multimap

variable {keys values : Comparator} {m : Multimap} {k : Value}

-- ================================================== what replaying keeps

section Kept

variable {P : Multimap → Prop}

/-- What each put keeps, the puts of a slot keep. -/
private theorem putCounting_kept {vs : List Value}
    (hput : ∀ v ∈ vs, ∀ m : Multimap, P m → P (m.put k v).state) (h : P m) :
    P (putCounting m k vs).state := by
  induction vs generalizing m with
  | nil => exact h
  | cons v vs ih =>
    obtain ⟨hv, hvs⟩ := List.forall_mem_cons.1 hput
    exact Outcome.state_andThen (hv m h) fun _ => ih hvs (hv m h)

/-- Replaying slots keeps whatever putting their values keeps. -/
theorem replay_kept {slots : List SlotRecord}
    (hput : ∀ s ∈ slots, ∀ v ∈ s.values, ∀ m : Multimap, P m → P (m.put s.key v).state) (h : P m) :
    P (replay m slots).state := by
  induction slots generalizing m with
  | nil => exact h
  | cons s slots ih =>
    obtain ⟨hs, hslots⟩ := List.forall_mem_cons.1 hput
    have hslot : P (replaySlot m s).state :=
      Outcome.state_andThen (putCounting_kept hs h) fun _ => putCounting_kept hs h
    exact Outcome.state_andThen hslot fun _ => ih hslots hslot

end Kept

/-- A document is built by its comparators, slot by slot. -/
theorem Document.toMultimap_eq_ok {registry : Registry} {d : Document} :
    (d.toMultimap registry).result = .ok m ↔
      ∃ keys values, d.comparators registry = .ok (keys, values)
        ∧ (replay (.empty keys values) d.slots).result = .ok ()
        ∧ (replay (.empty keys values) d.slots).state = m := by
  unfold toMultimap
  cases d.comparators registry with
  | error e => exact iff_of_false (fun h => nomatch h) fun ⟨_, _, h, _⟩ => nomatch h
  | ok named =>
    obtain ⟨keys, values⟩ := named
    dsimp only [Except.mapError]
    rw [map_eq_ok]
    constructor
    · rintro ⟨u, hu, rfl⟩
      exact ⟨keys, values, rfl, hu, rfl⟩
    · rintro ⟨_, _, ⟨⟩, hu, rfl⟩
      exact ⟨(), hu, rfl⟩

-- ============================================================== one slot

/-- The slot that a record describes. -/
def SlotRecord.toSlot (values : Comparator) (s : SlotRecord) : Slot OrderedSet :=
  ⟨s.key, ⟨values, s.values⟩⟩

/-- A record that can be replayed: its key is equivalent to itself, each of
its values is below every later one, and null is among them only where it
is accepted. -/
structure SlotReplayable (keys values : Comparator) (s : SlotRecord) : Prop where
  key_itself : keys.compare.Gives s.key s.key .eq
  ascends : s.values.Pairwise values.compare.Below
  counted : s.Counted
  nullValue : .null ∈ s.values → values.AcceptsNull

section Slot

variable {before after : List (Slot OrderedSet)}
  (hbefore : ∀ t ∈ before, m.keyComparator.compare.Gives t.key k .lt)
  (hkey : m.keyComparator.compare.Gives k k .eq)
  (hafter : ∀ t ∈ after, m.keyComparator.compare.Gives t.key k .gt)

include hbefore hkey hafter

/-- The values after the first ones are put at the end one by one. -/
theorem putCounting_last (vs : List Value) :
    ∀ (low : List Value) (total : Nat), (low ++ vs).Pairwise m.valueComparator.compare.Below →
      (.null ∈ vs → m.valueComparator.AcceptsNull) →
      putCounting (m.withSlot before k low after total) k vs
        = .done (m.withSlot before k (low ++ vs) after (total + vs.length)) vs.length := by
  induction vs with
  | nil =>
    intro low total _ _
    rw [List.append_nil]
    rfl
  | cons v vs ih =>
    intro low total hasc hnull
    have hcheck : (m.withSlot before k low after total).checkEntry k v = .ok () :=
      checkEntry_of_itself hkey fun hv => hnull (hv ▸ List.mem_cons_self)
    have hput := put_last_value hcheck hbefore hkey hafter
      fun w hw => (List.pairwise_append.1 hasc).2.2 w hw v List.mem_cons_self
    rw [List.append_cons] at hasc
    have hmore := ih (low ++ [v]) (total + 1) hasc fun h => hnull (List.mem_cons_of_mem v h)
    have htotal : total + 1 + vs.length = total + (v :: vs).length := by
      rw [List.length_cons]
      omega
    have hcount : (v :: vs).length = 1 + vs.length := Nat.add_comm _ _
    rw [putCounting, hput, Outcome.done_andThen, hmore, htotal, ← List.append_cons, hcount]
    rfl

/-- The values of a slot whose key is a new one: the first of them makes the
slot. -/
theorem putCounting_new {vs : List Value} (hne : vs ≠ [])
    (hasc : vs.Pairwise m.valueComparator.compare.Below)
    (hnull : .null ∈ vs → m.valueComparator.AcceptsNull) (hnone : m.map.find k = .ok none)
    (hinsert : ∀ set, Bisect.insert m.keyComparator.compare Slot.key m.map.slots ⟨k, set⟩
      = .ok (before ++ ⟨k, set⟩ :: after)) :
    putCounting m k vs
      = .done (m.withSlot before k vs after (m.total + vs.length)) vs.length [.slotCreated k] := by
  obtain ⟨v, vs, rfl⟩ := List.exists_cons_of_ne_nil hne
  have hcheck : m.checkEntry k v = .ok () :=
    checkEntry_of_itself hkey fun hv => hnull (hv ▸ List.mem_cons_self)
  have hput : m.put k v
      = .done (m.withSlot before k [v] after (m.total + 1)) true [.slotCreated k] := by
    rw [put_of_find_none hcheck hnone, hinsert]
    rfl
  have hmore := putCounting_last hbefore hkey hafter vs [v] (m.total + 1) hasc
    fun h => hnull (List.mem_cons_of_mem v h)
  have htotal : m.total + 1 + vs.length = m.total + (v :: vs).length := by
    rw [List.length_cons]
    omega
  have hcount : (v :: vs).length = 1 + vs.length := Nat.add_comm _ _
  rw [putCounting, hput, Outcome.done_andThen, hmore, htotal, hcount]
  rfl

end Slot

/-- A slot whose key is above all others is replayed as it is. -/
theorem replaySlot_last {s : SlotRecord} (hs : SlotReplayable m.keyComparator m.valueComparator s)
    (hbelow : ∀ t ∈ m.map.slots, m.keyComparator.compare.Below t.key s.key) :
    replaySlot m s = .done (m.withLast s.key s.values (m.total + s.values.length)) ()
      [.slotCreated s.key] := by
  have hne : s.values ≠ [] := by
    intro hnil
    obtain ⟨hleast, hlength⟩ := hs.counted
    rw [hnil, List.length_nil] at hlength
    omega
  have hnone : m.map.find s.key = .ok none := Bisect.find_of_below fun t ht => (hbelow t ht).1
  have hput := putCounting_new (fun t ht => (hbelow t ht).1) hs.key_itself
    (fun t ht => absurd ht List.not_mem_nil) hne hs.ascends hs.nullValue hnone
    fun _ => Bisect.insert_of_below fun t ht => (hbelow t ht).2
  rw [replaySlot, hput]
  have hall : ¬(s.values.length : Int) < s.valueCount := by
    rw [hs.counted.2]
    exact Int.lt_irrefl _
  unfold Outcome.mapFault Outcome.andThen Outcome.done
  dsimp only [Except.mapError]
  rw [if_neg hall]
  rfl

-- ============================================================= all slots

/-- Records that can be replayed, each key below every later one. -/
structure Replayable (keys values : Comparator) (slots : List SlotRecord) : Prop where
  slot : ∀ s ∈ slots, SlotReplayable keys values s
  ascends : slots.Pairwise fun s t => keys.compare.Below s.key t.key

/-- The multimap with the slots that some records describe at the end. -/
def withAll (m : Multimap) (slots : List SlotRecord) : Multimap :=
  m.holding (m.map.slots ++ slots.map (SlotRecord.toSlot m.valueComparator))
    (m.total + (slots.map fun s => s.values.length).sum)

/-- The replay makes the slots that the records describe, and reports
nothing but that. -/
theorem replay_last (slots : List SlotRecord) : ∀ m : Multimap,
    Replayable m.keyComparator m.valueComparator slots →
    (∀ t ∈ m.map.slots, ∀ s ∈ slots, m.keyComparator.compare.Below t.key s.key) →
    replay m slots = .done (withAll m slots) () (slots.map fun s => .slotCreated s.key) := by
  induction slots with
  | nil =>
    intro m _ _
    have hnone : withAll m [] = m := by
      unfold withAll
      rw [List.map_nil, List.append_nil]
      rfl
    rw [hnone]
    rfl
  | cons s slots ih =>
    intro m hslots hbelow
    obtain ⟨hslot, hasc⟩ := hslots
    rw [List.forall_mem_cons] at hslot
    rw [List.pairwise_cons] at hasc
    have hfirst := replaySlot_last hslot.1 fun t ht => hbelow t ht s List.mem_cons_self
    have hrest := ih (m.withLast s.key s.values (m.total + s.values.length)) ⟨hslot.2, hasc.2⟩ <| by
      intro t ht r hr
      rcases List.mem_append.1 ht with ht | ht
      · exact hbelow t ht r (List.mem_cons_of_mem s hr)
      · obtain rfl := List.mem_singleton.1 ht
        exact hasc.1 r hr
    have hall : withAll (m.withLast s.key s.values (m.total + s.values.length)) slots
        = withAll m (s :: slots) := by
      simp [withAll, withLast, SlotRecord.toSlot, holding, Nat.add_assoc]
    rw [replay, hfirst, Outcome.done_andThen, hrest, hall]
    rfl

end Wire

namespace Multimap

open Wire

variable {registry : Registry} {verify : Bool} {data : Value} {d : Document}

/-- Decoding is building what was parsed. -/
theorem decode_result (hparse : Document.parse verify data = .ok d) :
    (decode registry verify data).result = (d.toMultimap registry).result := by
  unfold decode
  rw [hparse]
  dsimp only
  unfold Outcome.andThen
  cases (d.toMultimap registry).result with
  | error e => rfl
  | ok m => rfl

/-- Decoding is parsing and building. -/
theorem decode_eq_ok {m : Multimap} :
    (decode registry verify data).result = .ok m ↔
      ∃ d, Document.parse verify data = .ok d ∧ (d.toMultimap registry).result = .ok m := by
  cases hparse : Document.parse verify data with
  | error e =>
    unfold decode
    rw [hparse]
    exact iff_of_false (fun h => nomatch h) fun ⟨_, h, _⟩ => nomatch h
  | ok d =>
    rw [decode_result hparse]
    exact ⟨fun h => ⟨d, rfl, h⟩, fun ⟨_, heq, h⟩ => Except.ok.inj heq ▸ h⟩

end Multimap

end Collation
