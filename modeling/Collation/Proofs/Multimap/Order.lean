/-
The order of a multimap under comparators that do not contradict
themselves, though they may refuse pairs. Each key is below every later
one, and so is each value of a slot: not by what was compared when it came
in, which is a few pairs only, but by transitivity from the two neighbours
that every insertion asks about (`Bisect.absent_parted`).

The invariant is relative to a domain of keys and one of values. A
comparator need be consistent only on what is stored and what is put; what
is taken out may be anything, for of what is left nothing is out of order
(`Shrunk`). The order of keys and the one of values are kept each for
itself (`put_keys_ascend`, `put_values_ascend`). So there are several
invariants: `Ordered` of both sides, `KeysOrdered` and `ValuesOrdered` of
one, whatever is on the other, and `Arranged`, which promises the order only
of what turns out to be of the domains, so that anything may be put.
-/
import Collation.Proofs.Multimap.Integrity

namespace Collation.Multimap

open Bisect (Ascends)

variable {keys values : Comparator} {K V : Value → Prop} {m n : Multimap} {s : Slot OrderedSet}
  {k v w : Value} {low high : List Value} {before after : List (Slot OrderedSet)}

-- ============================================================= one slot

/-- A slot in order: its key and its values are of the domains, and its
values ascend. -/
structure SlotOrdered (values : Comparator) (K V : Value → Prop) (s : Slot OrderedSet) : Prop where
  key_mem : K s.key
  value_mem : ∀ v ∈ s.value.items, V v
  ascends : Ascends values.compare id s.value.items

-- ============================================================ all slots

/-- Slots ascend with their keys. -/
theorem ascends_of_keys {c : Comparison} {slots slots' : List (Slot OrderedSet)}
    (h : Ascends c Slot.key slots) (hsub : (slots'.map Slot.key).Sublist (slots.map Slot.key)) :
    Ascends c Slot.key slots' := by
  unfold Ascends at h ⊢
  rw [← List.pairwise_map (R := fun a b => c.Gives a b .lt)] at h ⊢
  exact h.sublist hsub

/-- A put leaves the comparator of the keys. -/
private theorem put_keyComparator (m : Multimap) (k v : Value) :
    (m.put k v).state.keyComparator = m.keyComparator := by
  have hstep := put_step m k v
  generalize m.put k v = o at hstep ⊢
  cases hstep with
  | failed => rfl
  | present => rfl
  | grown => rfl
  | made => rfl

/-- A put breaks no order of keys: if all that are there afterwards are of
the domain, so were those before, and a new one goes in at its place. -/
theorem put_keys_ascend (hk : keys.compare.ConsistentOn K) (hcomparator : m.keyComparator = keys)
    (hkeys : (∀ s ∈ m.map.slots, K s.key) → Ascends keys.compare Slot.key m.map.slots)
    (k v : Value) (hK : ∀ s ∈ (m.put k v).state.map.slots, K s.key) :
    Ascends keys.compare Slot.key (m.put k v).state.map.slots := by
  have hstep := put_step m k v
  generalize m.put k v = o at hstep hK ⊢
  cases hstep with
  | failed => exact hkeys hK
  | present => exact hkeys hK
  | grown _ hslots _ _ _ _ =>
    rw [hslots] at hkeys
    simp only [Outcome.done, holding_slots, List.forall_mem_append, List.forall_mem_cons]
      at hkeys hK
    exact ascends_of_keys (hkeys hK) (by simp [Outcome.done])
  | @made before after _ hslots hnone hu =>
    unfold OrderedMap.find at hnone
    change Bisect.find m.keyComparator.compare Slot.key m.map.slots k = .ok none at hnone
    rw [hcomparator] at hnone hu
    simp only [Outcome.done, holding_slots, List.forall_mem_append, List.forall_mem_cons] at hK
    -- the slots were in order before, and the search tells where the key goes
    have hold : ∀ s ∈ m.map.slots, K s.key := by
      rw [hslots]
      exact List.forall_mem_append.2 ⟨hK.1, hK.2.2⟩
    have hasc := hkeys hold
    obtain ⟨hbelow, habove⟩ := Bisect.absent_parted hk hold hK.2.1 hasc hnone hslots hu
    rw [hslots] at hasc
    exact hasc.insert hbelow habove

/-- Nor does it break an order of values. -/
theorem put_values_ascend (hv : values.compare.ConsistentOn V)
    (hcomparators : ∀ s ∈ m.map.slots, s.value.comparator = values)
    (hvalues : ∀ s ∈ m.map.slots, (∀ v ∈ s.value.items, V v) →
      Ascends values.compare id s.value.items) (k v : Value) :
    ∀ s ∈ (m.put k v).state.map.slots, (∀ v ∈ s.value.items, V v) →
      Ascends values.compare id s.value.items := by
  have hstep := put_step m k v
  generalize m.put k v = o at hstep ⊢
  cases hstep with
  | failed => exact hvalues
  | present => exact hvalues
  | @grown before after s low high _ hslots _ hnone hitems hu =>
    have hcomparator := hcomparators s (mem_of_parted hslots)
    rw [hslots] at hvalues
    simp only [Outcome.done, holding_slots, List.forall_mem_append, List.forall_mem_cons]
      at hvalues ⊢
    refine ⟨hvalues.1, fun hV => ?_, hvalues.2.2⟩
    -- the slot was in order before, and the search tells where the value goes
    have hold : ∀ w ∈ s.value.items, V w := by
      rw [hitems]
      exact List.forall_mem_append.2 ⟨hV.1, hV.2.2⟩
    have hasc := hvalues.2.1 hold
    unfold OrderedSet.find at hnone
    rw [hcomparator] at hnone hu
    obtain ⟨hbelow, habove⟩ := Bisect.absent_parted hv hold hV.2.1 hasc hnone hitems hu
    rw [hitems] at hasc
    exact hasc.insert hbelow habove
  | made _ hslots _ _ =>
    rw [hslots] at hvalues
    simp only [Outcome.done, holding_slots, List.forall_mem_append, List.forall_mem_cons]
      at hvalues ⊢
    exact ⟨hvalues.1, fun _ => List.pairwise_singleton _ _, hvalues.2⟩

-- ============================================================ taking out

/-- What is left of a multimap when something is taken out. -/
structure Shrunk (m n : Multimap) : Prop where
  keyComparator : n.keyComparator = m.keyComparator
  keys : (n.map.slots.map Slot.key).Sublist (m.map.slots.map Slot.key)
  slots : ∀ t ∈ n.map.slots, ∃ s ∈ m.map.slots,
    t.key = s.key ∧ t.value.items.Sublist s.value.items

namespace Shrunk

private theorem refl (m : Multimap) : Shrunk m m :=
  ⟨rfl, .refl _, fun t ht => ⟨t, ht, rfl, .refl _⟩⟩

/-- Without one slot. -/
theorem erased {total : Nat} (hslots : m.map.slots = before ++ s :: after) :
    Shrunk m (m.holding (before ++ after) total) := by
  have hsub : (before ++ after).Sublist m.map.slots := by
    rw [hslots]
    exact (List.sublist_cons_self s after).append_left before
  exact ⟨rfl, hsub.map Slot.key, fun t ht => ⟨t, hsub.mem ht, rfl, .refl _⟩⟩

/-- With fewer values in one slot. -/
theorem replaced {set : OrderedSet} {total : Nat} (hslots : m.map.slots = before ++ s :: after)
    (hsub : set.items.Sublist s.value.items) :
    Shrunk m (m.holding (before ++ ⟨s.key, set⟩ :: after) total) := by
  refine ⟨rfl, ?_, ?_⟩
  · simp [hslots]
  · simp only [holding_slots, List.forall_mem_append, List.forall_mem_cons, hslots]
    refine ⟨fun t ht => ⟨t, ?_, rfl, .refl _⟩, ⟨s, ?_, rfl, hsub⟩,
      fun t ht => ⟨t, ?_, rfl, .refl _⟩⟩
    · exact List.mem_append_left _ ht
    · exact List.mem_append_right _ List.mem_cons_self
    · exact List.mem_append_right _ (List.mem_cons_of_mem _ ht)

/-- Taking out an entry adds nothing and moves nothing. -/
private theorem remove (m : Multimap) (k v : Value) : Shrunk m (m.remove k v).state := by
  have hstep := remove_step m k v
  generalize m.remove k v = o at hstep ⊢
  cases hstep with
  | failed => exact .refl m
  | keyless => exact .refl m
  | valueless => exact .refl m
  | @shrunk _ _ _ low high w hslots _ _ hitems _ =>
    refine .replaced hslots ?_
    rw [hitems]
    exact (List.sublist_cons_self w high).append_left low
  | emptied hslots _ _ _ => exact .erased hslots

private theorem removeAll (m : Multimap) (k : Value) : Shrunk m (m.removeAll k).state := by
  have hstep := removeAll_step m k
  generalize m.removeAll k = o at hstep ⊢
  cases hstep with
  | failed => exact .refl m
  | keyless => exact .refl m
  | removed hslots _ => exact .erased hslots

private theorem clear (m : Multimap) : Shrunk m m.clear :=
  ⟨rfl, List.nil_sublist _, fun _ h => absurd h List.not_mem_nil⟩

end Shrunk

-- ============================================================ both sides

/-- An intact multimap the keys of which ascend if they are all of the
domain, and so the values of each slot. What else may be put is left open:
it goes in somewhere, and nothing is promised from then on. -/
structure Arranged (keys values : Comparator) (K V : Value → Prop) (m : Multimap) : Prop
    extends Intact keys values m where
  keys_ascend : (∀ s ∈ m.map.slots, K s.key) → Ascends keys.compare Slot.key m.map.slots
  values_ascend : ∀ s ∈ m.map.slots, (∀ v ∈ s.value.items, V v) →
    Ascends values.compare id s.value.items

namespace Arranged

theorem empty (keys values : Comparator) (K V : Value → Prop) :
    Arranged keys values K V (empty keys values) :=
  ⟨.empty keys values, fun _ => List.Pairwise.nil, fun _ h => absurd h List.not_mem_nil⟩

/-- What is put need not be of the domains. -/
theorem put (h : Arranged keys values K V m) (hk : keys.compare.ConsistentOn K)
    (hv : values.compare.ConsistentOn V) (k v : Value) :
    Arranged keys values K V (m.put k v).state where
  toIntact := h.toIntact.put k v
  keys_ascend := put_keys_ascend hk h.keyComparator h.keys_ascend k v
  values_ascend :=
    put_values_ascend hv (fun s hs => (h.slots s hs).comparator) h.values_ascend k v

end Arranged

/-- An intact multimap in order. -/
structure Ordered (keys values : Comparator) (K V : Value → Prop) (m : Multimap) : Prop
    extends Intact keys values m where
  ordered : ∀ s ∈ m.map.slots, SlotOrdered values K V s
  ascends : Ascends keys.compare Slot.key m.map.slots

namespace Ordered

/-- Nothing is out of order in an empty multimap. -/
theorem empty (keys values : Comparator) (K V : Value → Prop) :
    Ordered keys values K V (empty keys values) :=
  ⟨.empty keys values, fun _ h => absurd h List.not_mem_nil, List.Pairwise.nil⟩

/-- The keys are of the kind that their comparator orders. -/
theorem key_mem (h : Ordered keys values K V m) : ∀ s ∈ m.map.slots, K s.key :=
  fun s hs => (h.ordered s hs).key_mem

/-- The parts of an ordered multimap around one slot. -/
theorem parted_ordered (h : Ordered keys values K V m)
    (hslots : m.map.slots = before ++ s :: after) :
    SlotOrdered values K V s ∧ (∀ t ∈ before, SlotOrdered values K V t)
      ∧ ∀ t ∈ after, SlotOrdered values K V t := by
  have hall := h.ordered
  rw [hslots] at hall
  simp only [List.forall_mem_append, List.forall_mem_cons] at hall
  exact ⟨hall.2.1, hall.1, hall.2.2⟩

/-- Keys and values are of the kinds that the comparators order. -/
theorem within (h : Ordered keys values K V m) : Within K V m :=
  fun s hs => ⟨(h.ordered s hs).key_mem, (h.ordered s hs).value_mem⟩

private theorem arranged (h : Ordered keys values K V m) : Arranged keys values K V m :=
  ⟨h.toIntact, fun _ => h.ascends, fun s hs _ => (h.ordered s hs).ascends⟩

end Ordered

/-- What is arranged is in order if all that is stored is of the domains. -/
theorem Arranged.ordered (h : Arranged keys values K V m) (hw : Within K V m) :
    Ordered keys values K V m where
  toIntact := h.toIntact
  ordered s hs := ⟨(hw s hs).1, (hw s hs).2, h.values_ascend s hs (hw s hs).2⟩
  ascends := h.keys_ascend fun s hs => (hw s hs).1

namespace Ordered

/-- A put keeps the order, whether it succeeds or not. -/
theorem put (h : Ordered keys values K V m) (hk : keys.compare.ConsistentOn K)
    (hv : values.compare.ConsistentOn V) (hK : K k) (hV : V v) :
    Ordered keys values K V (m.put k v).state :=
  (h.arranged.put hk hv k v).ordered (h.within.put hK hV)

/-- What is left of an ordered multimap is in order. -/
theorem shrunk (h : Ordered keys values K V m) (hn : Intact keys values n) (hmn : Shrunk m n) :
    Ordered keys values K V n where
  toIntact := hn
  ordered t ht := by
    obtain ⟨s, hs, hkey, hitems⟩ := hmn.slots t ht
    have hold := h.ordered s hs
    exact ⟨hkey ▸ hold.key_mem, fun v hv => hold.value_mem v (hitems.mem hv),
      hold.ascends.sublist hitems⟩
  ascends := ascends_of_keys h.ascends hmn.keys

/-- So does taking out an entry. -/
theorem remove (h : Ordered keys values K V m) (k v : Value) :
    Ordered keys values K V (m.remove k v).state :=
  h.shrunk (h.toIntact.remove k v) (.remove m k v)

/-- So does taking out a key. -/
theorem removeAll (h : Ordered keys values K V m) (k : Value) :
    Ordered keys values K V (m.removeAll k).state :=
  h.shrunk (h.toIntact.removeAll k) (.removeAll m k)

/-- So does taking out everything. -/
theorem clear (h : Ordered keys values K V m) : Ordered keys values K V m.clear :=
  h.shrunk h.toIntact.clear (.clear m)

end Ordered

-- ============================================================= one side

/-- The keys of a multimap in order, whatever its values are. -/
structure KeysOrdered (keys : Comparator) (K : Value → Prop) (m : Multimap) : Prop where
  keyComparator : m.keyComparator = keys
  key_mem : ∀ s ∈ m.map.slots, K s.key
  ascends : Ascends keys.compare Slot.key m.map.slots

/-- If all is in order then the keys are. -/
theorem Ordered.keysOrdered (h : Ordered keys values K V m) : KeysOrdered keys K m :=
  ⟨h.keyComparator, h.key_mem, h.ascends⟩

namespace KeysOrdered

/-- No keys are out of order in an empty multimap. -/
theorem empty (keys values : Comparator) (K : Value → Prop) :
    KeysOrdered keys K (empty keys values) :=
  ⟨rfl, fun _ h => absurd h List.not_mem_nil, List.Pairwise.nil⟩

private theorem shrunk (h : KeysOrdered keys K m) (hmn : Shrunk m n) : KeysOrdered keys K n where
  keyComparator := hmn.keyComparator.trans h.keyComparator
  key_mem t ht := by
    obtain ⟨s, hs, hkey, -⟩ := hmn.slots t ht
    exact hkey ▸ h.key_mem s hs
  ascends := ascends_of_keys h.ascends hmn.keys

/-- The values that are put have no say in the order of keys. -/
theorem kept (hk : keys.compare.ConsistentOn K) (V : Value → Prop) :
    Kept K V (KeysOrdered keys K) where
  put m k v hK _ h := by
    have hmem : Within K (fun _ => True) m := fun s hs => ⟨h.key_mem s hs, fun _ _ => trivial⟩
    have hmem' : ∀ s ∈ (m.put k v).state.map.slots, K s.key :=
      fun s hs => (hmem.put hK trivial s hs).1
    exact ⟨(put_keyComparator m k v).trans h.keyComparator, hmem',
      put_keys_ascend hk h.keyComparator (fun _ => h.ascends) k v hmem'⟩
  remove m k v h := h.shrunk (.remove m k v)
  removeAll m k h := h.shrunk (.removeAll m k)
  clear m h := h.shrunk (.clear m)

end KeysOrdered

/-- The values of each slot in order, whatever the keys are. -/
structure ValuesOrdered (keys values : Comparator) (V : Value → Prop) (m : Multimap) : Prop
    extends Intact keys values m where
  value_mem : ∀ s ∈ m.map.slots, ∀ v ∈ s.value.items, V v
  ascends : ∀ s ∈ m.map.slots, Ascends values.compare id s.value.items

namespace ValuesOrdered

private theorem empty (keys values : Comparator) (V : Value → Prop) :
    ValuesOrdered keys values V (empty keys values) :=
  ⟨.empty keys values, fun _ h => absurd h List.not_mem_nil, fun _ h => absurd h List.not_mem_nil⟩

/-- What is left of ordered values is ordered. -/
private theorem shrunk (h : ValuesOrdered keys values V m) (hn : Intact keys values n)
    (hmn : Shrunk m n) : ValuesOrdered keys values V n where
  toIntact := hn
  value_mem t ht v hv := by
    obtain ⟨s, hs, -, hitems⟩ := hmn.slots t ht
    exact h.value_mem s hs v (hitems.mem hv)
  ascends t ht := by
    obtain ⟨s, hs, -, hitems⟩ := hmn.slots t ht
    exact (h.ascends s hs).sublist hitems

/-- The keys under which values are put have no say in their order. -/
theorem kept (hv : values.compare.ConsistentOn V) (K : Value → Prop) :
    Kept K V (ValuesOrdered keys values V) where
  put m k v _ hV h := by
    have hmem : Within (fun _ => True) V m := fun s hs => ⟨trivial, h.value_mem s hs⟩
    have hmem' : ∀ s ∈ (m.put k v).state.map.slots, ∀ w ∈ s.value.items, V w :=
      fun s hs => (hmem.put trivial hV s hs).2
    have hasc := put_values_ascend hv (fun s hs => (h.slots s hs).comparator)
      (fun s hs _ => h.ascends s hs) k v
    exact ⟨h.toIntact.put k v, hmem', fun s hs => hasc s hs (hmem' s hs)⟩
  remove m k v h := h.shrunk (h.toIntact.remove k v) (.remove m k v)
  removeAll m k h := h.shrunk (h.toIntact.removeAll k) (.removeAll m k)
  clear m h := h.shrunk h.toIntact.clear (.clear m)

end ValuesOrdered

-- =========================================================== any history

/-- Puts and removals keep the order of everything. -/
theorem Ordered.kept (hk : keys.compare.ConsistentOn K) (hv : values.compare.ConsistentOn V) :
    Kept K V (Ordered keys values K V) :=
  ⟨fun _ _ _ hK hV h => h.put hk hv hK hV, fun _ k v h => h.remove k v,
    fun _ k h => h.removeAll k, fun _ h => h.clear⟩

/-- Every state that a history comes to is in order, if what it puts is of
domains on which the comparators are consistent. -/
theorem Ordered.afterAll (hk : keys.compare.ConsistentOn K) (hv : values.compare.ConsistentOn V)
    {history : List Operation} (h : ∀ operation ∈ history, operation.Puts K V) :
    Ordered keys values K V ((Multimap.empty keys values).afterAll history) :=
  (Ordered.kept hk hv).afterAll (.empty keys values K V) h

/-- What operations that put such keys and values make of an empty multimap. -/
def Reached (keys values : Comparator) (K V : Value → Prop) (m : Multimap) : Prop :=
  ∃ history : List Operation, (∀ operation ∈ history, operation.Puts K V)
    ∧ (empty keys values).afterAll history = m

/-- Whatever changes led to a multimap, it is in order. -/
theorem Reached.ordered (h : Reached keys values K V m) (hk : keys.compare.ConsistentOn K)
    (hv : values.compare.ConsistentOn V) : Ordered keys values K V m := by
  obtain ⟨history, hputs, rfl⟩ := h
  exact .afterAll hk hv hputs

/-- Its keys are in order whatever the comparator of the values does. -/
theorem Reached.keysOrdered (h : Reached keys values K V m) (hk : keys.compare.ConsistentOn K) :
    KeysOrdered keys K m := by
  obtain ⟨history, hputs, rfl⟩ := h
  exact (KeysOrdered.kept hk V).afterAll (.empty keys values K) hputs

/-- Its values are in order whatever the comparator of the keys does. -/
theorem Reached.valuesOrdered (h : Reached keys values K V m)
    (hv : values.compare.ConsistentOn V) : ValuesOrdered keys values V m := by
  obtain ⟨history, hputs, rfl⟩ := h
  exact (ValuesOrdered.kept hv K).afterAll (.empty keys values V) hputs

/-- In order, with anything allowed for a key and for a value. -/
abbrev InOrder (keys values : Comparator) (m : Multimap) : Prop :=
  Ordered keys values (fun _ => True) (fun _ => True) m

/-- Any history of changes leaves keys and values in order. -/
theorem InOrder.afterAll (hk : keys.compare.Consistent) (hv : values.compare.Consistent)
    (history : List Operation) :
    InOrder keys values ((Multimap.empty keys values).afterAll history) :=
  Ordered.afterAll hk hv fun operation _ => operation.puts_any

/-- Under consistent comparators and after any operations, failed ones
included, each key is below every later key and each value of a slot below
every later one there, whichever way round the two are compared. -/
theorem strictly_ascending (hk : keys.compare.Consistent) (hv : values.compare.Consistent)
    (history : List Operation) :
    let m := (empty keys values).afterAll history
    (m.keys.Pairwise fun a b => keys.compare.Gives a b .lt ∧ keys.compare.Gives b a .gt)
      ∧ ∀ s ∈ m.map.slots,
        s.value.items.Pairwise fun a b =>
          values.compare.Gives a b .lt ∧ values.compare.Gives b a .gt := by
  intro m
  have h : InOrder keys values m := .afterAll hk hv history
  refine ⟨?_, fun s hs => ?_⟩
  · refine List.pairwise_map.2 (h.ascends.imp fun hlt => ⟨hlt, ?_⟩)
    exact hk.swap trivial trivial hlt
  · refine (h.ordered s hs).ascends.imp fun hlt => ⟨hlt, ?_⟩
    exact hv.swap trivial trivial hlt

/-- Texts by their case fold, with a number offered as a key in between. -/
theorem strictly_ascending_caseFold :
    let m := (empty .caseFold .caseFold).afterAll
      [.put (.text "pear") (.text "b"), .put (.int 1) (.text "x"), .put (.text "Apple") (.text "A"),
        .put (.text "PEAR") (.text "a"), .removeAll (.int 2)]
    Comparator.caseFold.compare.Consistent
      ∧ (m.keys.Pairwise fun a b => Comparator.caseFold.compare.Gives a b .lt
        ∧ Comparator.caseFold.compare.Gives b a .gt)
      ∧ ∀ s ∈ m.map.slots,
        s.value.items.Pairwise fun a b => Comparator.caseFold.compare.Gives a b .lt
          ∧ Comparator.caseFold.compare.Gives b a .gt :=
  ⟨Comparator.caseFold_consistent,
    strictly_ascending Comparator.caseFold_consistent Comparator.caseFold_consistent _⟩

end Collation.Multimap
