/-
Looking things up in an ordered multimap whose comparators are total
preorders on what is stored and what is asked about. A search finds the one
slot of an equivalent key, or there is none (`Ordered.found`,
`Ordered.absent`), and the same goes for the values of a slot. So what a
look-up answers can be told without it: it is what going through all keys,
values or entries comes to.
-/
import Collation.Proofs.Multimap.Scanning

namespace Collation

open Bisect (Ascends)

/-- A search of an ascending list tells whether some element is equivalent
to the probe. -/
theorem isSome_find {α : Type} {c : Comparison} {D : Value → Prop} {key : α → Value} {x : Value}
    {xs : List α} (hc : c.TotalOn D) (hxs : ∀ a ∈ xs, D (key a)) (hx : D x)
    (hasc : Ascends c key xs) :
    (Bisect.find c key xs x).map Option.isSome = .ok (xs.any fun a => c.same (key a) x) := by
  obtain ⟨place, hplace⟩ := find_total hc hxs hx
  rw [hplace]
  cases place with
  | none =>
    have hnone : ∀ a ∈ xs, c.same (key a) x = false :=
      none_same hc hxs hx hasc hplace
    exact congrArg Except.ok (List.any_eq_false.2 fun a ha => by simp [hnone a ha]).symm
  | some i =>
    obtain ⟨before, a, after, rfl, -, heq⟩ := Bisect.find_parted hplace
    simp [Except.map, heq.same]

namespace Multimap

/-- The slot is that of an equivalent key. -/
def isFor (m : Multimap) (k : Value) (s : Slot OrderedSet) : Bool :=
  m.keyComparator.compare.same s.key k

/-- The values under a key, by going through all slots. -/
def under (m : Multimap) (k : Value) : List Value :=
  ((m.map.slots.find? (m.isFor k)).map fun s => s.value.items).getD []

variable {keys values : Comparator} {K V : Value → Prop} {m : Multimap} {k v w : Value}
  {s : Slot OrderedSet} {before after : List (Slot OrderedSet)} {low high : List Value}

/-- Under a key stand the values of the one slot that is for it. -/
theorem under_parted (hslots : m.map.slots = before ++ s :: after) (hfor : m.isFor k s = true)
    (hothers : ∀ t ∈ before ++ after, m.isFor k t = false) : m.under k = s.value.items := by
  rw [under, hslots, find?_once hfor hothers]
  rfl

/-- A scan finds no slot if none is for the key. -/
theorem find?_absent (hnone : ∀ t ∈ m.map.slots, m.isFor k t = false) :
    m.map.slots.find? (m.isFor k) = none :=
  List.find?_eq_none.2 fun t ht => by simp [hnone t ht]

/-- Nothing stands under a key that has no slot. -/
theorem under_absent (hnone : ∀ t ∈ m.map.slots, m.isFor k t = false) : m.under k = [] := by
  rw [under, find?_absent hnone]
  rfl

namespace Ordered

variable (h : Ordered keys values K V m)

include h

-- ========================================================== searches

/-- A slot is for a key if the comparator takes the keys for one. -/
theorem isFor_eq : m.isFor k = fun s => keys.compare.same s.key k := by
  rw [← h.keyComparator]
  rfl

/-- The slot that a search finds is the only one for the key. -/
theorem found (hk : keys.compare.TotalOn K) (hK : K k)
    (hslots : m.map.slots = before ++ s :: after)
    (hfind : m.map.find k = .ok (some before.length)) :
    m.isFor k s = true ∧ ∀ t ∈ before ++ after, m.isFor k t = false := by
  rw [h.find_eq] at hfind
  rw [h.isFor_eq]
  have heq := Bisect.gives_of_find hslots hfind
  exact ⟨heq.same, differ_of_parted hk h.key_mem hK h.ascends hslots heq⟩

/-- Where a search finds nothing no slot is for the key. -/
theorem absent (hk : keys.compare.TotalOn K) (hK : K k) (hfind : m.map.find k = .ok none) :
    ∀ t ∈ m.map.slots, m.isFor k t = false := by
  rw [h.find_eq] at hfind
  rw [h.isFor_eq]
  exact none_same hk h.key_mem hK h.ascends hfind

/-- A key has one slot or none, and the search comes to just that. -/
theorem located (hk : keys.compare.TotalOn K) (hK : K k) :
    (m.map.find k = .ok none ∧ ∀ t ∈ m.map.slots, m.isFor k t = false)
      ∨ ∃ before s after, m.map.slots = before ++ s :: after
        ∧ m.map.find k = .ok (some before.length) ∧ m.isFor k s = true
        ∧ ∀ t ∈ before ++ after, m.isFor k t = false := by
  obtain ⟨place, hplace⟩ := h.find_total hk hK
  cases place with
  | none => exact .inl ⟨hplace, h.absent hk hK hplace⟩
  | some i =>
    obtain ⟨before, s, after, hslots, rfl, -⟩ := Bisect.find_parted hplace
    exact .inr ⟨before, s, after, hslots, hplace, h.found hk hK hslots hplace⟩

/-- The value that a search finds is the only equivalent one of its slot. -/
theorem found_value (hv : values.compare.TotalOn V) (hV : V v)
    (hslots : m.map.slots = before ++ s :: after) (hitems : s.value.items = low ++ w :: high)
    (hfind : s.value.find v = .ok (some low.length)) :
    values.compare.same w v = true ∧ ∀ x ∈ low ++ high, values.compare.same x v = false := by
  obtain ⟨hfindeq, hmem, hasc⟩ := h.slot hslots
  rw [hfindeq] at hfind
  have heq := Bisect.gives_of_find hitems hfind
  exact ⟨heq.same, differ_of_parted hv hmem hV hasc hitems heq⟩

/-- A value that a search does not find is equivalent to none in the slot. -/
theorem absent_value (hv : values.compare.TotalOn V) (hV : V v)
    (hslots : m.map.slots = before ++ s :: after) (hfind : s.value.find v = .ok none) :
    ∀ x ∈ s.value.items, values.compare.same x v = false := by
  obtain ⟨hfindeq, hmem, hasc⟩ := h.slot hslots
  rw [hfindeq] at hfind
  exact none_same hv hmem hV hasc hfind

/-- The values under a key are in order, and those of a slot. -/
theorem under_ascends (hk : keys.compare.TotalOn K) (hK : K k) :
    (∀ w ∈ m.under k, V w) ∧ Ascends values.compare id (m.under k) := by
  rcases h.located hk hK with ⟨-, hnone⟩ | ⟨before, s, after, hslots, -, hfor, hothers⟩
  · rw [under_absent hnone]
    exact ⟨fun w hw => absurd hw List.not_mem_nil, List.Pairwise.nil⟩
  · rw [under_parted hslots hfor hothers]
    exact (h.slot hslots).2

-- ========================================================== membership

/-- Asking for a key is looking through the keys. -/
theorem containsKey (hk : keys.compare.TotalOn K) (hK : K k) :
    m.containsKey k = .ok (m.keys.any fun w => keys.compare.same w k) := by
  unfold Multimap.containsKey OrderedMap.contains
  rw [h.find_eq, isSome_find hk h.key_mem hK h.ascends, Multimap.keys, OrderedMap.keys,
    List.any_map]
  rfl

/-- Asking a slot for a value is looking through its values. -/
theorem contains_slot (hv : values.compare.TotalOn V) (hV : V v) (hs : s ∈ m.map.slots) :
    s.value.contains v = .ok (s.value.items.any fun w => values.compare.same w v) := by
  obtain ⟨before, after, hslots⟩ := List.append_of_mem hs
  obtain ⟨hfindeq, hmem, hasc⟩ := h.slot hslots
  rw [OrderedSet.contains, hfindeq, isSome_find hv hmem hV hasc]
  rfl

/-- Asking for a value is looking through all values. -/
theorem containsValue (hv : values.compare.TotalOn V) (hV : V v) :
    m.containsValue v = .ok (m.values.any fun w => values.compare.same w v) := by
  have hall : ∀ slots : List (Slot OrderedSet), (∀ s ∈ slots, s ∈ m.map.slots) →
      anyHolds v slots
        = .ok ((slots.flatMap fun s => s.value.items).any fun w => values.compare.same w v) := by
    intro slots
    induction slots with
    | nil => exact fun _ => rfl
    | cons s rest ih =>
      intro hslots
      rw [List.forall_mem_cons] at hslots
      rw [anyHolds, h.contains_slot hv hV hslots.1, List.flatMap_cons, List.any_append]
      cases s.value.items.any fun w => values.compare.same w v with
      | true => rfl
      | false => exact ih hslots.2
  exact hall _ fun _ hs => hs

/-- The values looked up are those of the slot for the key. -/
theorem valuesAt?_eq (hk : keys.compare.TotalOn K) (hK : K k) :
    m.valuesAt? k = .ok ((m.map.slots.find? (m.isFor k)).map Slot.value) := by
  unfold valuesAt? OrderedMap.get? OrderedMap.locate?
  rcases h.located hk hK with
    ⟨hfind, hnone⟩ | ⟨before, s, after, hslots, hfind, hfor, hothers⟩
  · rw [hfind, find?_absent hnone]
    rfl
  · rw [hfind, hslots, find?_once hfor hothers]
    simp [Except.map]

/-- The view of the values under a key reads them. -/
theorem items_eq (hk : keys.compare.TotalOn K) (hK : K k) :
    (SlotView.mk m k).items = .ok (m.under k) := by
  unfold SlotView.items SlotView.values? under
  rw [h.valuesAt?_eq hk hK]
  simp [Except.map, Function.comp_def]

/-- Asking for an entry is looking through all entries. -/
theorem containsEntry (hk : keys.compare.TotalOn K) (hv : values.compare.TotalOn V) (hK : K k)
    (hV : V v) :
    m.containsEntry k v
      = .ok (m.entries.any fun e => keys.compare.same e.1 k && values.compare.same e.2 v) := by
  -- entry by entry is slot by slot, and only one slot is for the key
  have hentries : (m.entries.any fun e => keys.compare.same e.1 k && values.compare.same e.2 v)
      = m.map.slots.any fun s =>
          m.isFor k s && s.value.items.any fun w => values.compare.same w v := by
    simp only [entries, List.any_flatMap, List.any_map, h.isFor_eq, List.and_any_distrib_left,
      Function.comp_def]
  rw [Multimap.containsEntry, h.valuesAt?_eq hk hK, hentries]
  have hnone : ∀ {slots : List (Slot OrderedSet)}, (∀ t ∈ slots, m.isFor k t = false) →
      (slots.any fun t => m.isFor k t && t.value.items.any fun w => values.compare.same w v)
        = false :=
    fun h => List.any_eq_false.2 fun t ht => by simp [h t ht]
  rcases h.located hk hK with
    ⟨-, habsent⟩ | ⟨before, s, after, hslots, -, hfor, hothers⟩
  · rw [find?_absent habsent, hnone habsent]
    rfl
  · have hs := mem_of_parted hslots
    rw [hslots, find?_once hfor hothers, Option.map_some]
    rw [List.forall_mem_append] at hothers
    dsimp only
    rw [h.contains_slot hv hV hs, List.any_append, List.any_cons, hnone hothers.1,
      hnone hothers.2, hfor]
    simp

end Ordered

end Multimap

end Collation
