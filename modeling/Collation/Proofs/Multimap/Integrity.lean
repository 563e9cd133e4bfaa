/-
What holds of a multimap by bookkeeping alone, under comparators that may
contradict themselves and fail at any question. No slot is empty, the
number of entries that is kept is the number of entries that are there,
and a null is in the multimap only if its comparator has compared null
with itself.

Sortedness plays no part: the order of the slots and of the values is
whatever the comparators made of it. What carries the proof is that a
basic change touches one slot at the most (`SlotIntact`), and that the
count moves by the number of values that this slot gains or loses.
-/
import Collation.Proofs.Multimap.Histories

namespace Collation

/-- The comparator can compare null with itself. -/
def Comparator.AcceptsNull (c : Comparator) : Prop := ∃ r, c.compare .null .null = .ok r

private theorem Comparator.acceptsNull_of_check {c : Comparator} {role : String}
    (h : c.checkAcceptsNull role = .ok ()) : c.AcceptsNull := by
  unfold checkAcceptsNull at h
  split at h
  · next r hr => exact ⟨r, hr⟩
  · cases h

namespace Multimap

variable {keys values : Comparator} {m : Multimap} {s : Slot OrderedSet} {k v w : Value}
  {low high : List Value} {before after : List (Slot OrderedSet)}

/-- A checked entry has a null only where the comparator takes it. -/
theorem acceptsNull_of_checkEntry (h : m.checkEntry k v = .ok ()) :
    (k = .null → m.keyComparator.AcceptsNull) ∧ (v = .null → m.valueComparator.AcceptsNull) := by
  unfold checkEntry at h
  constructor
  · rintro rfl
    cases hk : m.keyComparator.checkAcceptsNull "key" with
    | ok u => exact Comparator.acceptsNull_of_check hk
    | error e =>
      rw [hk] at h
      cases h
  · rintro rfl
    cases hv : m.valueComparator.checkAcceptsNull "value" with
    | ok u => exact Comparator.acceptsNull_of_check hv
    | error e =>
      rw [hv] at h
      cases hnull : k.isNull with
      | false => rw [hnull] at h; cases h
      | true =>
        rw [hnull] at h
        cases hk : m.keyComparator.checkAcceptsNull "key" with
        | ok u => rw [hk] at h; cases h
        | error e => rw [hk] at h; cases h

/-- An entry passes the check if its nulls are accepted. -/
theorem checkEntry_eq_ok (hk : k = .null → m.keyComparator.AcceptsNull)
    (hv : v = .null → m.valueComparator.AcceptsNull) : m.checkEntry k v = .ok () := by
  have hnull : ∀ {w : Value} {c : Comparator} (role : String), (w = .null → c.AcceptsNull) →
      w.isNull = true → c.checkAcceptsNull role = .ok () := by
    intro w c role hw h
    cases w with
    | null =>
      obtain ⟨r, hr⟩ := hw rfl
      rw [Comparator.checkAcceptsNull, hr]
    | _ => cases h
  have hkey := hnull "key" hk
  have hvalue := hnull "value" hv
  unfold checkEntry
  cases hknull : k.isNull with
  | false =>
    cases hvnull : v.isNull with
    | false => rfl
    | true => exact hvalue hvnull
  | true =>
    rw [if_pos rfl, hkey hknull]
    cases hvnull : v.isNull with
    | false => rfl
    | true => exact hvalue hvnull

-- ============================================================= one slot

/-- A slot as it should be: some values, told apart by the comparator of
the multimap, and null only where null is accepted. -/
structure SlotIntact (keys values : Comparator) (s : Slot OrderedSet) : Prop where
  comparator : s.value.comparator = values
  filled : s.value.items ≠ []
  nullKey : s.key = .null → keys.AcceptsNull
  nullValue : .null ∈ s.value.items → values.AcceptsNull

namespace SlotIntact

private theorem made (hk : k = .null → keys.AcceptsNull) (hv : v = .null → values.AcceptsNull) :
    SlotIntact keys values ⟨k, ⟨values, [v]⟩⟩ where
  comparator := rfl
  filled := by simp
  nullKey := hk
  nullValue hnull := hv (List.mem_singleton.1 hnull).symm

/-- A slot with one value more is as it should be. -/
private theorem grown (hs : SlotIntact keys values s) (hitems : s.value.items = low ++ high)
    (hv : v = .null → values.AcceptsNull) :
    SlotIntact keys values ⟨s.key, { s.value with items := low ++ v :: high }⟩ where
  comparator := hs.comparator
  filled := by simp
  nullKey := hs.nullKey
  nullValue hnull := by
    rcases List.mem_append.1 hnull with hlow | hcons
    · exact hs.nullValue (hitems ▸ List.mem_append_left _ hlow)
    · rcases List.mem_cons.1 hcons with hnew | hhigh
      · exact hv hnew.symm
      · exact hs.nullValue (hitems ▸ List.mem_append_right _ hhigh)

/-- So is one with a value less, if any is left. -/
private theorem shrunk (hs : SlotIntact keys values s) (hitems : s.value.items = low ++ w :: high)
    (hne : low ++ high ≠ []) :
    SlotIntact keys values ⟨s.key, { s.value with items := low ++ high }⟩ where
  comparator := hs.comparator
  filled := hne
  nullKey := hs.nullKey
  nullValue hnull := by
    refine hs.nullValue (hitems ▸ ?_)
    rcases List.mem_append.1 hnull with hlow | hhigh
    · exact List.mem_append_left _ hlow
    · exact List.mem_append_right _ (List.mem_cons_of_mem _ hhigh)

end SlotIntact

-- ============================================================= all slots

/-- The number of values in some slots. -/
def countIn (slots : List (Slot OrderedSet)) : Nat := (slots.map fun s => s.value.size).sum

@[simp] theorem countIn_append : countIn (before ++ after) = countIn before + countIn after := by
  simp [countIn]

@[simp] theorem countIn_cons : countIn (s :: after) = s.value.size + countIn after := by
  simp [countIn]

/-- A multimap whose books are in order. -/
structure Intact (keys values : Comparator) (m : Multimap) : Prop where
  keyComparator : m.keyComparator = keys
  valueComparator : m.valueComparator = values
  slots : ∀ s ∈ m.map.slots, SlotIntact keys values s
  counted : m.total = countIn m.map.slots

namespace Intact

/-- Nothing is wrong with an empty multimap. -/
theorem empty (keys values : Comparator) : Intact keys values (empty keys values) :=
  ⟨rfl, rfl, fun _ h => absurd h List.not_mem_nil, rfl⟩

/-- Other slots and another count keep a multimap intact, if they fit. -/
theorem holding (h : Intact keys values m) {slots : List (Slot OrderedSet)} {total : Nat}
    (hslots : ∀ s ∈ slots, SlotIntact keys values s) (htotal : total = countIn slots) :
    Intact keys values (m.holding slots total) :=
  ⟨h.keyComparator, h.valueComparator, hslots, htotal⟩

/-- The parts of an intact multimap around one slot. -/
theorem parted (h : Intact keys values m) (hslots : m.map.slots = before ++ s :: after) :
    SlotIntact keys values s ∧ (∀ t ∈ before, SlotIntact keys values t)
      ∧ (∀ t ∈ after, SlotIntact keys values t)
      ∧ m.total = countIn before + (s.value.size + countIn after) := by
  have hall := h.slots
  have htotal := h.counted
  rw [hslots] at hall htotal
  simp only [List.forall_mem_append, List.forall_mem_cons] at hall
  simp only [countIn_append, countIn_cons] at htotal
  exact ⟨hall.2.1, hall.1, hall.2.2, htotal⟩

/-- A put, failed or not, leaves all as it should be. -/
theorem put (h : Intact keys values m) (k v : Value) : Intact keys values (m.put k v).state := by
  have hstep := put_step m k v
  generalize m.put k v = o at hstep ⊢
  cases hstep with
  | failed => exact h
  | present => exact h
  | grown hcheck hslots _ _ hitems _ =>
    obtain ⟨hs, hbefore, hafter, htotal⟩ := h.parted hslots
    have hnull := (acceptsNull_of_checkEntry hcheck).2
    rw [h.valueComparator] at hnull
    refine h.holding ?_ ?_
    · simp only [List.forall_mem_append, List.forall_mem_cons]
      exact ⟨hbefore, hs.grown hitems hnull, hafter⟩
    · simp only [htotal, countIn_append, countIn_cons, OrderedSet.size, hitems,
        List.length_append, List.length_cons]
      omega
  | made hcheck hslots _ _ =>
    have hnull := acceptsNull_of_checkEntry hcheck
    have hall := h.slots
    have htotal := h.counted
    rw [h.keyComparator, h.valueComparator] at hnull
    rw [hslots] at hall htotal
    rw [List.forall_mem_append] at hall
    refine h.holding ?_ ?_
    · simp only [List.forall_mem_append, List.forall_mem_cons, h.valueComparator]
      exact ⟨hall.1, .made hnull.1 hnull.2, hall.2⟩
    · simp only [htotal, countIn_append, countIn_cons, OrderedSet.size, List.length_cons,
        List.length_nil]
      omega

/-- So does taking out an entry. -/
theorem remove (h : Intact keys values m) (k v : Value) :
    Intact keys values (m.remove k v).state := by
  have hstep := remove_step m k v
  generalize m.remove k v = o at hstep ⊢
  cases hstep with
  | failed => exact h
  | keyless => exact h
  | valueless => exact h
  | shrunk hslots _ _ hitems hne =>
    obtain ⟨hs, hbefore, hafter, htotal⟩ := h.parted hslots
    refine h.holding ?_ ?_
    · simp only [List.forall_mem_append, List.forall_mem_cons]
      exact ⟨hbefore, hs.shrunk hitems hne, hafter⟩
    · simp only [htotal, countIn_append, countIn_cons, OrderedSet.size, hitems,
        List.length_append, List.length_cons]
      omega
  | emptied hslots _ _ hitems =>
    obtain ⟨hs, hbefore, hafter, htotal⟩ := h.parted hslots
    refine h.holding ?_ ?_
    · rw [List.forall_mem_append]
      exact ⟨hbefore, hafter⟩
    · simp only [htotal, countIn_append, OrderedSet.size, hitems, List.length_cons,
        List.length_nil]
      omega

/-- So does taking out a key. -/
theorem removeAll (h : Intact keys values m) (k : Value) :
    Intact keys values (m.removeAll k).state := by
  have hstep := removeAll_step m k
  generalize m.removeAll k = o at hstep ⊢
  cases hstep with
  | failed => exact h
  | keyless => exact h
  | removed hslots _ =>
    obtain ⟨hs, hbefore, hafter, htotal⟩ := h.parted hslots
    refine h.holding ?_ ?_
    · rw [List.forall_mem_append]
      exact ⟨hbefore, hafter⟩
    · simp only [htotal, countIn_append]
      omega

/-- So does taking out everything. -/
theorem clear (h : Intact keys values m) : Intact keys values m.clear := by
  unfold Multimap.clear
  rw [h.keyComparator, h.valueComparator]
  exact .empty keys values

/-- Bookkeeping asks nothing of the comparators. -/
theorem kept : Kept (fun _ => True) (fun _ => True) (Intact keys values) :=
  ⟨fun _ k v _ _ h => h.put k v, fun _ k v h => h.remove k v, fun _ k h => h.removeAll k,
    fun _ h => h.clear⟩

/-- Every state that a history comes to is intact. -/
theorem afterAll (keys values : Comparator) (history : List Operation) :
    Intact keys values ((Multimap.empty keys values).afterAll history) :=
  kept.afterAll (.empty keys values) fun operation _ => operation.puts_any

end Intact

-- ======================================================= what is stored

/-- All stored keys are of one domain and all stored values of another. -/
def Within (K V : Value → Prop) (m : Multimap) : Prop :=
  ∀ t ∈ m.map.slots, K t.key ∧ ∀ w ∈ t.value.items, V w

/-- Nothing is stored but what was put. -/
theorem Within.put {K V : Value → Prop} (h : Within K V m) (hk : K k) (hv : V v) :
    Within K V (m.put k v).state := by
  have hstep := put_step m k v
  generalize m.put k v = o at hstep ⊢
  unfold Within at h ⊢
  cases hstep with
  | failed => exact h
  | present => exact h
  | grown _ hslots _ _ hitems _ =>
    rw [hslots] at h
    simp only [Outcome.done, holding_slots, List.forall_mem_append, List.forall_mem_cons] at h ⊢
    obtain ⟨hbefore, ⟨hkey, hvalues⟩, hafter⟩ := h
    rw [hitems, List.forall_mem_append] at hvalues
    exact ⟨hbefore, ⟨hkey, hvalues.1, hv, hvalues.2⟩, hafter⟩
  | made _ hslots _ _ =>
    rw [hslots] at h
    simp only [Outcome.done, holding_slots, List.forall_mem_append, List.forall_mem_cons] at h ⊢
    exact ⟨h.1, ⟨hk, hv, fun _ h => absurd h List.not_mem_nil⟩, h.2⟩

/-- The values in the slots are as many as the entries. -/
theorem length_entries (m : Multimap) : m.entries.length = countIn m.map.slots := by
  simp [entries, countIn, List.length_flatMap, OrderedSet.size]

/-- Under any two comparators and after any operations, failed ones
included: no slot is empty, the size is the number of values in the slots,
which is the number of entries, and a null is stored only if its
comparator compares null with itself. -/
theorem integrity (keys values : Comparator) (history : List Operation) :
    let m := (empty keys values).afterAll history
    (∀ s ∈ m.map.slots, s.value.items ≠ [])
      ∧ m.total = (m.map.slots.map fun s => s.value.size).sum
      ∧ m.total = m.entries.length
      ∧ (.null ∈ m.keys → ∃ r, keys.compare .null .null = .ok r)
      ∧ (.null ∈ m.values → ∃ r, values.compare .null .null = .ok r) := by
  intro m
  have h : Intact keys values m := .afterAll keys values history
  refine ⟨fun s hs => (h.slots s hs).filled, h.counted, ?_, fun hnull => ?_, fun hnull => ?_⟩
  · rw [h.counted, length_entries]
  · obtain ⟨s, hs, hkey⟩ := List.mem_map.1 hnull
    exact (h.slots s hs).nullKey hkey
  · obtain ⟨s, hs, hitem⟩ := List.mem_flatMap.1 hnull
    exact (h.slots s hs).nullValue hitem

end Multimap

end Collation
