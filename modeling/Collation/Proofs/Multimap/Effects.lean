/-
What the basic changes do to an ordered multimap under total preorders,
told without a search: by going through all slots and asking which one is
for the key. `revised` changes the values of that slot, `without` leaves it
out, `Added` puts a value in its place; all other slots are taken over as
they are, and entries are counted anew. Putting, removing and taking a key
out come to just that (`Ordered.put_effect`, `Ordered.remove_effect`,
`Ordered.removeAll_effect`), so the count that is kept is right too, and
none of them fails.
-/
import Collation.Proofs.Multimap.Lookup

namespace Collation

/-- The operation succeeds with a result and leaves a state. -/
def Outcome.Yields {σ α : Type} (o : Outcome σ α) (s : σ) (a : α) : Prop :=
  o.state = s ∧ o.result = .ok a

/-- What is made of a result is made where there is one. -/
theorem Outcome.Yields.mapResult {σ α β : Type} {o : Outcome σ α} {s : σ} {a : α}
    (h : o.Yields s a) (f : α → β) : (o.mapResult f).Yields s (f a) :=
  ⟨h.1, by rw [Outcome.mapResult, h.2]; rfl⟩

/-- The slot with other values; without any it goes. -/
def Slot.refilled? (s : Slot OrderedSet) (vs : List Value) : Option (Slot OrderedSet) :=
  if vs.isEmpty then none else some { s with value := { s.value with items := vs } }

section

variable {s : Slot OrderedSet} {vs : List Value}

@[simp] theorem Slot.refilled?_nil : s.refilled? [] = none := rfl

/-- A slot with values left stays, with its own key. -/
theorem Slot.refilled?_of_ne (h : vs ≠ []) :
    s.refilled? vs = some ⟨s.key, { s.value with items := vs }⟩ := by
  rw [refilled?, if_neg (by simpa using h)]

end

namespace Multimap

section

variable (m : Multimap) (k v : Value)

/-- Whether some slot is that of an equivalent key. -/
def hasKey : Bool := m.map.slots.any (m.isFor k)

/-- Whether an equivalent value stands under the key. -/
def holds : Bool := (m.under k).any fun w => m.valueComparator.compare.same w v

/-- A slot as it is revised: with other values if it is for the key, else
as it is. -/
def reviseSlot (change : List Value → List Value) (s : Slot OrderedSet) :
    Option (Slot OrderedSet) :=
  if m.isFor k s then s.refilled? (change s.value.items) else some s

/-- The multimap with the values in the slot of a key changed. The slot
goes if no value is left. -/
def revised (change : List Value → List Value) : Multimap :=
  let slots := m.map.slots.filterMap (m.reviseSlot k change)
  m.holding slots (countIn slots)

/-- The multimap without what is equivalent to a value under a key. -/
def withoutEntry : Multimap :=
  m.revised k fun vs => vs.filter fun w => !m.valueComparator.compare.same w v

/-- The multimap without any value under a key, and so without its slot. -/
def without : Multimap := m.revised k fun _ => []

/-- The multimap with a value that was not there put under a key: into the
slot of the key, between lesser and greater values, or else into a new slot
between those of lesser and greater keys. -/
inductive Added : Multimap → Prop where
  | grown {low high : List Value} : m.hasKey k = true → m.under k = low ++ high →
    (∀ w ∈ low, m.valueComparator.compare.Gives w v .lt) →
    (∀ w ∈ high, m.valueComparator.compare.Gives v w .lt) →
    Added (m.revised k fun _ => low ++ v :: high)
  | made {before after : List (Slot OrderedSet)} : m.hasKey k = false →
    m.map.slots = before ++ after →
    (∀ s ∈ before, m.keyComparator.compare.Gives s.key k .lt) →
    (∀ s ∈ after, m.keyComparator.compare.Gives k s.key .lt) →
    Added (m.holding (before ++ ⟨k, ⟨m.valueComparator, [v]⟩⟩ :: after) (m.total + 1))

end

variable {keys values : Comparator} {K V : Value → Prop} {m : Multimap} {k v w : Value}
  {s : Slot OrderedSet} {before after : List (Slot OrderedSet)} {low high vs : List Value}
  {f g : List Value → List Value}

-- ======================================================= one slot revised

/-- A key is missing if no slot is for it. -/
theorem hasKey_eq_false_iff : m.hasKey k = false ↔ ∀ t ∈ m.map.slots, m.isFor k t = false := by
  simp [hasKey]

private theorem hasKey_parted (hslots : m.map.slots = before ++ s :: after)
    (hfor : m.isFor k s = true) :
    m.hasKey k = true := by
  simp [hasKey, hslots, hfor]

private theorem reviseSlot_others {slots : List (Slot OrderedSet)}
    (h : ∀ t ∈ slots, m.isFor k t = false) : slots.filterMap (m.reviseSlot k f) = slots := by
  refine (List.filterMap_congr fun t ht => ?_).trans List.filterMap_some
  rw [reviseSlot, h t ht]
  rfl

/-- Around the slot for the key everything is kept. -/
theorem revised_parted (hslots : m.map.slots = before ++ s :: after) (hfor : m.isFor k s = true)
    (hothers : ∀ t ∈ before ++ after, m.isFor k t = false) :
    (m.revised k f).map.slots = before ++ ((s.refilled? (f s.value.items)).toList ++ after) := by
  have hrevised : m.reviseSlot k f s = s.refilled? (f s.value.items) := if_pos hfor
  rw [List.forall_mem_append] at hothers
  show m.map.slots.filterMap _ = _
  rw [hslots, List.filterMap_append, reviseSlot_others hothers.1, List.filterMap_cons, hrevised]
  cases s.refilled? (f s.value.items) with
  | none => simp [reviseSlot_others hothers.2]
  | some t => simp [reviseSlot_others hothers.2]

/-- Under the key stand the revised values; without any the slot is gone. -/
private theorem under_revised_parted (hslots : m.map.slots = before ++ s :: after)
    (hfor : m.isFor k s = true) (hothers : ∀ t ∈ before ++ after, m.isFor k t = false) :
    (m.revised k f).under k = f s.value.items
      ∧ (m.revised k f).hasKey k = !(f s.value.items).isEmpty := by
  have hrevised := revised_parted (f := f) hslots hfor hothers
  cases hvs : f s.value.items with
  | nil =>
    rw [hvs, Slot.refilled?_nil] at hrevised
    have hnone : ∀ t ∈ (m.revised k f).map.slots, (m.revised k f).isFor k t = false :=
      hrevised ▸ hothers
    exact ⟨under_absent hnone, hasKey_eq_false_iff.2 hnone⟩
  | cons v vs =>
    rw [hvs, Slot.refilled?_of_ne (List.cons_ne_nil v vs)] at hrevised
    exact ⟨under_parted hrevised hfor hothers, hasKey_parted hrevised hfor⟩

/-- An intact multimap with the slots of a revised one is the revised one:
the count follows from the slots. -/
theorem holding_eq_revised {slots : List (Slot OrderedSet)} {total : Nat}
    (h : Intact keys values (m.holding slots total)) (hslots : (m.revised k f).map.slots = slots) :
    m.holding slots total = m.revised k f := by
  have hcounted := h.counted
  simp only [holding_total, holding_slots] at hcounted
  subst hslots hcounted
  rfl

/-- A revised multimap holds its slots and counts their values. -/
theorem revised_eq_holding {slots : List (Slot OrderedSet)}
    (hslots : (m.revised k f).map.slots = slots) :
    m.revised k f = m.holding slots (countIn slots) := by
  subst hslots
  rfl

/-- Nothing is revised under a key that has no slot. -/
theorem revised_absent (h : Intact keys values m)
    (hnone : ∀ t ∈ m.map.slots, m.isFor k t = false) : m.revised k f = m :=
  (holding_eq_revised h (reviseSlot_others hnone)).symm

/-- The slots of other keys are left. -/
theorem without_slots : (m.without k).map.slots = m.map.slots.filter fun s => !m.isFor k s := by
  show m.map.slots.filterMap _ = _
  rw [← List.filterMap_eq_filter]
  refine List.filterMap_congr fun s _ => ?_
  cases hfor : m.isFor k s with
  | true => simp [reviseSlot, hfor, Option.guard]
  | false => simp [reviseSlot, hfor, Option.guard]

/-- The slots of other keys are kept. -/
theorem revised_others : (m.revised k f).map.slots.filter (fun s => !m.isFor k s)
    = m.map.slots.filter fun s => !m.isFor k s := by
  show (m.map.slots.filterMap (m.reviseSlot k f)).filter _ = _
  rw [List.filter_filterMap, ← List.filterMap_eq_filter]
  refine List.filterMap_congr fun s _ => ?_
  cases hfor : m.isFor k s with
  | false => simp [reviseSlot, hfor, Option.guard]
  | true =>
    cases hvs : f s.value.items with
    | nil => simp [reviseSlot, hfor, hvs, Option.guard]
    | cons v vs =>
      have hkept : m.isFor k ⟨s.key, { s.value with items := v :: vs }⟩ = true := hfor
      rw [reviseSlot, if_pos hfor, hvs, Slot.refilled?_of_ne (List.cons_ne_nil v vs)]
      simp [hkept, hfor, Option.guard]

namespace Ordered

variable (h : Ordered keys values K V m) (hk : keys.compare.TotalOn K) (hK : K k)

include h hk hK

/-- Nothing changes where the values under the key are kept. -/
theorem revised_same (hf : f (m.under k) = m.under k) : m.revised k f = m := by
  rcases h.located hk hK with ⟨-, hnone⟩ | ⟨before, s, after, hslots, -, hfor, hothers⟩
  · exact revised_absent h.toIntact hnone
  · rw [under_parted hslots hfor hothers] at hf
    refine (holding_eq_revised h.toIntact ?_).symm
    rw [revised_parted hslots hfor hothers, hf,
      Slot.refilled?_of_ne (h.toIntact.parted hslots).1.filled, hslots]
    rfl

/-- A key is there if and only if values stand under it. -/
theorem hasKey_eq : m.hasKey k = !(m.under k).isEmpty := by
  rcases h.located hk hK with ⟨-, hnone⟩ | ⟨before, s, after, hslots, -, hfor, hothers⟩
  · rw [hasKey_eq_false_iff.2 hnone, under_absent hnone]
    rfl
  · rw [hasKey_parted hslots hfor, under_parted hslots hfor hothers]
    have hfilled := (h.toIntact.parted hslots).1.filled
    simpa using hfilled

/-- What is under a key that was revised, and whether it is there. -/
theorem under_revised (hf : f [] = []) :
    (m.revised k f).under k = f (m.under k)
      ∧ (m.revised k f).hasKey k = !(f (m.under k)).isEmpty := by
  rcases h.located hk hK with ⟨-, hnone⟩ | ⟨before, s, after, hslots, -, hfor, hothers⟩
  · rw [revised_absent h.toIntact hnone, hasKey_eq_false_iff.2 hnone, under_absent hnone, hf]
    exact ⟨rfl, rfl⟩
  · rw [under_parted hslots hfor hothers]
    exact under_revised_parted hslots hfor hothers

/-- A key is equivalent to itself. -/
theorem same_self : m.keyComparator.compare.same k k = true := by
  rw [h.keyComparator]
  exact (hk.refl hK).same

/-- The value added stands among those under the key. -/
theorem under_added {m' : Multimap} (hadded : Added m k v m') :
    ∃ low high, m.under k = low ++ high ∧ m'.under k = low ++ v :: high := by
  cases hadded with
  | @grown low high hhas hunder _ _ =>
    refine ⟨low, high, hunder, ?_⟩
    rcases h.located hk hK with ⟨-, hnone⟩ | ⟨before, s, after, hslots, -, hfor, hothers⟩
    · rw [hasKey_eq_false_iff.2 hnone] at hhas
      cases hhas
    · exact (under_revised_parted hslots hfor hothers).1
  | @made before after habsent hslots _ _ =>
    have hnone := hasKey_eq_false_iff.1 habsent
    refine ⟨[], [], under_absent hnone, ?_⟩
    rw [hslots] at hnone
    exact under_parted (holding_slots ..) (h.same_self hk hK) hnone

/-- The question for a key is answered, by whether it is there. -/
theorem containsKey_eq : m.containsKey k = .ok (m.hasKey k) := by
  rw [h.containsKey hk hK, hasKey, h.isFor_eq, Multimap.keys, OrderedMap.keys, List.any_map]
  rfl

/-- Asking for an entry is asking the set that the search finds. -/
theorem containsEntry_eq (hv : values.compare.TotalOn V) (hV : V v) :
    m.containsEntry k v = .ok (m.holds k v) := by
  unfold Multimap.containsEntry holds
  rw [h.valuesAt?_eq hk hK, h.valueComparator]
  rcases h.located hk hK with ⟨-, hnone⟩ | ⟨before, s, after, hslots, -, hfor, hothers⟩
  · rw [under_absent hnone, find?_absent hnone]
    rfl
  · have hs := mem_of_parted hslots
    rw [under_parted hslots hfor hothers, hslots, find?_once hfor hothers]
    exact h.contains_slot hv hV hs

/-- Taking out what is not there changes nothing. -/
theorem withoutEntry_absent (hnone : m.holds k v = false) : m.withoutEntry k v = m := by
  refine h.revised_same hk hK (List.filter_eq_self.2 fun w hw => ?_)
  simpa using List.any_eq_false.1 hnone w hw

end Ordered

-- ================================================== the basic changes

namespace Ordered

variable (h : Ordered keys values K V m)

include h

/-- Taking out a key gives its values and leaves all else. -/
theorem removeAll_effect (hk : keys.compare.TotalOn K) (hK : K k) :
    (m.removeAll k).Yields (m.without k) ⟨values, m.under k⟩ := by
  have hintact := h.toIntact.removeAll k
  have hstep := removeAll_step m k
  generalize m.removeAll k = o at hstep hintact ⊢
  cases hstep with
  | failed he _ =>
    obtain ⟨place, hplace⟩ := h.find_total hk hK
    rw [hplace] at he
    cases he
  | keyless hlacks =>
    have hnone := h.absent hk hK (h.find_of_lacks hk hK hlacks)
    refine ⟨(revised_absent h.toIntact hnone).symm, ?_⟩
    rw [under_absent hnone, ← h.valueComparator]
    rfl
  | removed hslots hfind =>
    obtain ⟨hfor, hothers⟩ := h.found hk hK hslots hfind
    refine ⟨holding_eq_revised hintact (revised_parted hslots hfor hothers), ?_⟩
    rw [under_parted hslots hfor hothers, ← (h.toIntact.parted hslots).1.comparator]
    rfl

/-- Taking out an entry tells whether it was there and leaves all else. -/
theorem remove_effect (hk : keys.compare.TotalOn K) (hv : values.compare.TotalOn V) (hK : K k)
    (hV : V v) : (m.remove k v).Yields (m.withoutEntry k v) (m.holds k v) := by
  have hintact := h.toIntact.remove k v
  have hstep := remove_step m k v
  generalize m.remove k v = o at hstep hintact ⊢
  unfold withoutEntry holds
  rw [h.valueComparator]
  cases hstep with
  | failed hfail => exact absurd hfail (h.not_removeFailure hk hv hK hV)
  | keyless hlacks =>
    have hnone := h.absent hk hK (h.find_of_lacks hk hK hlacks)
    refine ⟨(revised_absent h.toIntact hnone).symm, ?_⟩
    rw [under_absent hnone]
    rfl
  | valueless hslots hfind hvalue =>
    obtain ⟨hfor, hothers⟩ := h.found hk hK hslots hfind
    have hnone := h.absent_value hv hV hslots hvalue
    -- nothing equivalent is there, so the filter keeps the slot as it is
    rw [← under_parted hslots hfor hothers] at hnone
    refine ⟨(h.revised_same hk hK ?_).symm, ?_⟩
    · exact List.filter_eq_self.2 fun w hw => by simp [hnone w hw]
    · exact congrArg Except.ok (List.any_eq_false.2 fun w hw => by simp [hnone w hw]).symm
  | shrunk hslots hfind hvalue hitems hne =>
    obtain ⟨hfor, hothers⟩ := h.found hk hK hslots hfind
    obtain ⟨hsame, hdiffer⟩ := h.found_value hv hV hslots hitems hvalue
    refine ⟨holding_eq_revised hintact ?_, ?_⟩
    · rw [revised_parted hslots hfor hothers, hitems,
        filter_once (P := fun x => values.compare.same x v) hsame hdiffer,
        Slot.refilled?_of_ne hne]
      rfl
    · rw [under_parted hslots hfor hothers, hitems]
      simp [Outcome.done, hsame]
  | @emptied before after s w hslots hfind hvalue hitems =>
    obtain ⟨hfor, hothers⟩ := h.found hk hK hslots hfind
    -- the filter leaves nothing of the only value, and the slot goes with it
    have hparts : s.value.items = [] ++ w :: [] := hitems
    obtain ⟨hsame, hdiffer⟩ := h.found_value hv hV hslots hparts hvalue
    refine ⟨holding_eq_revised hintact ?_, ?_⟩
    · rw [revised_parted hslots hfor hothers, hparts,
        filter_once (P := fun x => values.compare.same x v) hsame hdiffer]
      rfl
    · rw [under_parted hslots hfor hothers, hitems]
      simp [Outcome.done, hsame]

/-- Putting changes nothing where the value is there, and else adds it. -/
theorem put_effect (hk : keys.compare.TotalOn K) (hv : values.compare.TotalOn V) (hK : K k)
    (hV : V v) :
    (m.holds k v = true ∧ (m.put k v).Yields m false)
      ∨ m.holds k v = false ∧ ∃ m', Added m k v m' ∧ (m.put k v).Yields m' true := by
  -- both facts are kept about any outcome, so that the step can be taken apart
  have hintact := h.toIntact.put k v
  have hstep := put_step m k v
  generalize m.put k v = o at hstep hintact ⊢
  unfold holds
  rw [h.valueComparator]
  -- a total order never fails, so only three of the four steps remain
  cases hstep with
  | failed hfail => exact absurd hfail (h.not_putFailure hk hv hK hV)
  | present _ hslots hfind hvalue =>
    obtain ⟨hfor, hothers⟩ := h.found hk hK hslots hfind
    obtain ⟨low, w, high, hitems, rfl, -⟩ := Bisect.find_parted hvalue
    obtain ⟨hsame, -⟩ := h.found_value hv hV hslots hitems hvalue
    refine .inl ⟨?_, rfl, rfl⟩
    rw [under_parted hslots hfor hothers, hitems]
    simp [hsame]
  | @grown before after s low high _ hslots hfind hvalue hitems hu =>
    obtain ⟨hfor, hothers⟩ := h.found hk hK hslots hfind
    obtain ⟨hfindeq, hmem, hasc⟩ := h.slot hslots
    have hnone := h.absent_value hv hV hslots hvalue
    have hunder := under_parted hslots hfor hothers
    rw [(h.toIntact.parted hslots).1.comparator] at hu
    rw [hfindeq] at hvalue
    obtain ⟨hbelow, habove⟩ :=
      Bisect.absent_parted hv.consistentOn hmem hV hasc hvalue hitems hu
    refine .inr ⟨?_, _, .grown (hasKey_parted hslots hfor) (hunder.trans hitems) ?_ ?_, ?_, rfl⟩
    · rw [hunder]
      exact List.any_eq_false.2 fun w hw => by simp [hnone w hw]
    · rw [h.valueComparator]
      exact hbelow
    · rw [h.valueComparator]
      exact habove
    · refine holding_eq_revised hintact ?_
      rw [revised_parted hslots hfor hothers, Slot.refilled?_of_ne (by simp)]
      rfl
  | @made before after _ hslots hfind hu =>
    have hnone := h.absent hk hK hfind
    rw [h.find_eq] at hfind
    rw [h.keyComparator] at hu
    obtain ⟨hbelow, habove⟩ :=
      Bisect.absent_parted hk.consistentOn h.key_mem hK h.ascends hfind hslots hu
    refine .inr ⟨?_, _, .made (hasKey_eq_false_iff.2 hnone) hslots ?_ ?_, rfl, rfl⟩
    · rw [under_absent hnone]
      rfl
    · rw [h.keyComparator]
      exact hbelow
    · rw [h.keyComparator]
      exact habove

end Ordered

end Multimap

end Collation
