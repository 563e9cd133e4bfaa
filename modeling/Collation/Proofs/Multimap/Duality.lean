/-
Two multimaps side by side, one under the opposite orders of the other. At
every step the second is the first one turned: its slots backwards, each
with its values backwards (`Multimap.turned`). Neither search nor insertion
is looked into for this. What a change does is told by going through all
slots (module Effects), equivalence does not know which way the order runs
(`same_reversed`), and there is only one place where a new value or slot
can go (`Added.unique`). From the states turned the replies are turned
(`answer_turned`), call after call, and so is navigation: the parts of a
list above and below a probe change their places (module Navigation).
-/
import Collation.Proofs.Multimap.Effects
import Collation.Proofs.Navigation

namespace Collation

open Bisect (Ascends Parted)

-- ================================================================ turning

def OrderedSet.turned (values' : Comparator) (s : OrderedSet) : OrderedSet :=
  ⟨values', s.items.reverse⟩

def Slot.turned (values' : Comparator) (s : Slot OrderedSet) : Slot OrderedSet :=
  ⟨s.key, s.value.turned values'⟩

/-- The multimap backwards, ordered by other comparators. -/
def Multimap.turned (keys' values' : Comparator) (m : Multimap) : Multimap :=
  ⟨⟨keys', m.map.slots.reverse.map (Slot.turned values')⟩, values', m.total⟩

/-- The reply with everything that is listed in it backwards. -/
def Reply.turned (values' : Comparator) : Reply → Reply
  | flag b => flag b
  | snapshot s => snapshot (s.turned values')
  | number n => number n
  | keys ks => keys ks.reverse
  | entries es => entries es.reverse
  | nothing => nothing
  | failure e => failure e

/-- The second outcome is the first one turned. -/
structure Outcome.Turned {α β : Type} (keys' values' : Comparator) (f : α → β)
    (p : Outcome Multimap α) (p' : Outcome Multimap β) : Prop where
  state : p'.state = p.state.turned keys' values'
  result : p'.result = p.result.map f

namespace Outcome

variable {α β γ δ : Type} {keys' values' : Comparator} {f : α → β} {p : Outcome Multimap α}
  {p' : Outcome Multimap β} {m : Multimap} {a : α}

private theorem Yields.turned (h : p.Yields m a) (h' : p'.Yields (m.turned keys' values') (f a)) :
    p.Turned keys' values' f p' :=
  ⟨by rw [h'.1, h.1], by rw [h'.2, h.2]; rfl⟩

/-- Results that are made alike of turned results are turned. -/
private theorem Turned.mapResult {g : α → γ} {g' : β → δ} {f' : γ → δ}
    (h : p.Turned keys' values' f p')
    (hg : ∀ a, g' (f a) = f' (g a)) :
    (p.mapResult g).Turned keys' values' f' (p'.mapResult g') := by
  refine ⟨h.state, ?_⟩
  unfold Outcome.mapResult
  rw [h.result]
  cases p.result with
  | error e => rfl
  | ok a => exact congrArg Except.ok (hg a)

/-- What follows is turned as well, if it goes on from the turned state. -/
theorem Turned.andThen {g : Multimap → α → Outcome Multimap γ} {f' : γ → δ}
    {g' : Multimap → β → Outcome Multimap δ} (h : p.Turned keys' values' f p')
    (hnext : ∀ a, (g p.state a).Turned keys' values' f'
      (g' (p.state.turned keys' values') (f a))) :
    (p.andThen g).Turned keys' values' f' (p'.andThen g') := by
  unfold Outcome.andThen
  rw [h.result, h.state]
  cases p.result with
  | error e => exact ⟨rfl, rfl⟩
  | ok a => exact ⟨(hnext a).state, (hnext a).result⟩

/-- The replies to turned outcomes are turned. -/
theorem Turned.answer {reply : α → Reply} {reply' : β → Reply} (h : p.Turned keys' values' f p')
    (hreply : ∀ a, reply' (f a) = (reply a).turned values') :
    p'.answer reply'
      = ((p.answer reply).1.turned keys' values', (p.answer reply).2.turned values') := by
  unfold Outcome.answer
  rw [h.state, h.result]
  cases p.result with
  | error e => rfl
  | ok a => exact congrArg (Prod.mk _) (hreply a)

end Outcome

/-- Total preorders, and comparators of their opposite orders. -/
structure Opposed (K V : Value → Prop) (keys values keys' values' : Comparator) : Prop where
  keysTotal : keys.compare.TotalOn K
  valuesTotal : values.compare.TotalOn V
  keysReversed : keys'.compare = keys.compare.reversed
  valuesReversed : values'.compare = values.compare.reversed

/-- Equivalence is the same in the opposite order. -/
theorem Comparison.TotalOn.same_reversed {c : Comparison} {D : Value → Prop} {a b : Value}
    (hc : c.TotalOn D) (ha : D a) (hb : D b) : c.reversed.same a b = c.same a b :=
  hc.same_comm hb ha

namespace Opposed

variable {keys values keys' values' : Comparator} {K V : Value → Prop} {a b : Value}

private theorem keysTotal' (o : Opposed K V keys values keys' values') :
    keys'.compare.TotalOn K := by
  rw [o.keysReversed]
  exact o.keysTotal.reversed

private theorem valuesTotal' (o : Opposed K V keys values keys' values') :
    values'.compare.TotalOn V := by
  rw [o.valuesReversed]
  exact o.valuesTotal.reversed

private theorem sameKeys (o : Opposed K V keys values keys' values') (ha : K a) (hb : K b) :
    keys'.compare.same a b = keys.compare.same a b := by
  rw [o.keysReversed]
  exact o.keysTotal.same_reversed ha hb

private theorem sameValues (o : Opposed K V keys values keys' values') (ha : V a) (hb : V b) :
    values'.compare.same a b = values.compare.same a b := by
  rw [o.valuesReversed]
  exact o.valuesTotal.same_reversed ha hb

end Opposed

namespace Multimap

variable {keys values keys' values' : Comparator} {K V : Value → Prop} {m m' n' : Multimap}
  {k v : Value} {s : Slot OrderedSet} {f f' : List Value → List Value}

-- ============================================================= one place

/-- A list is parted in one way only into elements with a property and
elements without it. -/
theorem parted_unique {α : Type} {P : α → Prop} {low high low' high' : List α}
    (h : low ++ high = low' ++ high') (hlow : ∀ y ∈ low, P y) (hhigh : ∀ y ∈ high, ¬P y)
    (hlow' : ∀ y ∈ low', P y) (hhigh' : ∀ y ∈ high', ¬P y) : low = low' ∧ high = high' := by
  have hnone : ∀ between : List α, (∀ y ∈ between, P y) → (∀ y ∈ between, ¬P y) →
      between = [] := by
    intro between hyes hno
    refine List.eq_nil_iff_forall_not_mem.2 fun y hy => ?_
    exact hno y hy (hyes y hy)
  rcases List.append_eq_append_iff.1 h with ⟨between, rfl, rfl⟩ | ⟨between, rfl, rfl⟩
  · rw [List.forall_mem_append] at hlow' hhigh
    have hempty := hnone between hlow'.2 hhigh.1
    simp [hempty]
  · rw [List.forall_mem_append] at hlow hhigh'
    have hempty := hnone between hlow.2 hhigh'.1
    simp [hempty]

/-- There is one place only for a value that is not there. -/
theorem Added.unique (h : Ordered keys values K V m) (hk : keys.compare.TotalOn K)
    (hv : values.compare.TotalOn V) (hK : K k) (hV : V v) (hadded : Added m k v m')
    (hadded' : Added m k v n') : m' = n' := by
  -- the place of the new element is determined, since nothing is on both sides
  have hexclusive : ∀ {c : Comparison} {D : Value → Prop} {a b : Value}, c.TotalOn D → D a → D b →
      c.Gives a b .lt → ¬c.Gives b a .lt := by
    intro c D a b hc ha hb hlt hgt
    cases (hc.swap ha hb hlt).unique hgt
  cases hadded with
  | @grown low high hhas hunder hbelow habove =>
    cases hadded' with
    | made habsent _ _ _ =>
      rw [hhas] at habsent
      cases habsent
    | @grown low' high' _ hunder' hbelow' habove' =>
      have hmem := (h.under_ascends hk hK).1
      have hmem' := hmem
      rw [h.valueComparator] at hbelow habove hbelow' habove'
      rw [hunder, List.forall_mem_append] at hmem
      rw [hunder', List.forall_mem_append] at hmem'
      obtain ⟨rfl, rfl⟩ := parted_unique (P := fun w => values.compare.Gives w v .lt)
        (hunder.symm.trans hunder') hbelow
        (fun w hw => hexclusive hv hV (hmem.2 w hw) (habove w hw)) hbelow'
        (fun w hw => hexclusive hv hV (hmem'.2 w hw) (habove' w hw))
      rfl
  | @made before after habsent hslots hbelow habove =>
    cases hadded' with
    | grown hhas _ _ _ =>
      rw [hhas] at habsent
      cases habsent
    | @made before' after' _ hslots' hbelow' habove' =>
      have hmem := h.key_mem
      have hmem' := hmem
      rw [h.keyComparator] at hbelow habove hbelow' habove'
      rw [hslots, List.forall_mem_append] at hmem
      rw [hslots', List.forall_mem_append] at hmem'
      obtain ⟨rfl, rfl⟩ := parted_unique (P := fun t => keys.compare.Gives t.key k .lt)
        (hslots.symm.trans hslots') hbelow
        (fun t ht => hexclusive hk hK (hmem.2 t ht) (habove t ht)) hbelow'
        (fun t ht => hexclusive hk hK (hmem'.2 t ht) (habove' t ht))
      rfl

-- ===================================================== turned multimaps

@[simp] theorem turned_slots :
    (m.turned keys' values').map.slots = m.map.slots.reverse.map (Slot.turned values') := rfl

private theorem turned_keys : (m.turned keys' values').keys = m.keys.reverse := by
  unfold Multimap.keys OrderedMap.keys
  rw [turned_slots, List.map_map, ← List.map_reverse]
  rfl

private theorem turned_entries : (m.turned keys' values').entries = m.entries.reverse := by
  unfold entries
  rw [turned_slots, List.flatMap_map, List.reverse_flatMap]
  congr 1
  funext s
  exact (List.map_reverse ..)

private theorem turned_values : (m.turned keys' values').values = m.values.reverse := by
  unfold Multimap.values
  rw [turned_slots, List.flatMap_map, List.reverse_flatMap]
  rfl

private theorem countIn_turned (slots : List (Slot OrderedSet)) :
    countIn (slots.reverse.map (Slot.turned values')) = countIn slots := by
  unfold countIn
  rw [List.map_map, List.map_reverse, List.sum_reverse]
  congr 2
  funext s
  exact List.length_reverse

variable (o : Opposed K V keys values keys' values') (h : Ordered keys values K V m)

include o h

/-- A turned multimap is in the opposite order. -/
private theorem Ordered.turned : Ordered keys' values' K V (m.turned keys' values') where
  keyComparator := rfl
  valueComparator := rfl
  slots := by
    refine List.forall_mem_map.2 fun s hs => ?_
    have hs := h.slots s (List.mem_reverse.1 hs)
    refine ⟨rfl, fun hnil => hs.filled (List.reverse_eq_nil_iff.1 hnil), fun hnull => ?_,
      fun hnull => ?_⟩
    · obtain ⟨r, hr⟩ := hs.nullKey hnull
      exact ⟨r, by rw [o.keysReversed]; exact hr⟩
    · obtain ⟨r, hr⟩ := hs.nullValue (List.mem_reverse.1 hnull)
      exact ⟨r, by rw [o.valuesReversed]; exact hr⟩
  counted := h.counted.trans (countIn_turned _).symm
  ordered := by
    refine List.forall_mem_map.2 fun s hs => ?_
    have hs := h.ordered s (List.mem_reverse.1 hs)
    refine ⟨hs.key_mem, fun w hw => hs.value_mem w (List.mem_reverse.1 hw), ?_⟩
    rw [o.valuesReversed]
    exact hs.ascends.reversed
  ascends := by
    rw [o.keysReversed]
    exact List.pairwise_map.2 h.ascends.reversed

private theorem turned_isFor (hK : K k) (hs : s ∈ m.map.slots) :
    (m.turned keys' values').isFor k (s.turned values') = m.isFor k s := by
  rw [h.isFor_eq]
  exact o.sameKeys (h.key_mem s hs) hK

/-- The slot for a key is turned with the others. -/
theorem turned_find? (hK : K k) :
    (m.turned keys' values').map.slots.find? ((m.turned keys' values').isFor k)
      = (m.map.slots.find? (m.isFor k)).map (Slot.turned values') := by
  rcases h.located o.keysTotal hK with ⟨-, hnone⟩ | ⟨before, s, after, hslots, -, hfor, hothers⟩
  · rw [find?_absent hnone]
    refine find?_absent (List.forall_mem_map.2 fun t ht => ?_)
    rw [List.mem_reverse] at ht
    rw [turned_isFor o h hK ht]
    exact hnone t ht
  · have hmem : ∀ t ∈ before ++ after, t ∈ m.map.slots := by
      intro t ht
      rw [hslots]
      exact ((List.sublist_cons_self s after).append_left before).mem ht
    -- the slot of the key is the only one, so the order of the scan does not matter
    have hturned : (m.turned keys' values').map.slots
        = after.reverse.map (Slot.turned values')
          ++ s.turned values' :: before.reverse.map (Slot.turned values') := by
      rw [turned_slots, hslots]
      simp
    rw [hturned, hslots, find?_once hfor hothers]
    refine find?_once ?_ ?_
    · rw [turned_isFor o h hK (mem_of_parted hslots)]
      exact hfor
    · rw [← List.map_append, ← List.reverse_append]
      refine List.forall_mem_map.2 fun t ht => ?_
      rw [List.mem_reverse] at ht
      rw [turned_isFor o h hK (hmem t ht)]
      exact hothers t ht

/-- Under a key stand the same values, the other way round. -/
private theorem turned_under (hK : K k) :
    (m.turned keys' values').under k = (m.under k).reverse := by
  unfold under
  rw [turned_find? o h hK]
  cases m.map.slots.find? (m.isFor k) with
  | none => rfl
  | some s => rfl

private theorem turned_hasKey (hK : K k) : (m.turned keys' values').hasKey k = m.hasKey k := by
  rw [h.hasKey_eq o.keysTotal hK, (h.turned o).hasKey_eq o.keysTotal' hK, turned_under o h hK,
    List.isEmpty_reverse]

/-- The same entries are there. -/
private theorem turned_holds (hK : K k) (hV : V v) :
    (m.turned keys' values').holds k v = m.holds k v := by
  unfold holds
  rw [turned_under o h hK, List.any_reverse, h.valueComparator]
  rw [Bool.eq_iff_iff, List.any_eq_true, List.any_eq_true]
  refine exists_congr fun w => and_congr_right fun hw => ?_
  show values'.compare.same w v = true ↔ _
  rw [o.sameValues ((h.under_ascends o.keysTotal hK).1 w hw) hV]

/-- A change of the values under a key is turned, if it is the turned
change that is made of the values turned. -/
theorem turned_revised (hK : K k)
    (hf : ∀ s ∈ m.map.slots, f' s.value.items.reverse = (f s.value.items).reverse) :
    (m.turned keys' values').revised k f' = (m.revised k f).turned keys' values' := by
  have hslot : ∀ s ∈ m.map.slots,
      (m.turned keys' values').reviseSlot k f' (s.turned values')
        = (m.reviseSlot k f s).map (Slot.turned values') := by
    intro s hs
    unfold reviseSlot
    rw [turned_isFor o h hK hs]
    cases m.isFor k s with
    | false => rfl
    | true =>
      rw [if_pos rfl, if_pos rfl]
      show (s.turned values').refilled? (f' s.value.items.reverse) = _
      rw [hf s hs]
      unfold Slot.refilled?
      rw [List.isEmpty_reverse]
      split <;> rfl
  -- slot by slot, and the slots are listed the other way round
  have hslots : ((m.turned keys' values').revised k f').map.slots
      = ((m.revised k f).turned keys' values').map.slots := by
    show (m.map.slots.reverse.map (Slot.turned values')).filterMap _
      = (m.map.slots.filterMap _).reverse.map (Slot.turned values')
    rw [List.filterMap_map, List.filterMap_reverse, List.map_reverse, List.map_filterMap]
    exact congrArg List.reverse (List.filterMap_congr hslot)
  rw [revised_eq_holding hslots]
  unfold Multimap.turned Multimap.holding
  rw [countIn_turned]
  rfl

-- ========================================================= basic changes

/-- What a put adds is added on the other side. -/
private theorem Added.turned (hK : K k) (hadded : Added m k v m') :
    Added (m.turned keys' values') k v (m'.turned keys' values') := by
  cases hadded with
  | @grown low high hhas hunder hbelow habove =>
    rw [h.valueComparator] at hbelow habove
    have hgrown : (m.revised k fun _ => low ++ v :: high).turned keys' values'
        = (m.turned keys' values').revised k fun _ => high.reverse ++ v :: low.reverse :=
      (turned_revised o h hK fun _ _ => by simp).symm
    rw [hgrown]
    -- below and above change places
    refine .grown ?_ ?_ ?_ ?_
    · rw [turned_hasKey o h hK]
      exact hhas
    · rw [turned_under o h hK, hunder, List.reverse_append]
    · intro w hw
      show values'.compare.Gives w v .lt
      rw [o.valuesReversed]
      exact habove w (List.mem_reverse.1 hw)
    · intro w hw
      show values'.compare.Gives v w .lt
      rw [o.valuesReversed]
      exact hbelow w (List.mem_reverse.1 hw)
  | @made before after habsent hslots hbelow habove =>
    rw [h.keyComparator] at hbelow habove
    have hmade : (m.holding (before ++ ⟨k, ⟨m.valueComparator, [v]⟩⟩ :: after)
          (m.total + 1)).turned keys' values'
        = (m.turned keys' values').holding
            (after.reverse.map (Slot.turned values')
              ++ ⟨k, ⟨values', [v]⟩⟩ :: before.reverse.map (Slot.turned values'))
            (m.total + 1) := by
      simp [Multimap.turned, Multimap.holding, Slot.turned, OrderedSet.turned]
    rw [hmade]
    refine .made ?_ ?_ ?_ ?_
    · rw [turned_hasKey o h hK]
      exact habsent
    · rw [turned_slots, hslots, List.reverse_append, List.map_append]
    · refine List.forall_mem_map.2 fun t ht => ?_
      show keys'.compare.Gives t.key k .lt
      rw [o.keysReversed]
      exact habove t (List.mem_reverse.1 ht)
    · refine List.forall_mem_map.2 fun t ht => ?_
      show keys'.compare.Gives k t.key .lt
      rw [o.keysReversed]
      exact hbelow t (List.mem_reverse.1 ht)

/-- Putting into the multimap turned is putting and turning. -/
theorem turned_put (hK : K k) (hV : V v) :
    (m.put k v).Turned keys' values' id ((m.turned keys' values').put k v) := by
  have ht := h.turned o
  rcases h.put_effect o.keysTotal o.valuesTotal hK hV with
    ⟨hheld, hyields⟩ | ⟨hnew, m', hadded, hyields⟩
  · rcases ht.put_effect o.keysTotal' o.valuesTotal' hK hV with ⟨-, hyields'⟩ | ⟨hnew', -⟩
    · exact hyields.turned hyields'
    · rw [turned_holds o h hK hV, hheld] at hnew'
      cases hnew'
  · rcases ht.put_effect o.keysTotal' o.valuesTotal' hK hV with
      ⟨hheld', -⟩ | ⟨-, n', hadded', hyields'⟩
    · rw [turned_holds o h hK hV, hnew] at hheld'
      cases hheld'
    · have hturned := hadded.turned o h hK
      rw [hadded'.unique ht o.keysTotal' o.valuesTotal' hK hV hturned] at hyields'
      exact hyields.turned hyields'

/-- Taking out an entry does the same on both sides. -/
private theorem turned_remove (hK : K k) (hV : V v) :
    (m.remove k v).Turned keys' values' id ((m.turned keys' values').remove k v) := by
  have hyields := h.remove_effect o.keysTotal o.valuesTotal hK hV
  have hyields' := (h.turned o).remove_effect o.keysTotal' o.valuesTotal' hK hV
  have hwithout : (m.turned keys' values').withoutEntry k v
      = (m.withoutEntry k v).turned keys' values' := by
    refine turned_revised o h hK fun s hs => ?_
    rw [List.filter_reverse, h.valueComparator]
    refine congrArg List.reverse (List.filter_congr fun w hw => ?_)
    show (!values'.compare.same w v) = _
    rw [o.sameValues ((h.ordered s hs).value_mem w hw) hV]
  rw [hwithout, turned_holds o h hK hV] at hyields'
  exact hyields.turned hyields'

/-- So does taking out a key, whose values come out turned. -/
private theorem turned_removeAll (hK : K k) :
    (m.removeAll k).Turned keys' values' (OrderedSet.turned values')
      ((m.turned keys' values').removeAll k) := by
  have hyields := h.removeAll_effect o.keysTotal hK
  have hyields' := (h.turned o).removeAll_effect o.keysTotal' hK
  have hwithout : (m.turned keys' values').without k = (m.without k).turned keys' values' :=
    turned_revised o h hK fun _ _ => rfl
  rw [hwithout, turned_under o h hK] at hyields'
  exact hyields.turned hyields'

-- ======================================================= several changes

omit h in
/-- So does putting values, one after the other. -/
private theorem turned_putEach (hK : K k) : ∀ {vs : List Value}, (∀ v ∈ vs, V v) →
    ∀ {m : Multimap}, Ordered keys values K V m →
      (m.putEach k vs).Turned keys' values' id ((m.turned keys' values').putEach k vs) := by
  intro vs
  induction vs with
  | nil => exact fun _ _ _ => ⟨rfl, rfl⟩
  | cons v vs ih =>
    intro hvs m h
    rw [List.forall_mem_cons] at hvs
    have hnext := h.put o.keysTotal.consistentOn o.valuesTotal.consistentOn hK hvs.1
    refine (turned_put o h hK hvs.1).andThen fun isNew => ?_
    exact (ih hvs.2 hnext).mapResult fun _ => rfl

omit h in
/-- So does putting entries, one after the other. -/
private theorem turned_putItems : ∀ {items : List Value},
    (∀ item ∈ items, ∀ k v, entryOf item = .ok (k, v) → K k ∧ V v) →
    ∀ {m : Multimap}, Ordered keys values K V m →
      (m.putItems items).Turned keys' values' id ((m.turned keys' values').putItems items) := by
  intro items
  induction items with
  | nil => exact fun _ _ _ => ⟨rfl, rfl⟩
  | cons item rest ih =>
    intro hitems m h
    rw [List.forall_mem_cons] at hitems
    unfold putItems
    cases hentry : entryOf item with
    | error e => exact ⟨rfl, rfl⟩
    | ok entry =>
      obtain ⟨k, v⟩ := entry
      obtain ⟨hK, hV⟩ := hitems.1 k v hentry
      have hnext := h.put o.keysTotal.consistentOn o.valuesTotal.consistentOn hK hV
      refine (turned_put o h hK hV).andThen fun isNew => ?_
      exact (ih hitems.2 hnext).mapResult fun _ => rfl

private theorem turned_replaceValues (hK : K k) {vs : List Value} (hvs : ∀ v ∈ vs, V v) :
    (m.replaceValues k vs).Turned keys' values' (OrderedSet.turned values')
      ((m.turned keys' values').replaceValues k vs) := by
  refine (turned_removeAll o h hK).andThen fun previous => ?_
  exact (turned_putEach o hK hvs (h.removeAll k)).mapResult fun _ => rfl

-- ============================================================== replies

private theorem turned_containsKey (hK : K k) :
    (m.turned keys' values').containsKey k = m.containsKey k := by
  rw [(h.turned o).containsKey_eq o.keysTotal' hK, h.containsKey_eq o.keysTotal hK,
    turned_hasKey o h hK]

private theorem turned_containsEntry (hK : K k) (hV : V v) :
    (m.turned keys' values').containsEntry k v = m.containsEntry k v := by
  rw [(h.turned o).containsEntry_eq o.keysTotal' hK o.valuesTotal' hV,
    h.containsEntry_eq o.keysTotal hK o.valuesTotal hV, turned_holds o h hK hV]

private theorem turned_containsValue (hV : V v) :
    (m.turned keys' values').containsValue v = m.containsValue v := by
  rw [(h.turned o).containsValue o.valuesTotal' hV, h.containsValue o.valuesTotal hV,
    turned_values, List.any_reverse]
  refine congrArg Except.ok ?_
  rw [Bool.eq_iff_iff, List.any_eq_true, List.any_eq_true]
  refine exists_congr fun w => and_congr_right fun hw => ?_
  obtain ⟨s, hs, hw⟩ := List.mem_flatMap.1 hw
  rw [o.sameValues ((h.ordered s hs).value_mem w hw) hV]

/-- A call of the multimap turned is replied to as of the multimap, with the
reply turned, and leaves what is left there turned. -/
theorem answer_turned {call : Call} (hcall : call.Within K V) :
    (m.turned keys' values').answer call
      = ((m.answer call).1.turned keys' values', (m.answer call).2.turned values') := by
  have hflag : ∀ {r r' : Except Fault Bool}, r' = r →
      Reply.of .flag r' = (Reply.of .flag r).turned values' := by
    intro r r' hr
    rw [hr]
    cases r <;> rfl
  cases call with
  | put k v => exact (turned_put o h hcall.1 hcall.2).answer fun _ => rfl
  | putAll k vs => exact (turned_putEach o hcall.1 hcall.2 h).answer fun _ => rfl
  | putAllFrom items => exact (turned_putItems o hcall h).answer fun _ => rfl
  | remove k v => exact (turned_remove o h hcall.1 hcall.2).answer fun _ => rfl
  | removeAll k => exact (turned_removeAll o h hcall).answer fun _ => rfl
  | replaceValues k vs => exact (turned_replaceValues o h hcall.1 hcall.2).answer fun _ => rfl
  | clear => rfl
  | containsKey k => exact congrArg (Prod.mk _) (hflag (turned_containsKey o h hcall))
  | containsEntry k v =>
    exact congrArg (Prod.mk _) (hflag (turned_containsEntry o h hcall.1 hcall.2))
  | containsValue v => exact congrArg (Prod.mk _) (hflag (turned_containsValue o h hcall))
  | size => rfl
  | isEmpty => rfl
  | listKeys => exact congrArg (Prod.mk _) (congrArg Reply.keys turned_keys)
  | listEntries => exact congrArg (Prod.mk _) (congrArg Reply.entries turned_entries)

end Multimap

-- =========================================================== navigation

/-- What one collection answers upwards another one answers downwards: at
its ends, if anything is listed, and about every probe. -/
structure Navigation.Swapped (D : Value → Prop) (listed : List Value) (p q : Navigation) :
    Prop where
  first : listed ≠ [] → ∃ v, p.first = .ok v ∧ q.last = .ok v
  last : listed ≠ [] → ∃ v, p.last = .ok v ∧ q.first = .ok v
  lower : ∀ x, D x → ∃ w, p.lower x = .ok w ∧ q.higher x = .ok w
  floor : ∀ x, D x → ∃ w, p.floor x = .ok w ∧ q.ceiling x = .ok w
  ceiling : ∀ x, D x → ∃ w, p.ceiling x = .ok w ∧ q.floor x = .ok w
  higher : ∀ x, D x → ∃ w, p.higher x = .ok w ∧ q.lower x = .ok w

section

variable {keys values keys' values' : Comparator} {K V : Value → Prop} {m : Multimap} {k : Value}
  {s : OrderedSet}

/-- The ends and the neighbours of the values are swapped. -/
private theorem OrderedSet.turned_swapped (hv : s.comparator.compare.TotalOn V)
    (hreversed : values'.compare = s.comparator.compare.reversed) (hmem : ∀ w ∈ s.items, V w)
    (hasc : Ascends s.comparator.compare id s.items) :
    s.navigation.Swapped V s.items (s.turned values').navigation := by
  -- the same three parts, in the opposite order
  have hneighbours : ∀ x, V x → ∃ below level above,
      Parted s.comparator.compare id s.items x below level above
        ∧ Parted values'.compare id s.items.reverse x above.reverse level.reverse
            below.reverse := by
    intro x hx
    obtain ⟨below, level, above, hparted⟩ := hasc.parted hv hmem hx
    exact ⟨below, level, above, hparted, hreversed ▸ hparted.reversed⟩
  refine ⟨fun hne => ?_, fun hne => ?_, fun x hx => ?_, fun x hx => ?_, fun x hx => ?_,
    fun x hx => ?_⟩
  · refine ⟨s.items.head hne, ?_, ?_⟩
    · simp [OrderedSet.navigation, OrderedSet.first, List.head?_eq_some_head hne]
    · simp [OrderedSet.navigation, OrderedSet.last, OrderedSet.turned,
        List.head?_eq_some_head hne]
  · refine ⟨s.items.getLast hne, ?_, ?_⟩
    · simp [OrderedSet.navigation, OrderedSet.last, List.getLast?_eq_some_getLast hne]
    · simp [OrderedSet.navigation, OrderedSet.first, OrderedSet.turned,
        List.getLast?_eq_some_getLast hne]
  · obtain ⟨below, level, above, hparted, hparted'⟩ := hneighbours x hx
    exact ⟨_, hparted.lower, hparted'.higher.trans (by rw [List.head?_reverse])⟩
  · obtain ⟨below, level, above, hparted, hparted'⟩ := hneighbours x hx
    refine ⟨_, hparted.floor, hparted'.ceiling.trans ?_⟩
    rw [← List.reverse_append, List.head?_reverse]
  · obtain ⟨below, level, above, hparted, hparted'⟩ := hneighbours x hx
    refine ⟨_, hparted.ceiling, hparted'.floor.trans ?_⟩
    rw [← List.reverse_append, List.getLast?_reverse]
  · obtain ⟨below, level, above, hparted, hparted'⟩ := hneighbours x hx
    exact ⟨_, hparted.higher, hparted'.lower.trans (by rw [List.getLast?_reverse])⟩

private theorem Multimap.Ordered.keySet (h : Ordered keys values K V m) :
    (∀ w ∈ m.keys, K w) ∧ Ascends keys.compare id m.keys :=
  ⟨List.forall_mem_map.2 h.key_mem, List.pairwise_map.2 h.ascends⟩

private theorem Multimap.turned_keys_swapped (o : Opposed K V keys values keys' values')
    (h : Ordered keys values K V m) :
    m.map.navigation.Swapped K m.keys (m.turned keys' values').map.navigation := by
  obtain rfl : m.map.comparator = keys := h.keyComparator
  obtain ⟨hmem, hasc⟩ := h.keySet
  have hkeys : (m.turned keys' values').map.keySet = m.map.keySet.turned keys' :=
    congrArg (OrderedSet.mk keys') turned_keys
  have hempty : m.keys ≠ [] → (m.turned keys' values').map.keys ≠ [] := by
    intro hne
    show (m.turned keys' values').keys ≠ []
    rw [turned_keys]
    exact fun hnil => hne (List.reverse_eq_nil_iff.1 hnil)
  have hset : m.map.keySet.navigation.Swapped K m.map.keySet.items
      (m.map.keySet.turned keys').navigation :=
    OrderedSet.turned_swapped o.keysTotal o.keysReversed hmem hasc
  rw [← hkeys] at hset
  refine ⟨fun hne => ?_, fun hne => ?_, fun x hx => ?_, fun x hx => ?_, fun x hx => ?_,
    fun x hx => ?_⟩
  · obtain ⟨w, hw, hw'⟩ := hset.first hne
    exact ⟨w, (OrderedMap.firstKey_eq hne).trans hw, (OrderedMap.lastKey_eq (hempty hne)).trans hw'⟩
  · obtain ⟨w, hw, hw'⟩ := hset.last hne
    exact ⟨w, (OrderedMap.lastKey_eq hne).trans hw, (OrderedMap.firstKey_eq (hempty hne)).trans hw'⟩
  · obtain ⟨w, hw, hw'⟩ := hset.lower x hx
    exact ⟨w, OrderedMap.lowerKey_eq.trans hw, OrderedMap.higherKey_eq.trans hw'⟩
  · obtain ⟨w, hw, hw'⟩ := hset.floor x hx
    exact ⟨w, OrderedMap.floorKey_eq.trans hw, OrderedMap.ceilingKey_eq.trans hw'⟩
  · obtain ⟨w, hw, hw'⟩ := hset.ceiling x hx
    exact ⟨w, OrderedMap.ceilingKey_eq.trans hw, OrderedMap.floorKey_eq.trans hw'⟩
  · obtain ⟨w, hw, hw'⟩ := hset.higher x hx
    exact ⟨w, OrderedMap.higherKey_eq.trans hw, OrderedMap.lowerKey_eq.trans hw'⟩

/-- The views of the values under a key list the same values, one of them
backwards, and are swapped. -/
theorem Multimap.turned_view_swapped (o : Opposed K V keys values keys' values')
    (h : Ordered keys values K V m) (hK : K k) :
    ∃ vs, (SlotView.mk m k).items = .ok vs
      ∧ (SlotView.mk (m.turned keys' values') k).items = .ok vs.reverse
      ∧ (SlotView.mk m k).navigation.Swapped V vs
          (SlotView.mk (m.turned keys' values') k).navigation := by
  have ht := h.turned o
  refine ⟨m.under k, h.items_eq o.keysTotal hK, ?_, ?_⟩
  · rw [ht.items_eq o.keysTotal' hK, turned_under o h hK]
  · have hvalues : (SlotView.mk m k).values? = _ := h.valuesAt?_eq o.keysTotal hK
    have hvalues' : (SlotView.mk (m.turned keys' values') k).values? = _ :=
      ht.valuesAt?_eq o.keysTotal' hK
    rw [turned_find? o h hK] at hvalues'
    unfold under
    cases hfind : m.map.slots.find? (m.isFor k) with
    | none =>
      rw [hfind] at hvalues hvalues'
      refine ⟨fun hne => absurd rfl hne, fun hne => absurd rfl hne, ?_, ?_, ?_, ?_⟩
      all_goals
        exact fun x _ =>
          ⟨none, SlotView.navigate_none hvalues _, SlotView.navigate_none hvalues' _⟩
    | some s =>
      rw [hfind] at hvalues hvalues'
      have hs := List.mem_of_find?_eq_some hfind
      have hslot := h.ordered s hs
      obtain rfl := (h.slots s hs).comparator
      rw [SlotView.navigation_eq hvalues, SlotView.navigation_eq hvalues']
      exact OrderedSet.turned_swapped o.valuesTotal o.valuesReversed hslot.value_mem hslot.ascends

-- ================================================================= runs

/-- What is left after several calls. -/
def Multimap.leftBy (m : Multimap) (calls : List Call) : Multimap :=
  calls.foldl (fun m call => (m.answer call).1) m

/-- A call does no more than the basic changes that it is made of. -/
theorem Multimap.answer_leads {call : Call} (hcall : call.Within K V) (m : Multimap) :
    Leads K V m (m.answer call).1 := by
  cases call with
  | put k v => exact .put hcall.1 hcall.2 (.refl m)
  | putAll k vs => exact putEach_leads hcall.1 hcall.2 m
  | putAllFrom items => exact putItems_leads hcall m
  | remove k v => exact .remove k v (.refl m)
  | removeAll k => exact .removeAll k (.refl m)
  | replaceValues k vs => exact replaceValues_leads m hcall.1 hcall.2
  | clear => exact .clear (.refl m)
  | _ => exact .refl m

/-- Along a run the one multimap stays the other one turned, and so do the
replies. -/
theorem Multimap.run_turned (o : Opposed K V keys values keys' values') :
    ∀ {calls : List Call}, (∀ call ∈ calls, call.Within K V) →
      ∀ {m : Multimap}, Ordered keys values K V m →
        repliesTo answer (m.turned keys' values') calls
            = (repliesTo answer m calls).map (Reply.turned values')
          ∧ (m.turned keys' values').leftBy calls = (m.leftBy calls).turned keys' values'
          ∧ Ordered keys values K V (m.leftBy calls) := by
  intro calls
  induction calls with
  | nil => exact fun _ _ h => ⟨rfl, rfl, h⟩
  | cons call calls ih =>
    intro hcalls m h
    rw [List.forall_mem_cons] at hcalls
    have hnext : Ordered keys values K V (m.answer call).1 :=
      (Ordered.kept o.keysTotal.consistentOn o.valuesTotal.consistentOn).of_leads
        (answer_leads hcalls.1 m) h
    have hanswer := answer_turned o h hcalls.1
    obtain ⟨hreplies, hleft, hordered⟩ := ih hcalls.2 hnext
    refine ⟨?_, ?_, hordered⟩
    · unfold repliesTo
      rw [hanswer, hreplies]
      rfl
    · unfold leftBy at hleft ⊢
      rw [List.foldl_cons, List.foldl_cons, hanswer]
      exact hleft

/-- The same calls made on two empty multimaps, under total preorders on the
operands in use and under the opposite ones: the replies are the same,
except that what they list is listed backwards; so are the entries that are
left; and navigation in the keys and in the values under any key answers
upwards in the one what it answers downwards in the other. -/
theorem opposite_orders (hk : keys.compare.TotalOn K) (hv : values.compare.TotalOn V)
    (hkeys : keys'.compare = keys.compare.reversed)
    (hvalues : values'.compare = values.compare.reversed) (calls : List Call)
    (hcalls : ∀ call ∈ calls, call.Within K V) :
    let m := (Multimap.empty keys values).leftBy calls
    let n := (Multimap.empty keys' values').leftBy calls
    repliesTo Multimap.answer (.empty keys' values') calls
        = (repliesTo Multimap.answer (.empty keys values) calls).map (Reply.turned values')
      ∧ n.entries = m.entries.reverse
      ∧ m.map.navigation.Swapped K m.keys n.map.navigation
      ∧ ∀ k, K k → ∃ vs, (SlotView.mk m k).items = .ok vs ∧ (SlotView.mk n k).items = .ok vs.reverse
          ∧ (SlotView.mk m k).navigation.Swapped V vs (SlotView.mk n k).navigation := by
  intro m n
  have o : Opposed K V keys values keys' values' := ⟨hk, hv, hkeys, hvalues⟩
  obtain ⟨hreplies, hleft, hordered⟩ :=
    Multimap.run_turned o hcalls (Multimap.Ordered.empty keys values K V)
  have hn : n = m.turned keys' values' := hleft
  rw [hn]
  refine ⟨hreplies, Multimap.turned_entries, Multimap.turned_keys_swapped o hordered, ?_⟩
  exact fun k hK => Multimap.turned_view_swapped o hordered hK

/-- Texts by their case fold, forwards and backwards. -/
theorem opposite_orders_caseFold :
    let backwards : Comparator :=
      { identity := 5, compare := Comparator.caseFold.compare.reversed }
    let calls : List Call :=
      [.put (.text "pear") (.text "b"), .putAll (.text "PEAR") [.text "B", .text "a"],
        .put (.text "Apple") (.text "x"), .remove (.text "apple") (.text "Y"),
        .replaceValues (.text "APPLE") [.text "c", .text "C"], .removeAll (.text "fig")]
    let isText : Value → Prop := fun v => ∃ s, v.text? = some s
    let m := (Multimap.empty .caseFold .caseFold).leftBy calls
    let n := (Multimap.empty backwards backwards).leftBy calls
    Comparator.caseFold.compare.TotalOn isText ∧ (∀ call ∈ calls, call.Within isText isText)
      ∧ n.entries = m.entries.reverse := by
  intro backwards calls isText m n
  have hcalls : ∀ call ∈ calls, call.Within isText isText := by
    simp [calls, isText, Call.Within, Value.text?]
  have htotal := Comparator.caseFold_totalOn
  exact ⟨htotal, hcalls, (opposite_orders htotal htotal rfl rfl calls hcalls).2.1⟩

end

end Collation
