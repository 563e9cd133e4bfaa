/-
The views of a multimap read alike. Some go through the slots, some look
each key up again for its values, some ask a kept count, and membership is
searched for. Under total preorders on what is in use all of them tell of
the same entries in the same order, and so does the document of the
multimap.

Going through the slots needs no proof. A look-up of a stored key comes
back with the very slot, since a stored key is equivalent to itself and to
no other (`Ordered.get_slot`); the count is the invariant that bookkeeping
keeps (`Intact.counted`); and what a search answers is what the scan would
(module Lookup).
-/
import Collation.Proofs.Multimap.Lookup
import Collation.Proofs.Wire.Encodable

namespace Collation.Multimap

open Wire

variable {keys values : Comparator} {K V : Value → Prop} {m : Multimap} {t : Slot OrderedSet}

-- ==================================================== distinct keys

/-- The first parts of the entries, each once, are the keys: the entries of
a slot have its own key, and no later slot has an equivalent one. -/
theorem eraseDupsBy_keys {same : Value → Value → Bool} : ∀ {slots : List (Slot OrderedSet)},
    (∀ t ∈ slots, t.value.items ≠ [] ∧ same t.key t.key = true) →
    (slots.Pairwise fun s t => same t.key s.key = false) →
    (slots.flatMap fun t => t.value.items.map fun _ => t.key).eraseDupsBy same
      = slots.map Slot.key := by
  intro slots
  induction slots with
  | nil => exact fun _ _ => rfl
  | cons s rest ih =>
    intro hslots hdiffer
    rw [List.forall_mem_cons] at hslots
    rw [List.pairwise_cons] at hdiffer
    obtain ⟨⟨hfilled, hself⟩, hrest⟩ := hslots
    obtain ⟨v, vs, hitems⟩ := List.exists_cons_of_ne_nil hfilled
    -- of the rest, the entries of this slot are dropped and no others
    have hown : (vs.map fun _ => s.key).filter (fun k => decide (same k s.key = false)) = [] := by
      simp [hself]
    have hothers : (rest.flatMap fun t => t.value.items.map fun _ => t.key).filter
        (fun k => decide (same k s.key = false))
          = rest.flatMap fun t => t.value.items.map fun _ => t.key := by
      refine List.filter_eq_self.2 fun k hk => ?_
      obtain ⟨t, ht, hk⟩ := List.mem_flatMap.1 hk
      obtain ⟨_, -, rfl⟩ := List.mem_map.1 hk
      exact decide_eq_true (hdiffer.1 t ht)
    rw [List.flatMap_cons, hitems, List.map_cons, List.cons_append, List.eraseDupsBy_cons,
      List.filter_append, hown, hothers, List.nil_append, ih hrest hdiffer.2, List.map_cons]

namespace Ordered

variable (h : Ordered keys values K V m)

include h

/-- The keys are those of the entries, each once. -/
private theorem distinct_keys (hk : keys.compare.TotalOn K) :
    m.keys = (m.entries.map Prod.fst).eraseDupsBy keys.compare.same := by
  have hfirst : m.entries.map Prod.fst
      = m.map.slots.flatMap fun t => t.value.items.map fun _ => t.key := by
    simp [entries, List.map_flatMap, Function.comp_def]
  have hslots : ∀ t ∈ m.map.slots,
      t.value.items ≠ [] ∧ keys.compare.same t.key t.key = true :=
    fun t ht => ⟨(h.slots t ht).filled, (hk.refl (h.key_mem t ht)).same⟩
  have hdiffer : m.map.slots.Pairwise fun s t => keys.compare.same t.key s.key = false := by
    refine h.ascends.imp_of_mem fun {s t} hs ht hlt => ?_
    have hgt : keys.compare.Gives t.key s.key .gt := hk.swap (h.key_mem s hs) (h.key_mem t ht) hlt
    exact hgt.same
  rw [hfirst, eraseDupsBy_keys hslots hdiffer]
  rfl

-- ===================================================== looked up again

/-- Looking up a stored key gives its own slot. -/
theorem get_slot (hk : keys.compare.TotalOn K) (ht : t ∈ m.map.slots) :
    m.asMap.get t.key = .ok ⟨m, t.key⟩ ∧ (SlotView.mk m t.key).items = .ok t.value.items :=
  h.keysOrdered.get_slot hk.consistentOn ht (hk.refl (h.key_mem t ht))

private theorem items_asMap (hk : keys.compare.TotalOn K) :
    m.asMap.items = .ok (m.map.slots.map fun t => (t.key, ⟨m, t.key⟩)) := by
  refine mapM_eq_ok.2 (List.forall₂_map_left_iff.2 (List.forall₂_map_right_iff.2 ?_))
  refine List.forall₂_same.2 fun t ht => ?_
  rw [(h.get_slot hk ht).1]
  rfl

/-- Read at once, the map lists the keys with their values. -/
private theorem listing_asMap (hk : keys.compare.TotalOn K) :
    m.asMap.listing = .ok (m.map.slots.map fun t => (t.key, t.value.items)) := by
  refine mapM_eq_ok.2 (List.forall₂_map_left_iff.2 (List.forall₂_map_right_iff.2 ?_))
  refine List.forall₂_same.2 fun t ht => ?_
  obtain ⟨hget, hitems⟩ := h.get_slot hk ht
  rw [hget]
  show (do return (t.key, ← (SlotView.mk m t.key).items)) = _
  rw [hitems]
  rfl

-- ============================================================ document

/-- The document has a record for each slot, and counts them. -/
private theorem document_eq (hk : keys.compare.TotalOn K) {registry : Registry} {d : Document}
    (hd : Document.ofMultimap registry m = .ok d) :
    d.slots = m.records ∧ d.keyCount = m.keys.length ∧ d.entryCount = m.total := by
  obtain ⟨-, -, -, -, -, -, hslots, -, hcount, -⟩ := Document.ofMultimap_eq_ok.1 hd
  have hrecords := (h.keysOrdered.records_of_takenDown hslots hk.consistentOn).1
  have hkeys : d.slots.length = m.keys.length := by
    simp [hrecords, records, Multimap.keys, OrderedMap.keys]
  exact ⟨hrecords, hcount.trans (congrArg Nat.cast hkeys), h.entryCount_eq hrecords⟩

end Ordered

-- ========================================================== agreement

/-- All views of the multimap, and its document, tell of the same slots. -/
structure ViewsAgree (keys values : Comparator) (K V : Value → Prop) (m : Multimap) : Prop where
  /-- Every key, looked up again, comes with the view of its own slot. -/
  items : m.asMap.items = .ok (m.map.slots.map fun t => (t.key, ⟨m, t.key⟩))
  /-- These views, each of which looks its key up anew, list the slots. -/
  listing : m.asMap.listing = .ok (m.map.slots.map fun t => (t.key, t.value.items))
  ascending : m.keys.Pairwise fun a b => keys.compare.Gives a b .lt
  flattened : ∀ rows, m.asMap.listing = .ok rows →
    m.entries = rows.flatMap fun row => row.2.map fun v => (row.1, v)
  seconds : m.values = m.entries.map Prod.snd
  firsts : m.keys = (m.entries.map Prod.fst).eraseDupsBy keys.compare.same
  backwards : (Operand.keyView ⟨m⟩).backwards = .ok (m.keys.reverse.map .value)
  entriesSize : (Operand.entryView m).size = .ok m.entries.length
  valuesSize : (Operand.valueView m).size = .ok m.values.length
  total : m.total = m.entries.length
  hasEntry : ∀ item k v, entryOf item = .ok (k, v) → K k → V v →
    (Operand.entryView m).has item
      = .ok (m.entries.any fun e => keys.compare.same e.1 k && values.compare.same e.2 v)
  hasValue : ∀ v, V v →
    (Operand.valueView m).has v = .ok (m.values.any fun w => values.compare.same w v)
  hasKey : ∀ k, K k →
    (Operand.keyView ⟨m⟩).has k = .ok (m.keys.any fun w => keys.compare.same w k)
      ∧ (Operand.mapView m.asMap).has k = .ok (m.keys.any fun w => keys.compare.same w k)
  /-- The document has these slots, counts them rightly, and is accepted
  where documents are checked. -/
  document : ∀ registry d, Document.ofMultimap registry m = .ok d →
    d.slots = m.records ∧ d.keyCount = m.keys.length ∧ d.entryCount = m.total
      ∧ Document.check d.toValue = .ok d ∧ digestOf d.entries = .ok d.payloadHash

/-- Whatever is in order is shown the same way by all its views. -/
private theorem Ordered.viewsAgree (h : Ordered keys values K V m) (hk : keys.compare.TotalOn K)
    (hv : values.compare.TotalOn V) : ViewsAgree keys values K V m where
  items := h.items_asMap hk
  listing := h.listing_asMap hk
  ascending := List.pairwise_map.2 h.ascends
  flattened rows hrows := by
    rw [h.listing_asMap hk] at hrows
    cases hrows
    rw [List.flatMap_map]
    rfl
  seconds := by simp [Multimap.values, Multimap.entries, List.map_flatMap, Function.comp_def]
  firsts := h.distinct_keys hk
  backwards := by
    have helements : (Operand.readings (.ok m.keys)).mapM id = .ok (m.keys.map .value) :=
      mapM_eq_ok.2 <| List.forall₂_map_left_iff.2 <| List.forall₂_map_right_iff.2 <|
        List.forall₂_same.2 fun _ _ => rfl
    show ((Operand.readings (.ok m.keys)).mapM id).map List.reverse = _
    rw [helements, List.map_reverse]
    rfl
  entriesSize := congrArg Except.ok (h.counted.trans m.length_entries.symm)
  valuesSize := by
    refine congrArg Except.ok (h.counted.trans ?_)
    simp [countIn, Multimap.values, List.length_flatMap, OrderedSet.size]
  total := h.counted.trans m.length_entries.symm
  hasEntry item k v hitem hK hV := by
    show m.containsItem item = _
    rw [containsItem, hitem]
    exact h.containsEntry hk hv hK hV
  hasValue _ hV := h.containsValue hv hV
  hasKey _ hK := ⟨h.containsKey hk hK, h.containsKey hk hK⟩
  document registry d hd := by
    obtain ⟨hslots, hkeys, hentries⟩ := h.document_eq hk hd
    obtain ⟨-, -, -, -, -, -, -, -, -, hdigest⟩ := Document.ofMultimap_eq_ok.1 hd
    exact ⟨hslots, hkeys, hentries, Document.check_of_ofMultimap hd, hdigest⟩

/-- Under total preorders on what is put, all views agree after any history. -/
theorem views_agree (hk : keys.compare.TotalOn K) (hv : values.compare.TotalOn V)
    {history : List Operation} (hputs : ∀ operation ∈ history, operation.Puts K V) :
    ViewsAgree keys values K V ((empty keys values).afterAll history) :=
  (Ordered.afterAll hk.consistentOn hv.consistentOn hputs).viewsAgree hk hv

/-- Texts by their case fold, put, toggled and taken out through views. -/
theorem views_agree_caseFold :
    let history : List Operation :=
      [.put (.text "pear") (.text "b"), .onSlot (.text "PEAR") (.add (.text "A")),
        .putAllFrom [.tuple [.text "fig", .text "x"]],
        .onSlot (.text "Fig") (.edit .symmDiff false (.value (.list [.text "X", .text "y"]))),
        .onKeys .popLast, .onMap (.erase (.int 1))]
    let isText : Value → Prop := fun v => ∃ s, v.text? = some s
    Comparator.caseFold.compare.TotalOn isText
      ∧ (∀ operation ∈ history, operation.Puts isText isText)
      ∧ ViewsAgree .caseFold .caseFold isText isText
        ((empty .caseFold .caseFold).afterAll history) := by
  intro history isText
  have hentry : entryOf (.tuple [.text "fig", .text "x"]) = .ok (.text "fig", .text "x") := rfl
  have hlisting : (Operand.value (.list [.text "X", .text "y"])).listing
      = [.ok (.text "X"), .ok (.text "y")] := rfl
  have hputs : ∀ operation ∈ history, operation.Puts isText isText := by
    simp [history, isText, Operation.Puts, SlotChange.Puts, Value.text?, hentry, hlisting]
  exact ⟨Comparator.caseFold_totalOn, hputs,
    views_agree Comparator.caseFold_totalOn Comparator.caseFold_totalOn hputs⟩

end Collation.Multimap
