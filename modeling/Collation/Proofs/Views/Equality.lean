/-
When two multimaps are equal. The comparison counts the keys, goes through
those of the one, looks each up in both, and asks about every value whether
the other set, which has as many, has it too (`equal_eq`). It does so in one
direction only, and nothing is compared position by position. Under total
preorders it comes to that all the same, for no two keys of a multimap and
no two values of a slot are equivalent: as many members, each with an
equivalent one on the other side, leave none out there
(`forall₂_of_matched_left`), first among the values of two slots
(`slotsAgree_iff`), then among the slots (`equal_iff_slots`).

Slot by slot is entry by entry, and that is a match of the entries in
whatever order (`equivalent_iff_forall₂`); so equality is an equivalence.
-/
import Collation.Proofs.Multimap.Arrangement
import Collation.Proofs.Views.Reading
import Collation.SetAlgebra

namespace Collation

open Multimap

namespace Operand

variable {α : Type} {test : α → Except Fault Bool} {xs : List α}

/-- A test that never fails is answered for all. -/
theorem allHold_eq {p : α → Bool} (h : ∀ x ∈ xs, test x = .ok (p x)) :
    allHold test xs = .ok (xs.all p) := by
  induction xs with
  | nil => rfl
  | cons x xs ih =>
    rw [List.forall_mem_cons] at h
    rw [allHold, h.1, List.all_cons]
    cases p x with
    | true => exact ih h.2
    | false => rfl

end Operand

namespace Multimap

variable {keys values : Comparator} {K V : Value → Prop} {m n : Multimap} {k : Value}
  {s t : Slot OrderedSet}

section

variable (h : Ordered keys values K V m) (hk : keys.compare.TotalOn K) (hK : K k)
  (ht : t ∈ m.map.slots) (heq : keys.compare.Gives t.key k .eq)

include h hk hK ht heq

/-- The slot for a key is the one whose key is equivalent to it. -/
theorem Ordered.find?_equivalent : m.map.slots.find? (m.isFor k) = some t := by
  rcases h.located hk hK with ⟨-, hnone⟩ | ⟨before, s, after, hslots, -, hfor, hothers⟩
  · have habsent := hnone t ht
    rw [h.isFor_eq] at habsent
    cases habsent.symm.trans heq.same
  · rw [hslots, find?_once hfor hothers]
    have hs := mem_of_parted hslots
    have hKs := h.key_mem s hs
    have hKt := h.key_mem t ht
    rw [h.isFor_eq] at hfor
    have hst := hk.eq_trans hKs hK hKt (Comparison.same_iff.1 hfor) (hk.swap hKt hK heq)
    exact congrArg some (eq_of_gives_eq hk.consistentOn h.key_mem h.ascends hs ht hst)

private theorem Ordered.valuesAt?_equivalent : m.valuesAt? k = .ok (some t.value) := by
  rw [h.valuesAt?_eq hk hK, h.find?_equivalent hk hK ht heq]
  rfl

end

private theorem under_absent_key (hfind : n.map.find k = .ok none) :
    Operand.under k (.mapView n.asMap) = .error (.absent k) := by
  have hcontains : n.asMap.contains k = (n.map.find k).map Option.isSome := rfl
  rw [Operand.under, MapView.get, hcontains, hfind]
  rfl

-- ========================================================== what is asked

/-- There are as many values, and each has an equivalent one on the other
side. -/
def slotsAgree (values : Comparator) (s t : Slot OrderedSet) : Bool :=
  s.value.items.length == t.value.items.length
    && s.value.items.all fun v => t.value.items.any fun w => values.compare.same w v

/-- Entries with equivalent keys and equivalent values. -/
def EquivalentEntry (keys values : Comparator) (e f : Value × Value) : Prop :=
  keys.compare.Gives e.1 f.1 .eq ∧ values.compare.Gives e.2 f.2 .eq

/-- Slots with equivalent keys and, place by place, equivalent values. -/
abbrev EquivalentSlot (keys values : Comparator) : Slot OrderedSet → Slot OrderedSet → Prop :=
  SlotsMatched (fun a b => keys.compare.Gives a b .eq) fun a b => values.compare.Gives a b .eq

/-- Entries of either side have equivalent ones on the other. -/
abbrev Equivalent (keys values : Comparator) : Multimap → Multimap → Prop :=
  Matched (fun a b => keys.compare.Gives a b .eq) fun a b => values.compare.Gives a b .eq

section

variable (hm : Ordered keys values K V m) (hn : Ordered keys values K V n)
  (hk : keys.compare.TotalOn K) (hv : values.compare.TotalOn V)

include hm hn hk hv

/-- The views of two slots, compared. -/
theorem slotEquals_eq (hs : s ∈ m.map.slots) (ht : t ∈ n.map.slots) :
    Operand.slotEquals ⟨m, s.key⟩ (.slotView ⟨n, t.key⟩) = .ok (slotsAgree values s t) := by
  have hKt := hn.key_mem t ht
  have hitems := (hm.get_slot hk hs).2
  have hitems' := (hn.get_slot hk ht).2
  have hvalues : (SlotView.mk n t.key).values? = .ok (some t.value) :=
    hn.valuesAt?_equivalent hk hKt ht (hk.refl hKt)
  have hsize : (SlotView.mk m s.key).size = .ok s.value.items.length := by
    rw [SlotView.size, hitems]
    rfl
  have hsize' : (Operand.slotView ⟨n, t.key⟩).size = .ok t.value.items.length := by
    show (SlotView.mk n t.key).size = _
    rw [SlotView.size, hitems']
    rfl
  have hhas : ∀ v ∈ s.value.items, (Operand.slotView ⟨n, t.key⟩).has v
      = .ok (t.value.items.any fun w => values.compare.same w v) := by
    intro v hmem
    show (SlotView.mk n t.key).contains v = _
    rw [SlotView.contains, hvalues]
    exact hn.contains_slot hv ((hm.ordered s hs).value_mem v hmem) ht
  have hall := Operand.allHold_eq hhas
  unfold Operand.slotEquals slotsAgree
  by_cases hlength : s.value.items.length = t.value.items.length
  · simp [Operand.isSet, hsize, hsize', hitems, hall, hlength, bind, Except.bind]
  · simp [Operand.isSet, hsize, hsize', hlength, bind, Except.bind, pure, Except.pure]

omit hk in
/-- One direction is enough among the values of two slots. -/
theorem slotsAgree_iff (hs : s ∈ m.map.slots) (ht : t ∈ n.map.slots) :
    slotsAgree values s t = true ↔
      List.Forall₂ (fun a b => values.compare.Gives a b .eq) s.value.items t.value.items := by
  have hos := hm.ordered s hs
  have hot := hn.ordered t ht
  rw [slotsAgree, Bool.and_eq_true, beq_iff_eq, List.all_eq_true]
  constructor
  · rintro ⟨hlength, hall⟩
    refine forall₂_of_matched_left hv hos.value_mem hot.value_mem hos.ascends hot.ascends
      (fun _ _ _ _ h => h) (fun v hmem => ?_) hlength
    obtain ⟨w, hw, hsame⟩ := List.any_eq_true.1 (hall v hmem)
    have hVw := hot.value_mem w hw
    exact ⟨w, hw, hv.swap hVw (hos.value_mem v hmem) (Comparison.same_iff.1 hsame)⟩
  · intro h
    refine ⟨h.length_eq, fun v hmem => ?_⟩
    obtain ⟨w, hw, hvw⟩ := exists_of_mem_right h.flip v hmem
    exact List.any_eq_true.2
      ⟨w, hw, (hv.swap (hos.value_mem v hmem) (hot.value_mem w hw) hvw).same⟩

/-- Some keys of the one side, each looked up on both. -/
theorem slotsEqual_eq {slots : List (Slot OrderedSet)} (hslots : ∀ s ∈ slots, s ∈ m.map.slots) :
    Operand.slotsEqual m.asMap (.mapView n.asMap) (slots.map Slot.key)
      = .ok (slots.all fun s => (n.map.slots.find? (n.isFor s.key)).any (slotsAgree values s)) := by
  induction slots with
  | nil => rfl
  | cons s slots ih =>
    obtain ⟨hs, hrest⟩ := List.forall_mem_cons.1 hslots
    rw [List.map_cons, Operand.slotsEqual, (hm.get_slot hk hs).1, List.all_cons]
    rcases hn.located hk (hm.key_mem s hs) with
      ⟨hfind, hnone⟩ | ⟨before, t, after, hparts, hfind, hfor, hothers⟩
    · -- an absent key is an answer, not a failure
      rw [under_absent_key hfind, find?_absent hnone]
      rfl
    · have hunder : Operand.under s.key (.mapView n.asMap) = .ok (.slotView ⟨n, t.key⟩) := by
        rw [Operand.under, (get_of_find hparts hfind).1]
        rfl
      have hequal := slotEquals_eq hm hn hk hv hs (mem_of_parted hparts)
      have hfound := find?_once hfor hothers
      rw [hunder, hparts, hfound]
      cases hagree : slotsAgree values s t with
      | true =>
        rw [hagree] at hequal
        simpa [hequal, hagree, bind, Except.bind, hparts] using ih hrest
      | false =>
        rw [hagree] at hequal
        simp [hequal, hagree, bind, Except.bind, pure, Except.pure]

/-- As many keys, and each found on the other side with values that agree. -/
theorem equal_eq (same : Bool) : Operand.equal same (.multimap m) (.multimap n)
    = .ok (m.map.slots.length == n.map.slots.length && m.map.slots.all fun s =>
        (n.map.slots.find? (n.isFor s.key)).any (slotsAgree values s)) := by
  have hall := slotsEqual_eq hm hn hk hv fun s (hs : s ∈ m.map.slots) => hs
  have hkeys : m.asMap.keys = m.map.slots.map Slot.key := rfl
  have hsize : m.asMap.size = m.map.slots.length := rfl
  have hsize' : (Operand.mapView n.asMap).size = .ok n.map.slots.length := rfl
  show Operand.viewEqual m.asMap (.mapView n.asMap) = _
  unfold Operand.viewEqual
  rw [hsize, hsize', hkeys, hall]
  by_cases hlength : m.map.slots.length = n.map.slots.length
  · simp [hlength, bind, Except.bind]
  · simp [hlength, bind, Except.bind, pure, Except.pure]

-- ======================================================= what it comes to

/-- One direction is enough among the slots too. -/
theorem equal_iff_slots (same : Bool) :
    ∃ b, Operand.equal same (.multimap m) (.multimap n) = .ok b
      ∧ (b = true ↔ List.Forall₂ (EquivalentSlot keys values) m.map.slots n.map.slots) := by
  refine ⟨_, equal_eq hm hn hk hv same, ?_⟩
  rw [Bool.and_eq_true, beq_iff_eq, List.all_eq_true]
  constructor
  · rintro ⟨hlength, hall⟩
    refine forall₂_of_matched_left hk hm.key_mem hn.key_mem hm.ascends hn.ascends
      (fun _ _ _ _ h => h.1) (fun s hs => ?_) hlength
    obtain ⟨t, hfind, hagree⟩ := (Option.any_eq_true _ _).1 (hall s hs)
    have ht := List.mem_of_find?_eq_some hfind
    have hfor := List.find?_some hfind
    rw [hn.isFor_eq] at hfor
    have hst := hk.swap (hn.key_mem t ht) (hm.key_mem s hs) (Comparison.same_iff.1 hfor)
    exact ⟨t, ht, hst, (slotsAgree_iff hm hn hv hs ht).1 hagree⟩
  · intro h
    refine ⟨h.length_eq, fun s hs => ?_⟩
    obtain ⟨t, ht, hkey, hitems⟩ := exists_of_mem_right h.flip s hs
    have hKs := hm.key_mem s hs
    have hts := hk.swap hKs (hn.key_mem t ht) hkey
    rw [hn.find?_equivalent hk hKs ht hts]
    exact (slotsAgree_iff hm hn hv hs ht).2 hitems

/-- Place by place or in any order: entries of ordered multimaps match in
the one way if they do in the other. -/
theorem equivalent_iff_forall₂ : Equivalent keys values m n ↔
    List.Forall₂ (EquivalentEntry keys values) m.entries n.entries := by
  constructor
  · intro h
    exact forall₂_entries (hm.slots_matched hn hk hv (fun _ _ _ _ h => h) (fun _ _ _ _ h => h) h)
  · intro h
    exact ⟨fun e he => exists_of_mem_right h.flip e he, fun f hf => exists_of_mem_right h f hf⟩

/-- Multimaps are equal if the entries of each have equivalent ones in the
other. -/
theorem equal_iff_equivalent (same : Bool) :
    ∃ b, Operand.equal same (.multimap m) (.multimap n) = .ok b
      ∧ (b = true ↔ Equivalent keys values m n) := by
  obtain ⟨b, hb, hiff⟩ := equal_iff_slots hm hn hk hv same
  refine ⟨b, hb, hiff.trans ⟨fun h => ?_, fun h => ?_⟩⟩
  · exact (equivalent_iff_forall₂ hm hn hk hv).2 (forall₂_entries h)
  · exact hm.slots_matched hn hk hv (fun _ _ _ _ h => h) (fun _ _ _ _ h => h) h

/-- Equivalent multimaps are found equal. -/
theorem equal_of_equivalent (same : Bool) (h : Equivalent keys values m n) :
    Operand.equal same (.multimap m) (.multimap n) = .ok true := by
  obtain ⟨b, hb, hiff⟩ := equal_iff_equivalent hm hn hk hv same
  rw [hb, hiff.2 h]

end

-- =========================================================== equivalence

section

variable {l : Multimap} (hl : Ordered keys values K V l) (hm : Ordered keys values K V m)
  (hn : Ordered keys values K V n) (hk : keys.compare.TotalOn K) (hv : values.compare.TotalOn V)

include hm hk hv

private theorem Equivalent.refl : Equivalent keys values m m := by
  have hself : ∀ e ∈ m.entries, EquivalentEntry keys values e e :=
    fun e he => ⟨hk.refl (hm.entry_mem he).1, hv.refl (hm.entry_mem he).2⟩
  exact ⟨fun e he => ⟨e, he, hself e he⟩, fun e he => ⟨e, he, hself e he⟩⟩

include hn

/-- Equivalence goes both ways. -/
private theorem Equivalent.symm (h : Equivalent keys values m n) : Equivalent keys values n m where
  left f hf := by
    obtain ⟨e, he, hkey, hvalue⟩ := h.right f hf
    obtain ⟨hKe, hVe⟩ := hm.entry_mem he
    obtain ⟨hKf, hVf⟩ := hn.entry_mem hf
    exact ⟨e, he, hk.swap hKe hKf hkey, hv.swap hVe hVf hvalue⟩
  right e he := by
    obtain ⟨f, hf, hkey, hvalue⟩ := h.left e he
    obtain ⟨hKe, hVe⟩ := hm.entry_mem he
    obtain ⟨hKf, hVf⟩ := hn.entry_mem hf
    exact ⟨f, hf, hk.swap hKe hKf hkey, hv.swap hVe hVf hvalue⟩

include hl

/-- Equivalence in two steps. -/
private theorem Equivalent.trans (h : Equivalent keys values l m)
    (h' : Equivalent keys values m n) :
    Equivalent keys values l n := by
  have htrans : ∀ {d e f}, d ∈ l.entries → e ∈ m.entries → f ∈ n.entries →
      EquivalentEntry keys values d e → EquivalentEntry keys values e f →
      EquivalentEntry keys values d f := by
    intro d e f hd he hf hde hef
    obtain ⟨hKd, hVd⟩ := hl.entry_mem hd
    obtain ⟨hKe, hVe⟩ := hm.entry_mem he
    obtain ⟨hKf, hVf⟩ := hn.entry_mem hf
    exact ⟨hk.eq_trans hKd hKe hKf hde.1 hef.1, hv.eq_trans hVd hVe hVf hde.2 hef.2⟩
  constructor
  · intro d hd
    obtain ⟨e, he, hde⟩ := h.left d hd
    obtain ⟨f, hf, hef⟩ := h'.left e he
    exact ⟨f, hf, htrans hd he hf hde hef⟩
  · intro f hf
    obtain ⟨e, he, hef⟩ := h'.right f hf
    obtain ⟨d, hd, hde⟩ := h.right e he
    exact ⟨d, hd, htrans hd he hf hde hef⟩

end

/-- Under total preorders on what is put, comparing two multimaps always has
an answer: whether their listings are equivalent place by place. So it is
an equivalence. -/
theorem equality_of_listings (hk : keys.compare.TotalOn K) (hv : values.compare.TotalOn V)
    (same : Bool) :
    (∀ m n, Reached keys values K V m → Reached keys values K V n →
      ∃ b, Operand.equal same (.multimap m) (.multimap n) = .ok b
        ∧ (b = true ↔ List.Forall₂ (EquivalentEntry keys values) m.entries n.entries))
    ∧ (∀ m, Reached keys values K V m →
      Operand.equal same (.multimap m) (.multimap m) = .ok true)
    ∧ (∀ m n, Reached keys values K V m → Reached keys values K V n →
      Operand.equal same (.multimap m) (.multimap n)
        = Operand.equal same (.multimap n) (.multimap m))
    ∧ ∀ l m n, Reached keys values K V l → Reached keys values K V m → Reached keys values K V n →
      Operand.equal same (.multimap l) (.multimap m) = .ok true →
      Operand.equal same (.multimap m) (.multimap n) = .ok true →
      Operand.equal same (.multimap l) (.multimap n) = .ok true := by
  have hordered : ∀ {m}, Reached keys values K V m → Ordered keys values K V m :=
    fun hm => hm.ordered hk.consistentOn hv.consistentOn
  refine ⟨fun m n hm hn => ?_, fun m hm => ?_, fun m n hm hn => ?_,
    fun l m n hl hm hn hlm hmn => ?_⟩
  · obtain ⟨b, hb, hiff⟩ := equal_iff_equivalent (hordered hm) (hordered hn) hk hv same
    exact ⟨b, hb, hiff.trans (equivalent_iff_forall₂ (hordered hm) (hordered hn) hk hv)⟩
  · exact equal_of_equivalent (hordered hm) (hordered hm) hk hv same
      (.refl (hordered hm) hk hv)
  · obtain ⟨b, hb, hiff⟩ := equal_iff_equivalent (hordered hm) (hordered hn) hk hv same
    obtain ⟨b', hb', hiff'⟩ := equal_iff_equivalent (hordered hn) (hordered hm) hk hv same
    have hsymm : b = true ↔ b' = true := by
      rw [hiff, hiff']
      exact ⟨.symm (hordered hm) (hordered hn) hk hv, .symm (hordered hn) (hordered hm) hk hv⟩
    rw [hb, hb', Bool.eq_iff_iff.2 hsymm]
  · obtain ⟨b, hb, hiff⟩ := equal_iff_equivalent (hordered hl) (hordered hm) hk hv same
    obtain ⟨b', hb', hiff'⟩ := equal_iff_equivalent (hordered hm) (hordered hn) hk hv same
    have hlm := hiff.1 (Except.ok.inj (hb.symm.trans hlm))
    have hmn := hiff'.1 (Except.ok.inj (hb'.symm.trans hmn))
    exact equal_of_equivalent (hordered hl) (hordered hn) hk hv same
      (.trans (hordered hl) (hordered hm) (hordered hn) hk hv hlm hmn)

/-- Texts by their case fold: two spellings of the same entries, put in two
orders. -/
theorem equality_of_listings_caseFold :
    let history : List Operation :=
      [.put (.text "pear") (.text "b"), .put (.text "Fig") (.text "x"),
        .put (.text "PEAR") (.text "A")]
    let history' : List Operation :=
      [.put (.text "FIG") (.text "X"), .putAll (.text "Pear") [.text "a", .text "B", .text "c"],
        .remove (.text "pear") (.text "C")]
    let isText : Value → Prop := fun v => ∃ s, v.text? = some s
    let m := (empty .caseFold .caseFold).afterAll history
    let n := (empty .caseFold .caseFold).afterAll history'
    Comparator.caseFold.compare.TotalOn isText
      ∧ (∀ operation ∈ history ++ history', operation.Puts isText isText)
      ∧ Operand.equal false (.multimap m) (.multimap n) = .ok true
      ∧ List.Forall₂ (EquivalentEntry .caseFold .caseFold) m.entries n.entries := by
  intro history history' isText m n
  have htotal : Comparator.caseFold.compare.TotalOn isText := Comparator.caseFold_totalOn
  have hputs : ∀ operation ∈ history ++ history', operation.Puts isText isText := by
    simp [history, history', isText, Operation.Puts, Value.text?]
  obtain ⟨hfirst, hsecond⟩ := List.forall_mem_append.1 hputs
  have hequal : Operand.equal false (.multimap m) (.multimap n) = .ok true :=
    eq_ok_of_toOption (by decide +kernel)
  obtain ⟨hlistings, -⟩ := equality_of_listings htotal htotal false
  obtain ⟨b, hb, hiff⟩ := hlistings m n ⟨history, hfirst, rfl⟩ ⟨history', hsecond, rfl⟩
  exact ⟨htotal, hputs, hequal, hiff.1 (Except.ok.inj (hb.symm.trans hequal))⟩

end Multimap

end Collation
