/-
A multimap keeps nothing of its history. Total preorders leave one place
only for each entry (module Arrangement), so multimaps with the same
entries have them in the same order, and are taken down slot by slot alike.
What may differ is the order of entries within the dictionaries that are
stored. Comparators that overlook it (`Comparison.Overlooks`) do not see
the difference, and neither does canonical JSON: the two documents have one
normal form (`Document.ofMultimap_same`), hence one digest and one text.
-/
import Collation.Proofs.Value.Alike
import Collation.Proofs.Views.Equality

namespace Collation

/-- The comparator answers alike about values of a domain that differ at the
most in the order of entries. -/
def Comparison.Overlooks (c : Comparison) (D : Value → Prop) : Prop :=
  ∀ a a' b b' s, D a → D a' → D b → D b' → a.Alike a' → b.Alike b' →
    c.Gives a b s → c.Gives a' b' s

/-- A comparator that overlooks the order finds such values equivalent. -/
theorem Comparison.Overlooks.gives_eq {c : Comparison} {D : Value → Prop} {a b : Value}
    (h : c.Overlooks D) (hc : c.TotalOn D) (ha : D a) (hb : D b) (hab : a.Alike b) :
    c.Gives a b .eq :=
  h a a a b .eq ha ha ha hb (.refl a) hab (hc.refl ha)

/-- Only the same texts are alike. -/
theorem Comparator.caseFold_overlooks (D : Value → Prop) : caseFold.compare.Overlooks D :=
  fun _ _ _ _ _ _ _ _ _ haa hbb h => caseFold_congr haa.text?_eq hbb.text?_eq h

-- ============================================================ documents

namespace Wire

variable {registry : Registry} {m n : Multimap}

/-- A multimap by the same comparators, whose slots are taken down the same
to JSON, has the same document to JSON. -/
theorem Document.ofMultimap_same {d : Document} {slots : List SlotRecord}
    (h : ofMultimap registry m = .ok d) (hplain : d.toValue.Plain)
    (hplain' : ({ d with slots } : Document).toValue.Plain)
    (hkeys : n.keyComparator = m.keyComparator) (hvalues : n.valueComparator = m.valueComparator)
    (hslots : n.keys.mapM (SlotRecord.ofKey n.asMap) = .ok slots)
    (hsame : slots.map SlotRecord.normal = d.slots.map SlotRecord.normal) :
    ofMultimap registry n = .ok { d with slots } := by
  obtain ⟨keyName, valueName, hkeyName, hvalueName, hkeyText, hvalueText, -, hformat, hcount,
    hhash⟩ := ofMultimap_eq_ok.1 h
  have hnormal : ({ d with slots } : Document).normal = d.normal := by
    unfold normal
    rw [hsame]
  have hlength : slots.length = d.slots.length := by
    simpa using congrArg List.length hsame
  refine ofMultimap_eq_ok.2 ⟨keyName, valueName, hkeys ▸ hkeyName, hvalues ▸ hvalueName, hkeyText,
    hvalueText, hslots, hformat, ?_, ?_⟩
  · exact hcount.trans (congrArg Nat.cast hlength.symm)
  · rw [digestOf_payloadHash] at hhash ⊢
    rw [← digestOf_normal hplain', hnormal, digestOf_normal hplain]
    exact hhash

end Wire

namespace Multimap

open Wire

variable {registry : Registry} {keys values : Comparator} {K V : Value → Prop} {m n : Multimap}
  {s t : Slot OrderedSet} {octets : List UInt8}

/-- The same entries, with whatever order of entries within dictionaries. -/
abbrev SameEntries (m n : Multimap) : Prop := Matched Value.Alike Value.Alike m n

/-- Slots that are alike are the same to JSON, if one of them is plain. -/
theorem record_of_alike (h : SlotsMatched Value.Alike Value.Alike s t) (hkey : s.key.Plain)
    (hvalues : ∀ v ∈ s.value.items, v.Plain) :
    t.key.Plain ∧ (∀ w ∈ t.value.items, w.Plain)
      ∧ (recordOf t).normal = (recordOf s).normal := by
  obtain ⟨hplain, hsame⟩ := hkey.same_of_alike h.1
  have hitems := forall₂_imp_of_mem (S := fun v w => w.Plain ∧ v.Same w) h.2
    fun v hv w hvw => (hvalues v hv).same_of_alike hvw
  refine ⟨hplain, fun w hw => ?_, ?_⟩
  · obtain ⟨v, -, hw, -⟩ := exists_of_mem_right hitems w hw
    exact hw
  · have hnormal := Value.map_normal_eq (hitems.imp fun _ _ h => h.2)
    unfold recordOf SlotRecord.normal
    rw [h.2.length_eq, hsame.symm, hnormal]

/-- The document of an encodable multimap is plain. -/
theorem Encodable.plain_document (h : Encodable keys values K V m) {d : Document}
    (hslots : d.slots = m.records) : d.toValue.Plain := by
  refine d.plain_toValue.2 ?_
  rw [hslots]
  exact List.forall_mem_map.2 fun t ht => (recordOf t).plain_toValue.2 (h.plain t ht)

/-- What is alike to what can be encoded can be encoded, and is taken down
the same to JSON. -/
theorem Encodable.of_alike (hm : Encodable keys values K V m) (hn : Ordered keys values K V n)
    (hk : keys.compare.TotalOn K)
    (h : List.Forall₂ (SlotsMatched Value.Alike Value.Alike) m.map.slots n.map.slots) :
    Encodable keys values K V n
      ∧ n.records.map SlotRecord.normal = m.records.map SlotRecord.normal := by
  -- slot by slot, as the keys and values stand in pairs
  have hslots := forall₂_imp_of_mem (S := fun s t => s.key.isShowable = true → t.key.Plain
      ∧ t.key.isShowable = true ∧ (∀ w ∈ t.value.items, w.Plain)
      ∧ (recordOf t).normal = (recordOf s).normal) h fun s hs t hst hshown => by
    obtain ⟨hkey, hvalues⟩ := hm.plain s hs
    obtain ⟨hkey', hvalues', hnormal⟩ := record_of_alike hst hkey hvalues
    have hsame := (hkey.same_of_alike hst.1).2
    refine ⟨hkey', ?_, hvalues', hnormal⟩
    rw [← hkey'.isShowable_normal, ← hsame, hkey.isShowable_normal]
    exact hshown
  have hall : ∀ t ∈ n.map.slots, t.key.Plain ∧ t.key.isShowable = true
      ∧ ∀ w ∈ t.value.items, w.Plain := by
    intro t ht
    obtain ⟨s, hs, hst⟩ := exists_of_mem_right hslots t ht
    obtain ⟨hkey, hshown, hvalues, -⟩ := hst (hm.showable s hs)
    exact ⟨hkey, hshown, hvalues⟩
  refine ⟨⟨hn, fun t ht => hk.refl (hn.key_mem t ht), fun t ht => (hall t ht).2.1,
    fun t ht => ⟨(hall t ht).1, (hall t ht).2.2⟩⟩, ?_⟩
  rw [records, records, List.map_map, List.map_map, ← List.forall₂_eq_eq_eq,
    List.forall₂_map_left_iff, List.forall₂_map_right_iff]
  exact (forall₂_imp_of_mem (S := fun s t => (recordOf t).normal = (recordOf s).normal) hslots
    fun s hs t hst => (hst (hm.showable s hs)).2.2.2).flip

/-- Multimaps that are alike slot by slot are encoded to the same octets. -/
theorem encode_of_alike (hm : Ordered keys values K V m) (hn : Ordered keys values K V n)
    (hk : keys.compare.TotalOn K) (hproper : m.Proper)
    (h : List.Forall₂ (SlotsMatched Value.Alike Value.Alike) m.map.slots n.map.slots)
    (hencode : (m.encode registry).result = .ok octets) :
    (n.encode registry).result = .ok octets := by
  obtain ⟨d, t, hd, ht, rfl⟩ := encode_eq_ok.1 hencode
  obtain ⟨-, -, -, -, -, -, htaken, -⟩ := Document.ofMultimap_eq_ok.1 hd
  obtain ⟨hrecords, hme⟩ := hm.encodable htaken hk.consistentOn hproper.sifted
  obtain ⟨hne, hnormal⟩ := hme.of_alike hn hk h
  rw [← hrecords] at hnormal
  let d' : Document := { d with slots := n.records }
  have hplain : d.toValue.Plain := hme.plain_document hrecords
  have hplain' : d'.toValue.Plain := hne.plain_document rfl
  have hd' : Document.ofMultimap registry n = .ok d' :=
    Document.ofMultimap_same hd hplain hplain'
      (hn.keyComparator.trans hm.keyComparator.symm)
      (hn.valueComparator.trans hm.valueComparator.symm) (hne.taken_down hk.consistentOn) hnormal
  have hsame : d'.normal = d.normal := by
    unfold Document.normal
    rw [hnormal]
  refine encode_eq_ok.2 ⟨d', t, hd', ?_, rfl⟩
  rw [← Document.written_normal hplain', hsame, Document.written_normal hplain]
  exact ht

-- ========================================================= histories

/-- Multimaps that are alike: the same entries place by place, and encoded
to the same octets if at all. -/
def Indistinct (m n : Multimap) : Prop :=
  List.Forall₂ (fun e f => e.1.Alike f.1 ∧ e.2.Alike f.2) m.entries n.entries
    ∧ (m.Proper → n.Proper → ∀ registry octets,
      (m.encode registry).result = .ok octets ↔ (n.encode registry).result = .ok octets)

/-- Ordered multimaps with the same entries are indistinct. -/
theorem Ordered.indistinct (hm : Ordered keys values K V m) (hn : Ordered keys values K V n)
    (hk : keys.compare.TotalOn K) (hv : values.compare.TotalOn V)
    {R S : Value → Value → Prop} (hR : ∀ a b, K a → K b → R a b → keys.compare.Gives a b .eq)
    (hS : ∀ a b, V a → V b → S a b → values.compare.Gives a b .eq)
    (hRalike : ∀ a b, R a b → a.Alike b) (hSalike : ∀ a b, S a b → a.Alike b)
    (h : Matched R S m n) : Indistinct m n := by
  have hslots : List.Forall₂ (SlotsMatched Value.Alike Value.Alike) m.map.slots n.map.slots :=
    (hm.slots_matched hn hk hv hR hS h).imp fun s t hst =>
      ⟨hRalike _ _ hst.1, hst.2.imp fun a b hab => hSalike a b hab⟩
  have hback : List.Forall₂ (SlotsMatched Value.Alike Value.Alike) n.map.slots m.map.slots :=
    (hslots.imp (S := fun s t => SlotsMatched Value.Alike Value.Alike t s) fun s t hst =>
      ⟨hst.1.symm, (hst.2.imp (S := fun a b => b.Alike a) fun a b hab => hab.symm).flip⟩).flip
  refine ⟨forall₂_entries hslots, fun hproper hproper' registry octets => ⟨?_, ?_⟩⟩
  · exact encode_of_alike hm hn hk hproper hslots
  · exact encode_of_alike hn hm hk hproper' hback

/-- Under total preorders on what is put, a history leaves nothing but its
entries. Where the comparators overlook the order of entries within
dictionaries, two histories that end with the same entries, up to that
order, end with indistinct multimaps. Entries put in any order make equal
multimaps, and indistinct ones where no two different keys and no two
different values among them are equivalent. -/
theorem history_independent (hk : keys.compare.TotalOn K) (hv : values.compare.TotalOn V) :
    (keys.compare.Overlooks K → values.compare.Overlooks V →
      ∀ history history' : List Operation, (∀ operation ∈ history, operation.Puts K V) →
        (∀ operation ∈ history', operation.Puts K V) →
        let m := (empty keys values).afterAll history
        let n := (empty keys values).afterAll history'
        SameEntries m n → Indistinct m n)
      ∧ ∀ pairs pairs' : List (Value × Value), pairs.Perm pairs' →
        (∀ e ∈ pairs, K e.1 ∧ V e.2) →
        let o := (empty keys values).putItems (pairItems pairs)
        let o' := (empty keys values).putItems (pairItems pairs')
        (∃ isNew, o.result = .ok isNew) ∧ (∃ isNew, o'.result = .ok isNew)
          ∧ (∀ same, Operand.equal same (.multimap o.state) (.multimap o'.state) = .ok true
            ∧ Operand.equal same (.multimap o'.state) (.multimap o.state) = .ok true)
          ∧ ((∀ e ∈ pairs, ∀ f ∈ pairs, (keys.compare.Gives e.1 f.1 .eq → e.1.Alike f.1)
              ∧ (values.compare.Gives e.2 f.2 .eq → e.2.Alike f.2)) →
            Indistinct o.state o'.state) := by
  constructor
  · intro hkeys hvalues history history' hputs hputs' m n h
    have hm : Ordered keys values K V m := .afterAll hk.consistentOn hv.consistentOn hputs
    have hn : Ordered keys values K V n := .afterAll hk.consistentOn hv.consistentOn hputs'
    exact hm.indistinct hn hk hv (fun a b ha hb hab => hkeys.gives_eq hk ha hb hab)
      (fun a b ha hb hab => hvalues.gives_eq hv ha hb hab) (fun _ _ h => h) (fun _ _ h => h) h
  · intro pairs pairs' hperm hpairs o o'
    have hpairs' : ∀ e ∈ pairs', K e.1 ∧ V e.2 := fun e he => hpairs e (hperm.mem_iff.2 he)
    have hput := Ordered.putEntries_brings hk hv hpairs (.empty keys values K V)
    have hput' := Ordered.putEntries_brings hk hv hpairs' (.empty keys values K V)
    rw [← putItems_pairItems] at hput hput'
    obtain ⟨hm, hok, hbrings⟩ := hput
    obtain ⟨hn, hok', hbrings'⟩ := hput'
    -- what one order brings, the other one brings too
    have hmatched := hbrings.matched hk hv hm hn hpairs hbrings' hperm
    have hback := hbrings'.matched hk hv hn hm hpairs' hbrings hperm.symm
    refine ⟨hok, hok', fun same => ⟨?_, ?_⟩, fun hdiffer => ?_⟩
    · exact equal_of_equivalent hm hn hk hv same hmatched
    · exact equal_of_equivalent hn hm hk hv same hback
    · have hsame := hbrings.matched_same
        (R := fun a b => keys.compare.Gives a b .eq ∧ a.Alike b)
        (S := fun a b => values.compare.Gives a b .eq ∧ a.Alike b) hk hv hm hn hpairs hbrings'
        hperm (fun e he f hf heq => ⟨heq, (hdiffer e he f hf).1 heq⟩)
        (fun e he f hf heq => ⟨heq, (hdiffer e he f hf).2 heq⟩)
      exact hm.indistinct hn hk hv (fun _ _ _ _ h => h.1) (fun _ _ _ _ h => h.1)
        (fun _ _ h => h.2) (fun _ _ h => h.2) hsame

/-- Texts by their case fold: two ways to the same entries, and entries put
in two orders, of which two are equivalent. -/
theorem history_independent_caseFold :
    let history : List Operation :=
      [.put (.text "pear") (.text "b"), .put (.text "Apple") (.text "x")]
    let history' : List Operation :=
      [.put (.text "Apple") (.text "y"), .putAll (.text "apple") [.text "x", .text "X"],
        .remove (.text "APPLE") (.text "Y"), .onSlot (.text "pear") (.add (.text "b"))]
    let pairs := [(Value.text "fig", Value.text "x"), (.text "FIG", .text "X")]
    let isText : Value → Prop := fun v => ∃ s, v = .text s
    let m := (empty .caseFold .caseFold).afterAll history
    let n := (empty .caseFold .caseFold).afterAll history'
    let o := ((empty .caseFold .caseFold).putItems (pairItems pairs)).state
    let o' := ((empty .caseFold .caseFold).putItems (pairItems pairs.reverse)).state
    Comparator.caseFold.compare.TotalOn isText ∧ Comparator.caseFold.compare.Overlooks isText
      ∧ (∀ operation ∈ history ++ history', operation.Puts isText isText) ∧ SameEntries m n
      ∧ Indistinct m n ∧ Operand.equal false (.multimap o) (.multimap o') = .ok true := by
  intro history history' pairs isText m n o o'
  have htotal : Comparator.caseFold.compare.TotalOn isText :=
    Comparator.caseFold_totalOn.mono fun _ ⟨s, hs⟩ => ⟨s, congrArg Value.text? hs⟩
  have hoverlooks := Comparator.caseFold_overlooks isText
  have hfirst : ∀ operation ∈ history, operation.Puts isText isText := by
    simp [history, isText, Operation.Puts]
  have hsecond : ∀ operation ∈ history', operation.Puts isText isText := by
    simp [history', isText, Operation.Puts, SlotChange.Puts]
  have hpairs : ∀ e ∈ pairs, isText e.1 ∧ isText e.2 := by
    simp [pairs, isText]
  have hm : Ordered .caseFold .caseFold isText isText m :=
    .afterAll htotal.consistentOn htotal.consistentOn hfirst
  have hn : Ordered .caseFold .caseFold isText isText n :=
    .afterAll htotal.consistentOn htotal.consistentOn hsecond
  have htexts : (m.entries.map fun e => (e.1.text?, e.2.text?))
      = n.entries.map fun e => (e.1.text?, e.2.text?) := by decide +kernel
  -- texts that read the same are the same
  have halike : ∀ {a b : Value}, isText a → isText b → a.text? = b.text? → a.Alike b := by
    rintro _ _ ⟨s, rfl⟩ ⟨t, rfl⟩ heq
    cases heq
    exact .refl _
  have hboth : List.Forall₂ (fun e f => e.1.text? = f.1.text? ∧ e.2.text? = f.2.text?)
      m.entries n.entries := by
    rw [← List.forall₂_eq_eq_eq, List.forall₂_map_left_iff, List.forall₂_map_right_iff] at htexts
    exact htexts.imp fun _ _ h => Prod.mk.inj h
  have hsame : SameEntries m n := by
    have hentry : ∀ e ∈ m.entries, ∀ f ∈ n.entries,
        e.1.text? = f.1.text? ∧ e.2.text? = f.2.text? → e.1.Alike f.1 ∧ e.2.Alike f.2 :=
      fun e he f hf h => ⟨halike (hm.entry_mem he).1 (hn.entry_mem hf).1 h.1,
        halike (hm.entry_mem he).2 (hn.entry_mem hf).2 h.2⟩
    refine ⟨fun e he => ?_, fun f hf => ?_⟩
    · obtain ⟨f, hf, h⟩ := exists_of_mem_right hboth.flip e he
      exact ⟨f, hf, hentry e he f hf h⟩
    · obtain ⟨e, he, h⟩ := exists_of_mem_right hboth f hf
      exact ⟨e, he, hentry e he f hf h⟩
  obtain ⟨hhistories, hpermuted⟩ := history_independent htotal htotal
  obtain ⟨-, -, hequal, -⟩ := hpermuted pairs pairs.reverse (List.reverse_perm pairs).symm hpairs
  exact ⟨htotal, hoverlooks, List.forall_mem_append.2 ⟨hfirst, hsecond⟩, hsame,
    hhistories hoverlooks hoverlooks history history' hfirst hsecond hsame, (hequal false).1⟩

end Multimap

end Collation
