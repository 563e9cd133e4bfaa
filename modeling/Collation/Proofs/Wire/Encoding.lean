/-
What encoding takes down, and when it succeeds. The document of a multimap
is read off its definition as a list of conditions, in both directions
(`Document.ofMultimap_eq_ok`): the names of the comparators, a slot for
each key by what its look-up gives, the counts and the digest. So a
document that was made is sealed, if no dictionary in it has a name twice
(`Document.sealed_of_ofMultimap`), and another multimap has the same
document if its look-ups give the same.
-/
import Collation.Proofs.Wire.Parsing

namespace Collation.Wire

variable {registry : Registry} {m : Multimap} {view : MapView} {k : Value}

/-- What is checked is given as it is. -/
private theorem Checked.orInvalid_eq_ok {α : Type} {record : String} {c : Checked α} {a : α} :
    c.orInvalid record = .ok a ↔ c = .ok a := by
  cases c with
  | error fs => exact iff_of_false (fun h => nomatch h) fun h => nomatch h
  | ok b =>
    constructor
    · rintro ⟨⟩
      rfl
    · rintro ⟨⟩
      rfl

private theorem checkShowable_eq_ok {v : Value} :
    v.checkShowable = .ok () ↔ v.isShowable = true := by
  unfold Value.checkShowable
  cases v.isShowable <;> simp

/-- A slot is taken down as its key is looked up again. -/
theorem SlotRecord.ofKey_eq_ok {s : SlotRecord} :
    ofKey view k = .ok s ↔
      s.key = k ∧ s.Counted ∧ k.isShowable = true
        ∧ k.checkEncodable ("Key " ++ k.display) = .ok ()
        ∧ Value.checkItems ("Value under key " ++ k.display) s.values = .ok ()
        ∧ ∃ slot, view.get k = .ok slot ∧ slot.items = .ok s.values := by
  simp only [ofKey, bind_eq_ok, Checked.orInvalid_eq_ok, check_toValue]
  constructor
  · rintro ⟨slot, hget, ⟨⟩, hshown, ⟨⟩, hkey, values, hitems, ⟨⟩, hvalues, rfl, hcounted⟩
    exact ⟨rfl, hcounted, checkShowable_eq_ok.1 hshown, hkey, hvalues, slot, hget, hitems⟩
  · rintro ⟨rfl, hcounted, hshown, hkey, hvalues, slot, hget, hitems⟩
    have hcount : s = ⟨s.key, s.values.length, s.values⟩ := by
      rw [hcounted.2]
    rw [hcount] at hcounted
    exact ⟨slot, hget, (), checkShowable_eq_ok.2 hshown, (), hkey, s.values, hitems, (), hvalues,
      hcount, hcounted⟩

namespace Document

/-- The fields that are checked before the digest is known. -/
def unsealed (keyName valueName : Value) (slots : List SlotRecord) : List (Value × Value) :=
  [(.text "key_comparator", keyName), (.text "value_comparator", valueName),
    (.text "key_count", .int slots.length), (.text "slots", .list (slots.map SlotRecord.toValue))]

/-- What a multimap is dumped as before it has a digest, read back. -/
theorem check_unsealed {d : Document} {keyName valueName : Value} {slots : List SlotRecord} :
    check (.dict (unsealed keyName valueName slots)) = .ok d ↔
      d.slots = slots ∧ (∀ s ∈ slots, s.Counted) ∧ string keyName = .ok d.keyComparator
        ∧ string valueName = .ok d.valueComparator ∧ d.format = currentFormat
        ∧ d.keyCount = slots.length ∧ d.payloadHash = "" := by
  let es := unsealed keyName valueName slots
  have atFormat : Value.lookup (.text "format") es = none := rfl
  have atKeys : Value.lookup (.text "key_comparator") es = some keyName := rfl
  have atValues : Value.lookup (.text "value_comparator") es = some valueName := rfl
  have atCount : Value.lookup (.text "key_count") es = some (.int slots.length) := rfl
  have atSlots :
    Value.lookup (.text "slots") es = some (.list (slots.map SlotRecord.toValue)) := rfl
  have atHash : Value.lookup (.text "payload_hash") es = none := rfl
  have hknown : unknownNames fieldNames es = [] := rfl
  simp only [check_eq_ok, optional_eq_ok, required_eq_ok, es, atFormat, atKeys, atValues, atCount,
    atSlots, atHash, hknown, checkSlots_toValue, integer_int_eq_ok, Option.some.injEq,
    exists_eq_left', reduceCtorEq, false_and, exists_false, false_or, true_and]
  constructor
  · rintro ⟨hformat, hkeys, hvalues, ⟨-, hcount⟩, ⟨rfl, hslots⟩, hhash, -⟩
    exact ⟨rfl, hslots, hkeys, hvalues, hformat.symm, hcount.symm, hhash.symm⟩
  · rintro ⟨rfl, hslots, hkeys, hvalues, hformat, hcount, hhash⟩
    exact ⟨hformat.symm, hkeys, hvalues, ⟨by omega, hcount.symm⟩, ⟨rfl, hslots⟩, hhash.symm,
      hcount.symm⟩

/-- What the document of a multimap is, and when there is one. -/
theorem ofMultimap_eq_ok {d : Document} :
    ofMultimap registry m = .ok d ↔
      ∃ keyName valueName, registry.nameOf m.keyComparator = .ok keyName
        ∧ registry.nameOf m.valueComparator = .ok valueName
        ∧ string keyName = .ok d.keyComparator ∧ string valueName = .ok d.valueComparator
        ∧ m.keys.mapM (SlotRecord.ofKey m.asMap) = .ok d.slots
        ∧ d.format = currentFormat ∧ d.keyCount = d.slots.length
        ∧ digestOf { d with payloadHash := "" }.entries = .ok d.payloadHash := by
  simp only [ofMultimap, bind_eq_ok, Checked.orInvalid_eq_ok]
  constructor
  · rintro ⟨keyName, hkeyName, valueName, hvalueName, slots, hslots, u, hu, hash, hhash, ⟨⟩⟩
    obtain ⟨rfl, hcounted, hkeys, hvalues, hformat, hcount, hnone⟩ := check_unsealed.1 hu
    refine ⟨keyName, valueName, hkeyName, hvalueName, hkeys, hvalues, hslots, hformat, hcount, ?_⟩
    rw [← hhash, ← hnone]
  · rintro ⟨keyName, valueName, hkeyName, hvalueName, hkeys, hvalues, hslots, hformat, hcount,
      hhash⟩
    have hcounted : ∀ s ∈ d.slots, s.Counted := by
      intro s hs
      obtain ⟨k, -, hk⟩ := exists_of_mem_right (mapM_eq_ok.1 hslots) s hs
      exact (SlotRecord.ofKey_eq_ok.1 hk).2.1
    exact ⟨keyName, hkeyName, valueName, hvalueName, d.slots, hslots, { d with payloadHash := "" },
      check_unsealed.2 ⟨rfl, hcounted, hkeys, hvalues, hformat, hcount, rfl⟩, d.payloadHash, hhash,
      rfl⟩

/-- The digest leaves itself out. -/
theorem digestOf_payloadHash (d : Document) (hash : String) :
    digestOf { d with payloadHash := hash }.entries = digestOf d.entries := rfl

/-- The document of a multimap passes the checks that a document is read
with. -/
theorem check_of_ofMultimap {d : Document} (h : ofMultimap registry m = .ok d) :
    check d.toValue = .ok d := by
  obtain ⟨-, -, -, -, -, -, hslots, hformat, hcount, -⟩ := ofMultimap_eq_ok.1 h
  refine d.check_toValue.2 ⟨hformat, fun s hs => ?_, hcount.symm⟩
  obtain ⟨k, -, hk⟩ := exists_of_mem_right (mapM_eq_ok.1 hslots) s hs
  exact (SlotRecord.ofKey_eq_ok.1 hk).2.1

/-- The document of a multimap of proper values is sealed. -/
theorem sealed_of_ofMultimap {d : Document} (h : ofMultimap registry m = .ok d)
    (hproper : ∀ s ∈ d.slots, s.key.isProper = true ∧ ∀ v ∈ s.values, v.isProper = true) :
    d.Sealed := by
  obtain ⟨-, -, -, -, -, -, hslots, -, -, hhash⟩ := ofMultimap_eq_ok.1 h
  refine ⟨d.plain_toValue.2 fun s hs => ?_, check_of_ofMultimap h, hhash⟩
  obtain ⟨k, -, hk⟩ := exists_of_mem_right (mapM_eq_ok.1 hslots) s hs
  obtain ⟨rfl, -, -, hkey, hvalues, -⟩ := SlotRecord.ofKey_eq_ok.1 hk
  obtain ⟨hkeyProper, hvaluesProper⟩ := hproper s hs
  refine s.plain_toValue.2 ⟨Value.plain_of_checkEncodable hkey hkeyProper, fun v hv => ?_⟩
  exact Value.plain_of_checkEncodable (Value.checkItems_eq_ok.1 hvalues v hv) (hvaluesProper v hv)

/-- A multimap by the same comparators, of whose keys the slots are taken
down in normal form, has the document in normal form. -/
theorem ofMultimap_normal {d : Document} {m' : Multimap} (h : ofMultimap registry m = .ok d)
    (hplain : d.toValue.Plain) (hkeys : m'.keyComparator = m.keyComparator)
    (hvalues : m'.valueComparator = m.valueComparator)
    (hslots : m'.keys.mapM (SlotRecord.ofKey m'.asMap) = .ok d.normal.slots) :
    ofMultimap registry m' = .ok d.normal := by
  obtain ⟨keyName, valueName, hkeyName, hvalueName, hkeyText, hvalueText, -, hformat, hcount,
    hhash⟩ := ofMultimap_eq_ok.1 h
  refine ofMultimap_eq_ok.2 ⟨keyName, valueName, hkeys ▸ hkeyName, hvalues ▸ hvalueName, hkeyText,
    hvalueText, hslots, hformat, ?_, ?_⟩
  · exact hcount.trans (congrArg Nat.cast (List.length_map _).symm)
  · rw [digestOf_payloadHash] at hhash ⊢
    exact (digestOf_normal hplain).trans hhash

end Document

end Collation.Wire

namespace Collation.Multimap

open Wire

variable {registry : Registry} {m : Multimap} {octets : List UInt8}

/-- Encoding is making the document and writing it. -/
theorem encode_eq_ok :
    (m.encode registry).result = .ok octets ↔
      ∃ d t, Document.ofMultimap registry m = .ok d ∧ Json.written d.toValue = .ok t
        ∧ octets = asciiOctets t := by
  unfold encode
  cases Document.ofMultimap registry m with
  | error e => exact iff_of_false (fun h => nomatch h) fun ⟨_, _, h, _⟩ => nomatch h
  | ok d =>
    dsimp only
    cases ht : Json.written d.toValue with
    | error e =>
      refine iff_of_false (fun h => nomatch h) fun ⟨d', t, hd, ht', _⟩ => ?_
      cases hd
      rw [ht] at ht'
      cases ht'
    | ok t =>
      constructor
      · intro h
        exact ⟨d, t, rfl, ht, (Except.ok.inj h).symm⟩
      · rintro ⟨d', t', hd, ht', rfl⟩
        cases hd
        rw [ht] at ht'
        cases ht'
        rfl

/-- It fails if one of the two does. -/
theorem encode_eq_error {e : Fault} :
    (m.encode registry).result = .error e ↔ Document.ofMultimap registry m = .error e
      ∨ ∃ d, Document.ofMultimap registry m = .ok d ∧ Json.written d.toValue = .error e := by
  unfold encode
  cases Document.ofMultimap registry m with
  | error f =>
    constructor
    · intro h
      exact .inl (congrArg Except.error (Except.error.inj h))
    · rintro (⟨⟨⟩⟩ | ⟨d, h, -⟩)
      · rfl
      · cases h
  | ok d =>
    dsimp only
    cases ht : Json.written d.toValue with
    | error f =>
      constructor
      · intro h
        exact .inr ⟨d, rfl, ht.trans (congrArg Except.error (Except.error.inj h))⟩
      · rintro (h | ⟨d', ⟨⟩, h⟩)
        · cases h
        · rw [ht] at h
          cases h
          rfl
    | ok t =>
      refine iff_of_false (fun h => nomatch h) ?_
      rintro (h | ⟨d', ⟨⟩, h⟩)
      · cases h
      · rw [ht] at h
        cases h

/-- A multimap with the document in normal form is encoded alike. -/
theorem encode_of_normal {d : Document} {t : List Char} {m' : Multimap} (hplain : d.toValue.Plain)
    (hdocument : Document.ofMultimap registry m' = .ok d.normal)
    (ht : Json.written d.toValue = .ok t) : (m'.encode registry).result = .ok (asciiOctets t) :=
  encode_eq_ok.2 ⟨d.normal, t, hdocument, (Document.written_normal hplain).trans ht, rfl⟩

end Collation.Multimap
