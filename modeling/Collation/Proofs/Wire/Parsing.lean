/-
Documents read back. A document whose fields check and whose digest is the
one of its other fields (`Sealed`) is read from its canonical text, be it
text or octets, with its slots in normal form; the digest is found to be
right, since it does not depend on the order of entries either
(`digestOf_canonicalEntries`). This is so for documents that are whole
(`Whole`): where the halves of a surrogate pair stand side by side they are
read as one character.
-/
import Collation.Proofs.Json.Reading
import Collation.Proofs.Wire.Fields

namespace Collation.Wire

open Value (Named canonicalEntries byName)

variable {es : List (Value × Value)} {t : List Char}

-- ============================================================== digests

/-- What a digest is made of: the entries less the one for the digest. -/
def covered (es : List (Value × Value)) : List (Value × Value) :=
  es.filter fun e => !Value.agree e.1 digestName

/-- The digest is that of the canonical text of the covered fields. -/
theorem digestOf_eq (es : List (Value × Value)) :
    digestOf es = (Json.written (.dict (covered es))).map
      fun text => Text.ofString (hexText (Sha256.digest (asciiOctets text))) := by
  show digestOf es = (Json.written (.dict (es.filter fun e => !Value.agree e.1 digestName))).map _
  unfold digestOf
  dsimp only
  cases Json.written (.dict (es.filter fun e => !Value.agree e.1 digestName)) <;> rfl

/-- The covered fields of a plain object are plain. -/
theorem plain_covered (h : (Value.dict es).Plain) : (Value.dict (covered es)).Plain :=
  .dict (h.of_dict.1.filter _) fun e he => h.of_dict.2 e (List.mem_of_mem_filter he)

/-- Those of a legible one are legible. -/
theorem legible_covered (h : Json.Legible (.dict es)) : Json.Legible (.dict (covered es)) :=
  .dict (h.of_dict.1.filter _) fun e he => h.of_dict.2 e (List.mem_of_mem_filter he)

/-- A dictionary has the same fields covered as its normal form, to JSON. -/
theorem same_covered_canonicalEntries (h : (Value.dict es).Plain) :
    (Value.dict (covered (canonicalEntries es))).Same (.dict (covered es)) := by
  have hperm : (covered (byName es)).Perm (covered es) := (Value.byName_perm es).filter _
  have hcovered : covered (canonicalEntries es)
      = (covered (byName es)).map fun e => (e.1, e.2.normal) := List.filter_map
  have hplain := plain_covered h
  calc (Value.dict (covered (canonicalEntries es))).normal
      = .dict (byName (((covered (byName es)).map fun e => (e.1, e.2.normal)).map
          fun e => (e.1, e.2.normal))) := by
        rw [hcovered, Value.normal_dict, canonicalEntries, ← Value.byName_map]
    _ = .dict (byName (((covered es).map fun e => (e.1, e.2.normal)).map
          fun e => (e.1, e.2.normal))) := by
        rw [Value.byName_eq_of_perm ((hplain.of_dict.1.map _).map _) ((hperm.map _).map _)]
    _ = (Value.dict (canonicalEntries (covered es))).normal := by
        rw [Value.normal_dict, canonicalEntries, canonicalEntries, ← Value.byName_map,
          ← Value.byName_map, ← Value.byName_map, Value.byName_byName]
    _ = (Value.dict (covered es)).normal := by
        rw [← Value.normal_dict, hplain.normal_normal]

/-- So the same text is digested of the two. -/
theorem written_covered_canonicalEntries (h : (Value.dict es).Plain) :
    Json.written (.dict (covered (canonicalEntries es))) = Json.written (.dict (covered es)) := by
  have hnormal : (Value.dict (canonicalEntries es)).Plain := by
    rw [← Value.normal_dict]
    exact h.normal
  rw [← Json.written_normal (plain_covered hnormal), same_covered_canonicalEntries h,
    Json.written_normal (plain_covered h)]

/-- The digest of a dictionary is that of its normal form. -/
theorem digestOf_canonicalEntries (h : (Value.dict es).Plain) :
    digestOf (canonicalEntries es) = digestOf es := by
  rw [digestOf_eq, digestOf_eq, written_covered_canonicalEntries h]

/-- The octets of a legible value spell its normal form, its texts joined. -/
theorem readJson_asciiOctets {v : Value} (h : Json.Legible v) (ht : Json.written v = .ok t) :
    readJson (.bytes (asciiOctets t)) = .ok v.normal.joined := by
  show Json.ofOctets (asciiOctets t) = _
  rw [Json.ofOctets, Json.decodeDetected_printable (h.printable ht)]
  exact (h.spells ht).ofPoints

/-- The octets of a whole value spell its normal form. -/
theorem readJson_whole {v : Value} (h : Json.Legible v) (hwhole : v.isWhole = true)
    (ht : Json.written v = .ok t) : readJson (.bytes (asciiOctets t)) = .ok v.normal := by
  rw [readJson_asciiOctets h ht, h.normal.joined (v.isWhole_normal.trans hwhole)]

-- ============================================================ own fields

namespace SlotRecord

/-- A slot has its names once each. -/
theorem entries_named (s : SlotRecord) : Named s.entries :=
  ⟨by simp [entries], by simp [entries, Text.ofString_inj]⟩

/-- As many values as are counted, and at least one. -/
def Counted (s : SlotRecord) : Prop := 1 ≤ s.valueCount ∧ s.values.length = s.valueCount

/-- A slot that is counted rightly is read as what it is. -/
theorem check_toValue {s r : SlotRecord} : check s.toValue = .ok r ↔ r = s ∧ s.Counted := by
  have hkey : Value.lookup (.text "key") s.entries = some s.key := rfl
  have hcount : Value.lookup (.text "value_count") s.entries = some (.int s.valueCount) := rfl
  have hvalues : Value.lookup (.text "values") s.entries = some (.list s.values) := rfl
  have hknown : unknownNames fieldNames s.entries = [] := rfl
  obtain ⟨key, valueCount, values⟩ := r
  simp only [toValue, check_eq_ok, required_eq_ok, hkey, hcount, hvalues, hknown, listed,
    integer_int_eq_ok, Option.some.injEq, exists_eq_left', Except.ok.injEq, true_and]
  constructor
  · rintro ⟨rfl, ⟨hleast, rfl⟩, rfl, hlength⟩
    exact ⟨rfl, hleast, hlength⟩
  · rintro ⟨heq, hleast, hlength⟩
    cases heq
    exact ⟨rfl, ⟨hleast, rfl⟩, rfl, hlength⟩

/-- A slot is plain if its key and values are. -/
theorem plain_toValue (s : SlotRecord) :
    s.toValue.Plain ↔ s.key.Plain ∧ ∀ v ∈ s.values, v.Plain := by
  constructor
  · intro h
    have hvalues := h.of_dict.2
    simp only [entries, List.forall_mem_cons] at hvalues
    exact ⟨hvalues.1, hvalues.2.2.1.of_list⟩
  · rintro ⟨hkey, hvalues⟩
    refine .dict s.entries_named ?_
    simp only [entries, List.forall_mem_cons]
    exact ⟨hkey, .int _, .list hvalues, fun _ h => absurd h List.not_mem_nil⟩

/-- A slot that is read off a value has parts of the value for its key and
its values. -/
theorem of_check {P : Value → Prop} (hP : Hereditary P) {v : Value} {s : SlotRecord} (hv : P v)
    (h : check v = .ok s) : P s.key ∧ ∀ x ∈ s.values, P x := by
  cases v with
  | dict es =>
    obtain ⟨hkey, -, hvalues, -⟩ := check_eq_ok.1 h
    obtain ⟨k, hk, heq⟩ := hP.required hv hkey
    obtain ⟨w, hw, hitems⟩ := hP.required hv hvalues
    exact ⟨Except.ok.inj heq ▸ hk, hP.listed hw hitems⟩
  | _ => cases h

/-- A slot that is accepted counts its values. -/
private theorem counted_of_check {v : Value} {s : SlotRecord} (h : check v = .ok s) :
    s.Counted := by
  cases v with
  | dict es =>
    obtain ⟨-, hcount, -, -, hlength⟩ := check_eq_ok.1 h
    obtain ⟨w, -, hinteger⟩ := required_eq_ok.1 hcount
    cases w with
    | int n =>
      obtain ⟨hleast, rfl⟩ := integer_int_eq_ok.1 hinteger
      exact ⟨hleast, hlength⟩
    | _ => cases hinteger
  | _ => cases h

private theorem plain_normal {s : SlotRecord} (h : s.toValue.Plain) : s.normal.toValue.Plain := by
  obtain ⟨hkey, hvalues⟩ := s.plain_toValue.1 h
  exact s.normal.plain_toValue.2
    ⟨hkey.normal, List.forall_mem_map.2 fun v hv => (hvalues v hv).normal⟩

private theorem normal_normal {s : SlotRecord} (h : s.toValue.Plain) :
    s.normal.normal = s.normal := by
  obtain ⟨hkey, hvalues⟩ := s.plain_toValue.1 h
  have hlist : s.values.map (Value.normal ∘ Value.normal) = s.values.map Value.normal :=
    List.map_congr_left fun v hv => (hvalues v hv).normal_normal
  simp only [normal, hkey.normal_normal, List.map_map, hlist]

/-- A slot is the same to JSON as its normal form. -/
theorem same_normal {s : SlotRecord} (h : s.toValue.Plain) : s.normal.toValue.Same s.toValue := by
  have hnormal := normal_normal h
  simp only [normal, SlotRecord.mk.injEq] at hnormal
  refine Value.same_dict ?_
  simp only [entries, normal, List.map_cons, List.map_nil, Value.normal_list, hnormal.1,
    hnormal.2.2]

end SlotRecord

namespace Document

variable {d : Document}

/-- A document has its names once each. -/
theorem entries_named (d : Document) : Named d.entries :=
  ⟨by simp [entries], by simp [entries, Text.ofString_inj]⟩

/-- Slots that are counted rightly are read as what they are. -/
theorem checkSlots_toValue {slots read : List SlotRecord} :
    checkSlots (.list (slots.map SlotRecord.toValue)) = .ok read
      ↔ read = slots ∧ ∀ s ∈ slots, s.Counted := by
  show each SlotRecord.check 0 (slots.map SlotRecord.toValue) = .ok read ↔ _
  rw [each_eq_ok, List.forall₂_map_left_iff]
  simp only [SlotRecord.check_toValue]
  constructor
  · intro h
    have heq : List.Forall₂ (· = ·) slots read := h.imp fun _ _ h => h.1.symm
    rw [List.forall₂_eq_eq_eq] at heq
    subst heq
    exact ⟨rfl, fun s hs => (List.forall₂_same.1 h s hs).2⟩
  · rintro ⟨rfl, h⟩
    exact List.forall₂_same.2 fun s hs => ⟨rfl, h s hs⟩

/-- The fields of a document check if they are of this format and the counts
are right. -/
theorem check_toValue (d : Document) :
    check d.toValue = .ok d ↔
      d.format = currentFormat ∧ (∀ s ∈ d.slots, s.Counted) ∧ d.slots.length = d.keyCount := by
  have hformat : optional d.entries "format" currentFormat checkFormat = .ok d.format
      ↔ d.format = currentFormat := by
    have hfound : Value.lookup (.text "format") d.entries = some (.text d.format) := rfl
    simp only [optional_eq_ok, hfound, Option.some.injEq, exists_eq_left', checkFormat, string,
      reduceCtorEq, false_and, or_false]
    split
    · next h => exact iff_of_true rfl h
    · next h => exact iff_of_false (fun h => nomatch h) h
  have hcount : required d.entries "key_count" (integer 0) = .ok d.keyCount
      ↔ 0 ≤ d.keyCount := by
    have hfound : Value.lookup (.text "key_count") d.entries = some (.int d.keyCount) := rfl
    simp [required_eq_ok, hfound, integer_int_eq_ok]
  have hslots : required d.entries "slots" checkSlots = .ok d.slots ↔ ∀ s ∈ d.slots, s.Counted := by
    have hfound : Value.lookup (.text "slots") d.entries
        = some (.list (d.slots.map SlotRecord.toValue)) := rfl
    simp [required_eq_ok, hfound, checkSlots_toValue]
  rw [toValue, check_eq_ok, hformat, hcount, hslots]
  constructor
  · rintro ⟨hformat, -, -, -, hslots, -, -, hlength⟩
    exact ⟨hformat, hslots, hlength⟩
  · rintro ⟨hformat, hslots, hlength⟩
    exact ⟨hformat, rfl, rfl, by omega, hslots, rfl, rfl, hlength⟩

/-- A document is plain if its slots are. -/
theorem plain_toValue (d : Document) : d.toValue.Plain ↔ ∀ s ∈ d.slots, s.toValue.Plain := by
  constructor
  · intro h
    have hvalues := h.of_dict.2
    simp only [entries, List.forall_mem_cons] at hvalues
    exact List.forall_mem_map.1 hvalues.2.2.2.2.1.of_list
  · intro hslots
    refine .dict d.entries_named ?_
    simp only [entries, List.forall_mem_cons]
    exact ⟨.text _, .text _, .text _, .int _, .list (List.forall_mem_map.2 hslots), .text _,
      fun _ h => absurd h List.not_mem_nil⟩

/-- A document that is read off fields has parts of them for its keys and
values. -/
theorem of_check {P : Value → Prop} (hP : Hereditary P) (hes : P (.dict es))
    (h : check (.dict es) = .ok d) : ∀ s ∈ d.slots, P s.key ∧ ∀ x ∈ s.values, P x := by
  obtain ⟨-, -, -, -, hslots, -⟩ := check_eq_ok.1 h
  obtain ⟨v, hv, hitems⟩ := hP.required hes hslots
  intro s hs
  unfold checkSlots at hitems
  split at hitems
  · next xs hlisted =>
    obtain ⟨x, hx, hcheck⟩ := exists_of_mem_right ((each_eq_ok 0).1 hitems) s hs
    exact SlotRecord.of_check hP (hP.listed hv hlisted x hx) hcheck
  · cases hitems

/-- The slots of a document that is read off fields are counted rightly. -/
theorem counted_of_check {v : Value} (h : check v = .ok d) : ∀ s ∈ d.slots, s.Counted := by
  cases v with
  | dict es =>
    obtain ⟨-, -, -, -, hslots, -⟩ := check_eq_ok.1 h
    obtain ⟨w, -, hitems⟩ := required_eq_ok.1 hslots
    unfold checkSlots at hitems
    split at hitems
    · intro s hs
      obtain ⟨x, -, hcheck⟩ := exists_of_mem_right ((each_eq_ok 0).1 hitems) s hs
      exact SlotRecord.counted_of_check hcheck
    · cases hitems
  | _ => cases h

/-- A document that is read off plain fields is plain. -/
theorem plain_of_check (hes : (Value.dict es).Plain) (h : check (.dict es) = .ok d) :
    d.toValue.Plain :=
  d.plain_toValue.2 fun s hs => s.plain_toValue.2 (of_check hereditary_plain hes h s hs)

private theorem plain_normal (h : d.toValue.Plain) : d.normal.toValue.Plain := by
  have hslots := d.plain_toValue.1 h
  exact d.normal.plain_toValue.2
    (List.forall_mem_map.2 fun s hs => SlotRecord.plain_normal (hslots s hs))

/-- A document is the same to JSON as its normal form. -/
theorem same_normal (h : d.toValue.Plain) : d.normal.toValue.Same d.toValue := by
  have hslots := d.plain_toValue.1 h
  have hlist : d.slots.map (Value.normal ∘ SlotRecord.toValue ∘ SlotRecord.normal)
      = d.slots.map (Value.normal ∘ SlotRecord.toValue) :=
    List.map_congr_left fun s hs => SlotRecord.same_normal (hslots s hs)
  refine Value.same_dict ?_
  simp only [entries, normal, List.map_cons, List.map_nil, Value.normal_list, List.map_map, hlist]

/-- The digest does not see the order of entries. -/
theorem digestOf_normal (h : d.toValue.Plain) :
    digestOf d.normal.entries = digestOf d.entries := by
  have hsame := same_normal h
  unfold Value.Same at hsame
  rw [toValue, toValue, Value.normal_dict, Value.normal_dict, Value.dict.injEq] at hsame
  rw [← digestOf_canonicalEntries (plain_normal h), hsame, digestOf_canonicalEntries h]

/-- Neither does the text. -/
theorem written_normal (h : d.toValue.Plain) :
    Json.written d.normal.toValue = Json.written d.toValue := by
  rw [← Json.written_normal (plain_normal h), same_normal h, Json.written_normal h]

-- ====================================================== sealed documents

/-- A document of plain values whose fields check and whose digest is that
of its other fields. -/
structure Sealed (d : Document) : Prop where
  plain : d.toValue.Plain
  checked : check d.toValue = .ok d
  digest : digestOf d.entries = .ok d.payloadHash

/-- The digest that is carried is the one that is computed. -/
private theorem checkHash_eq_ok : checkHash es d = .ok () ↔ digestOf es = .ok d.payloadHash := by
  unfold checkHash
  cases digestOf es with
  | error e => exact iff_of_false (fun h => nomatch h) fun h => nomatch h
  | ok expected =>
    show (if d.payloadHash ≠ expected then Except.error _ else Except.ok ()) = _ ↔ _
    by_cases heq : d.payloadHash = expected
    · rw [if_neg (not_not.2 heq)]
      exact iff_of_true rfl (congrArg Except.ok heq.symm)
    · rw [if_pos heq]
      exact iff_of_false (fun h => nomatch h) fun h => heq (Except.ok.inj h).symm

/-- What is accepted: an object whose fields check, with the digest that it
claims if the digest is compared. -/
theorem parse_eq_ok {verify : Bool} {data : Value} :
    parse verify data = .ok d ↔
      ∃ es, readJson data = .ok (.dict es) ∧ check (.dict es) = .ok d
        ∧ (verify = true → digestOf es = .ok d.payloadHash) := by
  unfold parse
  cases hread : readJson data with
  | error e => exact iff_of_false (fun h => nomatch h) fun ⟨_, h, _⟩ => nomatch h
  | ok v =>
    cases v with
    | dict es =>
      simp only [Except.mapError, Except.ok.injEq, Value.dict.injEq, exists_eq_left']
      cases hcheck : check (.dict es) with
      | error fs => exact iff_of_false (fun h => nomatch h) fun h => nomatch h.1
      | ok document =>
        rw [Except.ok.injEq]
        cases verify with
        | false =>
          show Except.ok document = _ ↔ _
          simp
        | true =>
          show (checkHash es document).map _ = _ ↔ _
          rw [map_eq_ok]
          constructor
          · rintro ⟨u, hu, rfl⟩
            exact ⟨rfl, fun _ => checkHash_eq_ok.1 hu⟩
          · rintro ⟨rfl, hhash⟩
            exact ⟨(), checkHash_eq_ok.2 (hhash rfl), rfl⟩
    | _ => exact iff_of_false (fun h => nomatch h) fun ⟨_, h, _⟩ => nomatch h

/-- What is accepted with its digest compared is accepted without. -/
theorem parse_of_verified {data : Value} (h : parse true data = .ok d) (verify : Bool) :
    parse verify data = .ok d := by
  obtain ⟨es, hread, hcheck, hdigest⟩ := parse_eq_ok.1 h
  exact parse_eq_ok.2 ⟨es, hread, hcheck, fun _ => hdigest rfl⟩

/-- None of the texts in the document has halves of pairs side by side. -/
structure Whole (d : Document) : Prop where
  keyComparator : d.keyComparator.IsWhole
  valueComparator : d.valueComparator.IsWhole
  slots : ∀ s ∈ d.slots, s.key.isWhole = true ∧ ∀ v ∈ s.values, v.isWhole = true

/-- The format and the digest of a sealed document have none anyway. -/
theorem Sealed.isWhole (h : d.Sealed) (hwhole : d.Whole) : d.toValue.isWhole = true := by
  have hname : ∀ s : String, (Value.text s).isWhole = true := fun s =>
    Value.isWhole_text.2 (Text.isWhole_ofString s)
  have hdigest : d.payloadHash.IsWhole := by
    have hsealed := h.digest
    rw [digestOf_eq, map_eq_ok] at hsealed
    obtain ⟨text, -, heq⟩ := hsealed
    exact heq ▸ Text.isWhole_ofString _
  have hformat : d.format.IsWhole := (check_toValue d).1 h.checked |>.1 ▸ Text.isWhole_ofString _
  refine Value.isWhole_dict.2 ?_
  simp only [entries, List.forall_mem_cons]
  refine ⟨⟨hname _, Value.isWhole_text.2 hformat⟩,
    ⟨hname _, Value.isWhole_text.2 hwhole.keyComparator⟩,
    ⟨hname _, Value.isWhole_text.2 hwhole.valueComparator⟩, ⟨hname _, rfl⟩,
    ⟨hname _, Value.isWhole_list.2 (List.forall_mem_map.2 fun s hs => ?_)⟩,
    ⟨hname _, Value.isWhole_text.2 hdigest⟩, fun _ h => absurd h List.not_mem_nil⟩
  obtain ⟨hkey, hvalues⟩ := hwhole.slots s hs
  refine Value.isWhole_dict.2 ?_
  simp only [SlotRecord.entries, List.forall_mem_cons]
  exact ⟨⟨hname _, hkey⟩, ⟨hname _, rfl⟩, ⟨hname _, Value.isWhole_list.2 hvalues⟩,
    fun _ h => absurd h List.not_mem_nil⟩

/-- Data that spells the normal form of fields which check, and of which the
digest is the one they claim, is accepted with its slots in normal form. -/
theorem parse_canonicalEntries (hes : (Value.dict es).Plain) (hcheck : check (.dict es) = .ok d)
    (hdigest : digestOf es = .ok d.payloadHash) {data : Value}
    (hread : readJson data = .ok (.dict (canonicalEntries es))) (verify : Bool) :
    parse verify data = .ok d.normal := by
  have hnormal := keeps_check _ _ hes hcheck
  rw [Value.normal_dict] at hnormal
  refine parse_eq_ok.2 ⟨_, hread, hnormal, fun _ => ?_⟩
  rw [digestOf_canonicalEntries hes]
  exact hdigest

/-- What a document is read as checks, with the digest that it claims. -/
theorem parse_normal (h : d.Sealed) {data : Value} (hread : readJson data = .ok d.toValue.normal)
    (verify : Bool) : parse verify data = .ok d.normal := by
  rw [toValue, Value.normal_dict] at hread
  exact parse_canonicalEntries h.plain h.checked h.digest hread verify

/-- The canonical text of a document spells the document's normal form. -/
theorem readJson_text (h : d.Sealed) (hwhole : d.Whole) (ht : Json.written d.toValue = .ok t) :
    readJson (.text (.ofChars t)) = .ok d.toValue.normal := by
  have hread := ((Json.legible_of_written h.plain ht).spells_normal (h.isWhole hwhole) ht).ofPoints
  obtain ⟨cs, rfl⟩ := Json.written_dict_head d.entries_named (List.cons_ne_nil _ _) ht
  have hmark : (Text.ofChars ('\x7b' :: '"' :: cs)).points.head? ≠ some (.char '\uFEFF') := by
    simp [Text.ofChars]
  exact (Json.ofText_eq hmark).trans hread

/-- The octets of a document are read as its normal form. -/
theorem readJson_octets (h : d.Sealed) (hwhole : d.Whole) (ht : Json.written d.toValue = .ok t) :
    readJson (.bytes (asciiOctets t)) = .ok d.toValue.normal :=
  readJson_whole (Json.legible_of_written h.plain ht) (h.isWhole hwhole) ht

/-- A document comes back from its text, its slots in normal form. -/
theorem parse_text (h : d.Sealed) (hwhole : d.Whole) (ht : Json.written d.toValue = .ok t)
    (verify : Bool) : parse verify (.text (.ofChars t)) = .ok d.normal :=
  parse_normal h (readJson_text h hwhole ht) verify

/-- A document comes back from its octets, its slots in normal form. -/
theorem parse_octets (h : d.Sealed) (hwhole : d.Whole) (ht : Json.written d.toValue = .ok t)
    (verify : Bool) : parse verify (.bytes (asciiOctets t)) = .ok d.normal :=
  parse_normal h (readJson_octets h hwhole ht) verify

end Document

end Collation.Wire
