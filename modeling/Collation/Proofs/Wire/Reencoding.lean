/-
Which of the multimaps that decoding gives can be encoded. The two sides do
not ask the same. Encoding refuses numbers that are not finite, for which
the reader takes words, and it looks every key up, so that each key is
compared with itself, which decoding never did to a key that came first and
met no other. Nothing else is missing, and whatever is encoded again comes
back (`reencoding`), but for the halves of a surrogate pair that stand side
by side in a text: the reader lets a text have them, what is written for
them is what is written for the character of the pair, and the character is
read (`Decoded.comes_back_iff`).

Decoding puts and does no more. So a multimap that it gives is arranged:
as far as the keys are plain they ascend. From there the argument has to go
in this order: what was taken down of the keys shows them plain, hence
ascending, hence each of them found in its own slot; so what was taken down
of the values is all the values, and these are plain and ascend as well.
-/
import Collation.Proofs.Wire.Refusal
import Collation.Proofs.Wire.Reordering
import Collation.Proofs.Wire.RoundTrip

namespace Collation

open Json (Fit Legible)

-- ============================================================= what is read

namespace Wire

variable {registry : Registry} {verify : Bool} {data : Value} {d : Document} {m : Multimap}
  {slots : List SlotRecord} {keys values : Comparator} {K V : Value → Prop}

/-- The keys and values of an accepted document are legible, and whole if it
was read from characters. -/
theorem Document.fit_of_parse (h : parse verify data = .ok d) :
    ∀ s ∈ d.slots, Fit (Solid data) s.key ∧ ∀ v ∈ s.values, Fit (Solid data) v := by
  obtain ⟨es, hread, hcheck, -⟩ := parse_eq_ok.1 h
  exact of_check (hereditary_fit _) (fit_of_read hread) hcheck

/-- The octets of a canonical text spell nothing but characters. -/
theorem solid_asciiOctets {t : List Char} (h : Json.Printable t) :
    Solid (.bytes (asciiOctets t)) := by
  intro s hs
  change (Text.decodeDetected (asciiOctets t)).toOption = some s at hs
  rw [Json.decodeDetected_printable h] at hs
  cases hs
  exact noHalf_codePoints t

private theorem within_replay (hslots : ∀ s ∈ slots, K s.key ∧ ∀ v ∈ s.values, V v)
    (h : Multimap.Within K V m) : Multimap.Within K V (replay m slots).state :=
  replay_kept (fun s hs v hv _ h => h.put (hslots s hs).1 ((hslots s hs).2 v hv)) h

/-- Replaying slots keeps all arranged. -/
theorem arranged_replay (hk : keys.compare.ConsistentOn K) (hv : values.compare.ConsistentOn V)
    (h : Multimap.Arranged keys values K V m) :
    Multimap.Arranged keys values K V (replay m slots).state :=
  replay_kept (fun s _ v _ _ h => h.put hk hv s.key v) h

end Wire

namespace Multimap

open Wire

variable {registry : Registry} {verify : Bool} {data : Value} {m : Multimap}
  {keys values : Comparator} {K V : Value → Prop} {octets : List UInt8}

/-- What holds legible values holds proper ones. -/
theorem Proper.of_legible (h : Within Legible Legible m) : m.Proper :=
  fun t ht => ⟨(h t ht).1.isProper, fun v hv => ((h t ht).2 v hv).isProper⟩

/-- What is decoded is legible, and whole if it was read from characters. -/
theorem fit_of_decode (h : (decode registry verify data).result = .ok m) :
    Within (Fit (Solid data)) (Fit (Solid data)) m := by
  obtain ⟨d, hparse, hd⟩ := decode_eq_ok.1 h
  obtain ⟨keys, values, -, -, rfl⟩ := Document.toMultimap_eq_ok.1 hd
  exact within_replay (Document.fit_of_parse hparse) fun _ ht => absurd ht List.not_mem_nil

/-- What characters are decoded as is whole. -/
theorem whole_of_decode (h : (decode registry verify data).result = .ok m) (hsolid : Solid data) :
    m.Whole := fun t ht =>
  ⟨((fit_of_decode h) t ht).1.whole hsolid,
    fun v hv => ((fit_of_decode h t ht).2 v hv).whole hsolid⟩

/-- What a multimap is that was decoded by ready-made comparators. -/
structure Decoded (keys values : Comparator) (m : Multimap) : Prop
    extends Arranged keys values Value.Plain Value.Plain m where
  readyKeys : Registry.ReadyMade keys
  readyValues : Registry.ReadyMade values
  legible : Within Legible Legible m

/-- What was decoded is as decoding leaves it. -/
theorem exists_decoded (h : (decode .withBuiltins verify data).result = .ok m) :
    ∃ keys values, Decoded keys values m := by
  obtain ⟨d, hparse, hd⟩ := decode_eq_ok.1 h
  obtain ⟨keys, values, hcomparators, -, rfl⟩ := Document.toMultimap_eq_ok.1 hd
  obtain ⟨_, hkeys, hcomparators⟩ := bind_eq_ok.1 hcomparators
  obtain ⟨_, hvalues, hcomparators⟩ := bind_eq_ok.1 hcomparators
  cases hcomparators
  have hk := Registry.readyMade_of_resolve hkeys
  have hv := Registry.readyMade_of_resolve hvalues
  have hlegible := fit_of_decode h
  exact ⟨keys, values, arranged_replay hk.consistentOn hv.consistentOn (.empty keys values _ _),
    hk, hv, fun t ht => ⟨(hlegible t ht).1.legible, fun v hv => ((hlegible t ht).2 v hv).legible⟩⟩

-- ====================================================== what is written

/-- A number of this size has no more digits than are written. -/
theorem legible_count {n : Nat} (h : n < 10 ^ mostDigits) : Legible (.int n) := by
  have hdigits : (Nat.toDigits 10 n).length ≤ mostDigits :=
    (Nat.length_toDigits_le_iff (by decide) (by decide)).2 h
  exact .int hdigits

/-- There are no more slots than entries. -/
private theorem Intact.length_le (h : Intact keys values m) : m.map.slots.length ≤ m.total := by
  rw [h.counted]
  have hfilled : ∀ s ∈ m.map.slots, 1 ≤ s.value.size :=
    fun s hs => List.length_pos_iff.2 (h.slots s hs).filled
  generalize m.map.slots = slots at hfilled
  induction slots with
  | nil => exact Nat.zero_le _
  | cons s slots ih =>
    obtain ⟨hs, hslots⟩ := List.forall_mem_cons.1 hfilled
    have hrest := ih hslots
    rw [countIn_cons, List.length_cons]
    omega

private theorem Intact.size_le (h : Intact keys values m) {t : Slot OrderedSet}
    (ht : t ∈ m.map.slots) :
    t.value.size ≤ m.total := by
  obtain ⟨before, after, hslots⟩ := List.append_of_mem ht
  obtain ⟨-, -, -, htotal⟩ := h.parted hslots
  omega

/-- The records of legible keys and values are legible, if they are not too
many to be counted. -/
theorem legible_records (hm : Intact keys values m) (h : Within Legible Legible m)
    (hsize : m.total < 10 ^ mostDigits) : ∀ s ∈ m.records, Legible s.toValue := by
  refine List.forall_mem_map.2 fun t ht => .dict (SlotRecord.entries_named _) ?_
  have hcount := legible_count (Nat.lt_of_le_of_lt (hm.size_le ht) hsize)
  simp only [SlotRecord.entries, recordOf, List.forall_mem_cons]
  exact ⟨(h t ht).1, hcount, .list (h t ht).2, fun _ h => absurd h List.not_mem_nil⟩

/-- The document of legible values is legible, if its counts can be written. -/
private theorem legible_document {d : Document} (hm : Intact keys values m)
    (h : Within Legible Legible m) (hsize : m.total < 10 ^ mostDigits)
    (hslots : d.slots = m.records) (hcount : d.keyCount = m.records.length) :
    Legible d.toValue := by
  have hkeys : m.records.length ≤ m.total := by
    rw [records, List.length_map]
    exact hm.length_le
  refine .dict d.entries_named ?_
  simp only [Document.entries, List.forall_mem_cons]
  rw [hslots, hcount]
  exact ⟨.text _, .text _, .text _, legible_count (Nat.lt_of_le_of_lt hkeys hsize),
    .list (List.forall_mem_map.2 (legible_records hm h hsize)), .text _,
    fun _ h => absurd h List.not_mem_nil⟩

/-- An encodable multimap of legible keys and values is encoded, if its
comparators have texts for names. -/
theorem Encodable.encodes (hm : Encodable keys values K V m) (hk : keys.compare.ConsistentOn K)
    (h : Within Legible Legible m) (hsize : m.total < 10 ^ mostDigits)
    (hkeys : ∃ s, registry.nameOf keys = .ok (.text s))
    (hvalues : ∃ s, registry.nameOf values = .ok (.text s)) :
    ∃ octets, (m.encode registry).result = .ok octets := by
  obtain ⟨keyName, hkeyName⟩ := hkeys
  obtain ⟨valueName, hvalueName⟩ := hvalues
  let unsealed : Document :=
    ⟨currentFormat, keyName, valueName, m.records.length, m.records, ""⟩
  obtain ⟨hash, hhash⟩ :=
    digestOf_legible (legible_document (d := unsealed) hm.toIntact h hsize rfl rfl)
  let d : Document := { unsealed with payloadHash := hash }
  obtain ⟨t, ht⟩ := (legible_document (d := d) hm.toIntact h hsize rfl rfl).written
  have hd : Document.ofMultimap registry m = .ok d := by
    rw [← hm.keyComparator] at hkeyName
    rw [← hm.valueComparator] at hvalueName
    exact Document.ofMultimap_eq_ok.2 ⟨_, _, hkeyName, hvalueName, rfl, rfl, hm.taken_down hk, rfl,
      rfl, hhash⟩
  exact ⟨_, encode_eq_ok.2 ⟨d, t, hd, ht, rfl⟩⟩

-- ============================================================ both sides

namespace Decoded

variable (h : Decoded keys values m)

include h

/-- What encoding takes down of a decoded multimap shows that it is in order,
and each key equivalent to itself. -/
theorem ordered_of_encode (hencode : (m.encode registry).result = .ok octets) :
    Ordered keys values Value.Plain Value.Plain m
      ∧ ∀ t ∈ m.map.slots, keys.compare.Gives t.key t.key .eq := by
  obtain ⟨d, t, hd, -, -⟩ := encode_eq_ok.1 hencode
  obtain ⟨-, -, -, -, -, -, htaken, -⟩ := Document.ofMultimap_eq_ok.1 hd
  have hsifted := (Proper.of_legible h.legible).sifted
  have hkeys : ∀ t ∈ m.map.slots, t.key.Plain := fun t ht => (key_of_takenDown htaken hsifted ht).1
  have hordered : KeysOrdered keys Value.Plain m := ⟨h.keyComparator, hkeys, h.keys_ascend hkeys⟩
  have hplain := hordered.plain_of_takenDown htaken h.readyKeys.consistentOn hsifted
  exact ⟨h.toArranged.ordered hplain,
    (hordered.records_of_takenDown htaken h.readyKeys.consistentOn).2⟩

/-- What it is encoded to comes back with the same entries if and only if no
halves of a surrogate pair stand side by side in them. -/
theorem comes_back_iff (hencode : (m.encode .withBuiltins).result = .ok octets) :
    (∃ text m', Text.decodeUtf8 octets = .ok text
        ∧ (∀ verify, ∀ data ∈ [Value.bytes octets, .text text],
          (decode .withBuiltins verify data).result = .ok m')
        ∧ m'.keyComparator = m.keyComparator ∧ m'.valueComparator = m.valueComparator
        ∧ List.Forall₂ (fun e e' => e.1.Same e'.1 ∧ e.2.Same e'.2) m.entries m'.entries
        ∧ (m'.encode .withBuiltins).result = .ok octets)
      ↔ ∀ e ∈ m.entries, e.1.isWhole = true ∧ e.2.isWhole = true := by
  obtain ⟨hordered, -⟩ := h.ordered_of_encode hencode
  have hproper := Proper.of_legible h.legible
  constructor
  · rintro ⟨text, m', -, hdecode, -, -, hentries, -⟩ e he
    -- what is written is ASCII, and so what is read of it is whole
    obtain ⟨d, t, hd, ht, rfl⟩ := encode_eq_ok.1 hencode
    obtain ⟨-, -, hsealed⟩ := hordered.document h.readyKeys.consistentOn hproper hd
    have hprintable := (Json.legible_of_written hsealed.plain ht).printable ht
    have hback := hdecode false (.bytes (asciiOctets t)) (by simp)
    have hwhole := whole_of_decode hback (solid_asciiOctets hprintable)
    obtain ⟨e', he', hkey, hvalue⟩ := exists_of_mem_right hentries.flip e he
    obtain ⟨u, hu, hmem⟩ := List.mem_flatMap.1 he'
    obtain ⟨v, hv, rfl⟩ := List.mem_map.1 hmem
    obtain ⟨hkeyWhole, hvaluesWhole⟩ := hwhole u hu
    exact ⟨hkey.isWhole_eq.trans hkeyWhole, hvalue.isWhole_eq.trans (hvaluesWhole v hv)⟩
  · intro hwhole
    obtain ⟨text, htext, hdecoded, hentries, hagain⟩ :=
      hordered.round_trip Registry.withBuiltins_built
        (Registry.readyMade_identified _ h.readyKeys)
        (Registry.readyMade_identified _ h.readyValues)
        (Registry.wholeName_readyMade h.readyKeys) (Registry.wholeName_readyMade h.readyValues)
        h.readyKeys.consistentOn h.readyKeys.blind.respects h.readyValues.blind.respects
        (fun _ => Value.Plain.normal) (fun _ => Value.Plain.normal) hproper
        (hordered.within_iff_entries.2 hwhole) hencode h.readyValues.consistentOn
    refine ⟨text, m.normal, htext, fun verify data hdata => ?_, rfl, rfl, hentries, hagain⟩
    rw [hdecoded verify data hdata]
    rfl

/-- What was decoded can be encoded if it is plain and its keys are found
again. -/
private theorem encodable (hplain : Within Value.Plain Value.Plain m)
    (hself : ∀ t ∈ m.map.slots, keys.compare.Gives t.key t.key .eq) :
    Encodable keys values Value.Plain Value.Plain m where
  toOrdered := h.toArranged.ordered hplain
  itself := hself
  showable t ht := (h.legible t ht).1.isShowable
  plain := hplain

end Decoded

/-- A multimap that was decoded, the digest compared or not, where the
ready-made comparators are registered and no others, is encoded if and only
if all numbers in it are finite and its comparator finds each key equivalent
to itself. What it is encoded to is decoded again, from the octets and from
their text, as a multimap by the same comparators with the same entries to
JSON, which has the same octets; but this only if no halves of a surrogate
pair stand side by side in a text, since they come back as one character. -/
theorem reencoding (h : (decode .withBuiltins verify data).result = .ok m)
    (hsize : m.total < 10 ^ mostDigits) :
    ((∃ octets, (m.encode .withBuiltins).result = .ok octets) ↔
        (∀ k ∈ m.keys, k.Plain ∧ m.keyComparator.compare.Gives k k .eq)
          ∧ ∀ v ∈ m.values, v.Plain)
      ∧ ∀ octets, (m.encode .withBuiltins).result = .ok octets →
        ((∃ text m', Text.decodeUtf8 octets = .ok text
            ∧ (∀ verify, ∀ data ∈ [Value.bytes octets, .text text],
              (decode .withBuiltins verify data).result = .ok m')
            ∧ m'.keyComparator = m.keyComparator ∧ m'.valueComparator = m.valueComparator
            ∧ List.Forall₂ (fun e e' => e.1.Same e'.1 ∧ e.2.Same e'.2) m.entries m'.entries
            ∧ (m'.encode .withBuiltins).result = .ok octets)
          ↔ ∀ e ∈ m.entries, e.1.isWhole = true ∧ e.2.isWhole = true) := by
  obtain ⟨keys, values, hm⟩ := exists_decoded h
  refine ⟨⟨?_, ?_⟩, fun octets hencode => hm.comes_back_iff hencode⟩
  · rintro ⟨octets, hencode⟩
    obtain ⟨hordered, hself⟩ := hm.ordered_of_encode hencode
    have hplain := hordered.within
    rw [hm.keyComparator]
    exact ⟨List.forall_mem_map.2 fun t ht => ⟨(hplain t ht).1, hself t ht⟩, fun v hv => by
      obtain ⟨t, ht, hv⟩ := List.mem_flatMap.1 hv
      exact (hplain t ht).2 v hv⟩
  · rintro ⟨hkeys, hvalues⟩
    rw [hm.keyComparator] at hkeys
    have hkeys := List.forall_mem_map.1 hkeys
    -- what can be encoded is found again and plain, key by key
    have hplain : Within Value.Plain Value.Plain m := fun t ht =>
      ⟨(hkeys t ht).1, fun v hv => hvalues v (List.mem_flatMap.2 ⟨t, ht, hv⟩)⟩
    exact (hm.encodable hplain fun t ht => (hkeys t ht).2).encodes hm.readyKeys.consistentOn
      hm.legible hsize (Registry.nameOf_readyMade hm.readyKeys)
      (Registry.nameOf_readyMade hm.readyValues)

/-- A document with a value given twice and a key given twice, each time as
another number. -/
theorem reencoding_merged :
    let data := Value.bytes <| asciiOctets <| [
      "\x7b\"key_comparator\":\"natural\",", "\"value_comparator\":\"natural\",",
      "\"key_count\":2,\"slots\":[", "\x7b\"key\":1,\"value_count\":2,", "\"values\":[2,2.0]\x7d,",
      "\x7b\"key\":true,\"value_count\":1,", "\"values\":[3]\x7d]\x7d"].flatMap String.toList
    ∃ m octets, (decode .withBuiltins false data).result = .ok m ∧ m.total < 10 ^ mostDigits
      ∧ m.keys.length = 1 ∧ m.total = 2 ∧ (m.encode .withBuiltins).result = .ok octets
      ∧ ((∀ k ∈ m.keys, k.Plain ∧ m.keyComparator.compare.Gives k k .eq)
        ∧ ∀ v ∈ m.values, v.Plain)
      ∧ ∃ text m', Text.decodeUtf8 octets = .ok text
        ∧ (∀ verify, ∀ data ∈ [Value.bytes octets, .text text],
          (decode .withBuiltins verify data).result = .ok m')
        ∧ m'.keyComparator = m.keyComparator ∧ m'.valueComparator = m.valueComparator
        ∧ List.Forall₂ (fun e e' => e.1.Same e'.1 ∧ e.2.Same e'.2) m.entries m'.entries
        ∧ (m'.encode .withBuiltins).result = .ok octets := by
  intro data
  have hrun : (decode .withBuiltins false data).result.toOption.map
      (fun m => (m.keys.length, m.total, (m.encode .withBuiltins).result.isOk,
        m.entries.all fun e => e.1.isWhole && e.2.isWhole))
      = some (1, 2, true, true) := by decide +kernel
  clear_value data
  cases hdecode : (decode .withBuiltins false data).result with
  | error e =>
    rw [hdecode] at hrun
    cases hrun
  | ok m =>
    rw [hdecode] at hrun
    obtain ⟨hkeys, htotal, hok, hwhole⟩ : m.keys.length = 1 ∧ m.total = 2 ∧ _ = true
        ∧ ∀ e ∈ m.entries, e.1.isWhole = true ∧ e.2.isWhole = true := by
      simpa [Except.toOption] using hrun
    cases hencode : (m.encode .withBuiltins).result with
    | error e =>
      rw [hencode] at hok
      cases hok
    | ok octets =>
      have hsize : m.total < 10 ^ mostDigits := by
        rw [htotal]
        exact Nat.lt_of_lt_of_le (by decide : 2 < 10) (Nat.le_self_pow (by decide) 10)
      obtain ⟨hiff, hagain⟩ := reencoding hdecode hsize
      exact ⟨m, octets, rfl, hsize, hkeys, htotal, hencode, hiff.1 ⟨octets, hencode⟩,
        (hagain octets hencode).2 hwhole⟩

/-- A value that is no finite number, in a document that has the digest it
should have: it is decoded, and then refused. -/
theorem decoded_not_encoded :
    let data := Value.bytes <| asciiOctets <| [
      "\x7b\"key_comparator\":\"natural\",", "\"value_comparator\":\"natural\",",
      "\"key_count\":1,\"slots\":[", "\x7b\"key\":1,\"value_count\":1,", "\"values\":[NaN]\x7d],",
      "\"payload_hash\":\"b834fe57029d6412", "e0d9e84c350e9fe83f932b30ddc13604",
      "0eef9fef998aa646\"\x7d"].flatMap String.toList
    ∃ m, (decode .withBuiltins true data).result = .ok m
      ∧ ∀ octets, (m.encode .withBuiltins).result ≠ .ok octets := by
  intro data
  have hrun : (decode .withBuiltins true data).result.toOption.map
      (fun m => (m.encode .withBuiltins).result.isOk) = some false := by decide +kernel
  clear_value data
  cases hdecode : (decode .withBuiltins true data).result with
  | error e =>
    rw [hdecode] at hrun
    cases hrun
  | ok m =>
    rw [hdecode] at hrun
    refine ⟨m, rfl, fun octets hencode => ?_⟩
    rw [Except.toOption, Option.map_some, hencode] at hrun
    cases hrun

end Multimap

end Collation
