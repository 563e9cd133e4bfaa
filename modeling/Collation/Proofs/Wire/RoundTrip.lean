/-
What is encoded is decoded. The document of a multimap names comparators
that lead back to the multimap's own (`Registry.Coherent`); its canonical
text is read as its normal form (`Document.parse_normal`), which describes
the multimap's normal form; and the replay makes that multimap and reports
no collapse (`Encodable.replay_records`). The normal form has the same
document but for the order of entries, so its text is the same.

All this is so where no text has the halves of a surrogate pair side by
side (`Multimap.Whole`), for those are read back as one character.
-/
import Collation.Proofs.Registry
import Collation.Proofs.Wire.Encodable

namespace Collation

open Wire

variable {registry : Registry} {InUse : Comparator → Prop} {m : Multimap} {d : Document}
  {keys values : Comparator} {K V : Value → Prop} {data : Value} {octets : List UInt8}

-- ========================================================== comparators

/-- What is written for a name is the text that it is, unless it is octets. -/
theorem text_of_string {name : Value} (hoctets : ∀ octets, name ≠ .bytes octets) {s : Text}
    (hs : string name = .ok s) : name.text? = some s := by
  cases name with
  | text t => cases hs; rfl
  | label t => cases hs; rfl
  | bytes octets => exact absurd rfl (hoctets octets)
  | _ => cases hs

/-- A name that stands in a document leads to the comparator that has it,
unless octets were its name: they are written as the text they spell. -/
theorem Registry.Coherent.resolve_string (h : Registry.Coherent InUse registry)
    {c : Comparator} (hc : Unmatched InUse c) {name : Value}
    (hname : registry.nameOf c = .ok name) (hoctets : ∀ octets, name ≠ .bytes octets) {s : Text}
    (hs : string name = .ok s) : registry.resolve (.text s) = .ok c := by
  have htext := text_of_string hoctets hs
  apply resolve_of_text htext
  exact h.resolve_nameOf_unmatched hc hname ((Value.agree_iff_of_text htext).2 htext)

/-- If a comparator has a text for its name, no halves of a surrogate pair
stand side by side in it. -/
def Registry.WholeName (registry : Registry) (c : Comparator) : Prop :=
  ∀ name, registry.nameOf c = .ok name → ∀ {s : Text}, name.text? = some s → s.IsWhole

/-- The names of the ready-made comparators have no halves at all. -/
theorem Registry.wholeName_readyMade {c : Comparator} (h : ReadyMade c) :
    withBuiltins.WholeName c := by
  obtain ⟨b, hb, rfl⟩ := h
  intro name hname s hs
  rw [nameOf_builtin hb] at hname
  cases hname
  cases hs
  exact Text.isWhole_ofString b.1

namespace Wire.Document

/-- A document of a multimap names the multimap's comparators. -/
theorem comparators_ofMultimap (h : Registry.Coherent InUse registry)
    (hkeys : Registry.Unmatched InUse m.keyComparator)
    (hvalues : Registry.Unmatched InUse m.valueComparator)
    (hkeyOctets : ∀ octets, registry.nameOf m.keyComparator ≠ .ok (.bytes octets))
    (hvalueOctets : ∀ octets, registry.nameOf m.valueComparator ≠ .ok (.bytes octets))
    (hd : ofMultimap registry m = .ok d) :
    d.comparators registry = .ok (m.keyComparator, m.valueComparator) := by
  obtain ⟨keyName, valueName, hkeyName, hvalueName, hkeyText, hvalueText, -⟩ :=
    ofMultimap_eq_ok.1 hd
  have hkey := h.resolve_string hkeys hkeyName
    (fun octets heq => hkeyOctets octets (heq ▸ hkeyName)) hkeyText
  have hvalue := h.resolve_string hvalues hvalueName
    (fun octets heq => hvalueOctets octets (heq ▸ hvalueName)) hvalueText
  rw [comparators, hkey, hvalue]
  rfl

/-- A document that describes an encodable multimap is decoded as it. -/
theorem toMultimap_records (hm : Multimap.Encodable keys values K V m)
    (hk : keys.compare.ConsistentOn K) (hv : values.compare.ConsistentOn V)
    (hcomparators : d.comparators registry = .ok (keys, values)) (hslots : d.slots = m.records) :
    d.toMultimap registry = .done () m (m.records.map fun s => .slotCreated s.key) := by
  rw [toMultimap, hcomparators]
  dsimp only [Except.mapError]
  rw [hslots, hm.replay_records hk hv]
  rfl

/-- A document of a multimap is whole if its slots are and the names of its
comparators. -/
theorem whole_of_ofMultimap (hd : ofMultimap registry m = .ok d)
    (hslots : ∀ s ∈ d.slots, s.key.isWhole = true ∧ ∀ v ∈ s.values, v.isWhole = true)
    (hkeys : registry.WholeName m.keyComparator) (hvalues : registry.WholeName m.valueComparator)
    (hkeyOctets : ∀ octets, registry.nameOf m.keyComparator ≠ .ok (.bytes octets))
    (hvalueOctets : ∀ octets, registry.nameOf m.valueComparator ≠ .ok (.bytes octets)) :
    d.Whole := by
  obtain ⟨keyName, valueName, hkeyName, hvalueName, hkeyText, hvalueText, -⟩ :=
    ofMultimap_eq_ok.1 hd
  have hspelled : ∀ {c : Comparator} {name : Value} {s : Text}, registry.WholeName c →
      (∀ octets, registry.nameOf c ≠ .ok (.bytes octets)) → registry.nameOf c = .ok name →
      string name = .ok s → s.IsWhole := by
    intro c name s hwhole hoctets hname hs
    exact hwhole name hname (text_of_string (fun octets heq => hoctets octets (heq ▸ hname)) hs)
  exact ⟨hspelled hkeys hkeyOctets hkeyName hkeyText,
    hspelled hvalues hvalueOctets hvalueName hvalueText, hslots⟩

end Wire.Document

-- ========================================================== round trips

namespace Multimap

/-- No text in the keys and values has the halves of a surrogate pair side
by side. -/
def Whole (m : Multimap) : Prop := Within (·.isWhole = true) (·.isWhole = true) m

instance (m : Multimap) : Decidable m.Whole :=
  inferInstanceAs (Decidable (∀ t ∈ m.map.slots, _ ∧ ∀ w ∈ t.value.items, _))

/-- What is so of all entries is so of what the slots hold, since no slot is
empty. -/
theorem Intact.within_iff_entries (h : Intact keys values m) {P Q : Value → Prop} :
    Within P Q m ↔ ∀ e ∈ m.entries, P e.1 ∧ Q e.2 := by
  constructor
  · intro hwithin e he
    obtain ⟨t, ht, he⟩ := List.mem_flatMap.1 he
    obtain ⟨v, hv, rfl⟩ := List.mem_map.1 he
    exact ⟨(hwithin t ht).1, (hwithin t ht).2 v hv⟩
  · intro hentries t ht
    have hmem : ∀ v ∈ t.value.items, (t.key, v) ∈ m.entries := fun v hv =>
      List.mem_flatMap.2 ⟨t, ht, List.mem_map.2 ⟨v, hv, rfl⟩⟩
    obtain ⟨v, hv⟩ := List.exists_mem_of_ne_nil _ (h.slots t ht).filled
    exact ⟨(hentries _ (hmem v hv)).1, fun w hw => (hentries _ (hmem w hw)).2⟩

/-- The document of an ordered multimap of proper values holds its slots as
they are, and is sealed. -/
theorem Ordered.document (h : Ordered keys values K V m) (hk : keys.compare.ConsistentOn K)
    (hproper : m.Proper) (hd : Document.ofMultimap registry m = .ok d) :
    d.slots = m.records ∧ Encodable keys values K V m ∧ d.Sealed := by
  obtain ⟨-, -, -, -, -, -, htaken, -⟩ := Document.ofMultimap_eq_ok.1 hd
  obtain ⟨hslots, hm⟩ := h.encodable htaken hk hproper.sifted
  refine ⟨hslots, hm, Document.sealed_of_ofMultimap hd ?_⟩
  rw [hslots]
  exact List.forall_mem_map.2 hproper

/-- A document that describes an encodable multimap is decoded as it, and
nothing is reported but the slots made. -/
theorem decode_document (hm : Encodable keys values K V m) (hk : keys.compare.ConsistentOn K)
    (hv : values.compare.ConsistentOn V) {verify : Bool}
    (hparse : Document.parse verify data = .ok d)
    (hcomparators : d.comparators registry = .ok (keys, values)) (hslots : d.slots = m.records) :
    decode registry verify data = .done () m
      (m.records.map (fun s => .slotCreated s.key) ++ [.decoded m.map.size m.total]) := by
  rw [decode, hparse]
  dsimp only
  rw [Document.toMultimap_records hm hk hv hcomparators hslots]
  rfl

/-- The entries of an encodable multimap are the same to JSON as those of its
normal form. -/
theorem Encodable.entries_same (h : Encodable keys values K V m) :
    List.Forall₂ (fun e e' => e.1.Same e'.1 ∧ e.2.Same e'.2) m.entries m.normal.entries :=
  Multimap.entries_same h.plain

section Reread

variable (h : Ordered keys values K V m) (hregistry : Registry.Built InUse registry)
  (hkeys : Registry.Unmatched InUse keys) (hvalues : Registry.Unmatched InUse values)
  (hkeyName : registry.WholeName keys) (hvalueName : registry.WholeName values)
  (hk : keys.compare.ConsistentOn K) (hkrespects : keys.compare.Respects)
  (hvrespects : values.compare.Respects) (hK : ∀ k, K k → K k.normal) (hV : ∀ v, V v → V v.normal)
  (hproper : m.Proper) (hwhole : m.Whole) (hencode : (m.encode registry).result = .ok octets)

include h hregistry hkeys hvalues hkeyName hvalueName hk hkrespects hvrespects hK hV hproper
  hwhole hencode

/-- What an ordered multimap is encoded to spells the normal form of its
document, and that describes the normal form of the multimap. -/
theorem Ordered.reread :
    ∃ d text, Document.ofMultimap registry m = .ok d ∧ d.toValue.Plain
      ∧ Json.written d.toValue = .ok text ∧ octets = asciiOctets text
      ∧ (∀ verify, ∀ data ∈ [Value.bytes octets, .text (.ofChars text)],
        Document.parse verify data = .ok d.normal)
      ∧ d.normal.comparators registry = .ok (keys, values) ∧ d.normal.slots = m.normal.records
      ∧ Encodable keys values K V m ∧ Encodable keys values K V m.normal := by
  obtain ⟨d, text, hd, htext, rfl⟩ := encode_eq_ok.1 hencode
  obtain ⟨hslots, hm, hsealed⟩ := h.document hk hproper hd
  -- the data is read as the normal form, whose slots are those of the multimap's
  have hrecords : d.normal.slots = m.normal.records := by
    rw [Document.normal, hslots, records_normal]
  have hcomparators : d.comparators registry = .ok (keys, values) := by
    rw [← h.keyComparator] at hkeys ⊢
    rw [← h.valueComparator] at hvalues ⊢
    exact Document.comparators_ofMultimap hregistry.coherent hkeys hvalues
      (fun _ => hregistry.nameOf_ne_bytes) (fun _ => hregistry.nameOf_ne_bytes) hd
  have hdwhole : d.Whole := by
    rw [← h.keyComparator] at hkeyName
    rw [← h.valueComparator] at hvalueName
    refine Document.whole_of_ofMultimap hd ?_ hkeyName hvalueName
      (fun _ => hregistry.nameOf_ne_bytes) (fun _ => hregistry.nameOf_ne_bytes)
    rw [hslots]
    exact List.forall_mem_map.2 hwhole
  refine ⟨d, text, hd, hsealed.plain, htext, rfl, fun verify data hdata => ?_, hcomparators,
    hrecords, hm, hm.normal hkrespects hvrespects hK hV⟩
  simp only [List.mem_cons, List.not_mem_nil, or_false] at hdata
  rcases hdata with rfl | rfl
  · exact Document.parse_octets hsealed hdwhole htext verify
  · exact Document.parse_text hsealed hdwhole htext verify

/-- The octets of an ordered multimap are decoded as its normal form, which
has the same octets. -/
theorem Ordered.round_trip (hv : values.compare.ConsistentOn V) :
    ∃ text, Text.decodeUtf8 octets = .ok text
      ∧ (∀ verify, ∀ data ∈ [Value.bytes octets, .text text],
        decode registry verify data = .done () m.normal
          (m.normal.records.map (fun s => .slotCreated s.key)
            ++ [.decoded m.normal.map.size m.normal.total]))
      ∧ List.Forall₂ (fun e e' => e.1.Same e'.1 ∧ e.2.Same e'.2) m.entries m.normal.entries
      ∧ (m.normal.encode registry).result = .ok octets := by
  obtain ⟨d, text, hd, hplain, htext, rfl, hparse, hcomparators, hrecords, hm, hnormal⟩ :=
    h.reread hregistry hkeys hvalues hkeyName hvalueName hk hkrespects hvrespects hK hV hproper
      hwhole hencode
  have hback : Document.ofMultimap registry m.normal = .ok d.normal := by
    refine Document.ofMultimap_normal hd hplain rfl rfl ?_
    rw [hnormal.taken_down hk, hrecords]
  exact ⟨.ofChars text, Json.decodeUtf8_ascii (Json.ascii_written hplain htext),
    fun verify data hdata =>
      decode_document hnormal hk hv (hparse verify data hdata) hcomparators hrecords,
    hm.entries_same, encode_of_normal hplain hback htext⟩

end Reread

/-- Whatever a multimap went through under two comparators of a registry, if
it is encoded then it comes back: decoding succeeds, from the octets and
from their text, whether the digest is compared or not, and reports no
collapse; the comparators are the multimap's own, the entries the same to
JSON one by one, and encoding gives the octets again. The comparators are
consistent, though they may refuse pairs, and answer alike about what JSON
does not tell apart; no other comparator in use is equal to either; no
dictionary that is stored has a name twice; and in no text, be it stored or
a name, do the halves of a surrogate pair stand side by side. -/
theorem decode_encode (hregistry : Registry.Built InUse registry)
    (hkeys : Registry.Unmatched InUse keys) (hvalues : Registry.Unmatched InUse values)
    (hkeyName : registry.WholeName keys) (hvalueName : registry.WholeName values)
    (hk : keys.compare.Consistent) (hv : values.compare.Consistent)
    (hkrespects : keys.compare.Respects) (hvrespects : values.compare.Respects)
    (history : List Operation)
    (hproper : ∀ e ∈ ((empty keys values).afterAll history).entries,
      e.1.isProper = true ∧ e.2.isProper = true)
    (hwhole : ∀ e ∈ ((empty keys values).afterAll history).entries,
      e.1.isWhole = true ∧ e.2.isWhole = true)
    (hencode : (((empty keys values).afterAll history).encode registry).result = .ok octets) :
    let m := (empty keys values).afterAll history
    ∃ text m', Text.decodeUtf8 octets = .ok text
      ∧ (∀ verify, ∀ data ∈ [Value.bytes octets, .text text],
        (decode registry verify data).result = .ok m'
          ∧ ∀ key duplicates count,
            .collapsed key duplicates count ∉ (decode registry verify data).events)
      ∧ m'.keyComparator = m.keyComparator ∧ m'.valueComparator = m.valueComparator
      ∧ List.Forall₂ (fun e e' => e.1.Same e'.1 ∧ e.2.Same e'.2) m.entries m'.entries
      ∧ (m'.encode registry).result = .ok octets := by
  intro m
  have h : InOrder keys values m := .afterAll hk hv history
  obtain ⟨text, htext, hdecoded, hentries, hagain⟩ := h.round_trip hregistry hkeys hvalues
    hkeyName hvalueName hk hkrespects hvrespects (fun _ _ => trivial) (fun _ _ => trivial)
    (h.within_iff_entries.2 hproper) (h.within_iff_entries.2 hwhole) hencode hv
  refine ⟨text, m.normal, htext, fun verify data hdata => ?_, rfl, rfl, hentries, hagain⟩
  rw [hdecoded verify data hdata]
  refine ⟨rfl, fun key duplicates count hmem => ?_⟩
  simp [Outcome.done] at hmem

/-- Texts by their case fold, with a dictionary put among the values whose
entries come back in another order, in a registry of the ready-made
comparators. -/
theorem decode_encode_caseFold :
    let m := (empty .caseFold .caseFold).afterAll
      [.put (.text "b") (.dict [(.text "y", .int 1), (.text "x", .list [.null])]),
        .put (.text "A") (.text "é"), .put (.int 1) (.text "d"), .put (.text "a") (.text "C")]
    ∃ octets, (m.encode .withBuiltins).result = .ok octets
      ∧ ∃ text m', Text.decodeUtf8 octets = .ok text
        ∧ (∀ verify, ∀ data ∈ [Value.bytes octets, .text text],
          (decode .withBuiltins verify data).result = .ok m'
            ∧ ∀ key duplicates count,
              .collapsed key duplicates count ∉ (decode .withBuiltins verify data).events)
        ∧ m'.keyComparator = m.keyComparator ∧ m'.valueComparator = m.valueComparator
        ∧ List.Forall₂ (fun e e' => e.1.Same e'.1 ∧ e.2.Same e'.2) m.entries m'.entries
        ∧ (m'.encode .withBuiltins).result = .ok octets := by
  intro m
  have hsucceeds : (m.encode .withBuiltins).result.isOk = true := by decide +kernel
  have hproper : ∀ e ∈ m.entries, e.1.isProper = true ∧ e.2.isProper = true := by decide +kernel
  have hwhole : ∀ e ∈ m.entries, e.1.isWhole = true ∧ e.2.isWhole = true := by decide +kernel
  have hcaseFold : Registry.ReadyMade .caseFold :=
    ⟨("casefold", .caseFold), by simp [Comparator.builtins], rfl⟩
  have hunmatched := Registry.readyMade_identified _ hcaseFold
  have hname := Registry.wholeName_readyMade hcaseFold
  cases hencode : (m.encode .withBuiltins).result with
  | error e =>
    rw [hencode] at hsucceeds
    cases hsucceeds
  | ok octets =>
    exact ⟨octets, rfl, decode_encode Registry.withBuiltins_built hunmatched hunmatched hname hname
      Comparator.caseFold_consistent Comparator.caseFold_consistent
      Comparator.caseFold_respects Comparator.caseFold_respects _ hproper hwhole hencode⟩

end Multimap

end Collation
