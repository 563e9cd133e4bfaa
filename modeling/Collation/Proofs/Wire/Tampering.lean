/-
What the digest of a document protects. It is made of the canonical text
of all other fields (`covered`), so if the digest function does not take
two texts for one, data that is accepted with the digest of an encoded
multimap has the same canonical text there. What was read is legible, and
if no halves of a surrogate pair stand side by side in it then its text
says what it is: it has the same fields, to JSON (`normal_of_accepted`).
How the data spells them does not matter, nor in which order, nor what else
it says that a later entry of the same name overrides.

The comparators are named in the fields and the slots are among them. So
decoding the one and decoding the other is replaying two documents that
differ in the order of entries, and comes to the same under comparators
that do not see that order (`Multimap.tamper_evident`).

Both conditions are needed (`Multimap.tampering_unseen`). The canonical
text of the two halves of a pair is that of the character they stand for,
so data that has the halves in the place of the character is accepted with
the old digest; and what sees the order of entries can tell two pieces of
data apart that the digest does not.
-/
import Collation.Proofs.Wire.Refusal
import Collation.Proofs.Wire.Reordering
import Collation.Proofs.Wire.RoundTrip

namespace Collation.Wire

open Value (Named canonicalEntries byName)

variable {data v h : Value} {es fs : List (Value × Value)} {s : Text} {d d' : Document}
  {registry : Registry} {m : Multimap} {octets : List UInt8}

-- =============================================================== octets

/-- Digits of one width tell numbers apart. -/
private theorem hex_injective : ∀ (width n n' : Nat), n < 16 ^ width → n' < 16 ^ width →
    Text.hex width n = Text.hex width n' → n = n' := by
  intro width
  induction width with
  | zero =>
    intro n n' hn hn' _
    rw [Nat.pow_zero, Nat.lt_one_iff] at hn hn'
    rw [hn, hn']
  | succ width ih =>
    intro n n' hn hn' heq
    rw [Nat.pow_succ] at hn hn'
    obtain ⟨hhigh, hlow⟩ := List.append_inj' heq rfl
    have hdigit := congrArg Json.hexValue? (List.cons.inj hlow).1
    rw [Json.hexValue_hexDigit _ (Nat.mod_lt n (by decide)),
      Json.hexValue_hexDigit _ (Nat.mod_lt n' (by decide))] at hdigit
    have hlow := Option.some.inj hdigit
    have hhigh := ih _ _ (by omega) (by omega) hhigh
    omega

private theorem length_hex (width n : Nat) : (Text.hex width n).length = width := by
  induction width generalizing n with
  | zero => rfl
  | succ width ih =>
    rw [Text.hex, List.length_append, ih]
    rfl

/-- Octets can be told from their hexadecimal text. -/
theorem hexText_injective : Function.Injective hexText := by
  intro bs bs' heq
  have hchars := String.ofList_injective heq
  have hlength := congrArg List.length hchars
  simp only [List.length_flatMap, length_hex, List.map_const', List.sum_replicate] at hlength
  induction bs generalizing bs' with
  | nil =>
    cases bs' with
    | nil => rfl
    | cons b' bs' => simp at hlength
  | cons b bs ih =>
    cases bs' with
    | nil => simp at hlength
    | cons b' bs' =>
      rw [List.flatMap_cons, List.flatMap_cons] at hchars
      obtain ⟨hb, hbs⟩ := List.append_inj hchars (by rw [length_hex, length_hex])
      have hoctet := hex_injective 2 _ _ b.toNat_lt b'.toNat_lt hb
      rw [UInt8.toNat_inj.1 hoctet, ih (congrArg String.ofList hbs) hbs (by simpa using hlength)]

/-- Texts of ASCII are told apart by their octets. -/
theorem asciiOctets_inj {t u : List Char} (ht : Json.Ascii t) (hu : Json.Ascii u)
    (heq : asciiOctets t = asciiOctets u) : t = u := by
  have hdecoded := Json.decodeUtf8_ascii ht
  rw [heq, Json.decodeUtf8_ascii hu] at hdecoded
  exact (Text.ofChars_injective (Except.ok.inj hdecoded)).symm

-- =============================================================== fields

/-- The entries are those that the digest covers and its own. -/
theorem covered_perm (hes : Named es) (hmem : (digestName, h) ∈ es) :
    es.Perm ((digestName, h) :: covered es) := by
  obtain ⟨before, after, rfl⟩ := List.append_of_mem hmem
  have hnodup := (hes.perm List.perm_middle.symm).nodup
  rw [List.map_cons, List.nodup_cons] at hnodup
  have hrest : (before ++ after).filter (fun e => !Value.agree e.1 digestName)
      = before ++ after := by
    refine List.filter_eq_self.2 fun e he => ?_
    obtain ⟨t, ht⟩ := (hes.perm List.perm_middle.symm).texts e (List.mem_cons_of_mem _ he)
    have hname := List.mem_map_of_mem (f := Prod.fst) he
    have hne : e.1 ≠ digestName := fun heq => hnodup.1 (heq ▸ hname)
    rw [ht, digestName] at hne
    rw [ht, digestName, Value.agree_text, Bool.not_eq_true', beq_eq_false_iff_ne]
    exact fun heq => hne (congrArg Value.text heq)
  have hfilter : covered (before ++ (digestName, h) :: after) = before ++ after := by
    unfold covered
    rw [List.filter_append] at hrest ⊢
    have hitself : Value.agree digestName digestName = true := rfl
    rw [List.filter_cons_of_neg (by simp [hitself]), hrest]
  rw [hfilter]
  exact List.perm_middle

/-- The whole is known from the digest field and from what is made of the
fields that the digest covers. -/
theorem byName_covered (g : Value → Value) (hes : Named es) (hmem : (digestName, h) ∈ es) :
    byName (es.map fun e => (e.1, g e.2))
      = byName ((digestName, g h) :: byName ((covered es).map fun e => (e.1, g e.2))) := by
  have hperm := covered_perm hes hmem
  have hnamed : Named ((digestName, h) :: covered es) := hes.perm hperm.symm
  calc byName (es.map fun e => (e.1, g e.2))
      = byName (((digestName, h) :: covered es).map fun e => (e.1, g e.2)) :=
        Value.byName_eq_of_perm (hnamed.map _) (hperm.map _)
    _ = byName ((digestName, g h) :: byName ((covered es).map fun e => (e.1, g e.2))) :=
        (Value.byName_eq_of_perm (hnamed.map _) ((Value.byName_perm _).cons _)).symm

/-- Where the names are whole, joining only touches what stands under them. -/
theorem joined_normal_dict (hes : Named es) (hnames : ∀ e ∈ es, e.1.isWhole = true) :
    (Value.dict es).normal.joined
      = .dict (byName (es.map fun e => (e.1, e.2.normal.joined))) := by
  have hentries : (canonicalEntries es).map (fun e => (e.1.joined, e.2.joined))
      = (byName es).map fun e => (e.1, e.2.normal.joined) := by
    rw [canonicalEntries, List.map_map]
    refine List.map_congr_left fun e he => Prod.ext ?_ rfl
    have hname := hnames e (Value.mem_byName.1 he)
    obtain ⟨t, ht⟩ := hes.texts e (Value.mem_byName.1 he)
    show e.1.joined = e.1
    rw [ht] at hname ⊢
    exact congrArg Value.text (Value.isWhole_text.1 hname).joined
  rw [Value.normal_dict, Value.joined_dict, hentries, ← Value.byName_map,
    Value.dictOf_named (hes.map _).byName]

/-- Objects with the same digest field are the same, read from their texts, if
the fields are that the digest covers. -/
theorem normal_eq_of_covered (hes : Named es) (hnames : ∀ e ∈ es, e.1.isWhole = true)
    (hfs : Named fs) (hs : s.IsWhole) (he : (digestName, .text s) ∈ es)
    (hf : (digestName, .text s) ∈ fs)
    (hcovered : (Value.dict (covered fs)).normal = (Value.dict (covered es)).normal.joined) :
    (Value.dict fs).normal = (Value.dict es).normal.joined := by
  have hnamesCovered : ∀ e ∈ covered es, e.1.isWhole = true :=
    fun e he => hnames e (List.mem_of_mem_filter he)
  have hnamedCovered : Named (covered es) := hes.filter _
  rw [joined_normal_dict hnamedCovered hnamesCovered, Value.normal_dict, canonicalEntries,
    ← Value.byName_map, Value.dict.injEq] at hcovered
  have hdigest : (Value.text s).normal.joined = .text s := congrArg Value.text hs.joined
  rw [joined_normal_dict hes hnames, Value.normal_dict, canonicalEntries, ← Value.byName_map,
    byName_covered Value.normal hfs hf, byName_covered (fun v => v.normal.joined) hes he, hcovered,
    hdigest]
  rfl

-- ============================================================== digests

/-- The digest function does not take the canonical texts of the fields that
it covers for one if they are not. -/
def NoCollision (es fs : List (Value × Value)) : Prop :=
  ∀ t u, Json.written (.dict (covered es)) = .ok t → Json.written (.dict (covered fs)) = .ok u →
    Sha256.digest (asciiOctets t) = Sha256.digest (asciiOctets u) → asciiOctets t = asciiOctets u

private theorem digestOf_eq_ok : digestOf es = .ok s ↔
    ∃ t, Json.written (.dict (covered es)) = .ok t
      ∧ s = .ofString (hexText (Sha256.digest (asciiOctets t))) := by
  rw [digestOf_eq, map_eq_ok]

/-- A digest has no halves in it. -/
theorem isWhole_of_digestOf (h : digestOf es = .ok s) : s.IsWhole := by
  obtain ⟨t, -, rfl⟩ := digestOf_eq_ok.1 h
  exact Text.isWhole_ofString _

/-- A legible object with the digest of a plain one has the same text for the
fields that the digest covers, unless the digest function is deceived; and
so it has the same such fields, joined. -/
theorem joined_covered (hes : (Value.dict es).Plain) (hfs : Json.Legible (.dict fs))
    (hdigest : digestOf es = .ok s) (hdigest' : digestOf fs = .ok s) (hno : NoCollision es fs) :
    (Value.dict (covered fs)).normal.joined = (Value.dict (covered es)).normal.joined := by
  have hbody := plain_covered hes
  have hbody' := legible_covered hfs
  obtain ⟨t, ht, rfl⟩ := digestOf_eq_ok.1 hdigest
  obtain ⟨u, hu, heq⟩ := digestOf_eq_ok.1 hdigest'
  have hsame := hno t u ht hu (hexText_injective (Text.ofString_inj.1 heq))
  have hlegible := Json.legible_of_written hbody ht
  obtain rfl := asciiOctets_inj (hlegible.ascii ht) (hbody'.ascii hu) hsame
  exact hbody'.joined_of_written_eq hlegible hu ht

-- =================================================== accepted documents

private theorem hexText_digest_ne (o : List UInt8) : hexText (Sha256.digest o) ≠ "" := by
  intro heq
  have hnil : Sha256.digest o = [] := hexText_injective heq
  unfold Sha256.digest at hnil
  have hword := List.flatMap_eq_nil_iff.1 hnil _ List.mem_cons_self
  exact List.append_ne_nil_of_right_ne_nil _ (List.cons_ne_nil _ _) hword

namespace Document

/-- A document that carries its digest has a field for it. -/
theorem digest_mem (hes : Json.Legible (.dict es)) (hcheck : check (.dict es) = .ok d)
    (hdigest : digestOf es = .ok d.payloadHash) : (digestName, .text d.payloadHash) ∈ es := by
  obtain ⟨hnamed, hlegible⟩ := hes.of_dict
  obtain ⟨-, -, -, -, -, hhash, -⟩ := check_eq_ok.1 hcheck
  rcases optional_eq_ok.1 hhash with ⟨v, hv, hstring⟩ | ⟨-, hnone⟩
  · have hmem := (Value.lookup_eq_some_iff hnamed).1 hv
    have hv := hlegible _ hmem
    cases hv with
    | text s =>
      cases hstring
      exact hmem
    | _ => cases hstring
  · obtain ⟨t, -, heq⟩ := digestOf_eq_ok.1 hdigest
    exact absurd (Text.ofString_inj.1 (heq.symm.trans hnone.symm)) (hexText_digest_ne _)

/-- The fields of a document have the names of the format. -/
theorem isWhole_of_mem_entries {e : Value × Value} (h : e ∈ d.entries) : e.1.isWhole = true := by
  obtain ⟨name, hname⟩ : ∃ name : String, e.1 = .text name := by
    simp only [entries, List.mem_cons, List.not_mem_nil, or_false] at h
    rcases h with rfl | rfl | rfl | rfl | rfl | rfl <;> exact ⟨_, rfl⟩
  rw [hname]
  exact Value.isWhole_text.2 (Text.isWhole_ofString name)

/-- Data that is accepted with the digest of a sealed document spells, if it is
whole, what the text of the document spells. -/
theorem normal_of_accepted (hd : d.Sealed) (h : parse true data = .ok d')
    (hhash : d'.payloadHash = d.payloadHash) :
    ∃ fs, readJson data = .ok (.dict fs)
      ∧ ((Value.dict fs).isWhole = true → NoCollision d.entries fs →
        (Value.dict fs).Plain ∧ check (.dict fs) = .ok d' ∧ digestOf fs = .ok d'.payloadHash
          ∧ (Value.dict fs).normal = d.toValue.normal.joined) := by
  obtain ⟨fs, hread, hcheck, hdigest⟩ := parse_eq_ok.1 h
  refine ⟨fs, hread, fun hwhole hno => ?_⟩
  have hlegible := legible_of_read hread
  have hdigest := hdigest rfl
  have hmem := digest_mem hlegible hcheck hdigest
  have hmem' : (digestName, .text d.payloadHash) ∈ d.entries := by simp [entries, digestName]
  have hcovered := joined_covered hd.plain hlegible hd.digest (hhash ▸ hdigest) hno
  -- in whole data there is nothing to join
  have hbody := legible_covered hlegible
  have hbodyWhole : (Value.dict (covered fs)).isWhole = true :=
    Value.isWhole_dict.2 fun e he =>
      Value.isWhole_dict.1 hwhole e (List.mem_of_mem_filter he)
  rw [hbody.normal.joined ((Value.isWhole_normal _).trans hbodyWhole)] at hcovered
  have hnormal := normal_eq_of_covered d.entries_named (fun _ => isWhole_of_mem_entries)
    hlegible.of_dict.1
    (isWhole_of_digestOf hd.digest) hmem' (hhash ▸ hmem) hcovered
  refine ⟨hlegible.plain_of_normal ?_, hcheck, hdigest, hnormal⟩
  rw [hnormal]
  exact hd.plain.normal.joined

end Document

end Collation.Wire

namespace Collation.Multimap

open Wire
open Value (byName)

variable {registry : Registry} {m : Multimap} {d : Document} {data : Value}
  {octets : List UInt8} {verify : Bool}

/-- The document of a multimap holds nothing but what the multimap does. -/
theorem Within.slots {P Q : Value → Prop} (h : Within P Q m)
    (hd : Document.ofMultimap registry m = .ok d) :
    ∀ s ∈ d.slots, P s.key ∧ ∀ v ∈ s.values, Q v := by
  intro s hs
  obtain ⟨-, -, -, -, -, -, htaken, -⟩ := Document.ofMultimap_eq_ok.1 hd
  obtain ⟨k, hk, hs⟩ := exists_of_mem_right (mapM_eq_ok.1 htaken) s hs
  obtain ⟨rfl, -, -, -, -, view, hget, hitems⟩ := SlotRecord.ofKey_eq_ok.1 hs
  obtain ⟨t, ht, hkey⟩ := List.mem_map.1 hk
  refine ⟨hkey ▸ (h t ht).1, fun v hv => ?_⟩
  obtain ⟨t', ht', hmem⟩ := mem_of_get hget hitems v hv
  exact (h t' ht').2 v hmem

/-- The document of any multimap of proper values is sealed. -/
theorem Proper.sealed (h : m.Proper) (hd : Document.ofMultimap registry m = .ok d) : d.Sealed :=
  Document.sealed_of_ofMultimap hd (Within.slots h hd)

/-- Two attempts that both failed, or that gave multimaps by the same
comparators with entries that are, one by one, the same to JSON. -/
def SameDecoded : Except Fault Multimap → Except Fault Multimap → Prop
  | .ok m, .ok n => m.keyComparator = n.keyComparator ∧ m.valueComparator = n.valueComparator
    ∧ List.Forall₂ (fun e e' => e.1.Same e'.1 ∧ e.2.Same e'.2) m.entries n.entries
  | .error _, .error _ => True
  | _, _ => False

/-- The digest gives away every change. Whatever data is accepted with the
digest of an encoded multimap, if in none of its texts halves of a surrogate
pair stand side by side, and unless the digest function takes the two
covered texts for one: the data spells the same fields to JSON, so that
format, comparators, counts, keys and values are the same in the two
documents; and decoding comes to the same, by comparators that do not see
the order of entries, which JSON does not keep. -/
theorem tamper_evident (registry : Registry) (hproper : m.Proper)
    (hencode : (m.encode registry).result = .ok octets) :
    ∃ d es, Document.ofMultimap registry m = .ok d ∧ readJson (.bytes octets) = .ok (.dict es)
      ∧ (digestName, .text d.payloadHash) ∈ es
      ∧ ∀ data d', Document.parse true data = .ok d' → d'.payloadHash = d.payloadHash →
        ∃ fs, readJson data = .ok (.dict fs)
          ∧ ((Value.dict fs).isWhole = true → NoCollision d.entries fs →
            (Value.dict (covered es)).Same (.dict (covered fs))
              ∧ (∀ verify, Document.parse verify (.bytes octets) = .ok d'.normal)
              ∧ ((∀ keys values, d'.comparators registry = .ok (keys, values) →
                  keys.compare.Blind ∧ values.compare.Blind) →
                ∀ verify, SameDecoded (decode registry verify (.bytes octets)).result
                  (decode registry verify data).result)) := by
  obtain ⟨d, t, hd, ht, rfl⟩ := encode_eq_ok.1 hencode
  have hsealed := hproper.sealed hd
  have hread := readJson_asciiOctets (Json.legible_of_written hsealed.plain ht) ht
  have hspelled : d.toValue.normal.joined
      = .dict (byName (d.entries.map fun e => (e.1, e.2.normal.joined))) :=
    joined_normal_dict d.entries_named fun _ => Document.isWhole_of_mem_entries
  rw [hspelled] at hread
  refine ⟨d, _, hd, hread, ?_, fun data d' hparse' hhash => ?_⟩
  · have hmem : (digestName, .text d.payloadHash) ∈ d.entries := by
      simp [Document.entries, digestName]
    refine Value.mem_byName.2 (List.mem_map.2 ⟨_, hmem, Prod.ext rfl ?_⟩)
    exact congrArg Value.text (isWhole_of_digestOf hsealed.digest).joined
  obtain ⟨fs, hread', haccepted⟩ := Document.normal_of_accepted hsealed hparse' hhash
  refine ⟨fs, hread', fun hwhole hno => ?_⟩
  obtain ⟨hplain, hcheck, hdigest, hnormal⟩ := haccepted hwhole hno
  rw [hspelled, Value.normal_dict, Value.dict.injEq] at hnormal
  rw [← hnormal] at hread ⊢
  have hparse := Document.parse_canonicalEntries hplain hcheck hdigest hread
  refine ⟨same_covered_canonicalEntries hplain, hparse, fun hblind verify => ?_⟩
  rw [decode_result (hparse verify), decode_result (Document.parse_of_verified hparse' verify)]
  rcases Document.toMultimap_twins (Document.plain_of_check hplain hcheck) hblind with
    ⟨e, f, he, hf⟩ | ⟨keys, values, n, n', hn, hn', htwin⟩
  · rw [he, hf]
    trivial
  · rw [hn, hn', htwin.normal]
    exact ⟨rfl, rfl, (entries_same htwin.plain).flip.imp fun _ _ h => ⟨h.1.symm, h.2.symm⟩⟩

/-- The ready-made comparators do not see the order of entries. -/
private theorem comparators_withBuiltins_blind {keys values : Comparator}
    (h : d.comparators .withBuiltins = .ok (keys, values)) :
    keys.compare.Blind ∧ values.compare.Blind := by
  obtain ⟨keys', hkeys, h⟩ := bind_eq_ok.1 h
  obtain ⟨values', hvalues, h⟩ := bind_eq_ok.1 h
  cases h
  exact ⟨(Registry.readyMade_of_resolve hkeys).blind, (Registry.readyMade_of_resolve hvalues).blind⟩

/-- What encoding makes of a multimap with no halves side by side. -/
theorem exists_sealed (registry : Registry) (hproper : m.Proper)
    (hsucceeds : (m.encode registry).result.isOk = true)
    (hwhole : (Document.ofMultimap registry m).toOption.all (fun d => decide
      (d.keyComparator.IsWhole ∧ d.valueComparator.IsWhole
        ∧ ∀ s ∈ d.slots, s.key.isWhole = true ∧ ∀ v ∈ s.values, v.isWhole = true)) = true) :
    ∃ d t, Document.ofMultimap registry m = .ok d ∧ d.Sealed ∧ d.Whole
      ∧ Json.written d.toValue = .ok t ∧ (m.encode registry).result = .ok (asciiOctets t) := by
  cases hencode : (m.encode registry).result with
  | error e =>
    rw [hencode] at hsucceeds
    cases hsucceeds
  | ok octets =>
    obtain ⟨d, t, hd, ht, rfl⟩ := encode_eq_ok.1 hencode
    rw [hd] at hwhole
    obtain ⟨hkeys, hvalues, hslots⟩ := of_decide_eq_true hwhole
    exact ⟨d, t, hd, hproper.sealed hd, ⟨hkeys, hvalues, hslots⟩, ht, rfl⟩

private theorem isWhole_canonicalEntries (hd : d.Sealed) (hwhole : d.Whole) :
    (Value.dict (Value.canonicalEntries d.entries)).isWhole = true := by
  rw [← Value.normal_dict, Value.isWhole_normal]
  exact hd.isWhole hwhole

/-- The text instead of its octets. -/
theorem tamper_evident_text :
    let m := ((empty .natural .caseFold).put (.text "é") (.dict
      [(.text "y", .float (.zero true)), (.text "x", .list [.null, .bool true])])).state
    ∃ octets text d d' es fs, m.Proper ∧ (m.encode .withBuiltins).result = .ok octets
      ∧ Text.decodeUtf8 octets = .ok text ∧ Document.ofMultimap .withBuiltins m = .ok d
      ∧ Document.parse true (.text text) = .ok d' ∧ d'.payloadHash = d.payloadHash
      ∧ readJson (.bytes octets) = .ok (.dict es) ∧ readJson (.text text) = .ok (.dict fs)
      ∧ (Value.dict fs).isWhole = true ∧ NoCollision d.entries fs
      ∧ (Value.dict (covered es)).Same (.dict (covered fs))
      ∧ ∀ verify, SameDecoded (decode .withBuiltins verify (.bytes octets)).result
        (decode .withBuiltins verify (.text text)).result := by
  intro m
  have hproper : m.Proper := by decide +kernel
  obtain ⟨d, t, hd, hsealed, hdwhole, ht, hencode⟩ := exists_sealed .withBuiltins
    hproper (by decide +kernel) (by decide +kernel)
  have hlegible := Json.legible_of_written hsealed.plain ht
  have hread := Document.readJson_text hsealed hdwhole ht
  have hparse := Document.parse_text hsealed hdwhole ht true
  rw [Document.toValue, Value.normal_dict] at hread
  obtain ⟨d₀, es, hd₀, hes, -, hall⟩ := tamper_evident .withBuiltins hproper hencode
  obtain rfl : d = d₀ := Except.ok.inj (hd.symm.trans hd₀)
  obtain ⟨fs, hfs, hsame⟩ := hall _ _ hparse rfl
  obtain rfl := Value.dict.inj (Except.ok.inj (hfs.symm.trans hread))
  have hfswhole := isWhole_canonicalEntries hsealed hdwhole
  have hno : NoCollision d.entries (Value.canonicalEntries d.entries) := by
    intro t u ht hu _
    rw [written_covered_canonicalEntries hsealed.plain, ht] at hu
    exact congrArg asciiOctets (Except.ok.inj hu)
  obtain ⟨hcovered, -, hdecoded⟩ := hsame hfswhole hno
  exact ⟨_, _, d, _, es, _, hproper, hencode, Json.decodeUtf8_ascii (hlegible.ascii ht), hd, hparse,
    rfl, hes, hread, hfswhole, hno, hcovered,
    hdecoded fun keys values => comparators_withBuiltins_blind⟩

-- ============================================================= limits

/-- Two pieces of data that are accepted with one digest, and of which the
same text is digested. -/
def Alike (data data' : Value) (es fs : List (Value × Value)) : Prop :=
  ∃ d d', Document.parse true data = .ok d ∧ Document.parse true data' = .ok d'
    ∧ d'.payloadHash = d.payloadHash ∧ readJson data = .ok (.dict es)
    ∧ readJson data' = .ok (.dict fs) ∧ NoCollision es fs

/-- The text that is digested of what data spells. -/
def coveredText? (data : Value) : Option (List Char) :=
  (readJson data).toOption.bind fun
    | .dict es => (Json.written (.dict (covered es))).toOption
    | _ => none

/-- Data is like the octets of a document if it is accepted and the same text
is digested of it. -/
theorem exists_alike {t : List Char} (hd : d.Sealed) (hwhole : d.Whole)
    (ht : Json.written d.toValue = .ok t)
    (hdata : coveredText? data = (Json.written (.dict (covered d.entries))).toOption)
    (haccepted : (Document.parse true data).isOk = true) :
    ∃ fs, Alike (.bytes (asciiOctets t)) data (Value.canonicalEntries d.entries) fs := by
  have hread := Document.readJson_octets hd hwhole ht
  rw [Document.toValue, Value.normal_dict] at hread
  have hparse := Document.parse_octets hd hwhole ht true
  cases hparse' : Document.parse true data with
  | error e =>
    rw [hparse'] at haccepted
    cases haccepted
  | ok d' =>
    obtain ⟨fs, hread', -, hdigest'⟩ := Document.parse_eq_ok.1 hparse'
    obtain ⟨u, hu, hhash⟩ := digestOf_eq_ok.1 hd.digest
    obtain ⟨u', hu', hhash'⟩ := digestOf_eq_ok.1 (hdigest' rfl)
    rw [coveredText?, hread', hu] at hdata
    dsimp only [Except.toOption, Option.bind] at hdata
    rw [hu'] at hdata
    cases hdata
    refine ⟨fs, _, d', hparse, hparse', hhash'.trans hhash.symm, hread, hread', ?_⟩
    intro t t' ht ht' _
    rw [written_covered_canonicalEntries hd.plain] at ht
    rw [Except.ok.inj (ht.symm.trans hu), Except.ok.inj (ht'.symm.trans hu')]

/-- The name that the first entry of a dictionary has. -/
def firstName : SortKey
  | .dict (e :: _) => .ok e.1
  | v => .error (.notFoldable v.typeName)

/-- The integers among the values of the entries, in their places. -/
def placed (m : Multimap) : List (Option Int) := m.entries.map fun e => e.2.integer?

/-- Entries that are the same to JSON have the same integers in their places. -/
private theorem placed_eq_of_same {n n' : Multimap}
    (h : List.Forall₂ (fun e e' => e.1.Same e'.1 ∧ e.2.Same e'.2) n.entries n'.entries) :
    placed n = placed n' := by
  have hinteger : ∀ v : Value, v.normal.integer? = v.integer? := fun v => by cases v <;> rfl
  rw [placed, placed, ← List.forall₂_eq_eq_eq, List.forall₂_map_left_iff,
    List.forall₂_map_right_iff]
  refine h.imp fun e e' he => ?_
  rw [← hinteger e.2, he.2, hinteger]

/-- An integer, or integers under names in their order. -/
def isFlat : Value → Bool
  | .int _ => true
  | .dict es =>
    decide (es.Pairwise fun e f => Sorting.upTo Value.namedBefore e f)
      && es.all fun e => e.2.integer?.isSome
  | _ => false

/-- There is nothing to put in order. -/
theorem normal_of_isFlat (h : d.slots.all (fun s => isFlat s.key && s.values.all isFlat) = true) :
    d.normal = d := by
  have hvalue : ∀ v : Value, isFlat v = true → v.normal = v := by
    intro v hv
    cases v with
    | dict es =>
      obtain ⟨horder, hvalues⟩ := Bool.and_eq_true_iff.1 hv
      have hsorted : byName es = es := List.mergeSort_of_pairwise (of_decide_eq_true horder)
      rw [Value.normal_dict, Value.canonicalEntries, hsorted]
      refine congrArg Value.dict ((List.map_congr_left fun e he => ?_).trans (List.map_id' es))
      have hinteger := List.all_eq_true.1 hvalues e he
      obtain ⟨k, w⟩ := e
      cases w <;> first | rfl | cases hinteger
    | _ => first | rfl | cases hv
  have hslots : d.slots.map SlotRecord.normal = d.slots := by
    refine (List.map_congr_left fun s hs => ?_).trans (List.map_id' d.slots)
    obtain ⟨hkey, hvalues⟩ := Bool.and_eq_true_iff.1 (List.all_eq_true.1 h s hs)
    have hitems : s.values.map Value.normal = s.values :=
      (List.map_congr_left fun v hv => hvalue v (List.all_eq_true.1 hvalues v hv)).trans
        (List.map_id' s.values)
    rw [SlotRecord.normal, hvalue _ hkey, hitems]
  rw [Document.normal, hslots]

/-- The first piece of data has the two halves of a pair in the place of the
character that an encoded multimap holds. It is accepted with the same
digest, and the value is not the same. The second one gives the entries of a
key in another order. It spells the same fields, but an order by what comes
first in a key puts the keys the other way round. -/
theorem tampering_unseen :
    (let m := ((empty .natural .natural).put (.int 1) (.text "😀")).state
      let data := Value.text ⟨codePoints (
          "\x7b\"format\":\"sortedmultimap/1\",\"key_comparator\":\"natural\",".toList
          ++ "\"key_count\":1,\"payload_hash\":\"0fdc46057c4c3143c5da409333fb2b8f".toList
          ++ "67f0b4c52e79af5481f35bc1114af5c1\",\"slots\":[\x7b\"key\":1,".toList
          ++ "\"value_count\":1,\"values\":[\"".toList)
        ++ [.high 0x3D, .low 0x200]
        ++ codePoints "\"]\x7d],\"value_comparator\":\"natural\"\x7d".toList⟩
      ∃ octets es fs, (m.encode .withBuiltins).result = .ok octets
        ∧ Alike (.bytes octets) data es fs
        ∧ ¬(Value.dict (covered es)).Same (.dict (covered fs)))
    ∧ (let first : Comparator := { identity := 5, compare := Comparison.natural.comparing firstName }
      let registry := (Registry.withBuiltins.register (.text "first") (some first) false).state
      let m := (empty first .natural).afterAll
        [.put (.dict [(.text "a", .int 0), (.text "c", .int 0)]) (.int 1),
          .put (.dict [(.text "b", .int 0)]) (.int 2)]
      let data := Value.text <| .ofChars (
        "\x7b\"format\":\"sortedmultimap/1\",\"key_comparator\":\"first\",".toList
        ++ "\"key_count\":2,\"payload_hash\":\"3d7846c98b7f60c4fcfee910b6b8476f".toList
        ++ "76c35380861b669df1eb7479745c8317\",\"slots\":[".toList
        ++ "\x7b\"key\":\x7b\"c\":0,\"a\":0\x7d,\"value_count\":1,\"values\":[1]\x7d,".toList
        ++ "\x7b\"key\":\x7b\"b\":0\x7d,\"value_count\":1,\"values\":[2]\x7d],".toList
        ++ "\"value_comparator\":\"natural\"\x7d".toList)
      ∃ octets es fs, (m.encode registry).result = .ok octets ∧ Alike (.bytes octets) data es fs
        ∧ (Value.dict fs).isWhole = true
        ∧ ¬SameDecoded (decode registry true (.bytes octets)).result
          (decode registry true data).result) := by
  constructor
  · intro m data
    obtain ⟨haccepted, htext, hsplit⟩ : (Document.parse true data).isOk = true
        ∧ coveredText? data = ((Document.ofMultimap .withBuiltins m).toOption.bind fun d =>
          (Json.written (.dict (covered d.entries))).toOption)
        ∧ (readJson data).toOption.map (fun
          | .dict fs => (Value.dict (covered fs)).isWhole
          | _ => true) = some false := by
      simp only [data, String.reduceToList]
      decide +kernel
    clear_value data
    obtain ⟨d, t, hd, hsealed, hwhole, ht, hencode⟩ := exists_sealed .withBuiltins
      (m := m) (by decide +kernel) (by decide +kernel) (by decide +kernel)
    rw [hd] at htext
    obtain ⟨fs, halike⟩ := exists_alike hsealed hwhole ht htext haccepted
    refine ⟨_, _, fs, hencode, halike, fun hsame => ?_⟩
    obtain ⟨-, -, -, -, -, -, hread, -⟩ := halike
    rw [hread] at hsplit
    have hes : (Value.dict (covered (Value.canonicalEntries d.entries))).isWhole = true :=
      Value.isWhole_dict.2 fun e he => Value.isWhole_dict.1
        (isWhole_canonicalEntries hsealed hwhole) e (List.mem_of_mem_filter he)
    exact Bool.noConfusion ((hes.symm.trans hsame.isWhole_eq).trans (Option.some.inj hsplit))
  · intro first registry m data
    obtain ⟨haccepted, htext, hread, hplaced'⟩ : (Document.parse true data).isOk = true
        ∧ coveredText? data = ((Document.ofMultimap registry m).toOption.bind fun d =>
          (Json.written (.dict (covered d.entries))).toOption)
        ∧ (readJson data).toOption.map Value.isWhole = some true
        ∧ (decode registry false data).result.toOption.map placed = some [some 2, some 1] := by
      simp only [data, String.reduceToList]
      decide +kernel
    have hplaced : (Document.ofMultimap registry m).toOption.bind (fun d =>
        (d.toMultimap registry).result.toOption.map placed) = some [some 1, some 2] := by
      decide +kernel
    have hflat : (Document.ofMultimap registry m).toOption.all (fun d =>
        d.slots.all fun s => isFlat s.key && s.values.all isFlat) = true := by decide +kernel
    clear_value data
    obtain ⟨d, t, hd, hsealed, hwhole, ht, hencode⟩ := exists_sealed registry
      (m := m) (by decide +kernel) (by decide +kernel) (by decide +kernel)
    rw [hd] at htext hplaced hflat
    obtain ⟨fs, halike⟩ := exists_alike hsealed hwhole ht htext haccepted
    obtain ⟨-, d', -, hparse', -, -, hreadData, -⟩ := id halike
    rw [hreadData] at hread
    refine ⟨_, _, fs, hencode, halike, Option.some.inj hread, ?_⟩
    rw [decode_result (Document.parse_of_verified hparse' false)] at hplaced'
    rw [decode_result (Document.parse_octets hsealed hwhole ht true), normal_of_isFlat hflat,
      decode_result hparse']
    obtain ⟨n, hn, hnplaced⟩ := Option.map_eq_some_iff.1 hplaced
    obtain ⟨n', hn', hnplaced'⟩ := Option.map_eq_some_iff.1 hplaced'
    rw [eq_ok_of_toOption hn, eq_ok_of_toOption hn']
    rintro ⟨-, -, hentries⟩
    rw [placed_eq_of_same hentries, hnplaced'] at hnplaced
    cases hnplaced

end Collation.Multimap
