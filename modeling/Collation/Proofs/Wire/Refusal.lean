/-
How decoding fails. Whatever text or octets are to be decoded, with
whatever registry, the failure is one of corrupt data
(`decoding_refusals`): what is no text or no JSON, no object, no document
by its fields, has another digest or an unknown comparator, or what the
comparators fail on. The digest of what was read cannot fail to be made,
since what was read is legible; and a failing comparator is reported as
the fault of its slot whatever it raised.

There is one way around this. An integer of too many digits is neither
malformed nor taken for corrupt: the error of reading it comes through as
it is (`decode_long_integer`, `decode_passes_valueError`). Nothing else
does, and where it happens the text holds that many digits in a row. How
deep the reader may nest before its stack gives out is not modelled.
-/
import Collation.Proofs.Json.Outcomes
import Collation.Proofs.Wire.Parsing

namespace Collation.Wire

variable {data v : Value} {e : Fault} {ds : List Char} {ps : List CodePoint}
  {es : List (Value × Value)}
  {d : Document} {registry : Registry}

/-- The text that is given, or that octets spell in the encoding that they
show. -/
def spelled? (data : Value) : Option Text :=
  match data.text?, data with
  | some s, _ => some s
  | none, .bytes octets => (Text.decodeDetected octets).toOption
  | none, _ => none

/-- The failures of decoding: corrupt data, or an integer with too many
digits, which stand in a row in what the data spells. -/
def Refused (data : Value) (e : Fault) : Prop :=
  e.kind = "CorruptDataError"
    ∨ ∃ n s, e = .tooManyDigits n ∧ Json.digitLimit < n ∧ spelled? data = some s
      ∧ Json.Run n s.points

-- ============================================================== reading

/-- A text is refused for its syntax, or for a run of too many digits in it. -/
theorem ofPoints_refused (h : Json.ofPoints ps = .error e) :
    (∃ fault, e = .syntaxError fault)
      ∨ ∃ n, e = .tooManyDigits n ∧ Json.digitLimit < n ∧ Json.Run n ps := by
  unfold Json.ofPoints at h
  cases hread : Json.readAll ps with
  | ok v =>
    rw [hread] at h
    cases h
  | error refusal =>
    rw [hread] at h
    cases refusal with
    | malformed cause rest =>
      cases h
      exact .inl ⟨_, rfl⟩
    | tooManyDigits n =>
      cases h
      obtain ⟨hlimit, hrun⟩ := Json.run_of_readAll hread
      exact .inr ⟨n, rfl, hlimit, hrun⟩

/-- What is read is legible, and whole if the text has no halves. -/
theorem fit_of_ofPoints (h : Json.ofPoints ps = .ok v) : Json.Fit (NoHalf ps) v := by
  unfold Json.ofPoints at h
  cases hread : Json.readAll ps with
  | ok w =>
    rw [hread] at h
    cases h
    exact Json.fit_of_readAll hread
  | error refusal =>
    rw [hread] at h
    cases refusal <;> cases h

/-- Data is no text, or a text that cannot be JSON for its first character,
or read by its code points. -/
theorem readJson_cases (hdata : data.text? ≠ none ∨ ∃ octets, data = .bytes octets) :
    (∃ fault, readJson data = .error (.undecodable fault))
      ∨ (∃ fault, readJson data = .error (.syntaxError fault))
      ∨ ∃ s, spelled? data = some s ∧ readJson data = Json.ofPoints s.points := by
  cases htext : data.text? with
  | some s =>
    have hread : readJson data = Json.ofText s := by
      unfold readJson
      rw [htext]
    have hspelled : spelled? data = some s := by
      unfold spelled?
      rw [htext]
    rw [hread, hspelled, Json.ofText]
    by_cases hmark : s.points.head? = some (.char '\uFEFF')
    · exact .inr (.inl ⟨_, if_pos hmark⟩)
    · exact .inr (.inr ⟨s, rfl, if_neg hmark⟩)
  | none =>
    obtain ⟨octets, rfl⟩ := hdata.resolve_left (not_not_intro htext)
    show (∃ fault, Json.ofOctets octets = _) ∨ (∃ fault, Json.ofOctets octets = _)
      ∨ ∃ s, (Text.decodeDetected octets).toOption = some s ∧ Json.ofOctets octets = _
    unfold Json.ofOctets
    cases Text.decodeDetected octets with
    | error fault => exact .inl ⟨fault, rfl⟩
    | ok s => exact .inr (.inr ⟨s, rfl, rfl⟩)

/-- Data is refused as JSON that is corrupt, or for its digits. -/
private theorem readJson_refused (hdata : data.text? ≠ none ∨ ∃ octets, data = .bytes octets)
    (h : readJson data = .error e) : Refused data (asCorrupt e) := by
  rcases readJson_cases hdata with ⟨fault, hread⟩ | ⟨fault, hread⟩ | ⟨s, hspelled, hread⟩
  · rw [hread] at h
    cases h
    exact .inl rfl
  · rw [hread] at h
    cases h
    exact .inl rfl
  · rw [hread] at h
    rcases ofPoints_refused h with ⟨fault, rfl⟩ | ⟨n, rfl, hlimit, hrun⟩
    · exact .inl rfl
    · exact .inr ⟨n, s, rfl, hlimit, hspelled, hrun⟩

/-- Nothing but characters is in the text that the data spells. -/
def Solid (data : Value) : Prop := ∀ s, spelled? data = some s → NoHalf s.points

/-- Only a text and octets are read. -/
theorem readable_of_read (h : readJson data = .ok v) :
    data.text? ≠ none ∨ ∃ octets, data = .bytes octets := by
  by_contra hnone
  obtain ⟨htext, hoctets⟩ := not_or.1 hnone
  unfold readJson at h
  rw [not_not.1 htext] at h
  cases data with
  | bytes octets => exact hoctets ⟨octets, rfl⟩
  | _ => cases h

/-- Whatever was read is legible, and whole if it was read from characters. -/
theorem fit_of_read (h : readJson data = .ok v) : Json.Fit (Solid data) v := by
  rcases readJson_cases (readable_of_read h) with
    ⟨fault, hread⟩ | ⟨fault, hread⟩ | ⟨s, hspelled, hread⟩
  · rw [hread] at h
    cases h
  · rw [hread] at h
    cases h
  · rw [hread] at h
    have hfit := fit_of_ofPoints h
    exact ⟨hfit.legible, fun hsolid => hfit.whole (hsolid s hspelled)⟩

/-- What is read is legible. -/
theorem legible_of_read (h : readJson data = .ok v) : Json.Legible v := (fit_of_read h).legible

/-- What fits is made of what fits. -/
theorem hereditary_fit (solid : Prop) : Hereditary (Json.Fit solid) where
  listed hv h := by
    obtain ⟨hlegible, hwhole⟩ := hv
    cases hlegible with
    | list hxs =>
      cases h
      exact fun x hx => ⟨hxs x hx, fun hsolid => Value.isWhole_list.1 (hwhole hsolid) x hx⟩
    | _ => cases h
  dict hes := by
    obtain ⟨hnamed, hlegible⟩ := hes.legible.of_dict
    exact ⟨hnamed, fun e he =>
      ⟨hlegible e he, fun hsolid => (Value.isWhole_dict.1 (hes.whole hsolid) e he).2⟩⟩

-- ============================================================== digests

/-- What was read has a digest. -/
theorem digestOf_legible (h : Json.Legible (.dict es)) : ∃ s, digestOf es = .ok s := by
  obtain ⟨text, htext⟩ := (legible_covered h).written
  rw [digestOf_eq, htext]
  exact ⟨_, rfl⟩

/-- A wrong digest is reported as corruption. -/
private theorem checkHash_refused (hes : Json.Legible (.dict es)) (h : checkHash es d = .error e) :
    e.kind = "CorruptDataError" := by
  obtain ⟨expected, hexpected⟩ := digestOf_legible hes
  unfold checkHash at h
  rw [hexpected] at h
  simp only [bind, Except.bind] at h
  split at h
  · cases h
    rfl
  · cases h

/-- Parsing refuses what is corrupt, and integers of too many digits. -/
theorem Document.parse_refused (verify : Bool)
    (hdata : data.text? ≠ none ∨ ∃ octets, data = .bytes octets)
    (h : Document.parse verify data = .error e) : Refused data e := by
  unfold Document.parse at h
  cases hread : readJson data with
  | error fault =>
    rw [hread] at h
    cases h
    exact readJson_refused hdata hread
  | ok v =>
    have hlegible := legible_of_read hread
    rw [hread] at h
    dsimp only [Except.mapError] at h
    -- Past the text, all that is found amiss is corrupt.
    refine .inl ?_
    split at h
    · next heq => cases heq
    · next entries heq =>
      cases heq
      split at h
      · cases h
        rfl
      · next document _ =>
        split at h
        · cases hhash : checkHash entries document with
          | ok u =>
            rw [hhash] at h
            cases h
          | error fault =>
            rw [hhash] at h
            cases h
            exact checkHash_refused hlegible hhash
        · cases h
    · cases h
      rfl

-- ============================================================ replaying

/-- A name that leads nowhere is reported as a misuse. -/
private theorem resolve_text_refused {name : Text} (h : registry.resolve (.text name) = .error e) :
    ∃ cause, e = .misuse cause := by
  have hfind : Value.find? (.text name) registry.byName
      = .ok (Value.lookup (.text name) registry.byName) := rfl
  unfold Registry.resolve at h
  rw [hfind] at h
  cases hlookup : Value.lookup (.text name) registry.byName with
  | none =>
    rw [hlookup] at h
    cases h
    exact ⟨_, rfl⟩
  | some c =>
    rw [hlookup] at h
    cases h

/-- So are the names of a document. -/
private theorem comparators_refused (h : d.comparators registry = .error e) :
    ∃ cause, e = .misuse cause := by
  unfold Document.comparators at h
  cases hkeys : registry.resolve (.text d.keyComparator) with
  | error fault =>
    rw [hkeys] at h
    cases h
    exact resolve_text_refused hkeys
  | ok keys =>
    cases hvalues : registry.resolve (.text d.valueComparator) with
    | error fault =>
      rw [hkeys, hvalues] at h
      cases h
      exact resolve_text_refused hvalues
    | ok values =>
      rw [hkeys, hvalues] at h
      cases h

/-- What is done in two steps fails in one of them. -/
theorem failed_of_andThen {σ α β : Type} {o : Outcome σ α} {f : σ → α → Outcome σ β}
    (h : (o.andThen f).result = .error e) :
    o.result = .error e ∨ ∃ a, (f o.state a).result = .error e := by
  unfold Outcome.andThen at h
  split at h
  · next a _ => exact .inr ⟨a, h⟩
  · next fault hfault =>
    cases h
    exact .inl hfault

/-- Whatever a comparator raises is a fault of the slot. -/
theorem replaySlot_refused {m : Multimap} {s : SlotRecord}
    (h : (replaySlot m s).result = .error e) : ∃ cause, e = .corruptSlot s.key cause := by
  rcases failed_of_andThen h with hput | ⟨added, hdone⟩
  · simp only [Outcome.mapFault] at hput
    cases hresult : (putCounting m s.key s.values).result with
    | error cause =>
      rw [hresult] at hput
      exact ⟨cause, (Except.error.inj hput).symm⟩
    | ok added =>
      rw [hresult] at hput
      cases hput
  · cases hdone

/-- A slot that cannot be put is reported as corrupt. -/
private theorem replay_refused {m : Multimap} {slots : List SlotRecord}
    (h : (replay m slots).result = .error e) : ∃ key cause, e = .corruptSlot key cause := by
  induction slots generalizing m with
  | nil => cases h
  | cons s slots ih =>
    rcases failed_of_andThen h with hslot | ⟨_, hrest⟩
    · exact ⟨s.key, replaySlot_refused hslot⟩
    · exact ih hrest

/-- A document that was read is refused as corrupt only. -/
theorem Document.toMultimap_refused (h : (d.toMultimap registry).result = .error e) :
    e.kind = "CorruptDataError" := by
  unfold Document.toMultimap at h
  cases hnames : d.comparators registry with
  | error fault =>
    obtain ⟨cause, rfl⟩ := comparators_refused hnames
    rw [hnames] at h
    cases h
    rfl
  | ok named =>
    obtain ⟨keys, values⟩ := named
    rw [hnames] at h
    simp only [Except.mapError] at h
    cases hresult : (replay (.empty keys values) d.slots).result with
    | ok u =>
      rw [hresult] at h
      cases h
    | error fault =>
      rw [hresult] at h
      cases h
      obtain ⟨key, cause, rfl⟩ := replay_refused hresult
      rfl

-- ============================================================= decoding

/-- Whatever text or octets are decoded, by whatever registry, whether the
digest is compared or not: parsing them, replaying what was parsed, and the
two together fail only because the data is corrupt, or because an integer
in it has too many digits. -/
theorem decoding_refusals (registry : Registry) (verify : Bool)
    (hdata : data.text? ≠ none ∨ ∃ octets, data = .bytes octets) :
    (∀ e, Document.parse verify data = .error e → Refused data e)
      ∧ (∀ d e, Document.parse verify data = .ok d → (d.toMultimap registry).result = .error e →
        e.kind = "CorruptDataError")
      ∧ ∀ e, (Multimap.decode registry verify data).result = .error e → Refused data e := by
  refine ⟨fun e h => Document.parse_refused verify hdata h,
    fun d e _ h => Document.toMultimap_refused h, fun e h => ?_⟩
  unfold Multimap.decode at h
  cases hparse : Document.parse verify data with
  | error fault =>
    rw [hparse] at h
    cases h
    exact Document.parse_refused verify hdata hparse
  | ok d =>
    rw [hparse] at h
    rcases failed_of_andThen h with hreplay | ⟨m, hdone⟩
    · exact .inl (Document.toMultimap_refused hreplay)
    · cases hdone

/-- A list is no multimap. -/
theorem decoding_refusals_list :
    (Value.text "[]").text? ≠ none
      ∧ (Multimap.decode .withBuiltins true (.text "[]")).result = .error (.corruptRoot "list")
      ∧ Refused (.text "[]") (.corruptRoot "list") := by
  have htext : (Value.text "[]").text? ≠ none := Option.some_ne_none _
  have hlist : (Multimap.decode .withBuiltins true (.text "[]")).result
      = .error (.corruptRoot "list") := rfl
  obtain ⟨-, -, hdecode⟩ := decoding_refusals .withBuiltins true (.inl htext)
  exact ⟨htext, hlist, hdecode _ hlist⟩

-- ======================================================== many digits

/-- The error of an integer of too many digits is passed on as it is. -/
theorem decode_long_integer (registry : Registry) (verify : Bool) (hds : WholePart ds)
    (hlimit : Json.digitLimit < ds.length) :
    (Multimap.decode registry verify (.text (.ofChars ds))).result
      = .error (.tooManyDigits ds.length) := by
  obtain ⟨c, cs, hcons, hc⟩ := Json.WholePart.head_isDigit hds []
  rw [List.append_nil] at hcons
  have hnumber : Json.readNumber (codePoints ds) = .error (.tooManyDigits ds.length) := by
    have hwhole := Json.readNumber_whole false hds Json.closes_nil
    rwa [List.append_nil, if_pos hlimit] at hwhole
  have hvalue : ∀ fuel,
      Json.readValue (fuel + 1) (codePoints ds) = .error (.tooManyDigits ds.length) := by
    intro fuel
    rw [← hnumber, hcons]
    exact Json.readValue_number fuel false hc (codePoints cs)
  have hall : Json.readAll (codePoints ds) = .error (.tooManyDigits ds.length) := by
    unfold Json.readAll
    rw [hcons, codePoints_cons, Json.skipBlanks_cons (Json.isBlank_of_isDigit hc),
      ← codePoints_cons, ← hcons, hvalue]
    rfl
  have hread : readJson (.text (.ofChars ds)) = .error (.tooManyDigits ds.length) := by
    have hmark : (Text.ofChars ds).points.head? ≠ some (.char '\uFEFF') := by
      rw [hcons]
      exact fun h => Json.ne_of_isDigit hc rfl (CodePoint.char.inj (Option.some.inj h))
    show Json.ofText (.ofChars ds) = _
    rw [Json.ofText_eq hmark]
    show Json.ofPoints (codePoints ds) = _
    rw [Json.ofPoints, hall]
  unfold Multimap.decode Document.parse
  rw [hread]
  rfl

/-- So decoding fails otherwise than for corrupt data. -/
theorem decode_passes_valueError :
    ∃ e, (Multimap.decode .withBuiltins true
        (.text (.ofChars (List.replicate 4301 '1')))).result = .error e
      ∧ e.kind = "ValueError" ∧ e.kind ≠ "CorruptDataError" := by
  have hdigits : AllDigits (List.replicate 4301 '1') := by
    intro c hc
    rw [List.eq_of_mem_replicate hc]
    rfl
  have hwhole : WholePart (List.replicate 4301 '1') := .inr ⟨hdigits, '1', rfl, by decide⟩
  have hlimit : Json.digitLimit < (List.replicate 4301 '1').length := by
    rw [List.length_replicate]
    decide
  exact ⟨_, decode_long_integer .withBuiltins true hwhole hlimit, rfl, by decide⟩

end Collation.Wire
