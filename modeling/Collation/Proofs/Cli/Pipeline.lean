/-
What grouping writes the other commands accept. A run of grouping that
succeeds has put the records of all lines, one after the other
(`putLines_eq_ok`), has encoded what they came to, and has left a file with
the octets (`dump_eq_ok`); all else has another exit code. Records are
read, never made, so they are legible, and whole since lines are UTF-8
proper (`fit_of_readRecord`); and what puts alone have built is in order as
soon as it can be encoded, as a decoded multimap is (`Multimap.Decoded`).
Hence the file spells the normal form of the multimap
(`Multimap.Ordered.reread`): it is verified with the same counts and names,
shown without a failed look-up, and loaded with the entries that the
records brought.
-/
import Collation.Proofs.Cli.Showing
import Collation.Proofs.Text.Decoding

namespace Collation

open Json (Fit Legible)

-- ================================================================ putting

namespace Multimap

variable {keys values : Comparator} {m : Multimap} {pairs : List (Value × Value)}
  {registry : Registry} {path : Path} {folder : Folder}

/-- What legible entries come to is as what is decoded. -/
theorem decoded_putEntries (hk : Registry.ReadyMade keys) (hv : Registry.ReadyMade values)
    (hpairs : ∀ e ∈ pairs, Legible e.1 ∧ Legible e.2) :
    Decoded keys values ((empty keys values).putEntries pairs).state where
  toArranged := putEntries_kept (P := Arranged keys values Value.Plain Value.Plain)
    (fun e _ _ h => h.put hk.consistentOn hv.consistentOn e.1 e.2) (.empty keys values _ _)
  readyKeys := hk
  readyValues := hv
  legible := putEntries_kept (P := Within Legible Legible)
    (fun e he _ h => h.put (hpairs e he).1 (hpairs e he).2) fun _ ht => absurd ht List.not_mem_nil

/-- What whole entries come to is whole. -/
theorem whole_putEntries (keys values : Comparator)
    (hpairs : ∀ e ∈ pairs, e.1.isWhole = true ∧ e.2.isWhole = true) :
    ((empty keys values).putEntries pairs).state.Whole :=
  putEntries_kept (P := Multimap.Whole)
    (fun e he _ h => h.put (hpairs e he).1 (hpairs e he).2) fun _ ht => absurd ht List.not_mem_nil

/-- The document that is read from what such a multimap is encoded to. -/
theorem Decoded.reread {octets : List UInt8} (h : Decoded keys values m) (hwhole : m.Whole)
    (hencode : (m.encode .withBuiltins).result = .ok octets) :
    ∃ d, (∀ verify, Wire.Document.parse verify (.bytes octets) = .ok d)
      ∧ (d.toMultimap .withBuiltins).result = .ok m.normal ∧ d.entryCount = m.total
      ∧ Registry.withBuiltins.nameOf keys = .ok (.text d.keyComparator)
      ∧ Registry.withBuiltins.nameOf values = .ok (.text d.valueComparator)
      ∧ Encodable keys values Value.Plain Value.Plain m.normal
      ∧ List.Forall₂ (fun e e' => e.1.Same e'.1 ∧ e.2.Same e'.2) m.entries m.normal.entries := by
  have hk := h.readyKeys.consistentOn
  have hv := h.readyValues.consistentOn
  obtain ⟨d, text, hd, -, -, -, hparse, hcomparators, hrecords, hm, hnormal⟩ :=
    (h.ordered_of_encode hencode).1.reread Registry.withBuiltins_built
      (Registry.readyMade_identified _ h.readyKeys) (Registry.readyMade_identified _ h.readyValues)
      (Registry.wholeName_readyMade h.readyKeys) (Registry.wholeName_readyMade h.readyValues) hk
      h.readyKeys.blind.respects h.readyValues.blind.respects (fun _ => Value.Plain.normal)
      (fun _ => Value.Plain.normal) (.of_legible h.legible) hwhole hencode
  obtain ⟨keyName, valueName, hkeyName, hvalueName, hkeyText, hvalueText, -⟩ :=
    Wire.Document.ofMultimap_eq_ok.1 hd
  -- what is ready-made has one name, and that is a text
  have named : ∀ {c : Comparator} {name : Value} {s : Text}, Registry.ReadyMade c →
      Registry.withBuiltins.nameOf c = .ok name → Wire.string name = .ok s →
      Registry.withBuiltins.nameOf c = .ok (.text s) := by
    intro c name s hc hname hs
    obtain ⟨t, ht⟩ := Registry.nameOf_readyMade hc
    rw [ht] at hname
    cases hname
    cases hs
    exact ht
  rw [h.keyComparator] at hkeyName
  rw [h.valueComparator] at hvalueName
  have hmade := Wire.Document.toMultimap_records hnormal hk hv hcomparators hrecords
  exact ⟨d.normal, fun verify => hparse verify _ List.mem_cons_self, congrArg Outcome.result hmade,
    hnormal.entryCount_eq hrecords, named h.readyKeys hkeyName hkeyText,
    named h.readyValues hvalueName hvalueText, hnormal, hm.entries_same⟩

/-- A multimap is written to a file, where it is encoded, or at most
directories are made. -/
theorem dump_cases (m : Multimap) (registry : Registry) (path : Path) (folder : Folder) :
    ((m.dump registry path folder).result = .ok () ∧ ∃ octets,
        (m.encode registry).result = .ok octets
          ∧ (m.dump registry path folder).state.holds path = .ok true
          ∧ (m.dump registry path folder).state.read path = .ok octets)
      ∨ (∃ e, (m.dump registry path folder).result = .error e)
        ∧ folder.Grown (m.dump registry path folder).state := by
  have hgrown := folder.makeParents_grown path
  unfold dump Outcome.andThen
  cases hparents : (folder.makeParents path).result with
  | error e => exact .inr ⟨⟨e, rfl⟩, hgrown⟩
  | ok u =>
    dsimp only
    cases hencode : (m.encode registry).result with
    | error e => exact .inr ⟨⟨e, rfl⟩, hgrown⟩
    | ok octets =>
      dsimp only
      cases hwrite : (folder.makeParents path).state.write path octets with
      | error e => exact .inr ⟨⟨e, rfl⟩, hgrown⟩
      | ok written => exact .inl ⟨rfl, octets, rfl, Folder.written hwrite⟩

/-- What was written is the encoding, and it is what the file holds. -/
theorem dump_eq_ok (h : (m.dump registry path folder).result = .ok ()) :
    ∃ octets, (m.encode registry).result = .ok octets
      ∧ (m.dump registry path folder).state.holds path = .ok true
      ∧ (m.dump registry path folder).state.read path = .ok octets := by
  rcases dump_cases m registry path folder with ⟨-, hwritten⟩ | ⟨⟨e, he⟩, -⟩
  · exact hwritten
  · rw [h] at he
    cases he

private theorem dump_grown {e : Fault} (h : (m.dump registry path folder).result = .error e) :
    folder.Grown (m.dump registry path folder).state := by
  rcases dump_cases m registry path folder with ⟨hok, -⟩ | ⟨-, hgrown⟩
  · rw [h] at hok
    cases hok
  · exact hgrown

end Multimap

-- =============================================================== records

namespace Cli

variable {keyField valueField : String} {line : List UInt8} {k v record : Value}

/-- The records on some lines, blank ones left out. -/
def recordsOf (keyField valueField : String) (lines : List (List UInt8)) :
    Except Fault (List (Value × Value)) :=
  (lines.filter fun line => !isBlankLine line).mapM (readRecord keyField valueField)

/-- A field of a record is what the entry of its name holds. -/
theorem item_dict (field : String) (es : List (Value × Value)) :
    SortKey.item (.text field) (.dict es)
      = match Value.lookup (.text field) es with
        | some v => .ok v
        | none => .error (.absent (.text field)) := by
  have hfind : Value.find? (.text field) es = .ok (Value.lookup (.text field) es) := rfl
  show Value.entryUnder (.text field) es = _
  rw [Value.entryUnder, hfind]
  cases Value.lookup (.text field) es <;> rfl

/-- Only an object has fields. -/
theorem item_text_eq_ok {field : String} :
    SortKey.item (.text field) record = .ok v ↔
      ∃ es, record = .dict es ∧ Value.lookup (.text field) es = some v := by
  cases record with
  | dict es =>
    rw [item_dict]
    cases hlookup : Value.lookup (.text field) es <;> simp [hlookup]
  | _ => simp [SortKey.item, Value.integer?]

/-- A field of a legible and whole record is so itself. -/
theorem fit_of_item {field : String} (hrecord : Fit True record)
    (h : SortKey.item (.text field) record = .ok v) : Fit True v := by
  obtain ⟨es, rfl, hlookup⟩ := item_text_eq_ok.1 h
  obtain ⟨e, he, rfl⟩ := Value.mem_of_lookup hlookup
  exact ((Wire.hereditary_fit True).dict hrecord).2 e he

/-- A record holds what JSON can spell. -/
private theorem fit_of_readRecord (h : readRecord keyField valueField line = .ok (k, v)) :
    Fit True k ∧ Fit True v := by
  obtain ⟨text, htext, h⟩ := bind_eq_ok.1 h
  obtain ⟨record, hrecord, h⟩ := bind_eq_ok.1 h
  obtain ⟨key, hkey, h⟩ := bind_eq_ok.1 h
  obtain ⟨value, hvalue, h⟩ := bind_eq_ok.1 h
  cases h
  have hchars : NoHalf text.points := noHalf_of_decodeUtf8 (mapError_eq_ok.1 htext)
  have hfit : Fit True record := by
    unfold Json.ofText at hrecord
    dsimp only at hrecord
    split at hrecord
    · cases hrecord
    · have hread := Wire.fit_of_ofPoints hrecord
      exact ⟨hread.legible, fun _ => hread.whole hchars⟩
  exact ⟨fit_of_item hfit hkey, fit_of_item hfit hvalue⟩

private theorem fit_of_recordsOf {lines : List (List UInt8)} {pairs : List (Value × Value)}
    (h : recordsOf keyField valueField lines = .ok pairs) :
    ∀ e ∈ pairs, Fit True e.1 ∧ Fit True e.2 := by
  intro e he
  obtain ⟨line, -, hline⟩ := exists_of_mem_right (mapM_eq_ok.1 h) e he
  exact fit_of_readRecord hline

private theorem recordsOf_blank {lines : List (List UInt8)} (hblank : isBlankLine line = true) :
    recordsOf keyField valueField (line :: lines) = recordsOf keyField valueField lines := by
  simp [recordsOf, hblank]

private theorem recordsOf_cons {lines : List (List UInt8)} {pairs : List (Value × Value)}
    (hblank : isBlankLine line = false)
    (hrecord : readRecord keyField valueField line = .ok (k, v))
    (hpairs : recordsOf keyField valueField lines = .ok pairs) :
    recordsOf keyField valueField (line :: lines) = .ok ((k, v) :: pairs) := by
  refine mapM_eq_ok.2 ?_
  simp only [List.filter_cons, hblank]
  exact .cons hrecord (mapM_eq_ok.1 hpairs)

/-- What it takes to put a line that is not blank, and those after it. -/
theorem putLines_cons_eq_ok {lines : List (List UInt8)} {m n : Multimap} {number records : Nat}
    (hblank : isBlankLine line = false)
    (h : putLines keyField valueField m number (line :: lines) = .ok (n, records)) :
    ∃ k v isNew records', readRecord keyField valueField line = .ok (k, v)
      ∧ (m.put k v).result = .ok isNew
      ∧ putLines keyField valueField (m.put k v).state (number + 1) lines = .ok (n, records')
      ∧ records = records' + 1 := by
  rw [putLines, hblank, if_neg Bool.false_ne_true] at h
  cases hrecord : readRecord keyField valueField line with
  | error e =>
    rw [hrecord] at h
    cases h
  | ok e =>
    obtain ⟨k, v⟩ := e
    rw [hrecord] at h
    dsimp only at h
    cases hput : (m.put k v).result with
    | error e =>
      rw [hput] at h
      cases h
    | ok isNew =>
      rw [hput] at h
      obtain ⟨⟨n', records'⟩, hrest, heq⟩ := map_eq_ok.1 h
      cases heq
      exact ⟨k, v, isNew, records', rfl, hput, hrest, rfl⟩

/-- Lines that are all put are put as their records, in line order. -/
theorem putLines_eq_ok {lines : List (List UInt8)} : ∀ {m n : Multimap} {number records : Nat},
    putLines keyField valueField m number lines = .ok (n, records) →
    ∃ pairs, recordsOf keyField valueField lines = .ok pairs
      ∧ (∃ isNew, (m.putEntries pairs).result = .ok isNew) ∧ (m.putEntries pairs).state = n
      ∧ pairs.length = records := by
  induction lines with
  | nil =>
    intro m n number records h
    cases h
    exact ⟨[], rfl, ⟨false, rfl⟩, rfl, rfl⟩
  | cons line lines ih =>
    intro m n number records h
    cases hblank : isBlankLine line with
    | true =>
      rw [putLines, hblank, if_pos rfl] at h
      rw [recordsOf_blank hblank]
      exact ih h
    | false =>
      obtain ⟨k, v, isNew, records', hrecord, hput, hrest, rfl⟩ := putLines_cons_eq_ok hblank h
      obtain ⟨pairs, hpairs, ⟨isNew', hresult⟩, hstate, hlength⟩ := ih hrest
      obtain ⟨hstate', hresult'⟩ := Multimap.putEntries_cons pairs hput
      refine ⟨(k, v) :: pairs, recordsOf_cons hblank hrecord hpairs, ⟨isNew || isNew', ?_⟩, ?_, ?_⟩
      · rw [hresult', hresult]
        rfl
      · rw [hstate', hstate]
      · rw [List.length_cons, hlength]

-- ============================================================== commands

variable {registry : Registry} {settings : Settings} {folder : Folder} {source output : Path}
  {keyOrder valueOrder : String} {m : Multimap} {keys values : Comparator}
  {octets : List UInt8} {K V : Value → Prop}

/-- The name of the order that a command works by. An empty name stands for
the settings' own. -/
def orderName (name default : String) : String := if name.isEmpty then default else name

/-- The two orders are looked up by their names, or by those of the settings. -/
theorem emptyBy_eq_ok : emptyBy registry settings keyOrder valueOrder = .ok m ↔
    ∃ keys values,
      registry.resolve (.text (orderName keyOrder settings.defaultKeyComparator)) = .ok keys
        ∧ registry.resolve (.text (orderName valueOrder settings.defaultValueComparator))
          = .ok values
        ∧ m = .empty keys values := by
  have hnamed : ∀ name default : String,
      Value.text (if name.isEmpty then .ofString default else .ofString name)
        = .text (orderName name default) := by
    intro name default
    rw [orderName]
    split <;> rfl
  unfold emptyBy
  simp only [hnamed, bind_eq_ok]
  constructor
  · rintro ⟨keys, hkeys, values, hvalues, ⟨⟩⟩
    exact ⟨keys, values, hkeys, hvalues, rfl⟩
  · rintro ⟨keys, values, hkeys, hvalues, rfl⟩
    exact ⟨keys, hkeys, values, hvalues, rfl⟩

/-- What is printed of lines that were grouped. -/
def summary (records : Nat) (m : Multimap) (output : Path) : Printed :=
  .panel "Grouped" <|
    ["Records read:  " ++ toString records,
      "Keys:          " ++ toString m.map.size,
      "Entries:       " ++ toString m.total]
    ++ ("Output:        " ++ shown output.toText).splitOn "\n"

/-- A run of grouping comes to its end, or it fails and leaves at most
directories. -/
theorem runGroup_cases (registry : Registry) (settings : Settings) (folder : Folder)
    (source : Path) (keyField valueField : String) (output : Path) (keyOrder valueOrder : String) :
    let run := runGroup registry settings folder source keyField valueField output keyOrder
      valueOrder
    (∃ octets start m records, folder.read source = .ok octets
        ∧ emptyBy registry settings keyOrder valueOrder = .ok start
        ∧ putLines keyField valueField start 1 (linesOf octets) = .ok (m, records)
        ∧ (m.dump registry output folder).result = .ok ()
        ∧ run = .finished (m.dump registry output folder).state [summary records m output])
      ∨ run.exit = 1 ∧ folder.Grown run.folder := by
  have hsame := Folder.Grown.refl folder
  unfold runGroup withSource
  -- nothing is written before the dump, and a failed one leaves directories at most
  rcases folder.holds source with e | _ | _
  · exact .inr ⟨rfl, hsame⟩
  · exact .inr ⟨rfl, hsame⟩
  dsimp only
  cases hstart : emptyBy registry settings keyOrder valueOrder with
  | error e =>
    refine .inr ?_
    dsimp only
    split <;> exact ⟨rfl, hsame⟩
  | ok start =>
    dsimp only
    cases hread : folder.read source with
    | error e => exact .inr ⟨rfl, hsame⟩
    | ok octets =>
      dsimp only
      cases hput : putLines keyField valueField start 1 (linesOf octets) with
      | error failure =>
        refine .inr ?_
        dsimp only
        split <;> exact ⟨rfl, hsame⟩
      | ok put =>
        dsimp only
        cases hdump : (put.1.dump registry output folder).result with
        | error e =>
          have hgrown := Multimap.dump_grown hdump
          refine .inr ?_
          dsimp only
          split <;> exact ⟨rfl, hgrown⟩
        | ok u => exact .inl ⟨octets, start, put.1, put.2, rfl, rfl, hput, hdump, rfl⟩

/-- Only a run of grouping that came to its end succeeds. -/
theorem runGroup_exit
    (h : (runGroup registry settings folder source keyField valueField output keyOrder
      valueOrder).exit = 0) :
    ∃ octets start m records, folder.read source = .ok octets
      ∧ emptyBy registry settings keyOrder valueOrder = .ok start
      ∧ putLines keyField valueField start 1 (linesOf octets) = .ok (m, records)
      ∧ (m.dump registry output folder).result = .ok ()
      ∧ runGroup registry settings folder source keyField valueField output keyOrder valueOrder
        = .finished (m.dump registry output folder).state [summary records m output] := by
  rcases runGroup_cases registry settings folder source keyField valueField output keyOrder
    valueOrder with hended | ⟨hone, -⟩
  · exact hended
  · rw [h] at hone
    cases hone

/-- A file with an encodable multimap is shown. -/
theorem runShow_exit (hm : Multimap.Encodable keys values K V m) (hk : keys.compare.ConsistentOn K)
    (hholds : folder.holds source = .ok true)
    (hload : (Multimap.load registry settings.verifyPayloadHash source folder).result = .ok m)
    (limit : Int) : (runShow registry settings folder source limit).exit = 0 := by
  cases hfilled : m.isEmpty with
  | true =>
    unfold runShow withSource
    rw [hholds, hload]
    dsimp only
    rw [if_pos hfilled]
    rfl
  | false =>
    rw [runShow_eq hm.keysOrdered hk hm.itself hload hfilled limit]
    rfl

/-- A file whose document describes a multimap of as many entries as the
document counts is verified. -/
theorem runVerify_eq {skipHash : Bool} {d : Wire.Document}
    (hholds : folder.holds source = .ok true) (hread : folder.read source = .ok octets)
    (hparse : Wire.Document.parse (!skipHash) (.bytes octets) = .ok d)
    (hmade : (d.toMultimap registry).result = .ok m) (hcount : d.entryCount = m.total) :
    runVerify registry folder source skipHash
      = .finished folder [.line ("OK " ++ toString m.map.size ++ " keys, " ++ toString m.total
        ++ " entries (" ++ shown d.keyComparator.lossy ++ " / " ++ shown d.valueComparator.lossy
        ++ ")")] := by
  have hchecked : readChecked registry (!skipHash) folder source = .ok (d, m) :=
    bind_eq_ok.2 ⟨octets, hread, bind_eq_ok.2 ⟨d, hparse, bind_eq_ok.2 ⟨m, hmade, rfl⟩⟩⟩
  unfold runVerify withSource
  rw [hholds, hchecked]
  dsimp only
  rw [hcount, Int.sub_self, if_pos rfl]

/-- The name of a ready-made order is shown as it is. -/
theorem shown_builtin : ∀ b ∈ Comparator.builtins, shown b.1 = b.1 := by decide +kernel

/-- An order that a name led to is shown by that name. -/
theorem eq_shown_of_resolve {name : String} {s : Text} {c : Comparator}
    (hresolve : Registry.withBuiltins.resolve (.text name) = .ok c)
    (hname : Registry.withBuiltins.nameOf c = .ok (.text s)) : name = shown s.lossy := by
  obtain ⟨b, hb, hs, rfl⟩ := Registry.mem_builtins_of_resolve hresolve
  obtain rfl := Text.ofString_inj.1 hs
  rw [Registry.nameOf_builtin hb] at hname
  cases hname
  rw [Text.lossy_ofString, shown_builtin _ hb]

-- ============================================================== pipeline

/-- Whatever is grouped by ready-made orders, in whatever settings, if the
run succeeds then it put the records of the lines one by one, and the file
that it leaves is verified, with the numbers of keys and of entries that
were printed, the names of the orders, and no value collapsed; it is shown
up to any limit; and it is loaded with the entries that were put, the same
to JSON one by one. -/
theorem pipeline_agrees
    (h : ((Command.group source keyField valueField output keyOrder valueOrder).run .withBuiltins
      settings folder).exit = 0) :
    let keyName := orderName keyOrder settings.defaultKeyComparator
    let valueName := orderName valueOrder settings.defaultValueComparator
    let grouped := (Command.group source keyField valueField output keyOrder valueOrder).run
      .withBuiltins settings folder
    ∃ octets pairs keys values, folder.read source = .ok octets
      ∧ recordsOf keyField valueField (linesOf octets) = .ok pairs
      ∧ Registry.withBuiltins.resolve (.text keyName) = .ok keys
      ∧ Registry.withBuiltins.resolve (.text valueName) = .ok values
      ∧ let put := (Multimap.empty keys values).putEntries pairs
        (∃ isNew, put.result = .ok isNew)
        ∧ grouped.printed = [.panel "Grouped" <|
            ["Records read:  " ++ toString pairs.length,
              "Keys:          " ++ toString put.state.map.size,
              "Entries:       " ++ toString put.state.total]
            ++ ("Output:        " ++ shown output.toText).splitOn "\n"]
        ∧ (∀ skipHash, (Command.verify output skipHash).run .withBuiltins settings grouped.folder
          = .finished grouped.folder
            [.line ("OK " ++ toString put.state.map.size ++ " keys, " ++ toString put.state.total
              ++ " entries (" ++ keyName ++ " / " ++ valueName ++ ")")])
        ∧ (∀ limit, ((Command.inspect output limit).run .withBuiltins settings
          grouped.folder).exit = 0)
        ∧ ∀ verify, ∃ m', (Multimap.load .withBuiltins verify output grouped.folder).result = .ok m'
          ∧ m'.keyComparator = keys ∧ m'.valueComparator = values
          ∧ List.Forall₂ (fun e e' => e.1.Same e'.1 ∧ e.2.Same e'.2) put.state.entries
            m'.entries := by
  intro keyName valueName grouped
  obtain ⟨octets, start, m, records, hread, hstart, hput, hdump, hrun⟩ := runGroup_exit h
  obtain ⟨keys, values, hkeys, hvalues, rfl⟩ := emptyBy_eq_ok.1 hstart
  obtain ⟨pairs, hpairs, hok, rfl, rfl⟩ := putLines_eq_ok hput
  have hfit := fit_of_recordsOf hpairs
  have hmade := Multimap.decoded_putEntries (Registry.readyMade_of_resolve hkeys)
    (Registry.readyMade_of_resolve hvalues) fun e he =>
      ⟨(hfit e he).1.legible, (hfit e he).2.legible⟩
  have hwhole := Multimap.whole_putEntries keys values fun e he =>
    ⟨(hfit e he).1.whole trivial, (hfit e he).2.whole trivial⟩
  refine ⟨octets, pairs, keys, values, hread, hpairs, hkeys, hvalues, ?_⟩
  intro put
  change Multimap.Decoded keys values put.state at hmade
  obtain ⟨written, hencode, hholds, hwritten⟩ := Multimap.dump_eq_ok hdump
  obtain ⟨d, hparse, hloaded, hcount, hkeyName, hvalueName, hnormal, hsame⟩ :=
    hmade.reread hwhole hencode
  have hfolder : grouped.folder = (put.state.dump .withBuiltins output folder).state :=
    congrArg Run.folder hrun
  rw [hfolder]
  -- all three commands read the same file, and load the normal form from it
  have hload : ∀ verify, (Multimap.load .withBuiltins verify output
      (put.state.dump .withBuiltins output folder).state).result = .ok put.state.normal := by
    intro verify
    unfold Multimap.load
    rw [hwritten]
    exact Multimap.decode_eq_ok.2 ⟨d, hparse verify, hloaded⟩
  refine ⟨hok, congrArg Run.printed hrun, fun skipHash => ?_, fun limit => ?_, fun verify => ?_⟩
  · have hverified := runVerify_eq hholds hwritten (hparse (!skipHash)) hloaded hcount
    have hsize : put.state.normal.map.size = put.state.map.size := List.length_map _
    rw [hsize, ← eq_shown_of_resolve hkeys hkeyName, ← eq_shown_of_resolve hvalues hvalueName]
      at hverified
    exact hverified
  · exact runShow_exit hnormal hmade.readyKeys.consistentOn hholds (hload _) limit
  · exact ⟨put.state.normal, hload verify, hnormal.keyComparator, hnormal.valueComparator, hsame⟩

/-- Keys by their case fold and values of several kinds, null last, on lines
one of which is blank. -/
theorem pipeline_agrees_caseFold :
    let source : Path := ⟨["in"]⟩
    let output : Path := ⟨["made", "out"]⟩
    let folder := Folder.holding source <| Wire.asciiOctets <| [
      "\x7b\"k\":\"b\",\"v\":2\x7d\n", " \t\n", "\x7b\"k\":\"A\",\"v\":null\x7d\n",
      "\x7b\"k\":\"B\",\"v\":2.0\x7d\n", "\x7b\"v\":[1],\"k\":\"a\"\x7d"].flatMap String.toList
    let grouped := (Command.group source "k" "v" output "casefold" "natural_nulls_last").run
      .withBuiltins {} folder
    grouped.exit = 0
      ∧ ∃ octets pairs keys values, folder.read source = .ok octets
        ∧ recordsOf "k" "v" (linesOf octets) = .ok pairs
        ∧ Registry.withBuiltins.resolve (.text "casefold") = .ok keys
        ∧ Registry.withBuiltins.resolve (.text "natural_nulls_last") = .ok values
        ∧ let put := (Multimap.empty keys values).putEntries pairs
          (∃ isNew, put.result = .ok isNew)
          ∧ (∀ skipHash, (Command.verify output skipHash).run .withBuiltins {} grouped.folder
            = .finished grouped.folder
              [.line ("OK " ++ toString put.state.map.size ++ " keys, " ++ toString put.state.total
                ++ " entries (" ++ "casefold" ++ " / " ++ "natural_nulls_last" ++ ")")])
          ∧ (∀ limit, ((Command.inspect output limit).run .withBuiltins {} grouped.folder).exit = 0)
          ∧ ∀ verify, ∃ m',
            (Multimap.load .withBuiltins verify output grouped.folder).result = .ok m'
            ∧ List.Forall₂ (fun e e' => e.1.Same e'.1 ∧ e.2.Same e'.2) put.state.entries
              m'.entries := by
  intro source output folder grouped
  have hexit : grouped.exit = 0 := by decide +kernel
  obtain ⟨octets, pairs, keys, values, hread, hpairs, hkeys, hvalues, hok, -, hverified, hshown,
    hloaded⟩ := pipeline_agrees hexit
  refine ⟨hexit, octets, pairs, keys, values, hread, hpairs, hkeys, hvalues, hok, hverified, hshown,
    fun verify => ?_⟩
  obtain ⟨m', hm', -, -, hsame⟩ := hloaded verify
  exact ⟨m', hm', hsame⟩

end Cli

end Collation
