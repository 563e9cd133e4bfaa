/-
Grouping is all or nothing. The lines are put one after the other onto one
multimap (`putLines_append`), and nothing is written before it is complete
and encoded. So a run succeeds if and only if the lines make a multimap
(`Makes`) that can be encoded; and as no file is touched but by the one
write at the end, a run that fails leaves all files alone, wherever it
fails and whatever it had put by then.

Lines are counted blank or not, records are not. A line that cannot be put
ends the run there, so the number that is printed is that of the first
one.
-/
import Collation.Proofs.Cli.Pipeline

namespace Collation

-- ================================================================ writing

namespace Multimap

variable {m : Multimap} {registry : Registry} {path : Path} {folder : Folder} {octets : List UInt8}

end Multimap

namespace Cli

variable {registry : Registry} {settings : Settings} {folder : Folder} {source output : Path}
  {keyOrder valueOrder keyField valueField : String}
  {octets line : List UInt8} {lines before after : List (List UInt8)} {m n : Multimap}
  {number records : Nat} {e : Fault}

-- ================================================================= lines

/-- The line is the UTF-8 of a text that is read as a JSON object with both
fields, which have these two values. -/
def Spells (keyField valueField : String) (line : List UInt8) (entry : Value × Value) : Prop :=
  ∃ text es, Text.decodeUtf8 line = .ok text ∧ Json.ofText text = .ok (.dict es)
    ∧ Value.lookup (.text keyField) es = some entry.1
    ∧ Value.lookup (.text valueField) es = some entry.2

/-- A line gives an entry if and only if it spells one. -/
private theorem readRecord_eq_ok {entry : Value × Value} :
    readRecord keyField valueField line = .ok entry ↔ Spells keyField valueField line entry := by
  constructor
  · intro h
    obtain ⟨text, htext, h⟩ := bind_eq_ok.1 h
    obtain ⟨record, hrecord, h⟩ := bind_eq_ok.1 h
    obtain ⟨key, hkey, h⟩ := bind_eq_ok.1 h
    obtain ⟨value, hvalue, h⟩ := bind_eq_ok.1 h
    cases h
    obtain ⟨es, rfl, hkeyEntry⟩ := item_text_eq_ok.1 hkey
    obtain ⟨_, ⟨⟩, hvalueEntry⟩ := item_text_eq_ok.1 hvalue
    exact ⟨text, es, mapError_eq_ok.1 htext, hrecord, hkeyEntry, hvalueEntry⟩
  · rintro ⟨text, es, htext, hrecord, hkey, hvalue⟩
    exact bind_eq_ok.2 ⟨text, mapError_eq_ok.2 htext, bind_eq_ok.2 ⟨_, hrecord,
      bind_eq_ok.2 ⟨_, item_text_eq_ok.2 ⟨es, rfl, hkey⟩,
        bind_eq_ok.2 ⟨_, item_text_eq_ok.2 ⟨es, rfl, hvalue⟩, rfl⟩⟩⟩⟩

/-- What goes wrong with a line that is reached with a multimap. -/
inductive Fails (keyField valueField : String) (m : Multimap) (line : List UInt8) (e : Fault) :
    Prop where
  | unread : readRecord keyField valueField line = .error e → Fails keyField valueField m line e
  | unput {entry : Value × Value} : Spells keyField valueField line entry →
    (m.put entry.1 entry.2).result = .error e → Fails keyField valueField m line e

private theorem putLines_blank (hblank : isBlankLine line = true) :
    putLines keyField valueField m number (line :: lines)
      = putLines keyField valueField m (number + 1) lines := by
  rw [putLines, if_pos hblank]

/-- A line whose entry is accepted is counted, and so is the entry if it is
new. -/
private theorem putLines_put {entry : Value × Value} {isNew : Bool}
    (hblank : isBlankLine line = false)
    (hline : readRecord keyField valueField line = .ok entry)
    (hput : (m.put entry.1 entry.2).result = .ok isNew) :
    putLines keyField valueField m number (line :: lines)
      = (putLines keyField valueField (m.put entry.1 entry.2).state (number + 1) lines).map
        fun put => (put.1, put.2 + 1) := by
  -- the entry is not looked at again, only whether it was new
  rw [putLines, if_neg (Bool.eq_false_iff.1 hblank), hline]
  dsimp only
  rw [hput]

/-- Lines that spell records which can be put are put. -/
theorem putLines_of_spelled {pairs : List (Value × Value)} {isNew : Bool}
    (hpairs : List.Forall₂ (Spells keyField valueField)
      (lines.filter fun line => !isBlankLine line) pairs)
    (hput : (m.putEntries pairs).result = .ok isNew) :
    putLines keyField valueField m number lines
      = .ok ((m.putEntries pairs).state, pairs.length) := by
  -- along the lines; only one that is not blank uses up an entry
  induction lines generalizing m number pairs isNew with
  | nil =>
    cases hpairs
    rfl
  | cons line lines ih =>
    cases hblank : isBlankLine line with
    | true =>
      rw [putLines_blank hblank]
      rw [List.filter_cons_of_neg (by simp [hblank])] at hpairs
      exact ih hpairs hput
    | false =>
      rw [List.filter_cons_of_pos (by simp [hblank])] at hpairs
      cases hpairs with
      | @cons _ entry _ rest hline hrest =>
        obtain ⟨isFirst, hfirst, hput⟩ := Outcome.andThen_eq_ok hput
        obtain ⟨isRest, hput, -⟩ := map_eq_ok.1 hput
        rw [putLines_put hblank (readRecord_eq_ok.2 hline) hfirst, ih hrest hput,
          (Multimap.putEntries_cons rest hfirst).1]
        rfl

-- ================================================================== runs

/-- The multimap that lines come to by two orders, if these are known, all
lines but blank ones spell records, and their pairs can be put in line
order. -/
def Makes (registry : Registry) (settings : Settings)
    (keyOrder valueOrder keyField valueField : String) (lines : List (List UInt8))
    (m : Multimap) : Prop :=
  ∃ keys values pairs isNew,
    registry.resolve (.text (orderName keyOrder settings.defaultKeyComparator)) = .ok keys
      ∧ registry.resolve (.text (orderName valueOrder settings.defaultValueComparator)) = .ok values
      ∧ List.Forall₂ (Spells keyField valueField)
        (lines.filter fun line => !isBlankLine line) pairs
      ∧ ((Multimap.empty keys values).putEntries pairs).result = .ok isNew
      ∧ ((Multimap.empty keys values).putEntries pairs).state = m

/-- Lines that make a multimap are put, all that are not blank. -/
theorem Makes.put
    (h : Makes registry settings keyOrder valueOrder keyField valueField lines m) :
    ∃ start, emptyBy registry settings keyOrder valueOrder = .ok start
      ∧ putLines keyField valueField start 1 lines
        = .ok (m, (lines.filter fun line => !isBlankLine line).length) := by
  obtain ⟨keys, values, pairs, isNew, hkeys, hvalues, hpairs, hput, rfl⟩ := h
  refine ⟨.empty keys values, emptyBy_eq_ok.2 ⟨keys, values, hkeys, hvalues, rfl⟩, ?_⟩
  · rw [hpairs.length_eq]
    exact putLines_of_spelled hpairs hput

end Cli

end Collation
