/-
The three commands: grouping records from a file of JSON lines into an
encoded multimap, showing an encoded multimap as a table, and verifying
that one decodes cleanly. A command runs on a folder and gives the folder
it leaves, what it prints and its exit code; an error that it does not
answer for itself ends it.
-/
import Collation.Cli.Arguments
import Collation.Cli.Screen
import Collation.Comparator.Keys
import Collation.Settings
import Collation.Wire.Archive

namespace Collation.Cli

/-- What a command leaves. -/
structure Run where
  exit : Nat
  printed : List Printed
  folder : Folder
  /-- The error that ended it. -/
  uncaught : Option Fault

namespace Run

/-- A command that did its work. -/
def finished (folder : Folder) (printed : List Printed) : Run := ⟨0, printed, folder, none⟩

/-- A command that says why it did not. -/
def refused (folder : Folder) (lines : List String) : Run :=
  ⟨1, lines.map .line, folder, none⟩

/-- A command ended by an error. -/
def ended (folder : Folder) (e : Fault) : Run := ⟨1, [], folder, some e⟩

end Run

/-- Whether encoded data is at fault. -/
def isCorruption (e : Fault) : Bool := e.isA "CorruptDataError"

-- ============================================================ grouping

/-- The lines of a file, each with the line feed that ends it. -/
def linesOf : List UInt8 → List (List UInt8)
  | [] => []
  | b :: rest =>
    if b = 10 then [b] :: linesOf rest
    else
      match linesOf rest with
      | [] => [[b]]
      | line :: lines => (b :: line) :: lines

/-- Whether a line holds nothing but ASCII blanks. -/
def isBlankLine (line : List UInt8) : Bool := line.all fun b => b = 32 || (9 ≤ b && b ≤ 13)

/-- The two fields of the record on a line. -/
def readRecord (keyField valueField : String) (line : List UInt8) :
    Except Fault (Value × Value) := do
  let text ← (Text.decodeUtf8 line).mapError .undecodable
  let record ← Json.ofText text
  let key ← SortKey.item (.text keyField) record
  let value ← SortKey.item (.text valueField) record
  return (key, value)

/-- Whether an error is one of a line, rather than one that ends the
command. -/
def isLineFault (e : Fault) : Bool :=
  ["UnicodeDecodeError", "JSONDecodeError", "KeyError", "TypeError", "InvalidArgumentError"].any
    e.isA

/-- Puts the records of some lines, the first of them numbered `number`.
The result is the number of records, or the error and the line it is on. -/
def putLines (keyField valueField : String) (m : Multimap) (number : Nat) :
    List (List UInt8) → Except (Nat × Fault) (Multimap × Nat)
  | [] => .ok (m, 0)
  | line :: rest =>
    if isBlankLine line then putLines keyField valueField m (number + 1) rest
    else
      match readRecord keyField valueField line with
      | .error e => .error (number, e)
      | .ok (k, v) =>
        let after := m.put k v
        match after.result with
        | .error e => .error (number, e)
        | .ok _ =>
          (putLines keyField valueField after.state (number + 1) rest).map fun (m, records) =>
            (m, records + 1)

/-- An empty multimap by the orders that are named; an empty name stands
for the settings' own. -/
def emptyBy (registry : Registry) (settings : Settings) (keyOrder valueOrder : String) :
    Except Fault Multimap := do
  let named (name default : String) : Value := .text (if name.isEmpty then default else name)
  let keys ← registry.resolve (named keyOrder settings.defaultKeyComparator)
  let values ← registry.resolve (named valueOrder settings.defaultValueComparator)
  return .empty keys values

/-- The names of a registry in one line. -/
def nameLine (registry : Registry) : String :=
  let names := (registry.names.toOption.getD []).filterMap fun n => n.text?.map Text.lossy
  "Known: " ++ Value.commaSeparated names

/-- Goes on if there is a source, and says what is missing if not. -/
def withSource (folder : Folder) (source : Path) (missing : String) (go : Run) : Run :=
  match folder.holds source with
  | .error e => .ended folder e
  | .ok false => .refused folder [missing ++ ": " ++ shown source.toText]
  | .ok true => go

def runGroup (registry : Registry) (settings : Settings) (folder : Folder) (source : Path)
    (keyField valueField : String) (output : Path) (keyOrder valueOrder : String) : Run :=
  withSource folder source "Source not found" <|
    match emptyBy registry settings keyOrder valueOrder with
    | .error e =>
      if e.isMisuse then
        .refused folder ["Invalid ordering: " ++ shown e.message, nameLine registry]
      else .ended folder e
    | .ok start =>
      match folder.read source with
      | .error e => .ended folder e
      | .ok octets =>
        match putLines keyField valueField start 1 (linesOf octets) with
        | .error (number, e) =>
          if isLineFault e then
            .refused folder
              ["Line " ++ toString number ++ ": " ++ shown e.kind ++ ": " ++ shown e.message]
          else .ended folder e
        | .ok (m, records) =>
          let dumped := m.dump registry output folder
          match dumped.result with
          | .error e =>
            if e.isMisuse then .refused dumped.state ["Cannot encode: " ++ shown e.message]
            else .ended dumped.state e
          | .ok () =>
            .finished dumped.state
              [.panel "Grouped" <|
                ["Records read:  " ++ toString records,
                  "Keys:          " ++ toString m.map.size,
                  "Entries:       " ++ toString m.total]
                ++ ("Output:        " ++ shown output.toText).splitOn "\n"]

-- ============================================================= showing

/-- The rows of some keys, the first of them with the given index, up to a
limit. The key at the limit is still looked up. -/
def rowsOf (view : MapView) (limit : Int) (index : Nat) :
    List Value → Except Fault (List (List String))
  | [] => .ok []
  | k :: ks => do
    let slot ← view.get k
    if limit ≤ index then return []
    let values ← slot.items
    let row := [shown k.display, toString values.length,
      shown (Value.commaSeparated (values.map Value.display))]
    return row :: (← rowsOf view limit (index + 1) ks)

def runShow (registry : Registry) (settings : Settings) (folder : Folder) (source : Path)
    (limit : Int) : Run :=
  withSource folder source "File not found" <|
    match (Multimap.load registry settings.verifyPayloadHash source folder).result with
    | .error e =>
      if isCorruption e then .refused folder ["Corrupt multimap: " ++ shown e.message]
      else .ended folder e
    | .ok m =>
      if m.isEmpty then .finished folder [.line "Multimap is empty."]
      else
        match rowsOf m.asMap limit 0 m.keys with
        | .error e => .ended folder e
        | .ok rows =>
          let table := Printed.table (shown source.name) ["Key", "Count", "Values"] rows
          if limit < m.map.size then
            .finished folder
              [table, .line ("... and " ++ toString (m.map.size - limit) ++ " more keys")]
          else .finished folder [table]

-- =========================================================== verifying

/-- The document in a file and the multimap that it describes. -/
def readChecked (registry : Registry) (verify : Bool) (folder : Folder) (source : Path) :
    Except Fault (Wire.Document × Multimap) := do
  let octets ← folder.read source
  let document ← Wire.Document.parse verify (.bytes octets)
  let m ← (document.toMultimap registry).result
  return (document, m)

def runVerify (registry : Registry) (folder : Folder) (source : Path) (skipHash : Bool) : Run :=
  withSource folder source "File not found" <|
    match readChecked registry (!skipHash) folder source with
    | .error e =>
      if isCorruption e then .refused folder ["CORRUPT " ++ shown e.message]
      else .ended folder e
    | .ok (document, m) =>
      let summary := "OK " ++ toString m.map.size ++ " keys, " ++ toString m.total
        ++ " entries (" ++ shown document.keyComparator.lossy ++ " / "
        ++ shown document.valueComparator.lossy ++ ")"
      let collapsed := document.entryCount - m.total
      .finished folder <|
        if collapsed = 0 then [.line summary]
        else [.line summary, .line (toString collapsed ++ " duplicate values collapsed.")]

-- ============================================================= running

/-- Runs a command. -/
def Command.run (registry : Registry) (settings : Settings) (folder : Folder) : Command → Run
  | .group source keyField valueField output keyOrder valueOrder =>
    runGroup registry settings folder source keyField valueField output keyOrder valueOrder
  | .inspect source limit => runShow registry settings folder source limit
  | .verify source skipHash => runVerify registry folder source skipHash

/-- Runs a command line. Help is no failure; words that make no request
are. -/
def run (settings : Settings) (folder : Folder) (words : List String) : Run :=
  match Request.ofWords words with
  | .run command => command.run .withBuiltins settings folder
  | .help => ⟨0, [], folder, none⟩
  | .misuse => ⟨2, [], folder, none⟩

end Collation.Cli
