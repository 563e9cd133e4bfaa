/-
The program. The commands decide everything on a folder of their own; here
the settings and the one file that a command reads are fetched for them,
what they print is written out, and the files that they changed are
stored.
-/
import Collation.Cli.Commands

namespace Collation.Cli

/-- The variables that settings are taken from, in both plain cases. -/
def readEnvironment : IO (List (String × String)) := do
  let mut found := []
  for name in Settings.names do
    let lower := Settings.variablePrefix ++ name
    for spelling in [lower, lower.toUpper] do
      if let some text ← IO.getEnv spelling then found := found ++ [(spelling, text)]
  return found

/-- A folder that holds one file, if it can be read. -/
def readFolder (source : Path) : IO Folder := do
  try
    let octets ← IO.FS.readBinFile source.toText
    return .holding source octets.toList
  catch _ => return .empty

/-- The folder that a command line needs. -/
def readFolderFor (words : List String) : IO Folder :=
  match Request.ofWords words with
  | .run command => readFolder command.source
  | _ => return .empty

/-- A table has its columns apart by a bar and a rule under their heads. -/
def write : Printed → IO Unit
  | .line text => IO.println text
  | .panel title body => do
    IO.println ("== " ++ title ++ " ==")
    body.forM IO.println
  | .table title columns rows => do
    IO.println title
    IO.println (" | ".intercalate columns)
    IO.println "---"
    for row in rows do IO.println (" | ".intercalate row)

/-- Stores the files that differ from those that were there. -/
def store (before after : Folder) : IO Unit := do
  for (place, octets) in after.files do
    if before.files.lookup place ≠ some octets then
      let path : Path := ⟨place⟩
      IO.FS.createDirAll path.parent.toText
      IO.FS.writeBinFile path.toText ⟨octets.toArray⟩

def usage : String :=
  "usage: group SOURCE --key FIELD --value FIELD [--output PATH] [--key-order NAME] "
    ++ "[--value-order NAME]\n       show PATH [--limit COUNT]\n       verify PATH [--skip-hash]"

end Collation.Cli

open Collation Collation.Cli

def main (words : List String) : IO UInt32 := do
  match Settings.ofEnvironment (← readEnvironment) with
  | .error e =>
    IO.eprintln e.message
    return 1
  | .ok settings =>
    let folder ← readFolderFor words
    let run := Cli.run settings folder words
    run.printed.forM write
    if let some e := run.uncaught then IO.eprintln (e.kind ++ ": " ++ e.message)
    store folder run.folder
    match Request.ofWords words with
    | .run _ => pure ()
    | _ => IO.println usage
    return UInt32.ofNat run.exit
