/-
A folder of files, as far as reading and writing single files shows it,
and the paths by which they are named. A path is its parts; empty parts
and single dots name nothing and are dropped, so that every spelling of a
path shows alike. A part of two dots goes up, also above the folder
itself, but not above the root.
-/
import Collation.Outcome

namespace Collation

/-- The parts of a path, the root first where there is one. -/
structure Path where
  parts : List String
  deriving DecidableEq

namespace Path

def root : String := "/"

/-- How a path may spell the root: with one slash, or with exactly two. -/
def roots : List String := [root, root ++ root]

/-- The root with which a text starts. -/
def rootOf? (text : String) : Option String :=
  let slashes := text.toList.takeWhile (· = '/')
  if slashes.isEmpty then none
  else some (if slashes.length = 2 then root ++ root else root)

def ofText (text : String) : Path :=
  ⟨(rootOf? text).toList ++ (text.splitOn root).filter fun part => part ≠ "" && part ≠ "."⟩

def toText (p : Path) : String :=
  match p.parts with
  | [] => "."
  | part :: rest =>
    if roots.contains part then part ++ root.intercalate rest
    else root.intercalate (part :: rest)

/-- A path given as a value, which must be a text. A half of a surrogate
pair has no place in a file name. -/
def ofValue : Value → Except Fault Path
  | .text s | .label s =>
    match s.points.findIdx? CodePoint.isHalf with
    | some start => .error (.unencodable (s.points.drop start) start)
    | none => .ok (ofText s.lossy)
  | .bytes _ => .error .octetsAsPath
  | v => .error (.notAPath v.typeName)

/-- The last part. -/
def name (p : Path) : String :=
  match p.parts.getLast? with
  | some part => if roots.contains part then "" else part
  | none => ""

def parent (p : Path) : Path :=
  match p.parts with
  | [part] => if roots.contains part then p else ⟨[]⟩
  | parts => ⟨parts.dropLast⟩

end Path

/-- Files and directories by their place, the parts of a path from here. A
directory may also be there only because it holds a file. -/
structure Folder where
  files : List (List String × List UInt8)
  directories : List (List String)

namespace Folder

def empty : Folder := ⟨[], []⟩

def isFile (f : Folder) (place : List String) : Bool := (f.files.lookup place).isSome

/-- Whether a place is one of those that are always there: the folder
itself, what is above it, and the root. -/
def isBase (place : List String) : Bool := place = [Path.root] || place.all (· = "..")

def isDirectory (f : Folder) (place : List String) : Bool :=
  isBase place || f.directories.contains place
    || f.files.any fun e => place.isPrefixOf e.1 && place ≠ e.1

/-- Whether something is at a place. -/
def isTaken (f : Folder) (place : List String) : Bool := f.isFile place || f.isDirectory place

/-- The place that one part of a path leads to from another. -/
def next (here : List String) (part : String) : List String :=
  if Path.roots.contains part then [Path.root]
  else if part = ".." then
    if here = [Path.root] then here
    else if isBase here then here ++ [part]
    else here.dropLast
  else here ++ [part]

/-- How many octets a part of a path may have, and a whole path. -/
def longestPart : Nat := 255

def longestPath : Nat := 4095

/-- The place that parts lead to from another; all but the last of them
must lead to a directory. -/
def walk (f : Folder) (here : List String) : List String → Except FileCause (List String)
  | [] => .ok here
  | part :: rest =>
    if f.isFile here then .error .notADirectory
    else if !f.isDirectory here then .error .missing
    else if longestPart < part.utf8ByteSize then .error .nameTooLong
    else walk f (next here part) rest

/-- A folder with one file, to which a path leads. -/
def holding (p : Path) (octets : List UInt8) : Folder :=
  let passed := p.parts.foldl
    (fun places part => next (places.headD []) part :: places) ([] : List (List String))
  ⟨[(passed.headD [], octets)], passed.tail⟩

/-- The place that a path leads to, whether anything is there or not. -/
def locate (f : Folder) (p : Path) : Except FileCause (List String) :=
  if p.toText.toList.contains '\x00' then .error .nullInName
  else if longestPath < p.toText.utf8ByteSize then .error .nameTooLong
  else f.walk [] p.parts

-- ============================================================= reading

/-- Whether a path leads to a file or a directory. A name that is too long
to ask about is an error. -/
def holds (f : Folder) (p : Path) : Except Fault Bool :=
  match f.locate p with
  | .ok place => .ok (f.isTaken place)
  | .error .nameTooLong => .error (.file .nameTooLong p.toText)
  | .error _ => .ok false

/-- Whether a path leads to a directory. -/
def leadsToDirectory (f : Folder) (p : Path) : Bool :=
  match f.locate p with
  | .ok place => f.isDirectory place
  | .error _ => false

/-- The content of a file. -/
def read (f : Folder) (p : Path) : Except Fault (List UInt8) :=
  match f.locate p with
  | .error cause => .error (.file cause p.toText)
  | .ok place =>
    match f.files.lookup place with
    | some octets => .ok octets
    | none => .error (.file (if f.isDirectory place then .isADirectory else .missing) p.toText)

-- ============================================================= writing

/-- Puts a file in its place. -/
def setFile (place : List String) (octets : List UInt8) :
    List (List String × List UInt8) → List (List String × List UInt8)
  | [] => [(place, octets)]
  | e :: rest => if e.1 = place then (place, octets) :: rest else e :: setFile place octets rest

/-- Writes a file into a directory that is there. -/
def write (f : Folder) (p : Path) (octets : List UInt8) : Except Fault Folder :=
  match f.locate p with
  | .error cause => .error (.file cause p.toText)
  | .ok place =>
    if f.isDirectory place then .error (.file .isADirectory p.toText)
    else .ok { f with files := setFile place octets f.files }

/-- Makes a directory in one that is there. -/
def makeDirectory (f : Folder) (p : Path) : Except FileCause Folder := do
  let place ← f.locate p
  if f.isTaken place then throw .alreadyExists
  return { f with directories := place :: f.directories }

/-- Makes a directory, unless a path leads to one. -/
def ensureDirectory (f : Folder) (p : Path) : Outcome Folder Unit :=
  match f.makeDirectory p with
  | .ok made => .done made ()
  | .error cause =>
    if cause = .alreadyExists && f.leadsToDirectory p then .done f ()
    else .failed f (.file cause p.toText)

/-- Makes sure that a path leads to a directory, making those above it
first where they are missing. What was made stays, also if the rest
cannot be. `fuel` bounds how many there are. -/
def ensureDirectories (f : Folder) (p : Path) : (fuel : Nat) → Outcome Folder Unit
  | 0 => f.ensureDirectory p
  | fuel + 1 =>
    match f.makeDirectory p with
    | .error .missing =>
      (f.ensureDirectories p.parent fuel).andThen fun made _ => made.ensureDirectory p
    | _ => f.ensureDirectory p

/-- Makes sure that the directory of a file is there. -/
def makeParents (f : Folder) (p : Path) : Outcome Folder Unit :=
  f.ensureDirectories p.parent p.parts.length

end Folder

end Collation
