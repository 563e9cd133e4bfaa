/-
The words of a command line read as a request. Options may stand anywhere
among the words of a command and have long names, to which a value may be
joined by an equals sign, or short ones, to which it may be joined
directly; two dashes alone end the options. The last value of an option
counts. Before the command's name only the program's own options may
stand.
-/
import Collation.Files
import Collation.Number.Integer

namespace Collation.Cli

/-- An option by its names. -/
structure OptionName where
  long : String
  short : Option Char := none
  takesValue : Bool := true

/-- Options with their values, and the other words. -/
structure Words where
  options : List (String × String)
  others : List String

-- ============================================================= options

/-- What one word says: options that are complete, then possibly one whose
value is the next word. -/
structure Reading where
  complete : List (String × String)
  awaiting : Option String

/-- An option whose value, if it takes one, may be joined to it. None if
it is given a value that it does not take. -/
def withValue (o : OptionName) (joined : Option String) : Option Reading :=
  match o.takesValue, joined with
  | true, some value => some ⟨[(o.long, value)], none⟩
  | true, none => some ⟨[], some o.long⟩
  | false, none => some ⟨[(o.long, "")], none⟩
  | false, some _ => none

/-- A run of short names; what follows one that takes a value is its
value. -/
def readShort (known : List OptionName) : List Char → Option Reading
  | [] => some ⟨[], none⟩
  | c :: rest =>
    match known.find? fun o => o.short = some c with
    | none => none
    | some o =>
      if o.takesValue then
        withValue o (if rest.isEmpty then none else some (String.ofList rest))
      else (readShort known rest).map fun r => { r with complete := (o.long, "") :: r.complete }

/-- A word that starts with a dash. -/
def readOption (known : List OptionName) (word : String) : Option Reading :=
  let cs := word.toList
  let name := String.ofList (cs.takeWhile (· ≠ '='))
  let joined := (cs.dropWhile (· ≠ '=')).tail?.map String.ofList
  match known.find? fun o => o.long = name with
  | some o => withValue o joined
  | none => if cs.take 2 = ['-', '-'] then none else readShort known (cs.drop 1)

/-- Reads words. Where options and other words do not mix, the first other
word ends the options. None if an option is unknown or misused. -/
def readWords (known : List OptionName) (mixed : Bool) : List String → Option Words
  | [] => some ⟨[], []⟩
  | word :: rest =>
    if word = "--" then some ⟨[], rest⟩
    else if word.startsWith "-" && 1 < word.length then
      match readOption known word with
      | none => none
      | some ⟨complete, none⟩ =>
        (readWords known mixed rest).map fun w => { w with options := complete ++ w.options }
      | some ⟨complete, some name⟩ =>
        match rest with
        | [] => none
        | value :: rest =>
          (readWords known mixed rest).map fun w =>
            { w with options := complete ++ (name, value) :: w.options }
    else if mixed then
      (readWords known mixed rest).map fun w => { w with others := word :: w.others }
    else some ⟨[], word :: rest⟩

/-- The value of an option, the last one where there are several. -/
def Words.value? (w : Words) (name : String) : Option String := w.options.reverse.lookup name

def Words.has (w : Words) (name : String) : Bool := (w.value? name).isSome

-- ============================================================ requests

/-- What a command is to do. -/
inductive Command where
  | group (source : Path) (keyField valueField : String) (output : Path)
      (keyOrder valueOrder : String)
  | inspect (source : Path) (limit : Int)
  | verify (source : Path) (skipHash : Bool)

/-- The file that a command reads. -/
def Command.source : Command → Path
  | .group source .. => source
  | .inspect source _ => source
  | .verify source _ => source

inductive Request where
  | run (command : Command)
  | help
  /-- Words that make no request. -/
  | misuse

def helpOption : OptionName := { long := "--help", takesValue := false }

def programOptions : List OptionName :=
  [{ long := "--verbose", takesValue := false }, helpOption]

def groupOptions : List OptionName :=
  [{ long := "--key", short := some 'k' }, { long := "--value", short := some 'v' },
    { long := "--output", short := some 'o' }, { long := "--key-order" },
    { long := "--value-order" }, helpOption]

def inspectOptions : List OptionName :=
  [{ long := "--limit", short := some 'n' }, helpOption]

def verifyOptions : List OptionName :=
  [{ long := "--skip-hash", takesValue := false }, helpOption]

/-- The path that a word names. No path holds the null character. -/
def readPath? (word : String) : Option Path :=
  if word.contains '\x00' then none else some (.ofText word)

/-- A command from its words, if they say all that it needs. -/
def requestOf (known : List OptionName) (command? : Words → Path → Option Command)
    (words : List String) : Request :=
  match readWords known true words with
  | none => .misuse
  | some w =>
    if w.has helpOption.long then .help
    else
      match w.others with
      | [source] =>
        match readPath? source >>= command? w with
        | some command => .run command
        | none => .misuse
      | _ => .misuse

def groupOf (w : Words) (source : Path) : Option Command := do
  let key ← w.value? "--key"
  let value ← w.value? "--value"
  let output ← readPath? ((w.value? "--output").getD "multimap.json")
  return .group source key value output ((w.value? "--key-order").getD "")
    ((w.value? "--value-order").getD "")

def inspectOf (w : Words) (source : Path) : Option Command := do
  let limit ← match w.value? "--limit" with
    | some text => readInteger? text
    | none => some 50
  return .inspect source limit

def verifyOf (w : Words) (source : Path) : Option Command :=
  some (.verify source (w.has "--skip-hash"))

/-- The request that a command line makes. -/
def Request.ofWords (words : List String) : Request :=
  match readWords programOptions false words with
  | none => .misuse
  | some w =>
    if w.has helpOption.long then .help
    else
      match w.others with
      | [] => .misuse
      | name :: rest =>
        if name = "group" then requestOf groupOptions groupOf rest
        else if name = "show" then requestOf inspectOptions inspectOf rest
        else if name = "verify" then requestOf verifyOptions verifyOf rest
        else .misuse

end Collation.Cli
