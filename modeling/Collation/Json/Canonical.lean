/-
The canonical JSON text of a value: entries sorted by name, no blanks, and
ASCII alone, so that one value has one text and its digest means
something. A name that is a number, a truth value or null is written as
text after sorting; lists and tuples are written alike.
-/
import Collation.Value.Order

namespace Collation.Json

/-- Floats as they are shown elsewhere, but with words of their own. -/
def floatLayout : DecimalLayout := ⟨-3, 16, 2, "Infinity", "NaN"⟩

-- =============================================================== texts

/-- One 16-bit unit as an escape. -/
def unitEscape (n : Nat) : List Char := '\\' :: 'u' :: Text.hex 4 n

/-- One character between quotes. -/
def escaped (c : Char) : List Char :=
  if c = '"' ∨ c = '\\' then ['\\', c]
  else if c = '\n' then ['\\', 'n']
  else if c = '\r' then ['\\', 'r']
  else if c = '\t' then ['\\', 't']
  else if c = '\x0c' then ['\\', 'f']
  else if c = '\x08' then ['\\', 'b']
  else if ' ' ≤ c ∧ c ≤ '~' then [c]
  else if c.toNat < 0x10000 then unitEscape c.toNat
  else
    unitEscape (0xD800 + (c.toNat - 0x10000) / 1024)
      ++ unitEscape (0xDC00 + (c.toNat - 0x10000) % 1024)

/-- One code point between quotes. Half of a surrogate pair is written by its
own unit, so that two halves side by side are written like the character
of the pair. -/
def escapedPoint : CodePoint → List Char
  | .char c => escaped c
  | half => unitEscape half.code

def writtenText (s : Text) : List Char := '"' :: s.points.flatMap escapedPoint ++ ['"']

-- ============================================================== values

/-- Parts with a comma between them. -/
def joined : List (List Char) → List Char
  | [] => []
  | [part] => part
  | part :: rest => part ++ ',' :: joined rest

/-- An integer in decimal; one of too many digits is refused. -/
def integerText (n : Int) : Except Fault String :=
  if mostDigits < (Nat.toDigits 10 n.natAbs).length then .error .integerTooLong
  else .ok (toString n)

/-- The text of an entry's name. -/
def nameText : Value → Except Fault Text
  | .text s | .label s => .ok s
  | .float x => .ok (x.spell floatLayout)
  | .bool b => .ok (if b then "true" else "false" : String)
  | .null => .ok "null"
  | .int n => (integerText n).map Text.ofString
  | v => .error (.badEntryName v.typeName)

/-- The text of an entry, of whose value the text is given. -/
def writtenEntry (entry : Value × Except Fault (List Char)) : Except Fault (List Char) := do
  let name ← nameText entry.1
  return writtenText name ++ ':' :: (← entry.2)

/-- The text of an object: its entries sorted by name as the names stand,
and only then written. -/
def writtenObject (entries : List (Value × Except Fault (List Char))) :
    Except Fault (List Char) := do
  let sorted ← Value.sortBy Prod.fst entries
  return '\x7b' :: joined (← sorted.mapM writtenEntry) ++ ['\x7d']

mutual

/-- The canonical text of a value. -/
def written : Value → Except Fault (List Char)
  | .null => .ok "null".toList
  | .bool b => .ok (if b then "true" else "false").toList
  | .int n => (integerText n).map String.toList
  | .float x => .ok (x.spell floatLayout).toList
  | .text s | .label s => .ok (writtenText s)
  | .list xs | .tuple xs => do return '[' :: joined (← writtenItems xs) ++ [']']
  | .dict es => writtenObject (writtenValues es)
  | .bytes _ => .error (.notSerializable "bytes")
  | .set _ => .error (.notSerializable "set")
  | .iterator type _ => .error (.notSerializable type)
  | .object o _ => .error (.notSerializable o.type)
termination_by structural v => v

def writtenItems : List Value → Except Fault (List (List Char))
  | [] => .ok []
  | x :: xs => do
    let first ← written x
    return first :: (← writtenItems xs)
termination_by structural xs => xs

/-- Each name with the text of what stands under it. -/
def writtenValues : List (Value × Value) → List (Value × Except Fault (List Char))
  | [] => []
  | e :: es => writtenValue e :: writtenValues es
termination_by structural es => es

def writtenValue : Value × Value → Value × Except Fault (List Char)
  | (k, v) => (k, written v)
termination_by structural e => e

end

/-- The canonical text. -/
def canonical (v : Value) : Except Fault String := (written v).map String.ofList

end Collation.Json
