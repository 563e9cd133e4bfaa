/-
JSON text read as a value. Beyond the standard, `NaN` and the infinities
are numbers, and of entries with one name the last one counts. A number
without a fraction or an exponent is an integer of any size up to a limit
of digits; any other number is the nearest binary64.

The reader works on what is left of the text. An error carries the rest
of the text at its place, from which line, column and offset follow; so
no position is kept while reading.
-/
import Collation.Number.Reading
import Collation.Text.Encoding
import Collation.Value.Lookup

namespace Collation.Json

/-- Why a text cannot be read. -/
inductive Refusal where
  /-- What is lacking, and the text from that place on. -/
  | malformed (cause : SyntaxCause) (rest : List CodePoint)
  | tooManyDigits (digits : Nat)

/-- The greatest number of digits of an integer. -/
def digitLimit : Nat := 4300

def isBlank (p : CodePoint) : Bool := (codePoints [' ', '\t', '\n', '\r']).contains p

def skipBlanks (ps : List CodePoint) : List CodePoint := ps.dropWhile isBlank

-- =============================================================== texts

def hexValue? (c : Char) : Option Nat :=
  if '0' ≤ c ∧ c ≤ '9' then some (c.toNat - '0'.toNat)
  else if 'a' ≤ c ∧ c ≤ 'f' then some (c.toNat - 'a'.toNat + 10)
  else if 'A' ≤ c ∧ c ≤ 'F' then some (c.toNat - 'A'.toNat + 10)
  else none

/-- Four hexadecimal digits that do not end the text. -/
def hexUnit? : List CodePoint → Option (Nat × List CodePoint)
  | .char a :: .char b :: .char c :: .char d :: rest => do
    if rest.isEmpty then failure
    return ((((← hexValue? a) * 16 + (← hexValue? b)) * 16 + (← hexValue? c)) * 16
      + (← hexValue? d), rest)
  | _ => none

/-- The character meant by one after a backslash. -/
def escapeOf? : CodePoint → Option Char
  | .char '"' => some '"'
  | .char '\\' => some '\\'
  | .char '/' => some '/'
  | .char 'b' => some '\x08'
  | .char 'f' => some '\x0c'
  | .char 'n' => some '\n'
  | .char 'r' => some '\r'
  | .char 't' => some '\t'
  | _ => none

/-- A code point by its code units, given from the first `u` on. The two
halves of a surrogate pair make one character; a half alone stays one. -/
def readUnits (ps : List CodePoint) : Except Refusal (CodePoint × List CodePoint) :=
  match hexUnit? ps.tail with
  | none => .error (.malformed .hexEscape ps)
  | some (unit, rest) =>
    match CodePoint.ofCode unit, rest with
    | .high h, .char '\\' :: .char 'u' :: digits =>
      match hexUnit? digits with
      | none => .error (.malformed .hexEscape (.char 'u' :: digits))
      | some (next, rest') =>
        match CodePoint.ofCode next with
        | .low l => .ok (.char (CodePoint.paired h l), rest')
        | _ => .ok (.high h, rest)
    | p, _ => .ok (p, rest)

/-- What an escape means, given from the backslash on. -/
def readEscape (opening rest : List CodePoint) : Except Refusal (CodePoint × List CodePoint) :=
  match rest with
  | [] => .error (.malformed .closingQuote opening)
  | .char 'u' :: _ => readUnits rest
  | e :: after =>
    match escapeOf? e with
    | some meant => .ok (.char meant, after)
    | none => .error (.malformed .escape (.char '\\' :: rest))

/-- The code point that `p` starts, which is no quote. -/
def readPoint (opening : List CodePoint) (p : CodePoint) (rest : List CodePoint) :
    Except Refusal (CodePoint × List CodePoint) :=
  if p = .char '\\' then readEscape opening rest
  else if p.code < 0x20 then .error (.malformed .controlCharacter (p :: rest))
  else .ok (p, rest)

/-- The code points up to the closing quote. `opening` is the text from the
opening quote on; `fuel` bounds the number of code points. -/
def readText (opening : List CodePoint) :
    (fuel : Nat) → List CodePoint → Except Refusal (List CodePoint × List CodePoint)
  | 0, _ => .error (.malformed .closingQuote opening)
  | _, [] => .error (.malformed .closingQuote opening)
  | fuel + 1, p :: rest =>
    if p = .char '"' then .ok ([], rest)
    else do
      let (read, rest) ← readPoint opening p rest
      let (more, rest) ← readText opening fuel rest
      return (read :: more, rest)

-- ============================================================= numbers

/-- The digits of an integer part: one zero, or digits that start with
another one. -/
def integerPart? (ps : List CodePoint) : Option (List Char × List CodePoint) :=
  match ps with
  | .char c :: rest =>
    if c = '0' then some (['0'], rest)
    else if c.isDigit then some (Binary64.spanDigits ps)
    else none
  | _ => none

/-- The digits of a fraction, none where a point is followed by none. -/
def fractionPart (ps : List CodePoint) : List Char × List CodePoint :=
  match ps with
  | .char '.' :: rest =>
    match Binary64.spanDigits rest with
    | ([], _) => ([], ps)
    | found => found
  | _ => ([], ps)

/-- Whether a number has a sign, and what follows it. -/
def splitSign : List CodePoint → Bool × List CodePoint
  | .char '-' :: rest => (true, rest)
  | ps => (false, ps)

/-- A number with its sign. -/
def readNumber (ps : List CodePoint) : Except Refusal (Value × List CodePoint) :=
  let (negative, unsigned) := splitSign ps
  match integerPart? unsigned with
  | none => .error (.malformed .value ps)
  | some (whole, afterWhole) =>
    let (part, afterPart) := fractionPart afterWhole
    let digits := natOfDigits (whole ++ part)
    match Binary64.exponentPart? afterPart with
    | some (e, rest) =>
      .ok (.float (Binary64.ofDecimal negative digits (e - part.length)), rest)
    | none =>
      if part.isEmpty then
        if digitLimit < whole.length then .error (.tooManyDigits whole.length)
        else .ok (.int (if negative then -(digits : Int) else digits), afterPart)
      else .ok (.float (Binary64.ofDecimal negative digits (-part.length)), afterPart)

-- ============================================================== values

/-- The words that stand for a value. Every `NaN` is one and the same. -/
def words : List (List Char × Value) :=
  [("null".toList, .null), ("true".toList, .bool true), ("false".toList, .bool false),
    ("NaN".toList, .float (.nan 0)), ("Infinity".toList, .float (.infinity false)),
    ("-Infinity".toList, .float (.infinity true))]

/-- A word or a number. -/
def readScalar (ps : List CodePoint) : Except Refusal (Value × List CodePoint) :=
  match words.find? fun w => (codePoints w.1).isPrefixOf ps with
  | some (word, v) => .ok (v, ps.drop word.length)
  | none => readNumber ps

/-- The name of an entry and the colon after it. -/
def readName : List CodePoint → Except Refusal (Value × List CodePoint)
  | .char '"' :: rest => do
    let (name, rest) ← readText (.char '"' :: rest) (rest.length + 1) rest
    match skipBlanks rest with
    | .char ':' :: rest => return (.text ⟨name⟩, skipBlanks rest)
    | ps => throw (.malformed .colon ps)
  | ps => .error (.malformed .entryName ps)

mutual

/-- One value. `fuel` bounds the length of the text and its nesting. -/
def readValue : (fuel : Nat) → List CodePoint → Except Refusal (Value × List CodePoint)
  | 0, ps => .error (.malformed .value ps)
  | fuel + 1, ps =>
    match ps with
    | .char '"' :: rest => do
      let (text, rest) ← readText ps (rest.length + 1) rest
      return (.text ⟨text⟩, rest)
    | .char '[' :: rest =>
      match skipBlanks rest with
      | .char ']' :: rest => .ok (.list [], rest)
      | ps => do
        let (items, rest) ← readItems fuel ps
        return (.list items, rest)
    | .char '\x7b' :: rest =>
      match skipBlanks rest with
      | .char '\x7d' :: rest => .ok (.dict [], rest)
      | ps => do
        let (entries, rest) ← readEntries fuel ps
        return (.dict (Value.dictOf entries), rest)
    | ps => readScalar ps

/-- The items of a list up to its end. -/
def readItems : (fuel : Nat) → List CodePoint → Except Refusal (List Value × List CodePoint)
  | 0, ps => .error (.malformed .value ps)
  | fuel + 1, ps => do
    let (item, rest) ← readValue fuel ps
    match skipBlanks rest with
    | .char ']' :: rest => return ([item], rest)
    | .char ',' :: rest =>
      let (items, rest) ← readItems fuel (skipBlanks rest)
      return (item :: items, rest)
    | ps => throw (.malformed .comma ps)

/-- The entries of an object up to its end. -/
def readEntries :
    (fuel : Nat) → List CodePoint → Except Refusal (List (Value × Value) × List CodePoint)
  | 0, ps => .error (.malformed .entryName ps)
  | fuel + 1, ps => do
    let (name, rest) ← readName ps
    let (v, rest) ← readValue fuel rest
    match skipBlanks rest with
    | .char '\x7d' :: rest => return ([(name, v)], rest)
    | .char ',' :: rest =>
      let (entries, rest) ← readEntries fuel (skipBlanks rest)
      return ((name, v) :: entries, rest)
    | ps => throw (.malformed .comma ps)

end

-- ========================================================= whole texts

/-- Where a rest of a text starts, by line, column and offset. -/
def place (text rest : List CodePoint) (cause : SyntaxCause) : SyntaxFault :=
  let before := text.take (text.length - rest.length)
  let lastLine := (before.reverse.takeWhile (· ≠ .char '\n')).length
  ⟨cause, before.count (.char '\n') + 1, lastLine + 1, before.length⟩

/-- A whole text: one value with blanks around it. -/
def readAll (text : List CodePoint) : Except Refusal Value := do
  let (v, rest) ← readValue (2 * text.length + 2) (skipBlanks text)
  match skipBlanks rest with
  | [] => return v
  | rest => throw (.malformed .extraData rest)

/-- The value that some code points spell. -/
def ofPoints (text : List CodePoint) : Except Fault Value :=
  match readAll text with
  | .ok v => .ok v
  | .error (.malformed cause rest) => .error (.syntaxError (place text rest cause))
  | .error (.tooManyDigits n) => .error (.tooManyDigits n)

/-- The value that a text spells. A text has no byte order mark. -/
def ofText (text : Text) : Except Fault Value :=
  let ps := text.points
  if ps.head? = some (.char '\uFEFF') then .error (.syntaxError (place ps ps .byteOrderMark))
  else ofPoints ps

/-- The value that octets spell, in the encoding that they show. -/
def ofOctets (octets : List UInt8) : Except Fault Value :=
  match Text.decodeDetected octets with
  | .error e => .error (.undecodable e)
  | .ok text => ofPoints text.points

end Collation.Json
