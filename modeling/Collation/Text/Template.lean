/-
Templates: texts, or octets, in which a percent sign opens a place for a
number. What stands between the sign and the letter that closes the place
says how the number is laid out there. Two percent signs stand for one. A
template is filled with a single integer, which one place takes, or one
width or precision that is left open by an asterisk; a template that takes
it not at all, or more than once, cannot be filled.
-/
import Collation.Number.Binary64
import Collation.Text.Basic

namespace Collation.Text

/-- What the places of a template may show. -/
inductive Script where
  | characters
  | octets
  deriving DecidableEq

/-- Why a template cannot be filled. -/
inductive TemplateCause where
  | incomplete
  | unknownLetter (script : Script) (letter : CodePoint) (index : Nat)
  | widthTooBig
  | precisionTooBig (script : Script)
  /-- A width or precision that is no machine word of the given name. -/
  | numberTooBig (word : String)
  | named
  | taken
  | unused (script : Script)
  | notOctets
  | noCharacter (script : Script)
  | noFloat (script : Script)
  deriving DecidableEq

/-- How a number is laid out. -/
structure Place where
  toTheLeft : Bool
  signed : Bool
  blank : Bool
  marked : Bool
  zeros : Bool
  width : Nat
  precision : Option Nat
  letter : CodePoint

-- ============================================================= numbers

def decimalDigits (n : Nat) : List Char := Nat.toDigits 10 n

/-- Digits with zeros before them, up to a least number. -/
def withZeros (least : Nat) (digits : List Char) : List Char :=
  List.replicate (least - digits.length) '0' ++ digits

/-- The digits of a number in powers of ten: as many as asked for, the
first of them not zero, rounded to nearest with ties to even, and the
exponent of the first. -/
def leadingDigits (count n : Nat) : List Char × Nat :=
  let exponent := (decimalDigits n).length - 1
  if n = 0 then (List.replicate count '0', 0)
  else if exponent < count then
    (decimalDigits (n * Nat.pow 10 (count - 1 - exponent)), exponent)
  else
    let rounded := Binary64.divideNearest n (Nat.pow 10 (exponent + 1 - count))
    if rounded = Nat.pow 10 count then (decimalDigits (rounded / 10), exponent + 1)
    else (decimalDigits rounded, exponent)

/-- Digits with a point after the first `whole` of them; a point that
nothing follows is left out unless it is `kept`. -/
def pointed (kept : Bool) (whole : Nat) (digits : List Char) : List Char :=
  let rest := digits.drop whole
  digits.take whole ++ (if rest.isEmpty && !kept then [] else '.' :: rest)

/-- Digits with an exponent. -/
def withExponent (kept : Bool) (digits : List Char) (exponent : Nat) : List Char :=
  pointed kept 1 digits ++ 'e' :: '+' :: withZeros 2 (decimalDigits exponent)

/-- Digits without the zeros at their end, but at least `least` of them. -/
def withoutZeros (least : Nat) (digits : List Char) : List Char :=
  let short := (digits.reverse.dropWhile (· = '0')).reverse
  short ++ List.replicate (least - short.length) '0'

/-- A whole number shown as a float: positional (`f`), with an exponent
(`e`), or in the shorter way without zeros at its end (`g`). -/
def floatDigits (letter : Char) (kept : Bool) (precision n : Nat) : List Char :=
  if letter = 'f' then
    pointed kept (decimalDigits n).length (decimalDigits n ++ List.replicate precision '0')
  else if letter = 'e' then
    let (digits, exponent) := leadingDigits (precision + 1) n
    withExponent kept digits exponent
  else
    let count := max precision 1
    let (digits, exponent) := leadingDigits count n
    if exponent < count then
      pointed kept (exponent + 1) (if kept then digits else withoutZeros (exponent + 1) digits)
    else withExponent kept (if kept then digits else withoutZeros 1 digits) exponent

-- ============================================================== places

/-- Blanks around a text, up to a width. -/
def padded {α : Type} (blank : α) (p : Place) (text : List α) : List α :=
  let blanks := List.replicate (p.width - text.length) blank
  if p.toTheLeft then text ++ blanks else blanks ++ text

/-- A number with its sign and its mark, up to a width: zeros, where they
are asked for, stand between these and the digits. -/
def laidOut (p : Place) (negative : Bool) (mark digits : List Char) : List Char :=
  let sign := if negative then ['-'] else if p.signed then ['+'] else if p.blank then [' '] else []
  let head := sign ++ mark
  if p.zeros && !p.toTheLeft then head ++ withZeros (p.width - head.length) digits
  else padded ' ' p (head ++ digits)

/-- A whole number in a base, with as many digits as its precision asks. -/
def wholeDigits (p : Place) (base n : Nat) : List Char :=
  withZeros (p.precision.getD 0) (Nat.toDigits base n)

def upper (cs : List Char) : List Char := cs.map Char.toUpper

/-- A number in a place, the place being closed at an index. -/
def shownIn (script : Script) (p : Place) (index : Nat) (n : Int) :
    Except TemplateCause (List CodePoint) :=
  let negative : Bool := n < 0
  let text := (if negative then ['-'] else []) ++ decimalDigits n.natAbs
  let based (base : Nat) (mark : List Char) : List Char :=
    laidOut p negative (if p.marked then mark else []) (wholeDigits p base n.natAbs)
  let float (letter : Char) : Except TemplateCause (List Char) :=
    let x := Binary64.ofInt n
    if x.isInfinite then .error (.noFloat script)
    else
      .ok (laidOut p negative []
        (floatDigits letter p.marked (p.precision.getD 6) (x.absUnits / Binary64.unitsPerOne)))
  let cut := padded ' ' p (text.take (p.precision.getD text.length))
  match p.letter with
  | .char 'd' | .char 'i' | .char 'u' =>
    .ok (codePoints (laidOut p negative [] (wholeDigits p 10 n.natAbs)))
  | .char 'o' => .ok (codePoints (based 8 ['0', 'o']))
  | .char 'x' => .ok (codePoints (based 16 ['0', 'x']))
  | .char 'X' => .ok (codePoints (upper (based 16 ['0', 'x'])))
  | .char 'e' | .char 'f' | .char 'g' => (float p.letter.toChar).map codePoints
  | .char 'E' | .char 'F' | .char 'G' =>
    (float p.letter.toChar.toLower).map fun cs => codePoints (upper cs)
  | .char 'r' | .char 'a' => .ok (codePoints cut)
  | .char 's' | .char 'b' =>
    match script, p.letter with
    | .octets, _ => .error .notOctets
    | .characters, .char 's' => .ok (codePoints cut)
    | .characters, letter => .error (.unknownLetter script letter index)
  | .char 'c' =>
    let limit : Int := match script with
      | .characters => 0x110000
      | .octets => 256
    if 0 ≤ n ∧ n < limit then .ok (padded (.char ' ') p [.ofCode n.toNat])
    else .error (.noCharacter script)
  | letter => .error (.unknownLetter script letter index)

-- ============================================================= reading

/-- What is left of a template, and the number unless it is taken. -/
structure Rest where
  template : List CodePoint
  number : Option Int

/-- The number, for the first that asks. -/
def Rest.take (r : Rest) : Except TemplateCause (Int × Rest) :=
  match r.number with
  | some n => .ok (n, { r with number := none })
  | none => .error .taken

def isDigit : CodePoint → Bool
  | .char c => c.isDigit
  | _ => false

def natOf (digits : List CodePoint) : Nat :=
  digits.foldl (fun n p => 10 * n + (p.code - '0'.toNat)) 0

/-- A width or precision: digits, or an asterisk for the number, which
must be a word of the given number of bits. -/
def readSize (tooBig : TemplateCause) (bits : Nat) (word : String) (r : Rest) :
    Except TemplateCause (Option Int × Rest) :=
  match r.template with
  | .char '*' :: rest => do
    let (n, r) ← r.take
    let bound : Int := Nat.pow 2 (bits - 1)
    if n < -bound ∨ bound ≤ n then throw (.numberTooBig word)
    return (some n, { r with template := rest })
  | ps =>
    let digits := ps.takeWhile isDigit
    if digits.isEmpty then .ok (none, r)
    else if Nat.pow 2 (bits - 1) ≤ natOf digits then .error tooBig
    else .ok (some (natOf digits), { r with template := ps.dropWhile isDigit })

/-- The precision, after a point. -/
def readPrecision (script : Script) (r : Rest) : Except TemplateCause (Option Nat × Rest) :=
  match r.template with
  | .char '.' :: rest =>
    (readSize (.precisionTooBig script) 32 "int" { r with template := rest }).map fun (n, r) =>
      (some (n.getD 0).toNat, r)
  | _ => .ok (none, r)

/-- A place, after the percent sign that opens it. -/
def readPlace (script : Script) (r : Rest) : Except TemplateCause (Place × Rest) := do
  let isFlag (p : CodePoint) : Bool := (codePoints ['-', '+', ' ', '#', '0']).contains p
  if r.template.head? = some (.char '(') then throw .named
  let flags := r.template.takeWhile isFlag
  let (width, r) ← readSize .widthTooBig 64 "ssize_t"
    { r with template := r.template.dropWhile isFlag }
  let (precision, r) ← readPrecision script r
  let ps := match r.template with
    | .char 'h' :: rest | .char 'l' :: rest | .char 'L' :: rest => rest
    | ps => ps
  match ps with
  | [] => throw .incomplete
  | letter :: rest =>
    let width := width.getD 0
    let place : Place :=
      { toTheLeft := flags.contains (.char '-') || width < 0
        signed := flags.contains (.char '+')
        blank := flags.contains (.char ' ')
        marked := flags.contains (.char '#')
        zeros := flags.contains (.char '0')
        width := width.natAbs
        precision
        letter }
    return (place, { r with template := rest })

/-- Fills what is left of a template of the given size; `fuel` bounds the
number of steps. -/
def fillFrom (script : Script) (size : Nat) : (fuel : Nat) → Rest →
    Except TemplateCause (List CodePoint)
  | 0, _ => .ok []
  | fuel + 1, r =>
    match r.template with
    | [] => if r.number.isSome then .error (.unused script) else .ok []
    | .char '%' :: .char '%' :: rest =>
      (fillFrom script size fuel { r with template := rest }).map (.char '%' :: ·)
    | .char '%' :: rest => do
      let (place, r) ← readPlace script { r with template := rest }
      let (n, r) ← r.take
      let shown ← shownIn script place (size - r.template.length - 1) n
      return shown ++ (← fillFrom script size fuel r)
    | p :: rest => (fillFrom script size fuel { r with template := rest }).map (p :: ·)

/-- A template filled with an integer. -/
def filled (script : Script) (template : List CodePoint) (n : Int) :
    Except TemplateCause (List CodePoint) :=
  fillFrom script template.length (template.length + 1) ⟨template, some n⟩

end Collation.Text
