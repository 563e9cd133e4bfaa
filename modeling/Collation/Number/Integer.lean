/-
Integers as someone types them: white space around, a sign or none, decimal
digits with single underscores between them. Zeros may lead, with any
underscores among them, and a point may follow with zeros alone after it.
A number of more than 4300 digits is refused.
-/
import Collation.Text.Blank
import Collation.Number.Reading

namespace Collation

/-- How many digits a number may have. -/
def mostDigits : Nat := 4300

/-- Digits without the underscores between two of them. None of a text that
holds anything else. -/
def joinedDigits? : List Char → Option (List Char)
  | [] => none
  | [c] => if c.isDigit then some [c] else none
  | c :: '_' :: rest => if c.isDigit then (joinedDigits? rest).map (c :: ·) else none
  | c :: rest => if c.isDigit then (joinedDigits? rest).map (c :: ·) else none

/-- A text without the zeros that lead it and the underscores among them;
what is nothing but zeros, before a point or the end, keeps its last
character. None of a text that no digit leads. -/
def withoutLeadingZeros? (cs : List Char) : Option (List Char) :=
  match cs with
  | '0' :: _ =>
    let isFiller (c : Char) : Bool := c = '0' || c = '_'
    let rest := cs.dropWhile isFiller
    if (rest.head?.all (· = '.')) then
      some ((cs.takeWhile isFiller).getLast?.toList ++ rest)
    else some rest
  | c :: _ => if c.isDigit then some cs else none
  | [] => none

/-- A text without a fraction of zeros. None if there is another fraction. -/
def withoutFraction? (cs : List Char) : Option (List Char) :=
  match cs.dropWhile (· ≠ '.') with
  | [] => some cs
  | _ :: fraction =>
    if !fraction.isEmpty && fraction.all (· = '0') then some (cs.takeWhile (· ≠ '.')) else none

/-- The number that a text without a sign spells. -/
def readNatural? (cs : List Char) : Option Nat := do
  let digits ← joinedDigits? (← withoutFraction? (← withoutLeadingZeros? cs))
  if mostDigits < digits.length then none else some (natOfDigits digits)

/-- The integer that a text spells. -/
def readInteger? (text : String) : Option Int :=
  let trimmed := (text.toList.dropWhile Text.isWhiteSpace).reverse.dropWhile Text.isWhiteSpace
  match trimmed.reverse with
  | '-' :: rest => (readNatural? rest).map fun n => -(n : Int)
  | '+' :: rest => (readNatural? rest).map Int.ofNat
  | rest => (readNatural? rest).map Int.ofNat

end Collation
