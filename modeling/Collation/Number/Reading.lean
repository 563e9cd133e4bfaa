/-
Decimal text read as the nearest binary64 number. The digits make an exact
fraction, which is rounded once. Exponents far outside the range of the
format are cut off first, so that no power of ten grows with the text.
-/
import Collation.Number.Shortest
import Collation.Text.Basic

namespace Collation

/-- The value of a run of decimal digits, most significant first. -/
def natOfDigits (digits : List Char) : Nat :=
  digits.foldl (fun n c => 10 * n + (c.toNat - '0'.toNat)) 0

namespace Binary64

/-- The number nearest to `digits * 10 ^ exponent`. A number of more than
310 integer digits is infinite and one that starts beyond the 330th
fractional place is zero, whatever its digits. -/
def ofDecimal (negative : Bool) (digits : Nat) (exponent : Int) : Binary64 :=
  if digits = 0 then zero negative
  else
    let point : Int := (Nat.toDigits 10 digits).length + exponent
    if 310 < point then infinity negative
    else if point < -330 then zero negative
    else
      let (num, den) := powerOfTen exponent
      nearest negative (digits * num) den

/-- The digits at the head of a text. -/
def spanDigits : List CodePoint → List Char × List CodePoint
  | .char c :: ps =>
    if c.isDigit then
      let (ds, rest) := spanDigits ps
      (c :: ds, rest)
    else ([], .char c :: ps)
  | ps => ([], ps)

/-- An exponent part: `e`, a sign or none, digits. -/
def exponentPart? : List CodePoint → Option (Int × List CodePoint)
  | .char c :: ps =>
    if c = 'e' ∨ c = 'E' then
      let (negative, rest) := match ps with
        | .char '-' :: r => (true, r)
        | .char '+' :: r => (false, r)
        | r => (false, r)
      match spanDigits rest with
      | ([], _) => none
      | (ds, tail) =>
        let n : Int := natOfDigits ds
        some (if negative then -n else n, tail)
    else none
  | _ => none

/-- A decimal text: a sign or none, digits with a point or none among them,
an exponent or none; or one of the words for infinity and for no number,
which then gets the payload given. -/
def read? (payload : Nat) (text : String) : Option Binary64 :=
  let (negative, cs) := match text.toList with
    | '-' :: r => (true, r)
    | '+' :: r => (false, r)
    | r => (false, r)
  let word := String.ofList (cs.map Char.toLower)
  if word = "inf" ∨ word = "infinity" then some (infinity negative)
  else if word = "nan" then some (nan payload)
  else
    let (whole, afterWhole) := spanDigits (codePoints cs)
    let (part, afterPart) := match afterWhole with
      | .char '.' :: r => spanDigits r
      | r => ([], r)
    if whole.isEmpty && part.isEmpty then none
    else
      let digits := natOfDigits (whole ++ part)
      match afterPart with
      | [] => some (ofDecimal negative digits (-part.length))
      | rest =>
        match exponentPart? rest with
        | some (e, []) => some (ofDecimal negative digits (e - part.length))
        | _ => none

end Binary64

end Collation
