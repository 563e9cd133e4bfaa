/-
Quoted text as messages show it. The quote is the single one unless only
that one occurs inside; it and the backslash are escaped, as is every
code point that would not print as itself.
-/
import Collation.Text.Printable

namespace Collation.Text

def hexDigit (n : Nat) : Char := (Nat.digitChar n)

/-- A number below `16 ^ width` in that many hexadecimal digits. -/
def hex : (width : Nat) → Nat → List Char
  | 0, _ => []
  | w + 1, n => hex w (n / 16) ++ [hexDigit (n % 16)]

/-- The quote that encloses a text with the given characters. -/
def quoteFor (cs : List Char) : Char :=
  if cs.contains '\'' && !cs.contains '"' then '"' else '\''

/-- One character between quotes. -/
def escaped (quote c : Char) : List Char :=
  if c = quote ∨ c = '\\' then ['\\', c]
  else if c = '\n' then ['\\', 'n']
  else if c = '\r' then ['\\', 'r']
  else if c = '\t' then ['\\', 't']
  else if isPrintable c then [c]
  else if c.toNat < 0x100 then '\\' :: 'x' :: hex 2 c.toNat
  else if c.toNat < 0x10000 then '\\' :: 'u' :: hex 4 c.toNat
  else '\\' :: 'U' :: hex 8 c.toNat

/-- One code point between quotes. -/
def escapedPoint (quote : Char) : CodePoint → List Char
  | .char c => escaped quote c
  | half => '\\' :: 'u' :: hex 4 half.code

/-- The text between quotes. -/
def quoted (t : Text) : String :=
  let q := quoteFor (t.points.map CodePoint.toChar)
  String.ofList (q :: t.points.flatMap (escapedPoint q) ++ [q])

/-- One octet between quotes: only the printable half of ASCII is written
as itself. -/
def escapedOctet (quote : Char) (b : UInt8) : List Char :=
  if b < 0x7f then escaped quote (Char.ofNat b.toNat) else '\\' :: 'x' :: hex 2 b.toNat

/-- Octets between quotes, marked by a leading `b`. -/
def quotedOctets (bs : List UInt8) : String :=
  let q := quoteFor (bs.map fun b => Char.ofNat b.toNat)
  String.ofList ('b' :: q :: bs.flatMap (escapedOctet q) ++ [q])

end Collation.Text
