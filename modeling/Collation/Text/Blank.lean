/-
The characters that count as blank: the white space of Unicode, and with
them, where texts are split into words, the four separators among the
control characters.
-/
import Collation.Text.Ranges

namespace Collation.Text

def whiteSpaceRanges : List (Nat × Nat) := [
  (0x09, 0x0D), (0x20, 0x20), (0x85, 0x85), (0xA0, 0xA0), (0x1680, 0x1680), (0x2000, 0x200A),
  (0x2028, 0x2029), (0x202F, 0x202F), (0x205F, 0x205F), (0x3000, 0x3000)]

def isWhiteSpace (c : Char) : Bool := inRanges whiteSpaceRanges c.toNat

/-- White space or a separator. -/
def isBlank (c : Char) : Bool := isWhiteSpace c || (0x1C ≤ c.toNat && c.toNat ≤ 0x1F)

end Collation.Text
