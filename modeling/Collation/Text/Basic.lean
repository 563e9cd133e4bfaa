/-
Texts as sequences of code points. A code point is a character or, since
nothing keeps one from being alone, half of a surrogate pair. A half is no
character: it has a place in the order of code points, but no encoding,
and the two halves of a pair side by side are not the character that the
pair stands for.
-/

namespace Collation

/-- A code point: a character, or half of a surrogate pair by the ten bits
that it carries. -/
inductive CodePoint where
  | char (c : Char)
  | high (bits : Fin 1024)
  | low (bits : Fin 1024)
  deriving DecidableEq, Inhabited

namespace CodePoint

/-- The number of a code point. -/
def code : CodePoint → Nat
  | char c => c.toNat
  | high bits => 0xD800 + bits
  | low bits => 0xDC00 + bits

/-- The code point of a number below 0x110000. -/
def ofCode (n : Nat) : CodePoint :=
  if h : 0xD800 ≤ n ∧ n < 0xDC00 then high ⟨n - 0xD800, by omega⟩
  else if h : 0xDC00 ≤ n ∧ n < 0xE000 then low ⟨n - 0xDC00, by omega⟩
  else char (Char.ofNat n)

def isHalf : CodePoint → Bool
  | char _ => false
  | _ => true

/-- The character that a surrogate pair stands for. -/
def paired (high low : Fin 1024) : Char := Char.ofNat (0x10000 + high * 1024 + low)

/-- The character; of half a pair, the one that stands in for what is none. -/
def toChar : CodePoint → Char
  | char c => c
  | _ => '\uFFFD'

instance : LT CodePoint := ⟨fun p q => p.code < q.code⟩

instance : DecidableLT CodePoint := fun p q => inferInstanceAs (Decidable (p.code < q.code))

end CodePoint

/-- Characters as code points. -/
def codePoints (cs : List Char) : List CodePoint := cs.map .char

@[simp] theorem codePoints_nil : codePoints [] = [] := rfl

@[simp] theorem codePoints_cons (c : Char) (cs : List Char) :
    codePoints (c :: cs) = .char c :: codePoints cs := rfl

@[simp] theorem codePoints_append (cs ds : List Char) :
    codePoints (cs ++ ds) = codePoints cs ++ codePoints ds := List.map_append

@[simp] theorem length_codePoints (cs : List Char) : (codePoints cs).length = cs.length :=
  List.length_map _

/-- A sequence of code points. -/
structure Text where
  points : List CodePoint
  deriving DecidableEq, Inhabited

namespace Text

def ofChars (cs : List Char) : Text := ⟨codePoints cs⟩

def ofString (s : String) : Text := ofChars s.toList

instance : Coe String Text := ⟨ofString⟩

def isEmpty (t : Text) : Bool := t.points.isEmpty

/-- The text as a string, in which no half of a pair can stand. -/
def lossy (t : Text) : String := String.ofList (t.points.map CodePoint.toChar)

/-- Texts are ordered code point by code point. -/
instance : LT Text := ⟨fun s t => s.points < t.points⟩

instance : DecidableLT Text := fun s t => inferInstanceAs (Decidable (s.points < t.points))

end Text

end Collation
