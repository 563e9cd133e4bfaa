/-
Octets read as text, in the encodings that a JSON text may come in. A step
reads one code point off the head of the octets or says how many of them
are at fault and why; reading stops at the first fault, so the place it
names is the first octet that belongs to no code point. UTF-8 proper has
no halves of surrogate pairs; the lenient reading of it and the wider
encodings do, and there they stay what they are.

The wider encodings are told by a mark at the head, or else by where the
zero octets of the first characters stand, which in JSON are ASCII.
-/
import Collation.Fault

namespace Collation.Text

/-- An encoding; the order of octets in a unit is part of it. -/
inductive Encoding where
  | utf8
  | utf16 (bigEndian : Bool)
  | utf32 (bigEndian : Bool)
  deriving DecidableEq

namespace Encoding

def name : Encoding → String
  | utf8 => "utf-8"
  | utf16 false => "utf-16-le"
  | utf16 true => "utf-16-be"
  | utf32 false => "utf-32-le"
  | utf32 true => "utf-32-be"

end Encoding

/-- Why no character starts here, and how many octets that concerns. -/
structure Flaw where
  length : Nat
  reason : String

/-- One code point off the head of some octets. -/
abbrev Step := List UInt8 → Except Flaw (CodePoint × List UInt8)

-- ============================================================== UTF-8

/-- The octets that may follow a first one: those that continue a
character, less what would spell it longer than needed, spell half a
surrogate pair, or lead past the last code point. -/
def secondOctets (first : UInt8) : UInt8 × UInt8 :=
  if first = 0xE0 then (0xA0, 0xBF)
  else if first = 0xED then (0x80, 0x9F)
  else if first = 0xF0 then (0x90, 0xBF)
  else if first = 0xF4 then (0x80, 0x8F)
  else (0x80, 0xBF)

/-- Reads the further octets of a character of which `taken` octets, with
the value `n`, are read; the next one lies in `range`. -/
def continued (taken n : Nat) (range : UInt8 × UInt8) :
    (missing : Nat) → List UInt8 → Except Flaw (CodePoint × List UInt8)
  | 0, rest => .ok (.ofCode n, rest)
  | _ + 1, [] => .error ⟨taken, "unexpected end of data"⟩
  | k + 1, b :: rest =>
    if range.1 ≤ b ∧ b ≤ range.2 then
      continued (taken + 1) (n * 64 + b.toNat % 64) (0x80, 0xBF) k rest
    else .error ⟨taken, "invalid continuation byte"⟩

/-- UTF-8 in which surrogates are faults. -/
def stepUtf8 : Step
  | [] => .error ⟨0, "unexpected end of data"⟩
  | b :: rest =>
    if b < 0x80 then .ok (.char (Char.ofNat b.toNat), rest)
    else if b < 0xC2 then .error ⟨1, "invalid start byte"⟩
    else if b < 0xE0 then continued 1 (b.toNat % 32) (secondOctets b) 1 rest
    else if b < 0xF0 then continued 1 (b.toNat % 16) (secondOctets b) 2 rest
    else if b < 0xF5 then continued 1 (b.toNat % 8) (secondOctets b) 3 rest
    else .error ⟨1, "invalid start byte"⟩

/-- UTF-8 in which half a surrogate pair may be spelled like a character. -/
def stepLenientUtf8 : Step
  | 0xED :: b :: c :: rest =>
    if 0xA0 ≤ b ∧ b ≤ 0xBF ∧ 0x80 ≤ c ∧ c ≤ 0xBF then
      .ok (.ofCode (0xD000 + b.toNat % 64 * 64 + c.toNat % 64), rest)
    else stepUtf8 (0xED :: b :: c :: rest)
  | octets => stepUtf8 octets

-- ==================================================== wider encodings

/-- A number from two octets. -/
def pair (bigEndian : Bool) (a b : UInt8) : Nat :=
  if bigEndian then a.toNat * 256 + b.toNat else b.toNat * 256 + a.toNat

/-- A half that another one follows makes one character with it. -/
def stepUtf16 (bigEndian : Bool) : Step
  | a :: b :: rest =>
    match CodePoint.ofCode (pair bigEndian a b), rest with
    | .high h, c :: d :: rest' =>
      match CodePoint.ofCode (pair bigEndian c d) with
      | .low l => .ok (.char (CodePoint.paired h l), rest')
      | _ => .ok (.high h, rest)
    | p, _ => .ok (p, rest)
  | octets => .error ⟨octets.length, "truncated data"⟩

def stepUtf32 (bigEndian : Bool) : Step
  | a :: b :: c :: d :: rest =>
    let n :=
      if bigEndian then pair true a b * 65536 + pair true c d
      else pair false c d * 65536 + pair false a b
    if n < 0x110000 then .ok (.ofCode n, rest)
    else .error ⟨4, "code point not in range(0x110000)"⟩
  | octets => .error ⟨octets.length, "truncated data"⟩

-- ============================================================ decoding

/-- Reads code points until no octets are left; a fault comes with the
octets from its place on. `fuel` bounds the number of code points. -/
def stepThrough (step : Step) : (fuel : Nat) → List UInt8 →
    Except (Flaw × List UInt8) (List CodePoint)
  | _, [] => .ok []
  | 0, _ :: _ => .ok []
  | fuel + 1, octets@(_ :: _) =>
    match step octets with
    | .error flaw => .error (flaw, octets)
    | .ok (p, rest) =>
      match stepThrough step fuel rest with
      | .error e => .error e
      | .ok ps => .ok (p :: ps)

/-- The text that octets spell. The first octet has the position `origin`. -/
def decodeBy (encoding : Encoding) (step : Step) (origin : Nat) (octets : List UInt8) :
    Except DecodingFault Text :=
  match stepThrough step octets.length octets with
  | .ok ps => .ok ⟨ps⟩
  | .error (flaw, rest) =>
    let start := origin + (octets.length - rest.length)
    .error ⟨encoding.name, start, start + flaw.length, rest.headD 0, flaw.reason⟩

/-- The text that octets spell in UTF-8. -/
def decodeUtf8 (octets : List UInt8) : Except DecodingFault Text :=
  decodeBy .utf8 stepUtf8 0 octets

/-- Octets without the mark of their encoding. -/
structure Unmarked where
  encoding : Encoding
  /-- The position of the first octet. Positions count the mark of a wider
  encoding, not that of UTF-8. -/
  origin : Nat
  octets : List UInt8

/-- Tells the encoding of a JSON text. -/
def detect : List UInt8 → Unmarked
  | 0x00 :: 0x00 :: 0xFE :: 0xFF :: rest => ⟨.utf32 true, 4, rest⟩
  | 0xFF :: 0xFE :: 0x00 :: 0x00 :: rest => ⟨.utf32 false, 4, rest⟩
  | 0xFE :: 0xFF :: rest => ⟨.utf16 true, 2, rest⟩
  | 0xFF :: 0xFE :: rest => ⟨.utf16 false, 2, rest⟩
  | 0xEF :: 0xBB :: 0xBF :: rest => ⟨.utf8, 0, rest⟩
  | octets =>
    let encoding : Encoding :=
      match octets with
      | a :: b :: c :: d :: _ =>
        if a = 0 then if b = 0 then .utf32 true else .utf16 true
        else if b = 0 then if c = 0 ∧ d = 0 then .utf32 false else .utf16 false
        else .utf8
      | [a, b] =>
        if a = 0 then .utf16 true else if b = 0 then .utf16 false else .utf8
      | _ => .utf8
    ⟨encoding, 0, octets⟩

def Encoding.step : Encoding → Step
  | utf8 => stepLenientUtf8
  | utf16 bigEndian => stepUtf16 bigEndian
  | utf32 bigEndian => stepUtf32 bigEndian

/-- The text that octets spell in the encoding they show. -/
def decodeDetected (octets : List UInt8) : Except DecodingFault Text :=
  let unmarked := detect octets
  decodeBy unmarked.encoding unmarked.encoding.step unmarked.origin unmarked.octets

end Collation.Text
