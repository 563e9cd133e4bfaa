/-
Binary64 numbers as 64-bit words. A word is read into an exact integer:
every finite number is a whole multiple of the least positive one, which
is 2^-1074, so `units` loses nothing and comparing, adding and rounding
are integer arithmetic. `nearest` is the only place that rounds, to
nearest with ties to the even significand.

A NaN keeps its payload bits. Two NaNs never compare equal, but words
with one payload are one object to a container that tells objects apart.
-/

namespace Collation

/-- A binary64 number, held as the word that encodes it. -/
structure Binary64 where
  bits : UInt64
  deriving DecidableEq, Inhabited

namespace Binary64

-- ================================================== reading the word

/-- The 11-bit biased exponent. -/
def field (x : Binary64) : Nat := x.bits.toNat / Nat.pow 2 52 % Nat.pow 2 11

/-- The 52 bits below the exponent. -/
def fraction (x : Binary64) : Nat := x.bits.toNat % Nat.pow 2 52

/-- The sign bit, set also on a negative zero. -/
def isNegative (x : Binary64) : Bool := Nat.pow 2 63 ≤ x.bits.toNat

def isNaN (x : Binary64) : Bool := x.field == 2047 && x.fraction != 0

def isInfinite (x : Binary64) : Bool := x.field == 2047 && x.fraction == 0

def isFinite (x : Binary64) : Bool := x.field != 2047

/-- The integral significand: the hidden bit joins the fraction of a
normal number. -/
def significand (x : Binary64) : Nat :=
  if x.field = 0 then x.fraction else Nat.pow 2 52 + x.fraction

/-- The exponent of the significand, counted from that of the least
positive number. -/
def scale (x : Binary64) : Nat := x.field - 1

/-- The absolute value of a finite number, in multiples of 2^-1074. -/
def absUnits (x : Binary64) : Nat := x.significand * Nat.pow 2 x.scale

/-- A finite number in multiples of 2^-1074. Both zeros give 0. -/
def units (x : Binary64) : Int :=
  if x.isNegative then -(x.absUnits : Int) else x.absUnits

/-- How many units make 1. -/
def unitsPerOne : Nat := Nat.pow 2 1074

-- ==================================================== making a word

def signBits (negative : Bool) : Nat := if negative then Nat.pow 2 63 else 0

def infinityBits : Nat := 2047 * Nat.pow 2 52

def ofBits (n : Nat) : Binary64 := ⟨UInt64.ofNat n⟩

def infinity (negative : Bool) : Binary64 := ofBits (infinityBits + signBits negative)

def zero (negative : Bool) : Binary64 := ofBits (signBits negative)

/-- The quiet NaN with the given payload. -/
def nan (payload : Nat) : Binary64 := ofBits (infinityBits + Nat.pow 2 51 + payload % Nat.pow 2 51)

/-- The quotient to nearest, a tie going to the even neighbour. -/
def divideNearest (num den : Nat) : Nat :=
  let q := num / den
  let r := num % den
  if den < 2 * r ∨ (2 * r = den ∧ q % 2 = 1) then q + 1 else q

/-- The number nearest to `num / den` units. A carry out of the
significand lands in the exponent bits, where it belongs, and whatever
reaches past the largest finite number is infinite. -/
def nearestUnits (negative : Bool) (num den : Nat) : Binary64 :=
  let shift := (num / den).log2 - 52
  let word := shift * Nat.pow 2 52 + divideNearest num (den * Nat.pow 2 shift)
  ofBits (min word infinityBits + signBits negative)

/-- The number nearest to `num / den`. -/
def nearest (negative : Bool) (num den : Nat) : Binary64 :=
  nearestUnits negative (num * unitsPerOne) den

/-- The number nearest to an integer. -/
def ofInt (n : Int) : Binary64 := nearest (n < 0) n.natAbs 1

/-- The number nearest to `n / den` units; an exact zero is positive. -/
def ofUnits (n : Int) (den : Nat) : Binary64 := nearestUnits (n < 0) n.natAbs den

-- ======================================================= arithmetic

def neg (x : Binary64) : Binary64 := ⟨x.bits ^^^ 0x8000000000000000⟩

def abs (x : Binary64) : Binary64 := if x.isNegative then x.neg else x

/-- Infinities of one sign add up, of two signs to no number; two
negative zeros are the only exact zero that stays negative. -/
def add (x y : Binary64) : Binary64 :=
  if x.isNaN then x
  else if y.isNaN then y
  else if x.isInfinite then
    if y.isInfinite && x.isNegative != y.isNegative then nan 0 else x
  else if y.isInfinite then y
  else if x.absUnits = 0 ∧ y.absUnits = 0 then zero (x.isNegative && y.isNegative)
  else ofUnits (x.units + y.units) 1

def sub (x y : Binary64) : Binary64 := add x y.neg

def mul (x y : Binary64) : Binary64 :=
  let negative := x.isNegative != y.isNegative
  if x.isNaN then x
  else if y.isNaN then y
  else if x.isInfinite then
    if y.isFinite && y.absUnits == 0 then nan 0 else infinity negative
  else if y.isInfinite then
    if x.absUnits = 0 then nan 0 else infinity negative
  else nearestUnits negative (x.absUnits * y.absUnits) unitsPerOne

/-- The remainder with the sign of a nonzero finite divisor. The truncated
remainder is exact; adding the divisor, where the signs differ, rounds. -/
def mod (x y : Binary64) : Binary64 :=
  if !x.isFinite then (if x.isNaN then x else nan 0)
  else
    let r := x.units.tmod y.units
    if r = 0 then zero y.isNegative
    else if (decide (r < 0)) != y.isNegative then ofUnits (r + y.units) 1
    else ofUnits r 1

end Binary64

end Collation
