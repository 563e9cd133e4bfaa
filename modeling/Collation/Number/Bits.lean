/-
Bitwise operators on integers of any size, a negative number standing for
the infinite row of bits that its two's complement is.
-/

namespace Collation

/-- The bits of two integers combined bit by bit. A negative integer is
taken as the complement of a natural number, and the combination of the
two signs tells whether the result is one. -/
def bitwise (combine : Bool → Bool → Bool) (m n : Int) : Int :=
  let negative := combine (m < 0) (n < 0)
  let row (k : Int) : Nat := (if k < 0 then -k - 1 else k).toNat
  let bits := Nat.bitwise
    (fun a b => (combine (a ^^ decide (m < 0)) (b ^^ decide (n < 0))) ^^ negative) (row m) (row n)
  if negative then -(bits : Int) - 1 else bits

def bitOr : Int → Int → Int := bitwise (· || ·)

def bitAnd : Int → Int → Int := bitwise (· && ·)

def bitXor : Int → Int → Int := bitwise (· ^^ ·)

end Collation
