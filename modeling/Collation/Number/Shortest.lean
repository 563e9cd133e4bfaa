/-
The shortest decimal that reads back as a given binary64 number.

The reals that round to a number form an interval around it, its ends
belonging to it exactly when the significand is even. A grid of k-digit
decimals meets the interval iff one of the number's two neighbours on the
grid does, so the search tries 1, 2, ... digits and looks at two points
each time; 17 digits always suffice. Of two hits the nearer wins, and an
exact tie goes to the even digit.
-/
import Collation.Number.Binary64

namespace Collation

/-- `digits * 10 ^ exponent`, digits read as one integer. -/
structure Decimal where
  digits : Nat
  exponent : Int
  deriving DecidableEq, Repr

/-- How a number's digits are laid out. -/
structure DecimalLayout where
  /-- The least position of the point that is still written positionally. -/
  leastPoint : Int
  /-- The greatest position of the point that is still written positionally. -/
  greatestPoint : Int
  /-- The least number of digits of an exponent. -/
  exponentDigits : Nat
  infinite : String
  notANumber : String

namespace Binary64

-- ================================================= the rounding interval

/-- Four units: fine enough that both ends of every rounding interval are
whole. -/
def quartersPerOne : Nat := 4 * unitsPerOne

/-- The lower end of the interval of `x`, in quarter units. Below a power
of two the spacing halves. -/
def lowerQuarters (x : Binary64) : Nat :=
  if x.fraction = 0 ∧ 1 < x.field then (4 * x.significand - 1) * Nat.pow 2 x.scale
  else (4 * x.significand - 2) * Nat.pow 2 x.scale

def upperQuarters (x : Binary64) : Nat := (4 * x.significand + 2) * Nat.pow 2 x.scale

/-- Whether `num / den` (in quarter units) rounds to `x`. -/
def holds (x : Binary64) (num den : Nat) : Bool :=
  let lower := x.lowerQuarters * den
  let upper := x.upperQuarters * den
  if x.significand % 2 = 0 then lower ≤ num && num ≤ upper
  else lower < num && num < upper

-- ================================================== the decimal grids

/-- `10 ^ e` as a fraction. -/
def powerOfTen (e : Int) : Nat × Nat :=
  if 0 ≤ e then (Nat.pow 10 e.toNat, 1) else (1, Nat.pow 10 (-e).toNat)

/-- The number of decimal digits of the integer part of `num / den`, zero
when that part is zero. -/
def integerDigits (num den : Nat) : Nat :=
  if num / den = 0 then 0 else (Nat.toDigits 10 (num / den)).length

/-- The position of the decimal point of a positive `x`: the `p` with
`10 ^ (p - 1) ≤ x < 10 ^ p`. Numbers below 1 are first multiplied by a
power of ten that takes them all above it. -/
def pointPosition (x : Binary64) : Int :=
  (integerDigits (x.absUnits * Nat.pow 10 324) unitsPerOne : Int) - 324

/-- The multiple of `10 ^ e` that rounds to `x` and lies nearest to it, of
the two that enclose it. -/
def gridPoint (x : Binary64) (e : Int) : Option Decimal :=
  let (stepNum, stepDen) := powerOfTen e
  let num := 4 * x.absUnits * stepDen
  let den := quartersPerOne * stepNum
  let below := num / den
  let rest := num % den
  let lowHit := x.holds (below * stepNum * quartersPerOne) stepDen
  let highHit := x.holds ((below + 1) * stepNum * quartersPerOne) stepDen
  if lowHit && highHit then
    if 2 * rest < den || (2 * rest == den && below % 2 == 0) then some ⟨below, e⟩
    else some ⟨below + 1, e⟩
  else if lowHit then some ⟨below, e⟩
  else if highHit then some ⟨below + 1, e⟩
  else none

/-- The shortest decimal that rounds to a positive finite `x`. -/
def shortest (x : Binary64) : Decimal :=
  let p := x.pointPosition
  let tried := (List.range 17).findSome? fun (k : Nat) => x.gridPoint (p - (k + 1))
  tried.getD ⟨0, 0⟩

end Binary64

-- ============================================================ spelling

/-- Digits without the zeros that end them. -/
def dropFinalZeros (digits : List Char) : List Char :=
  (digits.reverse.dropWhile (· == '0')).reverse

/-- A natural number in at least `width` decimal digits. -/
def paddedNat (width n : Nat) : List Char :=
  let digits := Nat.toDigits 10 n
  List.replicate (width - digits.length) '0' ++ digits

/-- The text of a positive decimal. A positional number always has digits
on both sides of its point. -/
def Decimal.spell (d : Decimal) (layout : DecimalLayout) : List Char :=
  let written := Nat.toDigits 10 d.digits
  let point : Int := written.length + d.exponent
  let digits := dropFinalZeros written
  if layout.leastPoint ≤ point ∧ point ≤ layout.greatestPoint then
    if point ≤ 0 then
      ['0', '.'] ++ List.replicate (-point).toNat '0' ++ digits
    else
      let whole := digits.take point.toNat
      let filled := whole ++ List.replicate (point.toNat - whole.length) '0'
      let rest := digits.drop point.toNat
      filled ++ '.' :: (if rest.isEmpty then ['0'] else rest)
  else
    let e := point - 1
    let sign := if e < 0 then '-' else '+'
    let tail := 'e' :: sign :: paddedNat layout.exponentDigits e.natAbs
    match digits with
    | [] => tail
    | [c] => c :: tail
    | c :: rest => c :: '.' :: rest ++ tail

/-- The text of any binary64 number. -/
def Binary64.spell (x : Binary64) (layout : DecimalLayout) : String :=
  if x.isNaN then layout.notANumber
  else
    let sign := if x.isNegative then "-" else ""
    if x.isInfinite then sign ++ layout.infinite
    else if x.absUnits = 0 then sign ++ "0.0"
    else sign ++ String.ofList (x.shortest.spell layout)

end Collation
