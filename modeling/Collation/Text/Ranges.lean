/-
Sets of code points as ascending ranges, and maps on code points as runs
of a constant shift: the form in which the Unicode tables are kept here.
-/
import Collation.Text.Basic

namespace Collation.Text

/-- Whether a code point lies in one of the ranges, ends included. -/
def inRanges (ranges : List (Nat × Nat)) (c : Nat) : Bool :=
  ranges.any fun (low, high) => low ≤ c && c ≤ high

/-- Every `step`-th code point from `first` to `last` moves by `shift`. -/
structure ShiftRun where
  first : Nat
  last : Nat
  step : Nat
  shift : Int

/-- The image of a code point under the run that covers it. -/
def shifted? (runs : List ShiftRun) (c : Nat) : Option Nat :=
  (runs.find? fun r => r.first ≤ c && c ≤ r.last && (c - r.first) % r.step == 0).map
    fun r => ((c : Int) + r.shift).toNat

/-- The images of a code point: several when it is in `long`, else one. -/
def mapped (long : List (Nat × List Nat)) (runs : List ShiftRun) (p : CodePoint) :
    List CodePoint :=
  match long.lookup p.code with
  | some ns => ns.map .ofCode
  | none =>
    match shifted? runs p.code with
    | some n => [.ofCode n]
    | none => [p]

end Collation.Text
