/-
When two values are equal. Numbers are equal as numbers whatever their
type, so true, 1 and 1.0 are one dictionary key; a number that is no
number equals nothing, itself included. Inside a container an element
also counts as equal to itself, which shows only there: `agree` is
equality with that one addition. An object is equal to itself and, if it
is a set, to any set with its elements.
-/
import Collation.Value.Basic

namespace Collation

/-- Where a number stands on the extended line, exactly: a finite one in
multiples of 2^-1074. -/
inductive Position where
  | lowest
  | finite (units : Int)
  | highest
  deriving DecidableEq, Repr

namespace Position

def less : Position → Position → Bool
  | lowest, lowest => false
  | lowest, _ => true
  | finite a, finite b => a < b
  | finite _, highest => true
  | _, _ => false

end Position

/-- The position of a float; none for a NaN. -/
def Binary64.position? (x : Binary64) : Option Position :=
  if x.isNaN then none
  else if x.isInfinite then some (if x.isNegative then .lowest else .highest)
  else some (.finite x.units)

/-- The position of an integer. -/
def intPosition (n : Int) : Position := .finite (n * Binary64.unitsPerOne)

namespace Value

/-- Whether a value is a number. -/
def isNumber : Value → Bool
  | bool _ | int _ | float _ => true
  | _ => false

/-- The position of a value that is a number and not a NaN. -/
def position? : Value → Option Position
  | bool b => some (intPosition b.toInt)
  | int n => some (intPosition n)
  | float x => x.position?
  | _ => none

/-- Equality of values that hold no others. -/
def equalAtoms (a b : Value) : Bool :=
  match a.position?, b.position? with
  | some p, some q => p == q
  | _, _ =>
    match a.text?, b.text? with
    | some s, some t => s == t
    | _, _ =>
      match a, b with
      | null, null => true
      | bytes xs, bytes ys => xs == ys
      | _, _ => false

mutual

/-- Equality as containers see their elements: a value agrees with itself,
a NaN too, and otherwise with whatever equals it. -/
def agree : Value → Value → Bool
  | float x, float y => x.bits == y.bits || equalAtoms (float x) (float y)
  | list xs, list ys => agreeItems xs ys
  | tuple xs, tuple ys => agreeItems xs ys
  | dict es, dict fs => es.length == fs.length && entriesWithin es fs
  | set xs, set ys => xs.length == ys.length && itemsWithin xs ys
  | set xs, object p ys => p.isSet && xs.length == ys.length && itemsWithin xs ys
  | object o xs, set ys => o.isSet && xs.length == ys.length && itemsWithin xs ys
  | object o xs, object p ys =>
    (o.identity.isSome && o.identity == p.identity)
      || (o.isSet && p.isSet && xs.length == ys.length && itemsWithin xs ys)
  | a, b => equalAtoms a b
termination_by structural a => a

def agreeItems : List Value → List Value → Bool
  | [], [] => true
  | x :: xs, y :: ys => agree x y && agreeItems xs ys
  | _, _ => false
termination_by structural xs => xs

/-- Whether every element of the first set has its like in the second. -/
def itemsWithin : List Value → List Value → Bool
  | [], _ => true
  | x :: xs, ys => ys.any (fun y => agree x y) && itemsWithin xs ys
termination_by structural xs => xs

/-- Whether every entry of the first dictionary is found in the second. -/
def entriesWithin : List (Value × Value) → List (Value × Value) → Bool
  | [], _ => true
  | e :: es, fs => entryWithin e fs && entriesWithin es fs
termination_by structural es => es

def entryWithin : Value × Value → List (Value × Value) → Bool
  | (k, v), fs => fs.any fun f => agree k f.1 && agree v f.2
termination_by structural e => e

end

/-- Equality. -/
def equal : Value → Value → Bool
  | float x, float y => equalAtoms (float x) (float y)
  | a, b => agree a b

end Value

end Collation
