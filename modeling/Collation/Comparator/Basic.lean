/-
Comparators: functions of two values that give a negative number, zero or
a positive one, or fail. Two values are the same element of a container
exactly when its comparator gives zero; equality plays no part there.
Nothing obliges a comparator to be consistent, and the number that it
gives may be one that is neither negative nor zero nor positive.

A comparator has an identity apart from what it computes, and building one
twice gives two. Two that are not the same may still be equal to a look-up
table, as are the methods of one thing that are read off it twice; each
comparator has a number that it shares with those it is equal to.
-/
import Collation.Value.Lookup
import Collation.Value.Order
import Collation.Text.Folding

namespace Collation

/-- The number that a comparison gives. -/
inductive Answer where
  | int (n : Int)
  | float (x : Binary64)

namespace Answer

/-- Where the number stands; nowhere, if it is a NaN. -/
def position? : Answer → Option Position
  | int n => some (intPosition n)
  | float x => x.position?

def isNegative (a : Answer) : Bool := a.position?.any (·.less (.finite 0))

def isZero (a : Answer) : Bool := a.position? == some (.finite 0)

def toValue : Answer → Value
  | int n => .int n
  | float x => .float x

end Answer

/-- What a comparator computes. -/
abbrev Comparison := Value → Value → Except Fault Answer

/-- What elements are ordered by. -/
abbrev SortKey := Value → Except Fault Value

namespace Comparison

/-- The natural order: both directions are asked, the first one first. -/
def natural : Comparison := fun a b => do
  if ← a.less b then return .int (-1)
  if ← b.less a then return .int 1
  return .int 0

/-- The opposite order. -/
def reversed (c : Comparison) : Comparison := fun a b => c b a

/-- Null before everything else. -/
def nullsFirst (c : Comparison) : Comparison := fun a b =>
  match a.isNull, b.isNull with
  | true, true => .ok (.int 0)
  | true, false => .ok (.int (-1))
  | false, true => .ok (.int 1)
  | false, false => c a b

/-- Null after everything else. -/
def nullsLast (c : Comparison) : Comparison := fun a b =>
  match a.isNull, b.isNull with
  | true, true => .ok (.int 0)
  | true, false => .ok (.int 1)
  | false, true => .ok (.int (-1))
  | false, false => c a b

/-- Order by a key of each value. -/
def comparing (key : SortKey) (c : Comparison) : Comparison := fun a b => do
  let ka ← key a
  let kb ← key b
  c ka kb

end Comparison

/-- The case fold of a text; of nothing else. -/
def foldedKey : SortKey := fun v =>
  match v.text? with
  | some s => .ok (.text (Text.fold s))
  | none => .error (.notFoldable v.typeName)

/-- A comparison with an identity. -/
structure Comparator where
  identity : Nat
  compare : Comparison
  /-- What it has in common with the comparators that are equal to it. -/
  likeness : Nat := identity
  /-- The type name of a comparator that cannot be a look-up key. -/
  unhashableAs : Option String := none
  /-- How messages show it. -/
  display : String := "<comparator>"

namespace Comparator

/-- Whether two comparators are one and the same. -/
def same (c d : Comparator) : Bool := c.identity == d.identity

-- The ready-made comparators have the first identities.

def natural : Comparator := { identity := 0, compare := .natural }

def reverse : Comparator := { identity := 1, compare := Comparison.natural.reversed }

def naturalNullsFirst : Comparator :=
  { identity := 2, compare := Comparison.natural.nullsFirst }

def naturalNullsLast : Comparator :=
  { identity := 3, compare := Comparison.natural.nullsLast }

def caseFold : Comparator :=
  { identity := 4, compare := Comparison.natural.comparing foldedKey }

/-- The ready-made comparators under their names. -/
def builtins : List (String × Comparator) :=
  [("natural", natural), ("reverse", reverse),
    ("natural_nulls_first", naturalNullsFirst),
    ("natural_nulls_last", naturalNullsLast), ("casefold", caseFold)]

/-- Fails unless the comparator can compare null with itself; `role` says
in the error what the comparator was to order. -/
def checkAcceptsNull (c : Comparator) (role : String) : Except Fault Unit :=
  match c.compare .null .null with
  | .ok _ => .ok ()
  | .error e => .error (.nullRejected role e)

end Comparator

end Collation
