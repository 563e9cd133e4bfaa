/-
The natural order of values, which is partial. Numbers compare as exact
numbers, texts by code point, octets octet by octet, sets by inclusion;
two lists, or two tuples, compare at the first place where their elements
disagree, and by length if there is none. Anything else has no order, and
asking is an error that names the relation and both types.
-/
import Collation.Sorting
import Collation.Value.Lookup

namespace Collation

/-- The ways of asking how a value stands to another. -/
inductive Relation where
  | below
  | atMost
  | above
  | atLeast
  deriving DecidableEq

namespace Relation

def symbol : Relation → String
  | below => "<"
  | atMost => "<="
  | above => ">"
  | atLeast => ">="

/-- The relation as the right value stands to the left one. -/
def converse : Relation → Relation
  | below => above
  | atMost => atLeast
  | above => below
  | atLeast => atMost

/-- Whether the relation holds of two things in a total order. -/
def holds (r : Relation) (o : Ordering) : Bool :=
  match r with
  | below => o.isLT
  | atMost => o.isLE
  | above => o.isGT
  | atLeast => o.isGE

end Relation

def Position.compare (p q : Position) : Ordering :=
  if p.less q then .lt else if q.less p then .gt else .eq

namespace Value

/-- The error of ordering two values that have no order. -/
def unordered (r : Relation) (a b : Value) : Fault :=
  .incomparable r.symbol a.typeName b.typeName

/-- The elements of a value that is compared as a set. -/
def members? : Value → Option (Except Fault (List Value))
  | set xs => some (.ok xs)
  | object o xs => if o.isSet then walk? (object o xs) else none
  | _ => none

/-- Inclusion of sets. -/
def included (r : Relation) (xs ys : List Value) : Bool :=
  r.holds (Ord.compare xs.length ys.length) &&
    match r with
    | .below | .atMost => itemsWithin xs ys
    | .above | .atLeast => itemsWithin ys xs

/-- How two numbers stand; a NaN stands nowhere. -/
def relatedNumbers (r : Relation) (a b : Value) : Bool :=
  match a.position?, b.position? with
  | some p, some q => r.holds (p.compare q)
  | _, _ => false

/-- How two values that are no sequences stand. -/
def relatedAtoms (r : Relation) (a b : Value) : Except Fault Bool :=
  if a.isNumber && b.isNumber then .ok (relatedNumbers r a b)
  else
    match a.text?, b.text?, a.members?, b.members? with
    | some s, some t, _, _ => .ok (r.holds (compareOfLessAndEq s t))
    | _, _, some xs, some ys => do
      let xs ← xs
      let ys ← ys
      return included r xs ys
    | _, _, _, _ =>
      match a, b with
      | bytes xs, bytes ys => .ok (r.holds (compareOfLessAndEq xs ys))
      | _, _ => .error (unordered r a b)

/-- What decides how two values stand: two values that are no sequences of
one kind, or two lengths. -/
inductive Decision where
  | values (a b : Value)
  | lengths (m n : Nat)

mutual

def decision : Value → Value → Decision
  | list xs, list ys => decisionItems xs ys
  | tuple xs, tuple ys => decisionItems xs ys
  | a, b => .values a b
termination_by structural a => a

/-- The first two elements that disagree decide. -/
def decisionItems : List Value → List Value → Decision
  | x :: xs, y :: ys => if agree x y then decisionItems xs ys else decision x y
  | xs, ys => .lengths xs.length ys.length
termination_by structural xs => xs

end

/-- Whether the first value stands to the second in a relation. -/
def related (r : Relation) (a b : Value) : Except Fault Bool :=
  match decision a b with
  | .values a b => relatedAtoms r a b
  | .lengths m n => .ok (r.holds (Ord.compare m n))

/-- Whether the first value comes before the second. -/
def less (a b : Value) : Except Fault Bool := related .below a b

-- ============================================================ sorting

/-- The elements in ascending order of their keys, those of equal keys in
the order given. -/
def sortBy {α : Type} (key : α → Value) (xs : List α) : Except Fault (List α) :=
  Sorting.sorted (fun x y => less (key x) (key y)) xs

/-- The values in ascending order. -/
def sort (xs : List Value) : Except Fault (List Value) := sortBy id xs

end Value

end Collation
