/-
Sets ordered and told apart by a comparator: an element equivalent to a
member is that member, and the member first added is the one kept.
-/
import Collation.Bisect

namespace Collation

structure OrderedSet where
  comparator : Comparator
  /-- The elements in ascending order. -/
  items : List Value

namespace OrderedSet

def empty (c : Comparator) : OrderedSet := ⟨c, []⟩

def size (s : OrderedSet) : Nat := s.items.length

def isEmpty (s : OrderedSet) : Bool := s.items.isEmpty

/-- The index of the member equivalent to a value. -/
def find (s : OrderedSet) (v : Value) : Except Fault (Option Nat) :=
  Bisect.find s.comparator.compare id s.items v

def contains (s : OrderedSet) (v : Value) : Except Fault Bool :=
  (s.find v).map Option.isSome

/-- The set with a value added, and whether it grew. -/
def add (s : OrderedSet) (v : Value) : Except Fault (OrderedSet × Bool) :=
  match s.find v with
  | .error e => .error e
  | .ok (some _) => .ok (s, false)
  | .ok none =>
    (Bisect.insert s.comparator.compare id s.items v).map fun items =>
      ({ s with items }, true)

/-- The set without the member equivalent to a value, and whether there
was one. -/
def discard (s : OrderedSet) (v : Value) : Except Fault (OrderedSet × Bool) :=
  (s.find v).map fun
    | some i => ({ s with items := s.items.eraseIdx i }, true)
    | none => (s, false)

/-- Like `discard`, but an error if there is no such member. -/
def remove (s : OrderedSet) (v : Value) : Except Fault OrderedSet := do
  if !(← s.contains v) then throw (.absent v)
  return (← s.discard v).1

def clear (s : OrderedSet) : OrderedSet := empty s.comparator

/-- The set with several values added one after the other. -/
def addAll (s : OrderedSet) : List Value → Except Fault OrderedSet
  | [] => .ok s
  | v :: vs =>
    match s.add v with
    | .error e => .error e
    | .ok (s', _) => addAll s' vs

/-- The set of some values, added in the order given. -/
def ofList (c : Comparator) (vs : List Value) : Except Fault OrderedSet :=
  (empty c).addAll vs

/-- A set of its own with the same members, added in order. -/
def copy (s : OrderedSet) : Except Fault OrderedSet := ofList s.comparator s.items

-- ================================================================ ends

def first (s : OrderedSet) : Except Fault Value :=
  match s.items.head? with
  | some v => .ok v
  | none => .error (.emptyEnd "first() on an empty set")

def last (s : OrderedSet) : Except Fault Value :=
  match s.items.getLast? with
  | some v => .ok v
  | none => .error (.emptyEnd "last() on an empty set")

def popFirst (s : OrderedSet) : Except Fault (OrderedSet × Value) :=
  match s.items with
  | v :: rest => .ok ({ s with items := rest }, v)
  | [] => .error (.emptyPop "pop_first() on an empty set")

def popLast (s : OrderedSet) : Except Fault (OrderedSet × Value) :=
  match s.items.getLast? with
  | some v => .ok ({ s with items := s.items.dropLast }, v)
  | none => .error (.emptyPop "pop_last() on an empty set")

-- ========================================================== navigation

/-- The greatest member below a value. -/
def lower (s : OrderedSet) (v : Value) : Except Fault (Option Value) :=
  Bisect.lower s.comparator.compare id s.items v

/-- The greatest member below or equivalent to a value. -/
def floor (s : OrderedSet) (v : Value) : Except Fault (Option Value) :=
  Bisect.floor s.comparator.compare id s.items v

/-- The least member above or equivalent to a value. -/
def ceiling (s : OrderedSet) (v : Value) : Except Fault (Option Value) :=
  Bisect.ceiling s.comparator.compare id s.items v

/-- The least member above a value. -/
def higher (s : OrderedSet) (v : Value) : Except Fault (Option Value) :=
  Bisect.higher s.comparator.compare id s.items v

/-- The members in a range. -/
def range (s : OrderedSet) (r : Bisect.Range) : Except Fault (List Value) :=
  r.select s.comparator.compare id s.items

def display (s : OrderedSet) : String :=
  "SortedValueSet(" ++ Value.displayList s.items ++ ")"

end OrderedSet

end Collation
