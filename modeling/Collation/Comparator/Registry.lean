/-
A registry gives comparators names, so that an encoded collection can say
by which orders it was built. It is two tables: from names to comparators,
and from comparators back to names. The second table does not tell equal
comparators apart, so one that was never registered may find the name of
another. Registering writes to both tables in turn, and a failure between
the two writes leaves the first one done.
-/
import Collation.Comparator.Basic
import Collation.Outcome

namespace Collation

structure Registry where
  /-- From a name to the comparator it stands for. -/
  byName : List (Value × Comparator)
  /-- From a comparator, by what equal ones have in common, to its name. -/
  byComparator : List (Nat × Value)
  deriving Inhabited

namespace Registry

def empty : Registry := ⟨[], []⟩

/-- The ready-made comparators under their names. -/
def withBuiltins : Registry :=
  ⟨Comparator.builtins.map fun b => (.text b.1, b.2),
    Comparator.builtins.map fun b => (b.2.likeness, .text b.1)⟩

/-- Refuses a comparator that cannot be a look-up key. -/
def hashableComparator (c : Comparator) : Except Fault Unit :=
  match c.unhashableAs with
  | some t => .error (.unhashable t)
  | none => .ok ()

def contains (r : Registry) (name : Value) : Except Fault Bool :=
  (Value.find? name r.byName).map Option.isSome

/-- Sets the name of a comparator and those it is equal to. -/
def setName (likeness : Nat) (name : Value) : List (Nat × Value) → List (Nat × Value)
  | [] => [(likeness, name)]
  | (i, n) :: rest =>
    if i = likeness then (i, name) :: rest else (i, n) :: setName likeness name rest

/-- Forgets the name of a comparator and those it is equal to. -/
def unname (likeness : Nat) (names : List (Nat × Value)) : List (Nat × Value) :=
  names.filter fun e => e.1 != likeness

/-- Takes the former comparator of a name out of the table of names. It is
not looked up in an empty table, so there it need not be a look-up key. -/
def forget (names : List (Nat × Value)) (former : Option Comparator) :
    Except Fault (List (Nat × Value)) :=
  match former with
  | none => .ok names
  | some c =>
    if names.isEmpty then .ok names
    else (hashableComparator c).map fun _ => unname c.likeness names

/-- Whether a comparator may be registered under a name. -/
def checkRegistration (r : Registry) (name : Value) (comparator : Option Comparator)
    (replace : Bool) : Except Fault Comparator := do
  if !name.isTruthy then throw (.misuse .emptyName)
  match comparator with
  | none => throw (.misuse (.notCallable name))
  | some c =>
    if (← r.contains name) && !replace then throw (.misuse (.nameTaken name))
    return c

/-- Registers a comparator under a name. A name that is taken is given
away only on request; its former comparator then loses its name. A
candidate that cannot be called at all is passed as none. -/
def register (r : Registry) (name : Value) (comparator : Option Comparator)
    (replace : Bool) : Outcome Registry Unit :=
  match r.checkRegistration name comparator replace with
  | .error e => .failed r e
  | .ok c =>
    match forget r.byComparator (Value.lookup name r.byName) with
    | .error e => .failed r e
    | .ok forgotten =>
      let named : Registry := ⟨Value.insertEntry name c r.byName, forgotten⟩
      match hashableComparator c with
      | .error e => .failed named e
      | .ok () =>
        .done { named with byComparator := setName c.likeness name forgotten } ()
          [.registered name]

/-- The comparator that a name stands for. -/
def resolve (r : Registry) (name : Value) : Except Fault Comparator :=
  match Value.find? name r.byName with
  | .error e => .error e
  | .ok (some c) => .ok c
  | .ok none => .error (.misuse (.unknownName name))

/-- The name of a comparator, or of one that it is equal to. One that cannot
be a look-up key has none. -/
def nameOf (r : Registry) (c : Comparator) : Except Fault Value :=
  match c.unhashableAs, r.byComparator.lookup c.likeness with
  | none, some name => .ok name
  | _, _ => .error (.misuse (.unregistered c.display))

/-- All names in ascending order. -/
def names (r : Registry) : Except Fault (List Value) :=
  Value.sort (r.byName.map Prod.fst)

end Registry

end Collation
