/-
Calls by name. An operation says what it takes: arguments that must be
given, ones that may be, and ones that may be given by their names alone.
The arguments of a call are matched with these before the operation runs,
so that it finds each in its place or not at all.
-/
import Collation.Session.Basic

namespace Collation.Session

/-- The arguments of a call as they are given. -/
structure Arguments where
  positional : List Ref := []
  named : List (String × Ref) := []

structure Signature where
  /-- What errors call the operation. -/
  operation : String
  required : List String := []
  optional : List String := []
  /-- Optional arguments that have no position. -/
  byName : List String := []
  /-- Whether what the operation is called on counts as an argument. -/
  onReceiver : Bool := true

/-- The arguments of a call in the order of a signature, an optional one
that was not given being none. -/
structure Bound where
  arguments : List (Option Ref)

namespace Signature

def positions (s : Signature) : List String := s.required ++ s.optional

/-- The parameters that no argument was given for. -/
def missing (s : Signature) (a : Arguments) : List String :=
  (s.required.drop a.positional.length).filter fun name => (a.named.lookup name).isNone

/-- Refuses a named argument that has no place, or whose place is taken. -/
def checkNamed (s : Signature) (count : Nat) : List (String × Ref) → Except CallCause Unit
  | [] => .ok ()
  | (name, _) :: rest =>
    if (s.positions.take count).contains name then .error (.repeated name)
    else if (s.positions ++ s.byName).contains name then checkNamed s count rest
    else .error (.unexpected name)

/-- Refuses arguments that do not fit. -/
def check (s : Signature) (a : Arguments) : Except CallCause Unit := do
  checkNamed s a.positional.length a.named
  let receiver := if s.onReceiver then 1 else 0
  if s.positions.length < a.positional.length then
    throw (.tooMany (s.required.length + receiver) (s.positions.length + receiver)
      (a.positional.length + receiver)
      (a.named.filter fun e => s.byName.contains e.1).length)
  if !(s.missing a).isEmpty then throw (.missing (s.missing a))

/-- The arguments that fit a signature, each in its place. -/
def bind (s : Signature) (a : Arguments) : Except Fault Bound :=
  match s.check a with
  | .error cause => .error (.call s.operation cause)
  | .ok () =>
    let given := a.positional.map some
    let left := (s.positions ++ s.byName).drop a.positional.length
    .ok ⟨given ++ left.map fun name => a.named.lookup name⟩

end Signature

namespace Bound

def ref? (b : Bound) (i : Nat) : Option Ref := b.arguments[i]?.join

/-- An argument; one that was not given is null. -/
def ref (b : Bound) (i : Nat) : Action Ref :=
  match b.ref? i with
  | some r => pure r
  | none => Action.addPlain .null

def value (b : Bound) (i : Nat) : Action Value :=
  match b.ref? i with
  | some r => Action.value r
  | none => pure .null

def operand (b : Bound) (i : Nat) : Action Operand := do Action.operand (← b.ref i)

/-- Whether an argument counts as true. -/
def flag (b : Bound) (i : Nat) (default : Bool) : Action Bool := do
  match b.ref? i with
  | some r => ofExcept (← Action.operand r).isTruthy
  | none => return default

end Bound

/-- What a thing has under a name. -/
inductive Member where
  /-- Something that is read off. -/
  | property (read : Ref → Action Ref)
  | operation (signature : Signature) (run : Ref → Bound → Action Ref)
  /-- An operation that takes its arguments as they are given. -/
  | free (run : Ref → Arguments → Action Ref)

namespace Member

/-- Calls a member of a thing; what is read off takes no arguments. -/
def call (m : Member) (r : Ref) (a : Arguments) : Action Ref := do
  match m with
  | property read => read r
  | operation signature run => run r (← ofExcept (signature.bind a))
  | free run => run r a

end Member

-- =============================================================== answers

def answer (v : Value) : Action Ref := Action.addPlain v

def answerFlag (b : Bool) : Action Ref := answer (.bool b)

def answerNone : Action Ref := answer .null

/-- The answer of an operation that is called for what it does. -/
def answerDone (a : Action Unit) : Action Ref := do
  a
  answerNone

/-- A value, or null for none. -/
def answerIfAny (v : Option Value) : Action Ref :=
  match v with
  | some v => Action.ofValue v
  | none => answerNone

def answerSet (s : OrderedSet) : Action Ref := Action.add (.orderedSet s)

end Collation.Session
