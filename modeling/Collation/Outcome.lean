/-
What an operation leaves behind. An operation may fail after it has
changed something, so the state is part of every outcome, failed ones
too, next to the result and the events reported on the way.
-/
import Collation.Fault

namespace Collation

-- ============================================================== events

/-- How much an event matters. -/
inductive Level where
  | debug
  | info
  | warning
  deriving DecidableEq

def Level.name : Level → String
  | debug => "DEBUG"
  | info => "INFO"
  | warning => "WARNING"

/-- Something worth a line in a log. -/
inductive Event where
  | registered (name : Value)
  | slotCreated (key : Value)
  | slotEmptied (key : Value)
  | slotRemoved (key : Value) (values : Nat)
  | copied (entries keys : Nat)
  | encoded (keys entries octets : Nat)
  | decoded (keys entries : Nat)
  | collapsed (key : Value) (duplicates values : Int)
  | written (entries : Nat) (path : String)

def Event.level : Event → Level
  | registered _ | written .. => .info
  | collapsed .. => .warning
  | _ => .debug

def Event.message : Event → String
  | registered name => "Registered comparator " ++ name.display ++ "."
  | slotCreated key => "Created slot for key " ++ key.display ++ "."
  | slotEmptied key => "Removed empty slot for key " ++ key.display ++ "."
  | slotRemoved key values =>
    "Removed slot for key " ++ key.display ++ " (" ++ toString values ++ " values)."
  | copied entries keys =>
    "Copied " ++ toString entries ++ " entries under " ++ toString keys ++ " keys."
  | encoded keys entries octets =>
    "Encoded " ++ toString keys ++ " keys / " ++ toString entries ++ " entries ("
      ++ toString octets ++ " bytes)."
  | decoded keys entries =>
    "Decoded " ++ toString keys ++ " keys / " ++ toString entries ++ " entries."
  | collapsed key duplicates values =>
    "Slot " ++ key.display ++ ": " ++ toString duplicates ++ " of " ++ toString values
      ++ " values were duplicates and collapsed."
  | written entries path => "Wrote " ++ toString entries ++ " entries to " ++ path ++ "."

-- ============================================================ outcomes

/-- The state after an operation, its result, and what it reported. -/
structure Outcome (σ α : Type) where
  state : σ
  result : Except Fault α
  events : List Event

namespace Outcome

variable {σ τ α β : Type}

/-- A successful operation. -/
def done (s : σ) (a : α) (events : List Event := []) : Outcome σ α := ⟨s, .ok a, events⟩

/-- A failed operation and the state it left. -/
def failed (s : σ) (e : Fault) : Outcome σ α := ⟨s, .error e, []⟩

/-- Goes on from the state and result of an operation that succeeded. -/
def andThen (o : Outcome σ α) (f : σ → α → Outcome σ β) : Outcome σ β :=
  match o.result with
  | .ok a =>
    let next := f o.state a
    ⟨next.state, next.result, o.events ++ next.events⟩
  | .error e => ⟨o.state, .error e, o.events⟩

/-- The same outcome with another result. -/
def mapResult (o : Outcome σ α) (f : α → β) : Outcome σ β :=
  ⟨o.state, o.result.map f, o.events⟩

/-- The same outcome with another cause of failure. -/
def mapFault (o : Outcome σ α) (f : Fault → Fault) : Outcome σ α :=
  ⟨o.state, o.result.mapError f, o.events⟩

/-- An operation that only reads. -/
def reading (s : σ) (r : Except Fault α) : Outcome σ α := ⟨s, r, []⟩

/-- An operation that either fails, changing nothing, or gives a new state. -/
def ofExcept (s : σ) (r : Except Fault (σ × α)) : Outcome σ α :=
  match r with
  | .ok (s', a) => .done s' a
  | .error e => .failed s e

end Outcome

end Collation
