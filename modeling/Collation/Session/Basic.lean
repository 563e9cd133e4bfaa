/-
Sessions: things that are made, named and changed call by call. A session
keeps every thing at a place of its own, and the place is who the thing
is: a name, a view and an object among plain values all speak of a thing
by its place, so that each sees what the others changed. A call may fail
after it has changed something; what it changed stays.
-/
import Collation.Operand
import Collation.Comparator.Keys
import Collation.Comparator.Registry
import Collation.Files
import Collation.Settings

namespace Collation

/-- The place of a thing in its session. -/
abbrev Ref := Nat

/-- What a view of a whole container shows. -/
inductive ViewKind where
  /-- The keys, the map, the entries and the values of a multimap. -/
  | keySet
  | asMap
  | entries
  | values
  /-- The entries and the values of a multimap's map. -/
  | viewItems
  | viewValues
  /-- The keys, the entries and the values of an ordered map. -/
  | mapKeys
  | mapItems
  | mapValues

/-- What a session holds at a place. -/
inductive Thing where
  | plain (v : Value)
  | orderedSet (s : OrderedSet)
  | multimap (m : Multimap)
  | orderedMap (m : OrderedMap Value)
  | registry (r : Registry)
  | comparator (c : Comparator)
  | document (d : Wire.Document)
  /-- The values of a multimap under one key. -/
  | slotView (owner : Ref) (key : Value)
  | view (kind : ViewKind) (owner : Ref)
  deriving Inhabited

structure Session where
  things : Array Thing
  /-- What each name stands for, the latest first. -/
  names : List (String × Ref)
  /-- What was reported since the events were last taken. -/
  events : List Event := []
  folder : Folder := .empty
  settings : Settings
  /-- How many marks were given out to tell NaNs apart. -/
  marks : Nat := 0

namespace Session

/-- The place of the registry that is there from the start. -/
def defaultRegistry : Ref := Comparator.builtins.length

/-- A session in which nothing was done. The ready-made comparators are at
the places that are their identities. -/
def start (settings : Settings) : Session where
  things := (Comparator.builtins.map fun b => Thing.comparator b.2).toArray.push
    (.registry .withBuiltins)
  names := [("default_registry", defaultRegistry)]
  settings

instance : Inhabited Session := ⟨start {}⟩

end Session

/-- Something done in a session. -/
abbrev Action := ExceptT Fault (StateM Session)

namespace Action

variable {α : Type}

/-- A number that no other call of this was given. -/
def freshMark : Action Nat := do
  let s ← get
  set { s with marks := s.marks + 1 }
  return s.marks

-- ============================================================== things

/-- Puts a thing at a new place. -/
def add (t : Thing) : Action Ref := do
  let s ← get
  set { s with things := s.things.push t }
  return s.things.size

def thing (r : Ref) : Action Thing := do return (← get).things.getD r (.plain .null)

def replace (r : Ref) (t : Thing) : Action Unit :=
  modify fun s => { s with things := s.things.setIfInBounds r t }

def addPlain (v : Value) : Action Ref := add (.plain v)

/-- The place of what a value stands for. -/
def ofValue (v : Value) : Action Ref :=
  match v with
  | .object ⟨some r, _, _, _, _, _, _⟩ _ => pure r
  | v => addPlain v

/-- A comparator of a comparison; its place is its identity. -/
def addComparator (c : Comparison) (unhashableAs : Option String := none) : Action Ref := do
  add (.comparator { identity := (← get).things.size, compare := c, unhashableAs })

/-- The place that a name stands for; a name that stands for nothing is an
absent key. -/
def named (name : String) : Action Ref := do
  match (← get).names.lookup name with
  | some r => return r
  | none => throw (.absent (.text name))

def name (name : String) (r : Ref) : Action Unit :=
  modify fun s => { s with names := (name, r) :: s.names.filter fun e => e.1 != name }

-- ========================================================== containers

def orderedSet (r : Ref) : Action OrderedSet := do
  match ← thing r with
  | .orderedSet s => return s
  | _ => return .empty .natural

def multimap (r : Ref) : Action Multimap := do
  match ← thing r with
  | .multimap m => return m
  | _ => return .empty .natural .natural

def orderedMap (r : Ref) : Action (OrderedMap Value) := do
  match ← thing r with
  | .orderedMap m => return m
  | _ => return .empty .natural

def registry (r : Ref) : Action Registry := do
  match ← thing r with
  | .registry g => return g
  | _ => return .empty

/-- Keeps the state and the events of an outcome, and goes on with its
result. -/
def keep {σ : Type} (put : σ → Action Unit) (o : Outcome σ α) : Action α := do
  put o.state
  modify fun s => { s with events := s.events ++ o.events }
  ofExcept o.result

/-- Keeps the events of an outcome that has no state. -/
def keepEvents (o : Outcome Unit α) : Action α := keep (fun _ => pure ()) o

def changeSet (r : Ref) (change : OrderedSet → Except Fault (OrderedSet × α)) : Action α := do
  let (s, a) ← ofExcept (change (← orderedSet r))
  replace r (.orderedSet s)
  return a

def changeMap (r : Ref)
    (change : OrderedMap Value → Except Fault (OrderedMap Value × α)) : Action α := do
  let (m, a) ← ofExcept (change (← orderedMap r))
  replace r (.orderedMap m)
  return a

def changeMultimap (r : Ref) (change : Multimap → Outcome Multimap α) : Action α := do
  keep (fun m => replace r (.multimap m)) (change (← multimap r))

-- ============================================================= reading

/-- A view of a container as an operand. -/
def viewOf (kind : ViewKind) (owner : Ref) : Action Operand := do
  match kind with
  | .keySet => return .keyView ⟨← multimap owner⟩
  | .asMap => return .mapView ⟨← multimap owner⟩
  | .entries => return .entryView (← multimap owner)
  | .values => return .valueView (← multimap owner)
  | .viewItems => return .viewItems ⟨← multimap owner⟩
  | .viewValues => return .viewValues ⟨← multimap owner⟩
  | .mapKeys => return .mapKeys (← orderedMap owner)
  | .mapItems => return .mapItems (← orderedMap owner)
  | .mapValues => return .mapValues (← orderedMap owner)

/-- A thing as an operand, as it is now. -/
def operand (r : Ref) : Action Operand := do
  match ← thing r with
  | .plain v => return .value v
  | .orderedSet s => return .orderedSet s
  | .multimap m => return .multimap m
  | .orderedMap m => return .orderedMap m
  | .registry _ => return .other "ComparatorRegistry" true
  | .comparator c => return .other (c.unhashableAs.getD "function") c.unhashableAs.isNone
  | .document d => return .document d
  | .slotView owner key => return .slotView ⟨← multimap owner, key⟩
  | .view kind owner => viewOf kind owner

/-- The value that stands for a thing among plain ones. -/
def value (r : Ref) : Action Value := do return (← operand r).toValue (some r)

/-- A value as it is now; one that stands for a thing is read again. -/
def asNow (v : Value) : Action Value :=
  match v with
  | .object ⟨some r, _, _, _, _, _, _⟩ _ => value r
  | v => pure v

def typeName (r : Ref) : Action String := do return (← operand r).typeName

/-- The view of the values under a key, among plain values. -/
def slotValue (owner : Ref) (key : Value) : Action Value := do
  value (← add (.slotView owner key))

/-- The value for an element of a container; views of values get a place. -/
def element (owner : Ref) : Operand → Action Value
  | .slotView v => slotValue owner v.key
  | .pair k (.slotView v) => do return .tuple [k, ← slotValue owner v.key]
  | o => return o.toValue none

/-- Who the elements of a thing belong to: those of a view to what it views. -/
def ownerOfElements (r : Ref) : Action Ref := do
  match ← thing r with
  | .view _ owner => return owner
  | _ => return r

/-- The elements of a thing as values, each as its reading goes. -/
def readings (r : Ref) : Action (List (Except Fault Value)) := do
  let owner ← ownerOfElements r
  (← operand r).elements.mapM fun
    | .ok x => do return .ok (← element owner x)
    | .error e => return .error e

/-- The elements of a thing as values, all of them. A multimap that is read
by position does not end, and there is no room for what it gives. -/
def elements (r : Ref) : Action (List Value) := do
  match ← operand r with
  | .multimap _ => throw .outOfMemory
  | _ => ofExcept ((← readings r).mapM id)

/-- The element of a thing at a position, as the thing is now; none past
the end. -/
def elementAt (r : Ref) (i : Nat) : Action (Option Value) := do
  match (← operand r).elementAt? i with
  | none => return none
  | some reading => return some (← element (← ownerOfElements r) (← ofExcept reading))

/-- What may be given in place of a comparator; only a call of it shows
that it is none. -/
def comparator (r : Ref) : Action Comparator := do
  match ← thing r with
  | .comparator c => return c
  | _ =>
    let o ← operand r
    return {
      identity := r
      compare := .failing (.notCallable o.typeName)
      unhashableAs := if o.isHashable then none else some o.typeName
      display := (o.display.toOption).getD "" }

end Action

end Collation
