/-
Multimaps: each key holds a non-empty ordered set of values. A slot is
made by the first value put under its key and goes with the last one; the
number of entries is kept, not counted. Keys are told apart by the key
comparator, values by the value comparator, and neither is trusted: each
operation says in its outcome what it had changed when a comparison
failed.
-/
import Collation.OrderedMap
import Collation.OrderedSet

namespace Collation

structure Multimap where
  /-- From a key to its values. -/
  map : OrderedMap OrderedSet
  valueComparator : Comparator
  /-- The number of entries. -/
  total : Nat

namespace Multimap

def keyComparator (m : Multimap) : Comparator := m.map.comparator

def empty (keys values : Comparator) : Multimap := ⟨.empty keys, values, 0⟩

/-- An empty multimap by the two comparators, both of which must be given. -/
def create (keys values : Option Comparator) : Except Fault Multimap :=
  match keys, values with
  | none, _ => .error (.misuse .withoutKeyComparator)
  | _, none => .error (.misuse .withoutValueComparator)
  | some k, some v => .ok (empty k v)

def isEmpty (m : Multimap) : Bool := m.total == 0

/-- The keys in order. -/
def keys (m : Multimap) : List Value := m.map.keys

/-- The entries: keys in key order, under each its values in value order. -/
def entries (m : Multimap) : List (Value × Value) :=
  m.map.slots.flatMap fun s => s.value.items.map fun v => (s.key, v)

/-- The values of all entries. -/
def values (m : Multimap) : List Value := m.map.slots.flatMap fun s => s.value.items

-- ============================================================== looking

/-- The set of values under a key, none if the look-up finds no key. -/
def valuesAt? (m : Multimap) (k : Value) : Except Fault (Option OrderedSet) := m.map.get? k

def containsKey (m : Multimap) (k : Value) : Except Fault Bool := m.map.contains k

/-- Whether one of the slots, asked in order, holds a value. -/
def anyHolds (v : Value) : List (Slot OrderedSet) → Except Fault Bool
  | [] => .ok false
  | s :: rest =>
    match s.value.contains v with
    | .error e => .error e
    | .ok true => .ok true
    | .ok false => anyHolds v rest

def containsValue (m : Multimap) (v : Value) : Except Fault Bool := anyHolds v m.map.slots

def containsEntry (m : Multimap) (k v : Value) : Except Fault Bool :=
  match m.valuesAt? k with
  | .error e => .error e
  | .ok none => .ok false
  | .ok (some values) => values.contains v

-- ============================================================= changing

/-- Refuses a null that its comparator cannot compare with itself. -/
def checkEntry (m : Multimap) (k v : Value) : Except Fault Unit := do
  if k.isNull then m.keyComparator.checkAcceptsNull "key"
  if v.isNull then m.valueComparator.checkAcceptsNull "value"

/-- Puts a value under a key; tells whether the entry is new. -/
def put (m : Multimap) (k v : Value) : Outcome Multimap Bool :=
  match m.checkEntry k v with
  | .error e => .failed m e
  | .ok () =>
    match m.map.locate? k with
    | .error e => .failed m e
    | .ok (some (i, values)) =>
      match values.add v with
      | .error e => .failed m e
      | .ok (_, false) => .done m false
      | .ok (grown, true) =>
        .done { m with map := m.map.setAt i grown, total := m.total + 1 } true
    | .ok none =>
      match (OrderedSet.empty m.valueComparator).add v with
      | .error e => .failed m e
      | .ok (values, _) =>
        match m.map.set k values with
        | .error e => .failed m e
        | .ok map => .done { m with map, total := m.total + 1 } true [.slotCreated k]

/-- Takes an entry out; tells whether it was there. The value goes first,
then, with the last one, the slot, which is looked up anew. -/
def remove (m : Multimap) (k v : Value) : Outcome Multimap Bool :=
  match m.map.locate? k with
  | .error e => .failed m e
  | .ok none => .done m false
  | .ok (some (i, values)) =>
    match values.discard v with
    | .error e => .failed m e
    | .ok (_, false) => .done m false
    | .ok (rest, true) =>
      let shrunk := { m with map := m.map.setAt i rest, total := m.total - 1 }
      if rest.isEmpty then
        match shrunk.map.erase k with
        | .error e => .failed shrunk e
        | .ok map => .done { shrunk with map } true [.slotEmptied k]
      else .done shrunk true

/-- Takes a key out with all its values, which are the result. -/
def removeAll (m : Multimap) (k : Value) : Outcome Multimap OrderedSet :=
  match m.map.pop? k with
  | .error e => .failed m e
  | .ok (_, none) => .done m (.empty m.valueComparator)
  | .ok (map, some values) =>
    .done { m with map, total := m.total - values.size } values
      [.slotRemoved k values.size]

/-- Puts several values under a key; tells whether any entry is new. -/
def putEach (m : Multimap) (k : Value) : List Value → Outcome Multimap Bool
  | [] => .done m false
  | v :: vs =>
    (m.put k v).andThen fun m' isNew =>
      (putEach m' k vs).mapResult (isNew || ·)

/-- Puts several entries; tells whether any is new. -/
def putEntries (m : Multimap) : List (Value × Value) → Outcome Multimap Bool
  | [] => .done m false
  | (k, v) :: rest =>
    (m.put k v).andThen fun m' isNew => (putEntries m' rest).mapResult (isNew || ·)

/-- The two parts of an item that stands for an entry. -/
def entryOf (item : Value) : Except Fault (Value × Value) :=
  match item.walk? with
  | none => .error (.notUnpackable item.typeName)
  | some (.error e) => .error e
  | some (.ok [k, v]) => .ok (k, v)
  | some (.ok parts) =>
    if parts.length < 2 then .error (.tooFewParts parts.length) else .error .tooManyParts

/-- Puts the entries that some items stand for, each taken apart only when
its turn comes. -/
def putItems (m : Multimap) : List Value → Outcome Multimap Bool
  | [] => .done m false
  | item :: rest =>
    match entryOf item with
    | .error e => .failed m e
    | .ok (k, v) =>
      (m.put k v).andThen fun m' isNew => (putItems m' rest).mapResult (isNew || ·)

/-- Replaces the values under a key; the former ones are the result. -/
def replaceValues (m : Multimap) (k : Value) (incoming : List Value) :
    Outcome Multimap OrderedSet :=
  (m.removeAll k).andThen fun m' previous =>
    (m'.putEach k incoming).mapResult fun _ => previous

def clear (m : Multimap) : Multimap := empty m.keyComparator m.valueComparator

/-- A naturally ordered multimap of the entries that some items stand for. -/
def copyOf (items : List Value) : Outcome Multimap Unit :=
  ((empty .natural .natural).putItems items).andThen fun m _ =>
    .done m () [.copied m.total m.map.size]

end Multimap

end Collation
