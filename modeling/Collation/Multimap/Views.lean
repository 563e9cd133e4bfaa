/-
Views of a multimap. A view keeps nothing but whose it is (and, for the
values of one key, that key): every reading looks the key up again, so it
can fail, and every writing goes through the multimap's own operations and
gives the changed multimap back.
-/
import Collation.Multimap.Basic

namespace Collation

/-- The values under one key, present or not. -/
structure SlotView where
  multimap : Multimap
  key : Value

/-- The keys as a set. -/
structure KeyView where
  multimap : Multimap

/-- The multimap as a map from keys to the views of their values. -/
structure MapView where
  multimap : Multimap

namespace SlotView

-- ============================================================== reading

def values? (v : SlotView) : Except Fault (Option OrderedSet) := v.multimap.valuesAt? v.key

def items (v : SlotView) : Except Fault (List Value) :=
  v.values?.map fun s => (s.map OrderedSet.items).getD []

def size (v : SlotView) : Except Fault Nat := v.items.map List.length

def contains (v : SlotView) (x : Value) : Except Fault Bool :=
  match v.values? with
  | .error e => .error e
  | .ok none => .ok false
  | .ok (some values) => values.contains x

def comparator (v : SlotView) : Comparator := v.multimap.valueComparator

def display (v : SlotView) : Except Fault String := v.items.map Value.displayList

/-- The end of a view that a message speaks of. -/
def emptyAbout (v : SlotView) (operation : String) : String :=
  operation ++ "() on empty values for key " ++ v.key.display

def first (v : SlotView) : Except Fault Value := do
  match ← v.values? with
  | some values => values.first
  | none => throw (.emptyEnd (v.emptyAbout "first"))

def last (v : SlotView) : Except Fault Value := do
  match ← v.values? with
  | some values => values.last
  | none => throw (.emptyEnd (v.emptyAbout "last"))

/-- Navigates in the values, nowhere if there are none. -/
def navigate (v : SlotView) (go : OrderedSet → Except Fault (Option Value)) :
    Except Fault (Option Value) := do
  match ← v.values? with
  | some values => go values
  | none => return none

def lower (v : SlotView) (x : Value) : Except Fault (Option Value) := v.navigate (·.lower x)

def floor (v : SlotView) (x : Value) : Except Fault (Option Value) := v.navigate (·.floor x)

def ceiling (v : SlotView) (x : Value) : Except Fault (Option Value) :=
  v.navigate (·.ceiling x)

def higher (v : SlotView) (x : Value) : Except Fault (Option Value) :=
  v.navigate (·.higher x)

def range (v : SlotView) (r : Bisect.Range) : Except Fault (List Value) := do
  match ← v.values? with
  | some values => values.range r
  | none => return []

/-- The present values as a set of its own. -/
def copy (v : SlotView) : Except Fault OrderedSet := do
  OrderedSet.ofList v.comparator (← v.items)

-- ============================================================== writing

def add (v : SlotView) (x : Value) : Outcome Multimap Bool := v.multimap.put v.key x

def discard (v : SlotView) (x : Value) : Outcome Multimap Bool :=
  v.multimap.remove v.key x

/-- Like `discard`, but an error if the value is not there. -/
def remove (v : SlotView) (x : Value) : Outcome Multimap Unit :=
  match v.contains x with
  | .error e => .failed v.multimap e
  | .ok false => .failed v.multimap (.absent x)
  | .ok true => (v.discard x).mapResult fun _ => ()

def clear (v : SlotView) : Outcome Multimap Unit :=
  (v.multimap.removeAll v.key).mapResult fun _ => ()

/-- Takes out the value at one end. -/
def popEnd (v : SlotView) (operation : String)
    (pick : OrderedSet → Except Fault Value) : Outcome Multimap Value :=
  match v.values? with
  | .error e => .failed v.multimap e
  | .ok none => .failed v.multimap (.emptyPop (v.emptyAbout operation))
  | .ok (some values) =>
    match pick values with
    | .error e => .failed v.multimap e
    | .ok x => (v.discard x).mapResult fun _ => x

def popFirst (v : SlotView) : Outcome Multimap Value := v.popEnd "pop_first" OrderedSet.first

def popLast (v : SlotView) : Outcome Multimap Value := v.popEnd "pop_last" OrderedSet.last

end SlotView

namespace KeyView

def items (v : KeyView) : List Value := v.multimap.keys

def size (v : KeyView) : Nat := v.multimap.map.size

def contains (v : KeyView) (k : Value) : Except Fault Bool := v.multimap.containsKey k

def comparator (v : KeyView) : Comparator := v.multimap.keyComparator

def display (v : KeyView) : String := Value.displayList v.items

def range (v : KeyView) (r : Bisect.Range) : Except Fault (List Value) :=
  v.multimap.map.keyRange r

/-- Takes a key out with its values; tells whether any value went. -/
def discard (v : KeyView) (k : Value) : Outcome Multimap Bool :=
  (v.multimap.removeAll k).mapResult fun values => values.size != 0

/-- Like `discard`, but an error if nothing went. -/
def remove (v : KeyView) (k : Value) : Outcome Multimap Unit :=
  (v.discard k).andThen fun m gone => if gone then .done m () else .failed m (.absent k)

/-- Takes out the key at one end. -/
def popEnd (v : KeyView) (operation : String)
    (pick : OrderedMap OrderedSet → Except Fault Value) : Outcome Multimap Value :=
  if v.size = 0 then
    .failed v.multimap (.emptyPop (operation ++ "() on an empty key set"))
  else
    match pick v.multimap.map with
    | .error e => .failed v.multimap e
    | .ok k => (v.multimap.removeAll k).mapResult fun _ => k

def popFirst (v : KeyView) : Outcome Multimap Value := v.popEnd "pop_first" OrderedMap.firstKey

def popLast (v : KeyView) : Outcome Multimap Value := v.popEnd "pop_last" OrderedMap.lastKey

end KeyView

namespace MapView

def keys (v : MapView) : List Value := v.multimap.keys

def size (v : MapView) : Nat := v.multimap.map.size

def contains (v : MapView) (k : Value) : Except Fault Bool := v.multimap.containsKey k

/-- The view of the values under a key that is present, by the key object
that its slot holds. -/
def get (v : MapView) (k : Value) : Except Fault SlotView := do
  if !(← v.contains k) then throw (.absent k)
  return ⟨v.multimap, ← v.multimap.map.storedKey k⟩

/-- The view under a key, none where the look-up finds no key. -/
def get? (v : MapView) (k : Value) : Except Fault (Option SlotView) :=
  match v.get k with
  | .ok s => .ok (some s)
  | .error e => if e.isAbsence then .ok none else .error e

/-- Each key with its view, every key looked up again. -/
def items (v : MapView) : Except Fault (List (Value × SlotView)) :=
  v.keys.mapM fun k => do return (k, ← v.get k)

/-- Each key with the values that its view reads. -/
def listing (v : MapView) : Except Fault (List (Value × List Value)) :=
  v.keys.mapM fun k => do return (k, ← (← v.get k).items)

def display (v : MapView) : Except Fault String := do
  let parts ← v.keys.mapM fun k => do
    let view ← v.get k
    let shown := k.display
    return shown ++ ": " ++ (← view.display)
  return "\x7b" ++ Value.commaSeparated parts ++ "\x7d"

def erase (v : MapView) (k : Value) : Outcome Multimap Unit :=
  match v.contains k with
  | .error e => .failed v.multimap e
  | .ok false => .failed v.multimap (.absent k)
  | .ok true => (v.multimap.removeAll k).mapResult fun _ => ()

/-- Takes a key out and gives its values; none if the key is absent. -/
def pop? (v : MapView) (k : Value) : Outcome Multimap (Option OrderedSet) :=
  match v.contains k with
  | .error e => .failed v.multimap e
  | .ok false => .done v.multimap none
  | .ok true => (v.multimap.removeAll k).mapResult some

/-- Takes a key out and gives its values; an error if the key is absent. -/
def pop (v : MapView) (k : Value) : Outcome Multimap OrderedSet :=
  (v.pop? k).andThen fun m values =>
    match values with
    | some s => .done m s
    | none => .failed m (.absent k)

end MapView

namespace Multimap

/-- The multimap as a map from keys to value sets. -/
def asMap (m : Multimap) : MapView := ⟨m⟩

/-- Whether an item stands for an entry that is present; what has not two
parts stands for none. -/
def containsItem (m : Multimap) (item : Value) : Except Fault Bool :=
  match entryOf item with
  | .error e => if e.isA "TypeError" || e.isA "ValueError" then .ok false else .error e
  | .ok (k, v) => m.containsEntry k v

/-- The entries as tuples. -/
def entryTuples (m : Multimap) : List Value := m.entries.map fun e => .tuple [e.1, e.2]

def display (m : Multimap) : Except Fault String :=
  m.asMap.display.map fun shown => "SortedMultimap(" ++ shown ++ ")"

end Multimap

end Collation
