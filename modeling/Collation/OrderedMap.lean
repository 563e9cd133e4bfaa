/-
Maps ordered by a comparator on their keys. Equivalent keys share one
slot; the key that made the slot is the one kept, and assigning through an
equivalent key replaces the value alone.
-/
import Collation.Bisect
import Collation.Outcome

namespace Collation

structure Slot (β : Type) where
  key : Value
  value : β

structure OrderedMap (β : Type) where
  comparator : Comparator
  /-- The slots in ascending order of their keys. -/
  slots : List (Slot β)

namespace OrderedMap

variable {β : Type}

def empty (c : Comparator) : OrderedMap β := ⟨c, []⟩

def size (m : OrderedMap β) : Nat := m.slots.length

def keys (m : OrderedMap β) : List Value := m.slots.map Slot.key

/-- The index of the slot for a key. -/
def find (m : OrderedMap β) (k : Value) : Except Fault (Option Nat) :=
  Bisect.find m.comparator.compare Slot.key m.slots k

def contains (m : OrderedMap β) (k : Value) : Except Fault Bool :=
  (m.find k).map Option.isSome

/-- The slot for a key; an error if there is none. -/
def slot (m : OrderedMap β) (k : Value) : Except Fault (Slot β) :=
  match m.find k with
  | .error e => .error e
  | .ok i =>
    match i.bind (m.slots[·]?) with
    | some s => .ok s
    | none => .error (.absent k)

/-- The value under a key. -/
def get (m : OrderedMap β) (k : Value) : Except Fault β := (m.slot k).map Slot.value

/-- The key object that the slot for a key holds. -/
def storedKey (m : OrderedMap β) (k : Value) : Except Fault Value := (m.slot k).map Slot.key

/-- The place of the slot for a key and the value there, or none where the
look-up finds no key: an absence met by the comparator counts as one. -/
def locate? (m : OrderedMap β) (k : Value) : Except Fault (Option (Nat × β)) :=
  match m.find k with
  | .ok i => .ok (i.bind fun i => (m.slots[i]?).map fun s => (i, s.value))
  | .error e => if e.isAbsence then .ok none else .error e

/-- The value under a key, or none where the look-up finds no key. -/
def get? (m : OrderedMap β) (k : Value) : Except Fault (Option β) :=
  (m.locate? k).map (·.map Prod.snd)

/-- The map with the value of the slot at an index replaced. -/
def setAt (m : OrderedMap β) (i : Nat) (v : β) : OrderedMap β :=
  { m with slots := m.slots.modify i fun s => { s with value := v } }

/-- The map with a value assigned to a key. -/
def set (m : OrderedMap β) (k : Value) (v : β) : Except Fault (OrderedMap β) :=
  match m.find k with
  | .error e => .error e
  | .ok (some i) => .ok (m.setAt i v)
  | .ok none =>
    (Bisect.insert m.comparator.compare Slot.key m.slots ⟨k, v⟩).map fun slots =>
      { m with slots }

/-- The map without the slot for a key; an error if there is none. -/
def erase (m : OrderedMap β) (k : Value) : Except Fault (OrderedMap β) :=
  match m.find k with
  | .error e => .error e
  | .ok (some i) => .ok { m with slots := m.slots.eraseIdx i }
  | .ok none => .error (.absent k)

def clear (m : OrderedMap β) : OrderedMap β := empty m.comparator

/-- Looks a key up and takes its slot out. -/
def pop (m : OrderedMap β) (k : Value) : Except Fault (OrderedMap β × β) := do
  let v ← m.get k
  let rest ← m.erase k
  return (rest, v)

/-- Like `pop`, with none where the look-up finds no key. -/
def pop? (m : OrderedMap β) (k : Value) : Except Fault (OrderedMap β × Option β) :=
  match m.get? k with
  | .error e => .error e
  | .ok none => .ok (m, none)
  | .ok (some v) => (m.erase k).map fun rest => (rest, some v)

/-- Takes out the slot of the least key. -/
def popItem (m : OrderedMap β) : Except Fault (OrderedMap β × Value × β) :=
  match m.slots.head? with
  | none => .error .nothingToPop
  | some s => (m.pop s.key).map fun (rest, v) => (rest, s.key, v)

/-- The value under a key, which is first set where there is none. -/
def setDefault (m : OrderedMap β) (k : Value) (v : β) : Except Fault (OrderedMap β × β) :=
  match m.get? k with
  | .error e => .error e
  | .ok (some found) => .ok (m, found)
  | .ok none => (m.set k v).map fun m' => (m', v)

/-- Assigns several entries one after the other, each read from a source
just before; what was assigned before a failure stays. -/
def setEach {α : Type} (m : OrderedMap β) (read : α → Except Fault (Value × β)) :
    List α → Outcome (OrderedMap β) Unit
  | [] => .done m ()
  | x :: xs =>
    match read x with
    | .error e => .failed m e
    | .ok (k, v) =>
      match m.set k v with
      | .error e => .failed m e
      | .ok m' => setEach m' read xs

-- ========================================================== navigation

def firstKey (m : OrderedMap β) : Except Fault Value :=
  match m.slots.head? with
  | some s => .ok s.key
  | none => .error (.emptyEnd "first_key() on an empty map")

def lastKey (m : OrderedMap β) : Except Fault Value :=
  match m.slots.getLast? with
  | some s => .ok s.key
  | none => .error (.emptyEnd "last_key() on an empty map")

/-- The greatest key below a value. -/
def lowerKey (m : OrderedMap β) (k : Value) : Except Fault (Option Value) :=
  (Bisect.lower m.comparator.compare Slot.key m.slots k).map (·.map Slot.key)

/-- The greatest key below or equivalent to a value. -/
def floorKey (m : OrderedMap β) (k : Value) : Except Fault (Option Value) :=
  (Bisect.floor m.comparator.compare Slot.key m.slots k).map (·.map Slot.key)

/-- The least key above or equivalent to a value. -/
def ceilingKey (m : OrderedMap β) (k : Value) : Except Fault (Option Value) :=
  (Bisect.ceiling m.comparator.compare Slot.key m.slots k).map (·.map Slot.key)

/-- The least key above a value. -/
def higherKey (m : OrderedMap β) (k : Value) : Except Fault (Option Value) :=
  (Bisect.higher m.comparator.compare Slot.key m.slots k).map (·.map Slot.key)

/-- The keys in a range. -/
def keyRange (m : OrderedMap β) (r : Bisect.Range) : Except Fault (List Value) :=
  (r.select m.comparator.compare Slot.key m.slots).map (·.map Slot.key)

end OrderedMap

end Collation
