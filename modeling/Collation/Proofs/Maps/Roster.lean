/-
Maps kept the naive way: slots in the order in which their keys came. A
key is found by going through all of them and asking the comparator for
zero, and nothing is sorted before it is listed. A slot keeps the key that
made it; assigning through an equivalent key replaces the value, and a key
that comes again after its slot went makes a new slot.

`OrderedMap.Request` is what can be asked of a map, naive or not, and
`OrderedMap.Response` what comes back, failures included. To take in the
entries of something is to assign them one by one, each as its reading
goes: a reading may fail, and then the entries before it are assigned.
-/
import Collation.Proofs.Maps.Order
import Collation.Proofs.Multimap.Lookup

namespace Collation

/-- The slots of a naive map by a comparator. -/
structure Roster (c : Comparator) (β : Type) where
  slots : List (Slot β)

namespace Roster

variable {c : Comparator} {β : Type}

def empty : Roster c β := ⟨[]⟩

/-- The slot is that of an equivalent key. -/
def isFor (c : Comparator) (k : Value) (s : Slot β) : Bool := c.compare.same s.key k

variable (l : Roster c β)

-- ============================================================== reading

def slot? (k : Value) : Option (Slot β) := l.slots.find? (isFor c k)

/-- The slot for a key; an error if there is none. -/
def slot (k : Value) : Except Fault (Slot β) :=
  match l.slot? k with
  | some s => .ok s
  | none => .error (.absent k)

def contains (k : Value) : Bool := (l.slot? k).isSome

/-- The slots in the order of their keys. -/
def listed : List (Slot β) := l.slots.mergeSort fun s t => c.compare.upTo s.key t.key

-- ============================================================= changing

/-- The value of the slot for a key replaced, or a new slot at the end. -/
def set (k : Value) (v : β) : Roster c β :=
  match l.slot? k with
  | some _ => ⟨l.slots.map fun s => if isFor c k s then { s with value := v } else s⟩
  | none => ⟨l.slots ++ [⟨k, v⟩]⟩

def without (k : Value) : Roster c β := ⟨l.slots.filter fun s => !isFor c k s⟩

def setEach (l : Roster c β) : List (Except Fault (Value × β)) → Roster c β × Except Fault Unit
  | [] => (l, .ok ())
  | .error e :: _ => (l, .error e)
  | .ok (k, v) :: rest => setEach (l.set k v) rest

end Roster

-- ============================================================== requests

namespace OrderedMap

variable {β : Type}

inductive Request (β : Type) where
  | change (change : Change β)
  /-- Taking in entries, each as its reading goes. -/
  | update (entries : List (Except Fault (Value × β)))
  | get (k : Value)
  /-- A look-up that has a default. -/
  | get? (k : Value)
  | contains (k : Value)
  | size
  | storedKey (k : Value)
  | items (backwards : Bool)

inductive Response (β : Type) where
  | nothing
  | value (v : β)
  /-- A value, or none where the default is the answer. -/
  | found (v : Option β)
  | item (k : Value) (v : β)
  | flag (b : Bool)
  | number (n : Nat)
  | key (k : Value)
  | items (slots : List (Slot β))
  | failure (e : Fault)

/-- The reply that a result makes. -/
def Response.of {α : Type} (f : α → Response β) : Except Fault α → Response β
  | .ok a => f a
  | .error e => .failure e

/-- The keys of a change are of the domain. -/
def Change.Within (D : Value → Prop) : Change β → Prop
  | set k _ | erase k | pop k _ | setDefault k _ => D k
  | popItem | clear => True

/-- The keys of a request are of the domain. -/
def Request.Within (D : Value → Prop) : Request β → Prop
  | .change c => c.Within D
  | .update entries => ∀ k v, .ok (k, v) ∈ entries → D k
  | .get k | .get? k | .contains k | .storedKey k => D k
  | .size | .items _ => True

/-- What a change replies. -/
def Change.response (m : OrderedMap β) : Change β → Response β
  | set k v => .of (fun _ => .nothing) (m.set k v)
  | erase k => .of (fun _ => .nothing) (m.erase k)
  | pop k true => .of (fun r => .found r.2) (m.pop? k)
  | pop k false => .of (fun r => .value r.2) (m.pop k)
  | popItem => .of (fun r => .item r.2.1 r.2.2) m.popItem
  | setDefault k v => .of (fun r => .value r.2) (m.setDefault k v)
  | clear => .nothing

/-- What a request leaves and what it replies. -/
def answer (m : OrderedMap β) : Request β → OrderedMap β × Response β
  | .change change => (change.after m, change.response m)
  | .update entries =>
    ((m.setEach id entries).state, .of (fun _ => .nothing) (m.setEach id entries).result)
  | .get k => (m, .of .value (m.get k))
  | .get? k => (m, .of .found (m.get? k))
  | .contains k => (m, .of .flag (m.contains k))
  | .size => (m, .number m.size)
  | .storedKey k => (m, .of .key (m.storedKey k))
  | .items backwards => (m, .items (if backwards then m.slots.reverse else m.slots))

/-- What is left after several requests, made one after the other, and the
replies to them. -/
def exchange {σ : Type} (answer : σ → Request β → σ × Response β) (s : σ) :
    List (Request β) → σ × List (Response β)
  | [] => (s, [])
  | request :: requests =>
    let (t, replies) := exchange answer (answer s request).1 requests
    (t, (answer s request).2 :: replies)

end OrderedMap

namespace Roster

open OrderedMap (Change Request Response)

variable {c : Comparator} {β : Type} (l : Roster c β)

def change : Change β → Roster c β × Response β
  | .set k v => (l.set k v, .nothing)
  | .erase k =>
    match l.slot? k with
    | some _ => (l.without k, .nothing)
    | none => (l, .failure (.absent k))
  | .pop k withDefault =>
    match l.slot? k, withDefault with
    | some s, true => (l.without k, .found (some s.value))
    | some s, false => (l.without k, .value s.value)
    | none, true => (l, .found none)
    | none, false => (l, .failure (.absent k))
  | .popItem =>
    match l.listed with
    | least :: _ => (l.without least.key, .item least.key least.value)
    | [] => (l, .failure .nothingToPop)
  | .setDefault k v =>
    match l.slot? k with
    | some s => (l, .value s.value)
    | none => (l.set k v, .value v)
  | .clear => (empty, .nothing)

def answer : Request β → Roster c β × Response β
  | .change change => l.change change
  | .update entries => ((l.setEach entries).1, .of (fun _ => .nothing) (l.setEach entries).2)
  | .get k => (l, .of .value ((l.slot k).map Slot.value))
  | .get? k => (l, .found ((l.slot? k).map Slot.value))
  | .contains k => (l, .flag (l.contains k))
  | .size => (l, .number l.slots.length)
  | .storedKey k => (l, .of .key ((l.slot k).map Slot.key))
  | .items backwards => (l, .items (if backwards then l.listed.reverse else l.listed))

end Roster

end Collation
