/-
Multimaps kept the naive way: rows in the order in which their keys came,
each with its values in the order in which they came. Keys and values are
found by going through all of them and asking the comparator for zero, and
nothing is sorted before it is listed. The row keeps the key that made it
and the first of equivalent values; it goes with its last value.

`Call` is what can be asked of a multimap, naive or not, and `Reply` what
comes back, failures included.
-/
import Collation.Multimap.Basic
import Mathlib.Algebra.GroupWithZero.Nat

namespace Collation

namespace Comparison

/-- The comparator gives zero. -/
def same (c : Comparison) (a b : Value) : Bool :=
  match c a b with
  | .ok r => r.isZero
  | .error _ => false

/-- The comparator gives zero or a negative number. -/
def upTo (c : Comparison) (a b : Value) : Bool :=
  match c a b with
  | .ok r => r.isNegative || r.isZero
  | .error _ => false

end Comparison

/-- A key and the values that came under it. -/
structure Row where
  key : Value
  values : List Value

/-- The rows of a naive multimap by the two comparators. -/
structure Ledger (keys values : Comparator) where
  rows : List Row

namespace Ledger

variable {keys values : Comparator}

def empty (keys values : Comparator) : Ledger keys values := ⟨[]⟩

/-- The row is that of an equivalent key. -/
def isFor (keys : Comparator) (k : Value) (r : Row) : Bool := keys.compare.same r.key k

/-- One of the values is equivalent to the value. -/
def holds (values : Comparator) (v : Value) (vs : List Value) : Bool :=
  vs.any fun w => values.compare.same w v

variable (l : Ledger keys values)

/-- The values of the row for a key. -/
def under (k : Value) : List Value := ((l.rows.find? (isFor keys k)).map Row.values).getD []

def containsKey (k : Value) : Bool := l.rows.any (isFor keys k)

def containsEntry (k v : Value) : Bool := holds values v (l.under k)

def containsValue (v : Value) : Bool := l.rows.any fun r => holds values v r.values

def size : Nat := (l.rows.map fun r => r.values.length).sum

-- ============================================================= listing

def sortValues (values : Comparator) (vs : List Value) : List Value :=
  vs.mergeSort values.compare.upTo

/-- The rows in the order of their keys, and their values in order. -/
def listed : List Row :=
  (l.rows.mergeSort fun r s => keys.compare.upTo r.key s.key).map fun r =>
    { r with values := sortValues values r.values }

def listedKeys : List Value := l.listed.map Row.key

def listedEntries : List (Value × Value) :=
  l.listed.flatMap fun r => r.values.map fun v => (r.key, v)

-- ============================================================ changing

/-- The row for a key changed, the others left alone. -/
def changeRow (k : Value) (change : List Value → List Value) : Ledger keys values :=
  ⟨l.rows.map fun r => if isFor keys k r then { r with values := change r.values } else r⟩

def put (k v : Value) : Ledger keys values × Bool :=
  if l.containsEntry k v then (l, false)
  else if l.containsKey k then (l.changeRow k (· ++ [v]), true)
  else (⟨l.rows ++ [⟨k, [v]⟩]⟩, true)

def dropEmpty : Ledger keys values := ⟨l.rows.filter fun r => !r.values.isEmpty⟩

def remove (k v : Value) : Ledger keys values × Bool :=
  if l.containsEntry k v then
    ((l.changeRow k (·.filter fun w => !values.compare.same w v)).dropEmpty, true)
  else (l, false)

/-- The values of a key that goes are the result, in order. -/
def removeAll (k : Value) : Ledger keys values × OrderedSet :=
  (⟨l.rows.filter fun r => !isFor keys k r⟩, ⟨values, sortValues values (l.under k)⟩)

def putEach (l : Ledger keys values) (k : Value) : List Value → Ledger keys values × Bool
  | [] => (l, false)
  | v :: vs =>
    let (l', isNew) := l.put k v
    let (l'', more) := putEach l' k vs
    (l'', isNew || more)

/-- An item that does not stand for an entry ends it all. -/
def putItems (l : Ledger keys values) : List Value → Ledger keys values × Except Fault Bool
  | [] => (l, .ok false)
  | item :: rest =>
    match Multimap.entryOf item with
    | .error e => (l, .error e)
    | .ok (k, v) =>
      let (l', isNew) := l.put k v
      let (l'', more) := putItems l' rest
      (l'', more.map (isNew || ·))

def replaceValues (k : Value) (vs : List Value) : Ledger keys values × OrderedSet :=
  let (l', previous) := l.removeAll k
  ((l'.putEach k vs).1, previous)

end Ledger

-- ================================================================ calls

inductive Call where
  | put (k v : Value)
  | putAll (k : Value) (vs : List Value)
  | putAllFrom (items : List Value)
  | remove (k v : Value)
  | removeAll (k : Value)
  | replaceValues (k : Value) (vs : List Value)
  | clear
  | containsKey (k : Value)
  | containsEntry (k v : Value)
  | containsValue (v : Value)
  | size
  | isEmpty
  | listKeys
  | listEntries

inductive Reply where
  | flag (b : Bool)
  /-- A set that is handed out. -/
  | snapshot (s : OrderedSet)
  | number (n : Nat)
  | keys (ks : List Value)
  | entries (es : List (Value × Value))
  | nothing
  | failure (e : Fault)

/-- The reply that a result makes. -/
def Reply.of {α : Type} (f : α → Reply) : Except Fault α → Reply
  | .ok a => f a
  | .error e => .failure e

/-- The operands of a call that are compared as keys and as values are of
the two domains. -/
def Call.Within (K V : Value → Prop) : Call → Prop
  | put k v | remove k v | containsEntry k v => K k ∧ V v
  | putAll k vs | replaceValues k vs => K k ∧ ∀ v ∈ vs, V v
  | putAllFrom items => ∀ item ∈ items, ∀ k v, Multimap.entryOf item = .ok (k, v) → K k ∧ V v
  | removeAll k | containsKey k => K k
  | containsValue v => V v
  | clear | size | isEmpty | listKeys | listEntries => True

def Ledger.answer {keys values : Comparator} (l : Ledger keys values) :
    Call → Ledger keys values × Reply
  | .put k v => (l.put k v).map id .flag
  | .putAll k vs => (l.putEach k vs).map id .flag
  | .putAllFrom items => (l.putItems items).map id (.of .flag)
  | .remove k v => (l.remove k v).map id .flag
  | .removeAll k => (l.removeAll k).map id .snapshot
  | .replaceValues k vs => (l.replaceValues k vs).map id .snapshot
  | .clear => (.empty keys values, .nothing)
  | .containsKey k => (l, .flag (l.containsKey k))
  | .containsEntry k v => (l, .flag (l.containsEntry k v))
  | .containsValue v => (l, .flag (l.containsValue v))
  | .size => (l, .number l.size)
  | .isEmpty => (l, .flag l.rows.isEmpty)
  | .listKeys => (l, .keys l.listedKeys)
  | .listEntries => (l, .entries l.listedEntries)

/-- What an operation leaves and what it replies. -/
def Outcome.answer {σ α : Type} (o : Outcome σ α) (f : α → Reply) : σ × Reply :=
  (o.state, .of f o.result)

def Multimap.answer (m : Multimap) : Call → Multimap × Reply
  | .put k v => (m.put k v).answer .flag
  | .putAll k vs => (m.putEach k vs).answer .flag
  | .putAllFrom items => (m.putItems items).answer .flag
  | .remove k v => (m.remove k v).answer .flag
  | .removeAll k => (m.removeAll k).answer .snapshot
  | .replaceValues k vs => (m.replaceValues k vs).answer .snapshot
  | .clear => (m.clear, .nothing)
  | .containsKey k => (m, .of .flag (m.containsKey k))
  | .containsEntry k v => (m, .of .flag (m.containsEntry k v))
  | .containsValue v => (m, .of .flag (m.containsValue v))
  | .size => (m, .number m.total)
  | .isEmpty => (m, .flag m.isEmpty)
  | .listKeys => (m, .keys m.keys)
  | .listEntries => (m, .entries m.entries)

/-- The replies to several calls, one after the other. -/
def repliesTo {σ : Type} (answer : σ → Call → σ × Reply) (s : σ) : List Call → List Reply
  | [] => []
  | call :: calls => (answer s call).2 :: repliesTo answer (answer s call).1 calls

end Collation
