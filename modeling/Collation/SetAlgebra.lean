/-
Set operators and comparisons between operands of any kind. A set of this
library on either side makes the result, the left one first: an ordered
set or view builds ordered sets by its comparator, a map's keys or entries
build plain sets. A side that is a set decides membership by itself, any
other collection is first made into a set by the maker. Inclusion is
decided by sizes and by membership in one direction, so with unlike
comparators it depends on who asks. Where neither side is such a set, the
operators are those of plain values.
-/
import Collation.Operand
import Collation.Value.Algebra

namespace Collation

/-- How a set builds the results of its operators. -/
inductive Maker where
  /-- Ordered sets by a comparator. -/
  | ordered (c : Comparator)
  /-- Plain sets, whose elements must be hashable. -/
  | hashed

namespace Operand

def maker? : Operand → Option Maker
  | orderedSet s => some (.ordered s.comparator)
  | slotView v => some (.ordered v.comparator)
  | keyView v => some (.ordered v.comparator)
  | mapKeys _ | mapItems _ | viewItems _ => some .hashed
  | _ => none

end Operand

namespace Maker

open Operand

/-- The ordered set of those operands that pass a test, each tested just
before it is added. -/
def collectOrdered (test : Operand → Except Fault Bool) (s : OrderedSet) :
    List (Except Fault Operand) → Except Fault OrderedSet
  | [] => .ok s
  | reading :: xs => do
    let x ← reading
    if ← test x then collectOrdered test (← s.add (x.toValue none)).1 xs
    else collectOrdered test s xs

/-- The distinct ones of those operands that pass a test. -/
def collectHashed (test : Operand → Except Fault Bool) (found : List Value) :
    List (Except Fault Operand) → Except Fault (List Value)
  | [] => .ok found
  | reading :: xs => do
    let x ← reading
    if ← test x then
      let v := x.toValue none
      v.checkHashable
      collectHashed test (if found.any fun y => v.agree y then found else found ++ [v]) xs
    else collectHashed test found xs

/-- The set of those operands that pass a test. -/
def collect (mk : Maker) (test : Operand → Except Fault Bool)
    (xs : List (Except Fault Operand)) : Except Fault Operand :=
  match mk with
  | ordered c => (collectOrdered test (.empty c) xs).map .orderedSet
  | hashed => (collectHashed test [] xs).map fun found => .value (.set found)

/-- The set of some operands. -/
def ofList (mk : Maker) (xs : List (Except Fault Operand)) : Except Fault Operand :=
  mk.collect (fun _ => .ok true) xs

/-- An operand as a set: itself, or the set of its elements. -/
def asSet (mk : Maker) (o : Operand) : Except Fault Operand :=
  if o.isSet then .ok o else mk.ofList o.elements

/-- The elements of the first operand, then those of the second. -/
def union (mk : Maker) (a b : Operand) : Except Fault Operand :=
  mk.ofList (a.elements ++ b.elements)

/-- The elements of `b` that are also in `a`. -/
def inter (mk : Maker) (a b : Operand) : Except Fault Operand :=
  mk.collect (fun x => member x a) b.elements

/-- The elements of `a` that are not in `b`. -/
def diff (mk : Maker) (a b : Operand) : Except Fault Operand :=
  mk.collect (fun x => (member x b).map (!·)) a.elements

end Maker

namespace Operand

-- ============================================================ operators

/-- Applies an operator with the side that makes the result in front;
`swapped` tells that this is the right side. `plain` is the operator of two
plain values. -/
def operate (operator : String) (a b : Operand)
    (apply : Maker → Operand → Operand → (swapped : Bool) → Except Fault Operand)
    (plain : Value → Value → Option (Except Fault Value)) : Except Fault Operand :=
  let refusal : Except Fault Operand :=
    .error (.badOperands operator a.typeName b.typeName)
  match a.maker?, b.maker?, a, b with
  | some mk, _, _, _ => if b.isIterable then apply mk a b false else refusal
  | none, some mk, _, _ => if a.isIterable then apply mk b a true else refusal
  | none, none, value v, value w =>
    match plain v w with
    | some result => result.map value
    | none => refusal
  | none, none, _, _ => refusal

/-- `operator` is the spelling that an error gives: in place or not. -/
def union (a b : Operand) (operator : String := "|") : Except Fault Operand :=
  operate operator a b (fun mk own other _ => mk.union own other)
    fun v w => (v.union? w).map .ok

def inter (a b : Operand) (operator : String := "&") : Except Fault Operand :=
  operate operator a b (fun mk own other _ => mk.inter own other)
    fun v w => (v.inter? w).map .ok

def diff (a b : Operand) (operator : String := "-") : Except Fault Operand :=
  operate operator a b
    (fun mk own other swapped => do
      let other ← mk.asSet other
      if swapped then mk.diff other own else mk.diff own other)
    Value.diff?

def symmDiff (a b : Operand) (operator : String := "^") : Except Fault Operand :=
  operate operator a b
    (fun mk own other _ => do
      let other ← mk.asSet other
      let onlyOwn ← diff own other
      let onlyOther ← diff other own
      union onlyOwn onlyOther)
    fun v w => (v.symmDiff? w).map .ok

/-- Whether no element of `b` is in `a`. -/
def isDisjoint (a b : Operand) : Except Fault Bool :=
  noneHolds (fun reading => do member (← reading) a) b.elements

-- ============================================================ inclusion

/-- Every element of `a` is in `b`. -/
def subset (a b : Operand) : Except Fault Bool := do
  let m ← a.size
  if (← b.size) < m then return false
  allHold (fun reading => do member (← reading) b) a.elements

/-- Every element of `b` is in `a`, as `a` sees it. -/
def superset (a b : Operand) : Except Fault Bool := do
  let m ← a.size
  if m < (← b.size) then return false
  allHold (fun reading => do member (← reading) a) b.elements

def properSubset (a b : Operand) : Except Fault Bool := do
  let m ← a.size
  if m < (← b.size) then subset a b else return false

def properSuperset (a b : Operand) : Except Fault Bool := do
  let m ← a.size
  if (← b.size) < m then superset a b else return false

def sameSet (a b : Operand) : Except Fault Bool := do
  let m ← a.size
  if m == (← b.size) then subset a b else return false

/-- How a set of this library stands to another set. -/
def included : Relation → Operand → Operand → Except Fault Bool
  | .below => properSubset
  | .atMost => subset
  | .above => properSuperset
  | .atLeast => superset

/-- Whether an operand stands to another in a relation. Of two sets the
left one is asked, or the right one the converse question when the left
one has no answer to such an operand. -/
def related (r : Relation) (a b : Operand) : Except Fault Bool :=
  match a, b with
  | value v, value w => v.related r w
  | _, _ =>
    if a.comparesSets && b.isSet then included r a b
    else if b.comparesSets && a.isSet then included r.converse b a
    else .error (.incomparable r.symbol a.typeName b.typeName)

def le : Operand → Operand → Except Fault Bool := related .atMost
def lt : Operand → Operand → Except Fault Bool := related .below
def ge : Operand → Operand → Except Fault Bool := related .atLeast
def gt : Operand → Operand → Except Fault Bool := related .above

-- ============================================================= equality

/-- Equality of operands that stand in a map. -/
def entryEquals : Operand → Operand → Except Fault Bool
  | value v, value w => .ok (v.agree w)
  | slotView v, o => slotEquals v o
  | o, slotView v => slotEquals v o
  | _, _ => .ok false

/-- What a map has under a key; an absent key is an error, and so is a key
that a dictionary cannot look up. -/
def under (k : Value) : Operand → Except Fault Operand
  | value (.dict es) => (k.entryUnder es).map value
  | mapView v => (v.get k).map slotView
  | orderedMap m => (m.get k).map value
  | o => .error (.notSubscriptable o.typeName)

/-- Whether the values under each of some keys, all keys of `v`, equal what
`other` has there. -/
def slotsEqual (v : MapView) (other : Operand) : List Value → Except Fault Bool
  | [] => .ok true
  | k :: ks => do
    let own ← v.get k
    match under k other with
    | .error e => if e.isAbsence then return false else throw e
    | .ok found => if ← slotEquals own found then slotsEqual v other ks else return false

/-- A map view equals a map of the same size that has an equal set under
each of its keys. -/
def viewEqual (v : MapView) (other : Operand) : Except Fault Bool := do
  if v.size != (← other.size) then return false
  slotsEqual v other v.keys

/-- A map's entries as a dictionary, for which its keys must be hashable;
every key is looked up again just before it is entered. -/
def dictionary : Operand → Except Fault (List (Value × Operand))
  | value (.dict es) => .ok (es.map fun e => (e.1, value e.2))
  | mapView v => build (fun k => (v.get k).map slotView) v.keys
  | orderedMap m => build (fun k => (m.get k).map value) m.keys
  | o => .error (.notIterable o.typeName)
where
  /-- Enters the entries of some keys one by one. -/
  build (get : Value → Except Fault Operand) (keys : List Value) :
      Except Fault (List (Value × Operand)) :=
    keys.foldlM (fun es k => do
      let v ← get k
      k.checkHashable
      return Value.insertEntry k v es) []

/-- Whether each entry of the first dictionary is found in the second. -/
def entriesEqual (others : List (Value × Operand)) :
    List (Value × Operand) → Except Fault Bool
  | [] => .ok true
  | (k, v) :: rest => do
    match Value.lookup k others with
    | none => return false
    | some w => if ← entryEquals v w then entriesEqual others rest else return false

/-- Two maps equal as dictionaries. -/
def dictionariesEqual (a b : Operand) : Except Fault Bool := do
  let es ← dictionary a
  let fs ← dictionary b
  if es.length == fs.length then entriesEqual fs es else return false

/-- Equality; `same` tells whether both sides are one object, which is what
counts for operands that have no equality of their own. -/
def equal (same : Bool) (a b : Operand) : Except Fault Bool :=
  match a, b with
  | multimap m, multimap n => viewEqual m.asMap (mapView n.asMap)
  | mapView v, o =>
    if o.isMap then viewEqual v o else .ok same
  | orderedMap m, o =>
    if o.isMap then dictionariesEqual (orderedMap m) o else .ok same
  | value (.dict es), mapView v => viewEqual v (value (.dict es))
  | value (.dict es), orderedMap m => dictionariesEqual (orderedMap m) (value (.dict es))
  | value v, value w => .ok (v.equal w)
  | document d, document e => .ok (Value.agree d.toValue e.toValue)
  | a, b =>
    if a.comparesSets && b.isSet then sameSet a b
    else if b.comparesSets && a.isSet then sameSet b a
    else .ok same

-- ===================================================== in-place operators

/-- A collection that can be changed element by element. -/
structure Editable (σ : Type) where
  operand : σ → Operand
  add : σ → Value → Outcome σ Unit
  discard : σ → Value → Outcome σ Unit
  clear : σ → Outcome σ Unit
  comparator : Comparator

namespace Editable

variable {σ : Type} (ed : Editable σ)

/-- One change for each of some elements. -/
def each (step : σ → Value → Outcome σ Unit) (s : σ) :
    List (Except Fault Value) → Outcome σ Unit
  | [] => .done s ()
  | .error e :: _ => .failed s e
  | .ok x :: xs => (step s x).andThen fun s' _ => each step s' xs

/-- One change for each element of an operand. -/
def eachOf (step : σ → Value → Outcome σ Unit) (s : σ) (o : Except Fault Operand) :
    Outcome σ Unit :=
  match o with
  | .error e => .failed s e
  | .ok o => each step s o.listing

/-- Adds the elements of an operand. -/
def unionWith (s : σ) (o : Operand) : Outcome σ Unit := eachOf ed.add s (.ok o)

/-- Discards what is not in an operand. -/
def interWith (s : σ) (o : Operand) : Outcome σ Unit :=
  eachOf ed.discard s (diff (ed.operand s) o)

/-- Discards the elements of an operand; everything, if it is the very
collection. -/
def diffWith (s : σ) (itself : Bool) (o : Operand) : Outcome σ Unit :=
  if itself then ed.clear s else eachOf ed.discard s (.ok o)

/-- Discards an element that is there, adds one that is not. -/
def toggle (s : σ) (x : Value) : Outcome σ Unit :=
  match (ed.operand s).has x with
  | .error e => .failed s e
  | .ok true => ed.discard s x
  | .ok false => ed.add s x

/-- Toggles the elements of an operand as a set. -/
def symmDiffWith (s : σ) (itself : Bool) (o : Operand) : Outcome σ Unit :=
  if itself then ed.clear s
  else eachOf ed.toggle s ((Maker.ordered ed.comparator).asSet o)

end Editable

/-- An ordered set, changed by its own operations. -/
def editSet (c : Comparator) : Editable OrderedSet where
  operand := orderedSet
  add s x := .ofExcept s ((s.add x).map fun r => (r.1, ()))
  discard s x := .ofExcept s ((s.discard x).map fun r => (r.1, ()))
  clear s := .done s.clear ()
  comparator := c

/-- The values under one key, changed through the multimap. -/
def editSlot (c : Comparator) (key : Value) : Editable Multimap where
  operand m := slotView ⟨m, key⟩
  add m x := (m.put key x).mapResult fun _ => ()
  discard m x := (m.remove key x).mapResult fun _ => ()
  clear m := (SlotView.mk m key).clear
  comparator := c

end Operand

end Collation
