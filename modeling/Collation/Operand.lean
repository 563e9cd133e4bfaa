/-
What may stand on either side of a set operator or a comparison: a plain
value, one of the containers, or a view of one. An operand answers how its
elements are listed, whether something is an element, and how many there
are; each of these may run a comparator and fail. Elements are read one by
one, so reading may fail in the midst of them. Those of most operands are
plain values, but a map view has views for its values, so the elements of
an operand are operands again.
-/
import Collation.Multimap.Views
import Collation.Wire.Document

namespace Collation

inductive Operand where
  | value (v : Value)
  | orderedSet (s : OrderedSet)
  | slotView (v : SlotView)
  | keyView (v : KeyView)
  | mapView (v : MapView)
  | entryView (m : Multimap)
  | valueView (m : Multimap)
  | multimap (m : Multimap)
  | orderedMap (m : OrderedMap Value)
  /-- The keys, entries and values of a map with plain values. -/
  | mapKeys (m : OrderedMap Value)
  | mapItems (m : OrderedMap Value)
  | mapValues (m : OrderedMap Value)
  /-- The entries and values of a map view: its values are views. -/
  | viewItems (v : MapView)
  | viewValues (v : MapView)
  /-- A pair whose second part need not be plain. -/
  | pair (key : Value) (second : Operand)
  | document (d : Wire.Document)
  /-- Anything that is no collection, known by its type alone. -/
  | other (type : String) (isHashable : Bool)

namespace Operand

def typeName : Operand → String
  | value v => v.typeName
  | orderedSet _ => "SortedValueSet"
  | slotView _ => "ValueSetView"
  | keyView _ => "KeySetView"
  | mapView _ => "AsMapView"
  | entryView _ => "EntriesView"
  | valueView _ => "FlatValuesView"
  | multimap _ => "SortedMultimap"
  | orderedMap _ => "SortedSlotMap"
  | mapKeys _ => "KeysView"
  | mapItems _ | viewItems _ => "ItemsView"
  | mapValues _ | viewValues _ => "ValuesView"
  | pair .. => "tuple"
  | document _ => Wire.Document.recordName
  | other type _ => type

/-- Whether the operand is a set, so that it decides membership itself. -/
def isSet : Operand → Bool
  | value (.set _) | orderedSet _ | slotView _ | keyView _ => true
  | mapKeys _ | mapItems _ | viewItems _ => true
  | value (.object o _) => o.isSet
  | _ => false

/-- Whether the operand brings set comparisons of its own. -/
def comparesSets (o : Operand) : Bool :=
  o.isSet && match o with
    | value _ => false
    | _ => true

def isMap : Operand → Bool
  | value (.dict _) | mapView _ | orderedMap _ => true
  | _ => false

/-- Whether the elements can be listed. A multimap is not listed as such,
only through its views. -/
def isIterable : Operand → Bool
  | value v => v.elements?.isSome
  | multimap _ | other .. => false
  | _ => true

/-- Whether the operand can be a look-up key: one that can change, or that
equals others by its content, cannot. -/
def isHashable : Operand → Bool
  | value v => v.unhashable?.isNone
  | entryView _ | valueView _ | mapValues _ | viewValues _ => true
  | other _ hashable => hashable
  | _ => false

-- ============================================================= display

/-- How messages show an operand. A view of elements is shown as the list
of them. -/
def display : Operand → Except Fault String
  | value v => .ok v.display
  | orderedSet s => .ok s.display
  | slotView v => v.display
  | keyView v => .ok v.display
  | mapView v => v.display
  | entryView m => .ok (Value.displayList m.entryTuples)
  | valueView m => .ok (Value.displayList m.values)
  | multimap m => m.display
  | viewItems v => v.display.map fun shown => "ItemsView(" ++ shown ++ ")"
  | viewValues v => v.display.map fun shown => "ValuesView(" ++ shown ++ ")"
  | mapKeys _ => .ok "KeysView(<SortedSlotMap>)"
  | mapItems _ => .ok "ItemsView(<SortedSlotMap>)"
  | mapValues _ => .ok "ValuesView(<SortedSlotMap>)"
  | pair k second =>
    (display second).map fun shown => "(" ++ k.display ++ ", " ++ shown ++ ")"
  | document d => .ok d.display
  | o => .ok ("<" ++ o.typeName ++ ">")

-- ============================================================ elements

/-- The places up to which a multimap is read where it is read by position,
with zero, one, two and so on for keys: beyond its greatest key that is an
integer there is nothing new. -/
def places (m : Multimap) : List Value :=
  let furthest := m.keys.foldl (fun n k => Nat.max n (k.integer?.getD 0).toNat) 0
  (List.range (Nat.min furthest 65536 + 3)).map fun i => Value.int (Int.ofNat i)

/-- The readings of values that are listed at once. -/
def readings (found : Except Fault (List Value)) : List (Except Fault Operand) :=
  match found with
  | .ok xs => xs.map fun v => .ok (value v)
  | .error e => [.error e]

/-- The elements in order, each as its reading goes; nothing is read beyond
a reading that failed. -/
def elements : Operand → List (Except Fault Operand)
  | value v => readings v.elements
  | orderedSet s => readings (.ok s.items)
  | slotView v => readings v.items
  | keyView v => readings (.ok v.items)
  | mapView v => readings (.ok v.keys)
  | entryView m => readings (.ok m.entryTuples)
  | valueView m => readings (.ok m.values)
  | multimap m => (places m).map fun k => .ok (slotView ⟨m, k⟩)
  | orderedMap m | mapKeys m => readings (.ok m.keys)
  | mapItems m => m.keys.map fun k => (m.get k).map fun v => value (.tuple [k, v])
  | mapValues m => m.keys.map fun k => (m.get k).map value
  | viewItems v => v.keys.map fun k => (v.get k).map fun s => pair k (slotView s)
  | viewValues v => v.keys.map fun k => (v.get k).map slotView
  | pair k second => [.ok (value k), .ok second]
  | document d => readings (.ok (d.attributes.map fun e => .tuple [.text e.1, e.2]))
  | other type _ => [.error (.notIterable type)]

/-- The element at a position; none past the end. A multimap has one at
every position, since it is read by position. -/
def elementAt? : Operand → Nat → Option (Except Fault Operand)
  | multimap m, i => some (.ok (slotView ⟨m, .int i⟩))
  | o, i => o.elements[i]?

/-- The number of elements. -/
def size : Operand → Except Fault Nat
  | value (.iterator type _) => .error (.unsized type)
  | value v =>
    match v.walk? with
    | some xs => xs.map List.length
    | none => .error (.unsized v.typeName)
  | orderedSet s => .ok s.size
  | slotView v => v.size
  | keyView v => .ok v.size
  | mapView v | viewItems v | viewValues v => .ok v.size
  | entryView m | valueView m | multimap m => .ok m.total
  | orderedMap m | mapKeys m | mapItems m | mapValues m => .ok m.size
  | pair .. => .ok 2
  | o => .error (.unsized o.typeName)

/-- A collection counts as true unless it is empty, and anything that has
no size always does. -/
def isTruthy : Operand → Except Fault Bool
  | value v => .ok v.isTruthy
  | pair .. | document _ | other .. => .ok true
  | o => o.size.map (· != 0)

-- ===================================================== operands as values

/-- What is seen of an operand from outside. -/
def outline (identity : Option Nat) (o : Operand) (trouble : Option Fault) : Outline :=
  { identity
    type := o.typeName
    isHashable := o.isHashable
    isCollection := o.isIterable
    isSet := o.isSet
    shown := o.display.toOption.getD ""
    trouble := trouble.map fun e => (e.type, e.message) }

/-- An object with the elements of an operand, or with the error of listing
them. -/
def object (identity : Option Nat) (o : Operand) (elements : Except Fault (List Value)) :
    Value :=
  match elements with
  | .ok xs => .object (outline identity o none) xs
  | .error e => .object (outline identity o (some e)) []

/-- The value that stands for an operand among plain ones: the operand as
it is now. A multimap, listed by position, never ends. -/
def toValue (identity : Option Nat) : Operand → Value
  | value v => v
  | slotView v => object identity (slotView v) v.items
  | pair k second => .tuple [k, toValue none second]
  | viewItems v =>
    object identity (viewItems v) <| v.items.map <| List.map fun e =>
      .tuple [e.1, object none (slotView e.2) e.2.items]
  | viewValues v =>
    object identity (viewValues v) <| v.items.map <| List.map fun e =>
      object none (slotView e.2) e.2.items
  | multimap m =>
    .object { outline identity (multimap m) (some .tooManyParts) with isCollection := true } []
  | o =>
    object identity o <| (o.elements.mapM id).map <| List.filterMap fun
      | value v => some v
      | _ => none

/-- The elements as values. -/
def listing (o : Operand) : List (Except Fault Value) :=
  o.elements.map (·.map (toValue none))

-- ========================================================== membership

/-- Whether some things stand somewhere among others, side by side. -/
def isPart {α : Type} [BEq α] (part : List α) : List α → Bool
  | [] => part.isEmpty
  | x :: rest => part.isPrefixOf (x :: rest) || isPart part rest

/-- Whether a plain value is an element of a plain value, or a part of it
if it is a text. A dictionary and a set look it up, so it must be
hashable, but a set is looked up as what it holds. -/
def plainHas (container x : Value) : Except Fault Bool :=
  match container with
  | .dict es => (x.find? es).map Option.isSome
  | .set xs =>
    match x, x.unhashable? with
    | .set _, _ | _, none => .ok (xs.any fun y => x.agree y)
    | _, some t => .error (.unhashable t)
  | .text s | .label s =>
    match x.text? with
    | some part => .ok (isPart part.points s.points)
    | none => .error (.notPartOfText x.typeName)
  | .bytes xs => octetsHave xs x
  | _ =>
    match container.walk? with
    | some xs => xs.map fun xs => xs.any fun y => x.agree y
    | none => .error (.notSearchable container.typeName)
where
  /-- Whether octets hold an octet, or others side by side. -/
  octetsHave (xs : List UInt8) (x : Value) : Except Fault Bool :=
    match x, x.integer? with
    | .bytes part, _ => .ok (isPart part xs)
    | _, some n =>
      if 0 ≤ n ∧ n < 256 then .ok (xs.any fun b => b.toNat == n.toNat)
      else .error .octetRange
    | _, none => .error (.notOctets x.typeName)

/-- An operand taken apart into the two parts of an entry. -/
def parts (o : Operand) : Except Fault (Operand × Operand) :=
  match o with
  | multimap _ => .error .tooManyParts
  | _ =>
    if !o.isIterable then .error (.notUnpackable o.typeName)
    else
      match o.elements.mapM id with
      | .error e => .error e
      | .ok [a, b] => .ok (a, b)
      | .ok xs => .error (if xs.length < 2 then .tooFewParts xs.length else .tooManyParts)

/-- Whether all of some things, asked in order, pass a test. -/
def allHold {α : Type} (test : α → Except Fault Bool) : List α → Except Fault Bool
  | [] => .ok true
  | x :: xs => do if ← test x then allHold test xs else return false

/-- Whether none of some things, asked in order, passes a test. -/
def noneHolds {α : Type} (test : α → Except Fault Bool) : List α → Except Fault Bool
  | [] => .ok true
  | x :: xs => do if ← test x then return false else noneHolds test xs

/-- Whether a view of values equals a set of plain values: as many, and
each of its own among them. -/
def slotEqualsPlain (v : SlotView) (w : Value) : Except Fault Bool := do
  if !(value w).isSet then return false
  if (← v.size) != (← (value w).size) then return false
  allHold (plainHas w) (← v.items)

/-- Whether one of the values under some keys, looked up in order, passes a
test. -/
def someUnder {β : Type} (get : Value → Except Fault β) (test : β → Except Fault Bool) :
    List Value → Except Fault Bool
  | [] => .ok false
  | k :: ks => do if ← test (← get k) then return true else someUnder get test ks

/-- Whether a plain value is an element. -/
def has (o : Operand) (x : Value) : Except Fault Bool :=
  match o with
  | value v => plainHas v x
  | orderedSet s => s.contains x
  | slotView v => v.contains x
  | keyView v => v.contains x
  | mapView v => v.contains x
  | entryView m => m.containsItem x
  | valueView m => m.containsValue x
  | multimap m => m.containsKey x
  | orderedMap m | mapKeys m => m.contains x
  | mapItems m =>
    match Multimap.entryOf x with
    | .error e => .error e
    | .ok (k, v) => (m.get? k).map fun found => found.any v.agree
  | mapValues m => someUnder m.get (fun v => .ok (v.agree x)) m.keys
  | viewItems v =>
    match Multimap.entryOf x with
    | .error e => .error e
    | .ok (k, w) =>
      match v.get? k with
      | .error e => .error e
      | .ok none => .ok false
      | .ok (some own) => slotEqualsPlain own w
  | viewValues v => someUnder v.get (slotEqualsPlain · x) v.keys
  | pair k second => .ok (x.agree k || x.agree (toValue none second))
  | document d => plainHas (.list (d.attributes.map fun e => .tuple [.text e.1, e.2])) x
  | other type _ => .error (.notSearchable type)

/-- Whether a view of values equals an operand. -/
def slotEquals (v : SlotView) (o : Operand) : Except Fault Bool := do
  if !o.isSet then return false
  if (← v.size) != (← o.size) then return false
  allHold o.has (← v.items)

/-- Whether any operand is an element. -/
def member (x o : Operand) : Except Fault Bool :=
  match o with
  | viewItems v => do
    let (k, second) ← x.parts
    match ← v.get? (k.toValue none) with
    | none => return false
    | some own => slotEquals own second
  | viewValues v => someUnder v.get (slotEquals · x) v.keys
  | o => o.has (x.toValue none)

/-- The elements from last to first. -/
def backwards (o : Operand) : Except Fault (List Operand) :=
  match o with
  | value v =>
    match v, v.elements? with
    | .set _, _ | .iterator .., _ | .object .., _ | _, none => .error (.notReversible v.typeName)
    | _, some xs => .ok (xs.reverse.map value)
  | orderedSet _ | slotView _ | keyView _ | orderedMap _ | pair .. =>
    (o.elements.mapM id).map List.reverse
  | multimap m =>
    .ok ((List.range m.total).reverse.map fun i => slotView ⟨m, .int (Int.ofNat i)⟩)
  | o => .error (.notReversible o.typeName)

end Operand

end Collation
