/-
What can be called on the things of a session, by name: the operations of
ordered sets, maps and multimaps, of their views, of registries, and the
parts of documents that can be read off.
-/
import Collation.Navigation
import Collation.SetAlgebra
import Collation.Session.Call

namespace Collation.Session

open Collation.Action (changeSet changeMap changeMultimap)

/-- An operation under its name; `owner` is what errors say it belongs to. -/
def entry (owner name : String) (required : List String)
    (run : Ref → Bound → Action Ref) (optional : List String := [])
    (byName : List String := []) : String × Member :=
  (name, .operation { operation := owner ++ "." ++ name, required, optional, byName } run)

/-- A part that is read off. -/
def property (name : String) (read : Ref → Action Ref) : String × Member :=
  (name, .property read)

/-- The comparator of an operation's receiver as a thing: it stands at the
place that is its identity. -/
def comparatorProperty (name : String) (read : Ref → Action Comparator) : String × Member :=
  property name fun r => return (← read r).identity

-- ========================================================== navigation

def navigation (r : Ref) : Action Navigation := do
  match (← Action.operand r).navigation? with
  | some n => return n
  | none => throw (.lacksOperation (← Action.typeName r) "first")

/-- The range that the arguments of a call describe; the two ends belong to
it as the elements of the third argument count as true. -/
def rangeOf (b : Bound) : Action Bisect.Range := do
  let minimum ← b.value 0
  let maximum ← b.value 1
  let inclusive ← match b.ref? 2 with
    | some r => Action.value r
    | none => pure (.tuple [.bool true, .bool true])
  let belongs (place : Int) : Except Fault Bool :=
    (SortKey.item (.int place) inclusive).map Value.isTruthy
  return ⟨minimum, maximum, belongs 0, belongs 1, ← b.flag 3 false⟩

/-- The ways of finding elements by order. Maps, whose elements are keys,
have `suffix` to their names. -/
def navigationMembers (owner parameter suffix : String) : List (String × Member) :=
  let atEnd (name : String) (pick : Navigation → Except Fault Value) :=
    entry owner (name ++ suffix) [] fun r _ => do
      Action.ofValue (← ofExcept (pick (← navigation r)))
  let beside (name : String) (pick : Navigation → Value → Except Fault (Option Value)) :=
    entry owner (name ++ suffix) [parameter] fun r b => do
      answerIfAny (← ofExcept (pick (← navigation r) (← b.value 0)))
  [atEnd "first" Navigation.first, atEnd "last" Navigation.last,
    beside "lower" Navigation.lower, beside "floor" Navigation.floor,
    beside "ceiling" Navigation.ceiling, beside "higher" Navigation.higher]

/-- Walking over a range; `type` is the type of what walks. -/
def rangeMember (owner type : String) : String × Member :=
  entry owner "irange" []
    (fun r b => do
      answer (.iterator type (← ofExcept ((← navigation r).range (← rangeOf b)))))
    ["minimum", "maximum", "inclusive", "reverse"]

def disjointMember : String × Member :=
  entry "Set" "isdisjoint" ["other"] fun r b => do
    answerFlag (← ofExcept ((← Action.operand r).isDisjoint (← b.operand 0)))

-- ================================================================ sets

def setMembers : List (String × Member) :=
  let owner := "SortedValueSet"
  [comparatorProperty "comparator" fun r => return (← Action.orderedSet r).comparator,
    entry owner "add" ["value"] fun r b => do
      let v ← b.value 0
      answerFlag (← changeSet r (·.add v)),
    entry owner "discard" ["value"] fun r b => do
      let v ← b.value 0
      answerFlag (← changeSet r (·.discard v)),
    entry "MutableSet" "remove" ["value"] fun r b => do
      let v ← b.value 0
      answerDone (changeSet r fun s => (s.remove v).map fun s => (s, ())),
    entry owner "clear" [] fun r _ => answerDone (changeSet r fun s => .ok (s.clear, ())),
    entry owner "pop" [] fun r _ => do Action.ofValue (← changeSet r OrderedSet.popFirst),
    entry owner "pop_first" [] fun r _ => do
      Action.ofValue (← changeSet r OrderedSet.popFirst),
    entry owner "pop_last" [] fun r _ => do Action.ofValue (← changeSet r OrderedSet.popLast),
    entry owner "copy" [] fun r _ => do
      answerSet (← ofExcept (← Action.orderedSet r).copy),
    disjointMember, rangeMember owner "map"]
    ++ navigationMembers owner "value" ""

-- ==================================================== views of multimaps

/-- The multimap of a view, and the view's key if it has one. -/
def ownerOf (r : Ref) : Action (Ref × Value) := do
  match ← Action.thing r with
  | .slotView owner key => return (owner, key)
  | .view _ owner => return (owner, .null)
  | _ => return (r, .null)

/-- The members that change the multimap of a view. -/
def changing {α : Type} (r : Ref) (change : Multimap → Value → Outcome Multimap α) :
    Action α := do
  let (owner, key) ← ownerOf r
  changeMultimap owner fun m => change m key

def slotViewMembers : List (String × Member) :=
  let owner := "ValueSetView"
  [property "key" fun r => do Action.ofValue (← ownerOf r).2,
    comparatorProperty "comparator" fun r => do
      return (← Action.multimap (← ownerOf r).1).valueComparator,
    entry owner "add" ["value"] fun r b => do
      let v ← b.value 0
      answerFlag (← changing r fun m k => (SlotView.mk m k).add v),
    entry owner "discard" ["value"] fun r b => do
      let v ← b.value 0
      answerFlag (← changing r fun m k => (SlotView.mk m k).discard v),
    entry "MutableSet" "remove" ["value"] fun r b => do
      let v ← b.value 0
      answerDone (changing r fun m k => (SlotView.mk m k).remove v),
    entry owner "clear" [] fun r _ =>
      answerDone (changing r fun m k => (SlotView.mk m k).clear),
    entry owner "pop" [] fun r _ => do
      Action.ofValue (← changing r fun m k => (SlotView.mk m k).popFirst),
    entry owner "pop_first" [] fun r _ => do
      Action.ofValue (← changing r fun m k => (SlotView.mk m k).popFirst),
    entry owner "pop_last" [] fun r _ => do
      Action.ofValue (← changing r fun m k => (SlotView.mk m k).popLast),
    entry owner "copy" [] fun r _ => do
      let (multimap, key) ← ownerOf r
      answerSet (← ofExcept (SlotView.mk (← Action.multimap multimap) key).copy),
    disjointMember, rangeMember owner "map"]
    ++ navigationMembers owner "value" ""

def keyViewMembers : List (String × Member) :=
  let owner := "KeySetView"
  [comparatorProperty "comparator" fun r => do
      return (← Action.multimap (← ownerOf r).1).keyComparator,
    entry owner "discard" ["key"] fun r b => do
      let k ← b.value 0
      answerFlag (← changing r fun m _ => (KeyView.mk m).discard k),
    entry owner "remove" ["key"] fun r b => do
      let k ← b.value 0
      answerDone (changing r fun m _ => (KeyView.mk m).remove k),
    entry owner "clear" [] fun r _ => answerDone (changing r fun m _ => .done m.clear ()),
    entry owner "pop_first" [] fun r _ => do
      Action.ofValue (← changing r fun m _ => (KeyView.mk m).popFirst),
    entry owner "pop_last" [] fun r _ => do
      Action.ofValue (← changing r fun m _ => (KeyView.mk m).popLast),
    disjointMember, rangeMember owner "generator"]
    ++ navigationMembers owner "key" ""

def viewMember (owner name : String) (kind : ViewKind) : String × Member :=
  entry owner name [] fun r _ => do Action.add (.view kind (← ownerOf r).1)

def mapViewMembers : List (String × Member) :=
  let owner := "AsMapView"
  [entry "Mapping" "get" ["key"]
      (fun r b => do
        let (multimap, _) ← ownerOf r
        match ← ofExcept ((← Action.multimap multimap).asMap.get? (← b.value 0)) with
        | some v => Action.add (.slotView multimap v.key)
        | none => b.ref 1)
      ["default"],
    viewMember owner "keys" .keySet,
    viewMember "Mapping" "items" .viewItems,
    viewMember "Mapping" "values" .viewValues,
    entry owner "pop" ["key"]
      (fun r b => do
        let k ← b.value 0
        match b.ref? 1 with
        | none => answerSet (← changing r fun m _ => m.asMap.pop k)
        | some default =>
          match ← changing r fun m _ => m.asMap.pop? k with
          | some s => answerSet s
          | none => return default)
      ["default"],
    entry owner "clear" [] fun r _ => answerDone (changing r fun m _ => .done m.clear ())]
    ++ navigationMembers owner "key" "_key"

-- =============================================================== maps

/-- The value under a key of a thing that is a map. -/
def valueUnder (r : Ref) (k : Value) : Action Value := do
  match ← Action.thing r, ← Action.operand r with
  | .view _ owner, .mapView v => Action.slotValue owner (← ofExcept (v.get k)).key
  | _, o => return (← ofExcept (o.under k)).toValue none

/-- Assigns a value to a key of a map. -/
def assign (r : Ref) (k v : Value) : Action Unit :=
  changeMap r fun m => (m.set k v).map fun m => (m, ())

/-- The entry that a thing gives at a position, as it is now: of a map the
key there with what is under it, else the element there taken apart. None
past the end. -/
def entryAt (source : Ref) (i : Nat) : Action (Option (Value × Value)) := do
  match ← Action.elementAt source i with
  | none => return none
  | some x =>
    if (← Action.operand source).isMap then return some (x, ← valueUnder source x)
    else return some (← ofExcept (Multimap.entryOf (← Action.asNow x)))

/-- Assigns to a map what a thing gives from a position on, each entry read
when those before it are assigned. The thing may be a view of the map, and
assigning may then put further elements ahead; nothing bounds their number
under a comparator that does not find again what was assigned. -/
def assignFrom (r source : Ref) : Nat → Action Unit :=
  repeatM fun i => do
    match ← entryAt source i with
    | none => return .inr ()
    | some (k, v) =>
      assign r k v
      return .inl (i + 1)

/-- Assigns to a map what is given by name. -/
def assignNamed (r : Ref) : List (String × Ref) → Action Unit
  | [] => return
  | (name, given) :: rest => do
    assign r (.text name) (← Action.value given)
    assignNamed r rest

def mapMembers : List (String × Member) :=
  let owner := "SortedSlotMap"
  [comparatorProperty "comparator" fun r => return (← Action.orderedMap r).comparator,
    entry "Mapping" "get" ["key"]
      (fun r b => do
        match ← ofExcept ((← Action.orderedMap r).get? (← b.value 0)) with
        | some v => Action.ofValue v
        | none => b.ref 1)
      ["default"],
    entry "Mapping" "keys" [] fun r _ => Action.add (.view .mapKeys r),
    entry "Mapping" "items" [] fun r _ => Action.add (.view .mapItems r),
    entry "Mapping" "values" [] fun r _ => Action.add (.view .mapValues r),
    entry "MutableMapping" "pop" ["key"]
      (fun r b => do
        let k ← b.value 0
        match b.ref? 1 with
        | none => Action.ofValue (← changeMap r (·.pop k))
        | some default =>
          match ← changeMap r (·.pop? k) with
          | some v => Action.ofValue v
          | none => return default)
      ["default"],
    entry "MutableMapping" "popitem" [] fun r _ => do
      let (k, v) ← changeMap r OrderedMap.popItem
      answer (.tuple [k, v]),
    entry "MutableMapping" "setdefault" ["key"]
      (fun r b => do
        let k ← b.value 0
        let v ← b.value 1
        Action.ofValue (← changeMap r (·.setDefault k v)))
      ["default"],
    ("update", .free fun r a => do
      let signature : Signature :=
        { operation := "MutableMapping.update", optional := ["other"] }
      let b ← ofExcept (signature.bind ⟨a.positional, []⟩)
      if let some source := b.ref? 0 then assignFrom r source 0
      assignNamed r a.named
      answerNone),
    entry owner "clear" [] fun r _ => answerDone (changeMap r fun m => .ok (m.clear, ())),
    entry owner "iter_items" []
      (fun r b => do
        let pairs := (← Action.orderedMap r).slots.map fun s => .tuple [s.key, s.value]
        let backwards ← b.flag 0 false
        answer (.iterator "generator" (if backwards then pairs.reverse else pairs)))
      ["reverse"],
    entry owner "stored_key" ["key"] fun r b => do
      Action.ofValue (← ofExcept ((← Action.orderedMap r).storedKey (← b.value 0))),
    rangeMember owner "generator"]
    ++ navigationMembers owner "key" "_key"

-- ========================================================== multimaps

/-- Whether a value is one text, or octets, rather than several values. -/
def isSingleText : Value → Bool
  | .text _ | .label _ | .bytes _ => true
  | .object o _ => o.type == "bytearray"
  | _ => false

/-- The values that a thing gives when they are to be stored under a key:
its elements, but a single text is refused rather than split. -/
def valuesFor (key : Value) (source : Ref) : Action (List Value) := do
  match ← Action.thing source with
  | .plain v =>
    if isSingleText v then throw (.misuse (.singleTextAsValues key v))
    else Action.elements source
  | _ => Action.elements source

/-- The items that stand for the entries of a source: those of a multimap,
key by key those of a map to collections of values, or the elements of
anything else. -/
def entryItems (source : Ref) : Action (List Value) := do
  let o ← Action.operand source
  match o with
  | .multimap m => return m.entryTuples
  | _ =>
    if o.isMap then
      let slots ← (← Action.elements source).mapM fun k => do
        let values ← valuesFor k (← Action.ofValue (← valueUnder source k))
        return values.map fun v => Value.tuple [k, v]
      return slots.flatten
    else Action.elements source

/-- Puts into a multimap the entries that some items stand for; tells
whether any is new. An item may be a thing that the puts before it
changed: it is taken apart as it is when its turn comes. -/
def putItems (r : Ref) : List Value → Action Bool
  | [] => return false
  | item :: rest => do
    let (k, v) ← ofExcept (Multimap.entryOf (← Action.asNow item))
    let isNew ← changeMultimap r (·.put k v)
    let others ← putItems r rest
    return isNew || others

/-- A comparator argument; null is none. -/
def comparatorArgument (b : Bound) (i : Nat) : Action (Option Comparator) := do
  match b.ref? i with
  | none => return some .natural
  | some r =>
    match ← Action.thing r with
    | .plain .null => return none
    | _ => return some (← Action.comparator r)

/-- Making an empty multimap by two comparators. -/
def createMember (name : String) : String × Member :=
  entry "SortedMultimap" name []
    (fun _ b => do
      let keys ← comparatorArgument b 0
      let values ← comparatorArgument b 1
      Action.add (.multimap (← ofExcept (Multimap.create keys values))))
    ["key_comparator", "value_comparator"]

/-- Making a multimap of the entries of a source. -/
def copyMember : String × Member :=
  entry "SortedMultimap" "copy_of" ["source"] fun _ b => do
    let copied := Multimap.copyOf (← (← entryItems (← b.ref 0)).mapM Action.asNow)
    Action.keep (fun _ => pure ()) copied
    Action.add (.multimap copied.state)

def multimapMembers : List (String × Member) :=
  let owner := "SortedMultimap"
  let asked (name : String) (parameters : List String)
      (ask : Multimap → Value → Value → Except Fault Bool) : String × Member :=
    entry owner name parameters fun r b => do
      answerFlag (← ofExcept (ask (← Action.multimap r) (← b.value 0) (← b.value 1)))
  [comparatorProperty "key_comparator" fun r => return (← Action.multimap r).keyComparator,
    comparatorProperty "value_comparator" fun r => return (← Action.multimap r).valueComparator,
    createMember "create", copyMember,
    entry owner "put" ["key", "value"] fun r b => do
      let k ← b.value 0
      let v ← b.value 1
      answerFlag (← changeMultimap r (·.put k v)),
    entry owner "put_all" ["key", "values"] fun r b => do
      let k ← b.value 0
      let vs ← valuesFor k (← b.ref 1)
      answerFlag (← changeMultimap r (·.putEach k vs)),
    entry owner "put_all_from" ["source"] fun r b => do
      let items ← entryItems (← b.ref 0)
      answerFlag (← putItems r items),
    entry owner "remove" ["key", "value"] fun r b => do
      let k ← b.value 0
      let v ← b.value 1
      answerFlag (← changeMultimap r (·.remove k v)),
    entry owner "remove_all" ["key"] fun r b => do
      let k ← b.value 0
      answerSet (← changeMultimap r (·.removeAll k)),
    entry owner "replace_values" ["key", "new_values"] fun r b => do
      let k ← b.value 0
      let vs ← valuesFor k (← b.ref 1)
      answerSet (← changeMultimap r (·.replaceValues k vs)),
    entry owner "clear" [] fun r _ => answerDone (changeMultimap r fun m => .done m.clear ()),
    entry owner "get" ["key"] fun r b => do Action.add (.slotView r (← b.value 0)),
    asked "contains_key" ["key"] fun m k _ => m.containsKey k,
    asked "contains_value" ["value"] fun m v _ => m.containsValue v,
    asked "contains_entry" ["key", "value"] fun m k v => m.containsEntry k v,
    asked "is_empty" [] fun m _ _ => .ok m.isEmpty,
    entry owner "size" [] fun r _ => do answer (.int (← Action.multimap r).total),
    viewMember owner "key_set" .keySet, viewMember owner "as_map" .asMap,
    viewMember owner "entries" .entries, viewMember owner "values" .values]

-- ================================================ registries, documents

def registryMembers : List (String × Member) :=
  let owner := "ComparatorRegistry"
  [entry owner "register" ["name", "comparator"]
      (fun r b => do
        let name ← b.value 0
        let candidate ← match ← Action.thing (← b.ref 1) with
          | .comparator c => pure (some c)
          | _ => pure none
        let replacing ← b.flag 2 false
        answerDone (Action.keep (fun g => Action.replace r (.registry g))
          ((← Action.registry r).register name candidate replacing)))
      [] ["replace"],
    entry owner "resolve" ["name"] fun r b => do
      return (← ofExcept ((← Action.registry r).resolve (← b.value 0))).identity,
    entry owner "name_of" ["comparator"] fun r b => do
      let c ← Action.comparator (← b.ref 0)
      Action.ofValue (← ofExcept ((← Action.registry r).nameOf c)),
    entry owner "names" [] fun r _ => do
      answer (.list (← ofExcept (← Action.registry r).names))]

/-- The fields of a document and the number of its entries. -/
def documentMembers (d : Wire.Document) : List (String × Member) :=
  property "entry_count" (fun _ => answer (.int d.entryCount))
    :: entry "BaseModel" "model_dump" [] (fun _ _ => answer d.toValue)
    :: d.attributes.map fun e => property e.1 fun _ => answer e.2

/-- What a thing can be asked for by name. -/
def membersOf : Thing → List (String × Member)
  | .plain _ | .comparator _ => []
  | .orderedSet _ => setMembers
  | .multimap _ => multimapMembers
  | .orderedMap _ => mapMembers
  | .registry _ => registryMembers
  | .document d => documentMembers d
  | .slotView .. => slotViewMembers
  | .view kind _ =>
    match kind with
    | .keySet => keyViewMembers
    | .asMap => mapViewMembers
    | .viewItems | .mapKeys | .mapItems => [disjointMember]
    | .entries | .values | .viewValues | .mapValues => []

end Collation.Session
