/-
What can be called in a session by name alone: making containers, looking
at things, operators, encoding and decoding, and files.
-/
import Collation.Session.Attributes
import Collation.Session.Operators
import Collation.Wire.Archive

namespace Collation.Session

-- =============================================================== making

def makers : List (String × Member) :=
  [createMember "create",
    ("Multimap", (createMember "__init__").2),
    copyMember,
    ("SortedSet", (entry "SortedValueSet" "__init__" []
      (fun _ b => do
        match ← comparatorArgument b 0 with
        | none => throw (.misuse .setWithoutComparator)
        | some c =>
          let members ← match b.ref? 1 with
            | some r => Action.readings r
            | none => pure []
          answerOperand (← ofExcept
            ((Maker.ordered c).ofList (members.map (·.map Operand.value)))))
      ["comparator", "iterable"]).2),
    ("SlotMap", (entry "SortedSlotMap" "__init__" ["comparator"] fun _ b => do
      Action.add (.orderedMap (.empty (← Action.comparator (← b.ref 0))))).2),
    ("Registry", (entry "ComparatorRegistry" "__init__" []
      (fun _ b => do
        Action.add (.registry (if ← b.flag 0 true then .withBuiltins else .empty)))
      ["builtins"]).2)]

-- ============================================================== looking

/-- The element of a thing under a key. -/
def itemOf (r : Ref) (k : Value) : Action Ref := do
  match ← Action.thing r, ← Action.operand r with
  | .multimap _, _ => Action.add (.slotView r k)
  | .plain v, _ => Action.ofValue (← ofExcept (SortKey.item k v))
  | _, .mapView _ | _, .orderedMap _ => Action.ofValue (← valueUnder r k)
  | _, o => throw (.notSubscriptable o.typeName)

/-- Whether things of a type have elements at places, so that a whole
number would be one. -/
def hasPlaces (t : Thing) : Bool :=
  match t with
  | .plain (.tuple _) | .plain (.text _) | .plain (.label _) | .plain (.bytes _)
  | .plain (.set _) => true
  | .plain _ | .comparator _ => false
  | _ => true

/-- A list or dictionary with the element under a key replaced, or taken
out if there is no new one. -/
def changed? (v k : Value) (new : Option Value) : Option (Except Fault Value) :=
  match v with
  | .dict es => some <| k.checkHashable >>= fun _ =>
    match new with
    | some x => .ok (.dict (Value.insertEntry k x es))
    | none =>
      if (Value.lookup k es).isNone then .error (.absent k)
      else .ok (.dict (es.filter fun e => !k.agree e.1))
  | .list xs => some <|
    match k.integer? with
    | none => .error (.badIndex "list" k.typeName)
    | some i => (Value.itemAt "list assignment index" xs i).map fun _ =>
      let place := (if i < 0 then i + xs.length else i).toNat
      .list (match new with
        | some x => xs.set place x
        | none => xs.eraseIdx place)
  | _ => none

def eraseItem (r : Ref) (k : Value) : Action Unit := do
  match ← Action.thing r with
  | .view .asMap owner => Action.changeMultimap owner fun m => m.asMap.erase k
  | .orderedMap _ => Action.changeMap r fun m => (m.erase k).map fun m => (m, ())
  | .plain v =>
    match changed? v k none with
    | some w => Action.replace r (.plain (← ofExcept w))
    | none => refuse
  | _ => refuse
where
  refuse {α : Type} : Action α := do
    let change := if hasPlaces (← Action.thing r) && k.integer?.isSome
      then "doesn't support item deletion" else "does not support item deletion"
    throw (.immutable (← Action.typeName r) change)

def setItem (r : Ref) (k v : Value) : Action Unit := do
  match ← Action.thing r with
  | .orderedMap _ => Action.changeMap r fun m => (m.set k v).map fun m => (m, ())
  | .plain u =>
    match changed? u k (some v) with
    | some w => Action.replace r (.plain (← ofExcept w))
    | none => refuse
  | _ => refuse
where
  refuse {α : Type} : Action α := do
    throw (.immutable (← Action.typeName r) "does not support item assignment")

/-- The hash of a thing, as far as it is the same every time. -/
def hashOf (r : Ref) : Action Int := do
  match ← Action.operand r with
  | .value v =>
    ofExcept v.checkHashable
    return v.steadyHash?.getD 0
  | .document _ => throw (.unhashable "list")
  | o => if o.isHashable then return 0 else throw (.unhashable o.typeName)

/-- Whether a thing has something under a name, which must be a text. -/
def isNamed (r : Ref) (name : Value) : Action Bool := do
  match name.text? with
  | some name => return hasName (← Action.thing r) name.lossy
  | none => throw (.nameNotText name.typeName)

/-- The elements from last to first as values. -/
def backwards (r : Ref) : Action (List Value) := do
  (← ofExcept (← Action.operand r).backwards).mapM (Action.element r)

/-- The text of octets that are all ASCII. -/
def asciiText (octets : List UInt8) : Except Fault String :=
  match octets.findIdx? (128 ≤ ·) with
  | none => .ok (String.ofList (octets.map fun b => Char.ofNat b.toNat))
  | some i =>
    .error (.undecodable ⟨"ascii", i, i + 1, octets.getD i 0, "ordinal not in range(128)"⟩)

def lookers : List (String × Member) :=
  let look (name : String) (run : Ref → Bound → Action Ref) (further : List String := []) :=
    (name, Member.operation
      { operation := name, required := "obj" :: further, onReceiver := false }
      fun _ b => do run (← b.ref 0) b)
  [look "cmp" fun r _ => return r,
    look "check_accepts_none"
      (fun r b => do
        ofExcept ((← Action.comparator r).checkAcceptsNull (← b.value 1).wording)
        answerNone)
      ["role"],
    look "len" fun r _ => do answer (.int (← ofExcept (← Action.operand r).size)),
    look "list" fun r _ => do answer (.list (← Action.elements r)),
    look "repr" fun r _ => do answer (.text (← ofExcept (← Action.operand r).display)),
    look "bool" fun r _ => do answerFlag (← ofExcept (← Action.operand r).isTruthy),
    look "hash" fun r _ => do answer (.int (← hashOf r)),
    look "reversed" fun r _ => do answer (.list (← backwards r)),
    look "getitem" (fun r b => do itemOf r (← b.value 1)) ["key"],
    look "delitem" (fun r b => do answerDone (eraseItem r (← b.value 1))) ["key"],
    look "setitem"
      (fun r b => do answerDone (setItem r (← b.value 1) (← b.value 2))) ["key", "value"],
    look "hasattr" (fun r b => do answerFlag (← isNamed r (← b.value 1))) ["name"],
    look "in" (fun r b => do answerFlag (← isMember r (← b.ref 1))) ["container"],
    look "text" fun r _ => do
      match ← Action.value r with
      | .bytes octets => answer (.text (← ofExcept (asciiText octets)))
      | v => throw (.lacksOperation v.typeName "decode")]

-- ============================================================ operators

def operators : List (String × Member) :=
  let operator (name : String) (run : Ref → Ref → Action Ref) :=
    (name, Member.operation
      { operation := name, required := ["left", "right"], onReceiver := false }
      fun _ b => do run (← b.ref 0) (← b.ref 1))
  let compare (name : String) (relation : Relation) :=
    operator name fun a b => do answerFlag (← isRelated relation a b)
  [operator "eq" fun a b => do answerFlag (← isEqual a b),
    operator "ne" fun a b => do answerFlag (!(← isEqual a b)),
    compare "le" .atMost, compare "lt" .below, compare "ge" .atLeast, compare "gt" .above,
    operator "or" (combine .union), operator "and" (combine .inter),
    operator "sub" (combine .diff), operator "xor" (combine .symmDiff),
    operator "ior" (combineInPlace .union), operator "iand" (combineInPlace .inter),
    operator "isub" (combineInPlace .diff), operator "ixor" (combineInPlace .symmDiff)]

-- ============================================================= encoding

/-- The registry that an argument gives, or the session's own where it
gives none; `use` is what is asked of it first. -/
def registryArgument (b : Bound) (i : Nat) (use : String) : Action (Except Fault Registry) := do
  match b.ref? i with
  | none => return .ok (← Action.registry defaultRegistry)
  | some r =>
    match ← Action.thing r with
    | .registry g => return .ok g
    | _ =>
      if ← b.flag i false then return .error (.lacksOperation (← Action.typeName r) use)
      else return .ok (← Action.registry defaultRegistry)

/-- Whether to compare the digest, where an argument may say so. -/
def verifyArgument (b : Bound) (i : Nat) : Action Bool := do
  let settings := (← get).settings
  match b.ref? i with
  | none => return settings.verify none
  | some r =>
    match ← Action.thing r with
    | .plain .null => return settings.verify none
    | _ => return settings.verify (some (← b.flag i true))

/-- The multimap that an argument is to be. -/
def multimapArgument (b : Bound) (i : Nat) : Action Multimap := do
  let r ← b.ref i
  match ← Action.thing r with
  | .multimap m => return m
  | .document _ => throw (.misuse (.unregistered "<comparator>"))
  | _ => throw (.lacksOperation (← Action.typeName r) "key_comparator")

/-- The document that an argument is to be. -/
def documentArgument (b : Bound) (i : Nat) : Action Wire.Document := do
  let r ← b.ref i
  match ← Action.thing r with
  | .document d => return d
  | _ => throw (.lacksOperation (← Action.typeName r) "key_comparator")

def keepFolder {α : Type} (o : Outcome Folder α) : Action α :=
  Action.keep (fun folder => modify fun s => { s with folder }) o

/-- The multimap that octets or a text hold. -/
def decodeData (registry : Except Fault Registry) (verify : Bool) (data : Value) :
    Action Ref := do
  match registry with
  | .ok g =>
    Action.add (.multimap (← Action.keepEvents (Multimap.decode g verify data)))
  | .error e =>
    let _ ← ofExcept (Wire.Document.parse verify data)
    throw e

def codec : List (String × Member) :=
  let codecEntry (name : String) (required : List String) (run : Bound → Action Ref)
      (optional : List String := []) (byName : List String := []) :=
    (name, Member.operation
      { operation := name, required, optional, byName, onReceiver := false }
      fun _ b => run b)
  [codecEntry "encode" ["multimap"]
      (fun b => do
        let g ← ofExcept (← registryArgument b 1 "name_of")
        answer (.bytes (← Action.keepEvents ((← multimapArgument b 0).encode g))))
      ["registry"],
    codecEntry "to_document" ["multimap"]
      (fun b => do
        let g ← ofExcept (← registryArgument b 1 "name_of")
        let m ← multimapArgument b 0
        Action.add (.document (← ofExcept (Wire.Document.ofMultimap g m))))
      ["registry"],
    codecEntry "from_document" ["document"]
      (fun b => do
        let g ← ofExcept (← registryArgument b 1 "resolve")
        let d ← documentArgument b 0
        Action.add (.multimap (← Action.keepEvents (d.toMultimap g))))
      ["registry"],
    codecEntry "parse_document" ["data"]
      (fun b => do
        let verify ← verifyArgument b 1
        Action.add (.document (← ofExcept (Wire.Document.parse verify (← b.value 0)))))
      [] ["verify_hash"],
    codecEntry "decode" ["data"]
      (fun b => do
        let g ← registryArgument b 1 "resolve"
        decodeData g (← verifyArgument b 2) (← b.value 0))
      ["registry"] ["verify_hash"],
    codecEntry "dump" ["multimap", "path"]
      (fun b => do
        let path ← ofExcept (Path.ofValue (← b.value 1))
        let folder := (← get).folder
        let g ← registryArgument b 2 "name_of"
        match g, ← Action.thing (← b.ref 0) with
        | .ok g, .multimap m => keepFolder (m.dump g path folder)
        | _, _ =>
          keepFolder (folder.makeParents path)
          let _ ← ofExcept g
          let _ ← multimapArgument b 0
        answer (.text path.toText))
      ["registry"],
    codecEntry "load" ["path"]
      (fun b => do
        let path ← ofExcept (Path.ofValue (← b.value 0))
        let octets ← ofExcept ((← get).folder.read path)
        let g ← registryArgument b 1 "resolve"
        decodeData g ((← get).settings.verify none) (.bytes octets))
      ["registry"]]

-- ============================================================ in numbers

/-- Puts `count` entries one after the other; the number of new ones. -/
def putMany (r : Ref) (entryAt : Nat → Value × Value) (count : Nat) : Action Nat := do
  match ← Action.thing r with
  | .multimap _ =>
    let mut added := 0
    for j in [0:count] do
      let (k, v) := entryAt j
      if ← Action.changeMultimap r (·.put k v) then added := added + 1
    return added
  | _ => throw (.lacksOperation (← Action.typeName r) "put")

/-- The numbers from `start` by steps, going round at a modulus. -/
def roundTo (start step modulus : Int) (j : Nat) : Value :=
  .int ((start + j * step).fmod modulus)

def bulk : List (String × Member) :=
  let number (b : Bound) (i : Nat) : Action Int := do
    return (← b.value i).integer?.getD 0
  let bulkEntry (name : String) (required : List String) (run : Ref → Bound → Action Nat) :=
    (name, Member.operation { operation := name, required, onReceiver := false }
      fun _ b => do answer (.int (← run (← b.ref 0) b)))
  [bulkEntry "put_range" ["m", "key", "start", "step", "count", "mod"] fun r b => do
      let k ← b.value 1
      let numbers := roundTo (← number b 2) (← number b 3) (← number b 5)
      putMany r (fun j => (k, numbers j)) (← number b 4).toNat,
    bulkEntry "put_keys" ["m", "start", "step", "count", "mod"] fun r b => do
      let numbers := roundTo (← number b 1) (← number b 2) (← number b 4)
      putMany r (fun j => (numbers j, .int (j : Nat))) (← number b 3).toNat]

-- ============================================================== calling

def functions : List (String × Member) := makers ++ lookers ++ operators ++ codec ++ bulk

/-- The functions behind the special names that a thing may have. -/
def specialNames : List (String × String) :=
  [("__len__", "len"), ("__repr__", "repr"), ("__str__", "repr"), ("__hash__", "hash"),
    ("__getitem__", "getitem"), ("__setitem__", "setitem"), ("__delitem__", "delitem"),
    ("__iter__", "list"), ("__reversed__", "reversed")]

/-- Calls a function. -/
def call (name : String) (a : Arguments) : Action Ref :=
  match functions.lookup name with
  | some f => f.call 0 a
  | none => throw (.absent (.text name))

/-- Calls what a thing has under a name. -/
def callOn (r : Ref) (name : String) (a : Arguments) : Action Ref := do
  let t ← Action.thing r
  match (membersOf t).lookup name, specialNames.lookup name with
  | some m, _ => m.call r a
  | none, some function =>
    if hasName t name then call function { a with positional := r :: a.positional }
    else throw (.lacksOperation (← Action.typeName r) name)
  | none, none => throw (.lacksOperation (← Action.typeName r) name)

end Collation.Session
