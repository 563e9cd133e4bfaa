/-
Looking values up as keys. A value that can change, or that holds one, is
no key: looking it up is an error, not a miss. Keys that agree are one
key; it keeps its place and its spelling when a new value is given for it.
-/
import Collation.Fault
import Collation.Value.Equality

namespace Collation.Value

mutual

/-- The type that keeps a value from being a dictionary key: a value that
can change has no hash, and neither has a tuple that holds one. -/
def unhashable? : Value → Option String
  | list _ => some "list"
  | dict _ => some "dict"
  | set _ => some "set"
  | tuple xs => unhashableItem? xs
  | object o _ => if o.isHashable then none else some o.type
  | _ => none
termination_by structural a => a

def unhashableItem? : List Value → Option String
  | [] => none
  | x :: xs => (unhashable? x).or (unhashableItem? xs)
termination_by structural xs => xs

end

/-- The value under a key that agrees with the one given. -/
def lookup {β : Type} (k : Value) (entries : List (Value × β)) : Option β :=
  (entries.find? fun e => agree k e.1).map Prod.snd

/-- Entries with one more: an equal key keeps its place and its spelling
and takes the new value. -/
def insertEntry {β : Type} (k : Value) (v : β) : List (Value × β) → List (Value × β)
  | [] => [(k, v)]
  | (k', v') :: es => if agree k k' then (k', v) :: es else (k', v') :: insertEntry k v es

/-- The dictionary that results from giving the entries one by one. -/
def dictOf (entries : List (Value × Value)) : List (Value × Value) :=
  entries.foldl (fun es e => insertEntry e.1 e.2 es) []

/-- Elements without those that agree with an earlier one. -/
def distinct (items : List Value) : List Value :=
  items.foldl (fun xs x => if xs.any (fun y => agree x y) then xs else xs ++ [x]) []

/-- The hash of a number: its residue modulo a prime, 2^61 - 1, with its
sign. Two to the 1074th, the unit in which positions are given, has two to
the 24th for its inverse. -/
def numberHash? (v : Value) : Option Int :=
  v.position?.map fun
    | .lowest => -314159
    | .highest => 314159
    | .finite units =>
      let residue : Int := (units.natAbs * Nat.pow 2 24 % (Nat.pow 2 61 - 1) : Nat)
      if units < 0 then (if residue = 1 then -2 else -residue) else residue

/-- One hash of several in order: each is mixed into a word by a product,
a turn and another product, and their number is added at the end. -/
def mixedHash (hashes : List Int) : Int :=
  let start : UInt64 := 2870177450012600261
  let mixed := hashes.foldl
    (fun word h =>
      let w := word + UInt64.ofInt h * 14029467366897019727
      (w <<< 31 ||| w >>> 33) * 11400714785074694791)
    start
  let word := mixed + (UInt64.ofNat hashes.length ^^^ (start ^^^ 3527539))
  if word + 1 == 0 then 1546275796 else word.toInt64.toInt

mutual

/-- The hash of a value, if it is the same in every session: that of a
number, of an empty text, and of a tuple of such values. -/
def steadyHash? : Value → Option Int
  | text s | label s => if s.isEmpty then some 0 else none
  | bytes octets => if octets.isEmpty then some 0 else none
  | tuple xs => (steadyHashes? xs).map mixedHash
  | v => numberHash? v
termination_by structural a => a

def steadyHashes? : List Value → Option (List Int)
  | [] => some []
  | x :: xs =>
    match steadyHash? x, steadyHashes? xs with
    | some h, some hs => some (h :: hs)
    | _, _ => none
termination_by structural xs => xs

end

-- ========================================================== walking over

/-- The elements that walking over a value gives, or the error that it
meets; none if it cannot be walked over. -/
def walk? (v : Value) : Option (Except Fault (List Value)) :=
  match v with
  | object ⟨_, _, _, true, _, _, some (type, message)⟩ _ =>
    some (.error (.foreign type message))
  | _ => v.elements?.map .ok

/-- The elements that walking over a value gives. -/
def elements (v : Value) : Except Fault (List Value) :=
  v.walk?.getD (.error (.notIterable v.typeName))

-- ====================================================== checked look-up

/-- Refuses a value that cannot be a key. -/
def checkHashable (k : Value) : Except Fault Unit :=
  match k.unhashable? with
  | some t => .error (.unhashable t)
  | none => .ok ()

/-- What stands under a key, none if it is absent. -/
def find? {β : Type} (k : Value) (entries : List (Value × β)) : Except Fault (Option β) :=
  (checkHashable k).map fun _ => lookup k entries

/-- What stands under a key, which must be there. -/
def entryUnder {β : Type} (k : Value) (entries : List (Value × β)) : Except Fault β :=
  match find? k entries with
  | .error e => .error e
  | .ok (some v) => .ok v
  | .ok none => .error (.absent k)

end Collation.Value
