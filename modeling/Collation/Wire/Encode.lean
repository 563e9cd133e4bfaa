/-
Multimaps written as documents. Only what JSON gives back as it was is
written: null, truth values, integers, finite floats, plain texts, and
lists and text-keyed dictionaries of those. Anything else is refused
before there is any output.
-/
import Collation.Comparator.Registry
import Collation.Multimap.Views
import Collation.Wire.Digest
import Collation.Wire.Document

namespace Collation

namespace Value

/-- Refuses a value that cannot be shown, since messages show it. -/
def checkShowable (v : Value) : Except Fault Unit :=
  if v.isShowable then .ok () else .error .integerTooLong

mutual

/-- Refuses a value that would not come back from JSON as it is; `place`
says in the error where it was met. -/
def checkEncodable (place : String) : Value → Except Fault Unit
  | null | bool _ | int _ | text _ => .ok ()
  | float x => if x.isFinite then .ok () else .error (.misuse (.notFinite place (float x)))
  | list xs => checkItems place xs
  | dict es => checkEntries place es
  | v => do
    checkShowable v
    throw (.misuse (.notJson place v))
termination_by structural v => v

def checkItems (place : String) : List Value → Except Fault Unit
  | [] => .ok ()
  | x :: xs => do
    checkEncodable place x
    checkItems place xs
termination_by structural xs => xs

def checkEntries (place : String) : List (Value × Value) → Except Fault Unit
  | [] => .ok ()
  | e :: es => do
    checkEntry place e
    checkEntries place es
termination_by structural es => es

def checkEntry (place : String) : Value × Value → Except Fault Unit
  | (text _, v) => checkEncodable place v
  | (name, _) => do
    checkShowable name
    throw (.misuse (.entryNameNotText place name))
termination_by structural e => e

end

end Value

namespace Wire

/-- A checked record, or the error of a record at fault. -/
def Checked.orInvalid {α : Type} (record : String) : Checked α → Except Fault α
  | .ok a => .ok a
  | .error faults => .error (.invalidRecord record faults)

/-- The slot of a key of the map view, which is looked up again. -/
def SlotRecord.ofKey (v : MapView) (k : Value) : Except Fault SlotRecord := do
  let view ← v.get k
  k.checkShowable
  Value.checkEncodable ("Key " ++ k.display) k
  let values ← view.items
  Value.checkItems ("Value under key " ++ k.display) values
  Checked.orInvalid recordName
    (check (toValue ⟨k, values.length, values⟩))

/-- The document of a multimap by the names that a registry gives its
comparators. -/
def Document.ofMultimap (registry : Registry) (m : Multimap) : Except Fault Document := do
  let keyName ← registry.nameOf m.keyComparator
  let valueName ← registry.nameOf m.valueComparator
  let slots ← m.keys.mapM (SlotRecord.ofKey m.asMap)
  let document ← Checked.orInvalid recordName <| check <| .dict
    [(.text "key_comparator", keyName), (.text "value_comparator", valueName),
      (.text "key_count", .int slots.length),
      (.text "slots", .list (slots.map SlotRecord.toValue))]
  return { document with payloadHash := ← digestOf document.entries }

end Wire

namespace Multimap

open Wire

/-- The octets of a multimap's document in canonical JSON. -/
def encode (registry : Registry) (m : Multimap) : Outcome Unit (List UInt8) :=
  match Document.ofMultimap registry m with
  | .error e => .failed () e
  | .ok document =>
    match Json.written document.toValue with
    | .error e => .failed () e
    | .ok text =>
      let octets := asciiOctets text
      .done () octets
        [.encoded document.keyCount.toNat document.entryCount.toNat octets.length]

end Multimap

end Collation
