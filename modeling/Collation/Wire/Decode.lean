/-
Multimaps read from documents. Reading refuses what is no JSON text, no
object, no document by its fields, or does not match its digest, each with
an error of one class. A document is then replayed: its values are put
under its keys in the order written, into an empty multimap by the
comparators that it names. Values that the comparators do not tell apart
collapse, which is reported slot by slot.
-/
import Collation.Comparator.Registry
import Collation.Json.Reader
import Collation.Multimap.Basic
import Collation.Wire.Digest
import Collation.Wire.Document

namespace Collation.Wire

-- ============================================================= reading

/-- What a JSON text spells, given as text or as octets. -/
def readJson (data : Value) : Except Fault Value :=
  match data.text?, data with
  | some s, _ => Json.ofText s
  | none, .bytes octets => Json.ofOctets octets
  | none, v => .error (.notJsonText v.typeName)

/-- What is no JSON text is corrupt. -/
def asCorrupt : Fault → Fault
  | .syntaxError fault => .corruptSyntax fault
  | .undecodable fault => .corruptText fault
  | e => e

/-- Refuses fields whose digest is another than the document claims. -/
def checkHash (entries : List (Value × Value)) (d : Document) : Except Fault Unit := do
  let expected ← digestOf entries
  if d.payloadHash ≠ expected then throw (.corruptHash expected d.payloadHash)

/-- The document that a text or some octets spell. The digest is compared
only on request. -/
def Document.parse (verify : Bool) (data : Value) : Except Fault Document :=
  match (readJson data).mapError asCorrupt with
  | .error e => .error e
  | .ok (.dict entries) =>
    match check (.dict entries) with
    | .error faults => .error (.corruptFields faults)
    | .ok document =>
      if verify then (checkHash entries document).map fun _ => document else .ok document
  | .ok v => .error (.corruptRoot v.typeName)

-- =========================================================== replaying

/-- Puts the values of a slot; tells how many of them were new. -/
def putCounting (m : Multimap) (k : Value) : List Value → Outcome Multimap Nat
  | [] => .done m 0
  | v :: vs =>
    (m.put k v).andThen fun m' isNew =>
      (putCounting m' k vs).mapResult ((if isNew then 1 else 0) + ·)

/-- Replays one slot, and reports values that collapsed. -/
def replaySlot (m : Multimap) (s : SlotRecord) : Outcome Multimap Unit :=
  ((putCounting m s.key s.values).mapFault (.corruptSlot s.key)).andThen fun m' added =>
    .done m' () <|
      if added < s.valueCount then [.collapsed s.key (s.valueCount - added) s.valueCount]
      else []

def replay (m : Multimap) : List SlotRecord → Outcome Multimap Unit
  | [] => .done m ()
  | s :: rest => (replaySlot m s).andThen fun m' _ => replay m' rest

/-- The two comparators that a document names. -/
def Document.comparators (registry : Registry) (d : Document) :
    Except Fault (Comparator × Comparator) := do
  let keys ← registry.resolve (.text d.keyComparator)
  let values ← registry.resolve (.text d.valueComparator)
  return (keys, values)

/-- A name that a registry does not know makes a document corrupt. -/
def asUnknown : Fault → Fault
  | .misuse cause => .corruptName cause
  | e => e

/-- The multimap that a document describes. -/
def Document.toMultimap (registry : Registry) (d : Document) : Outcome Unit Multimap :=
  match (d.comparators registry).mapError asUnknown with
  | .error e => .failed () e
  | .ok (keys, values) =>
    let replayed := replay (.empty keys values) d.slots
    ⟨(), replayed.result.map fun _ => replayed.state, replayed.events⟩

end Collation.Wire

namespace Collation.Multimap

open Wire

/-- The multimap that an encoded text or some octets hold. -/
def decode (registry : Registry) (verify : Bool) (data : Value) : Outcome Unit Multimap :=
  match Document.parse verify data with
  | .error e => .failed () e
  | .ok document =>
    (document.toMultimap registry).andThen fun _ m =>
      .done () m [.decoded m.map.size m.total]

end Collation.Multimap
