/-
The document that an encoded multimap is: the names of its two
comparators, the number of keys, and a slot for each key with the key, the
number of its values and the values. A digest of everything else closes
it. Counts are written beside what they count, so that a document that
lost a part contradicts itself.
-/
import Collation.Wire.Field

namespace Collation.Wire

/-- The format that a document names. -/
def currentFormat : Text := "sortedmultimap/1"

/-- One key and its values. -/
structure SlotRecord where
  key : Value
  valueCount : Int
  values : List Value

structure Document where
  format : Text
  keyComparator : Text
  valueComparator : Text
  keyCount : Int
  slots : List SlotRecord
  /-- The digest of the document without this field. -/
  payloadHash : Text

namespace SlotRecord

def recordName : String := "EncodedSlot"

def fieldNames : List String := ["key", "value_count", "values"]

/-- A slot from a value: exactly the three fields, and as many values as
it counts, at least one. -/
def check : Value → Checked SlotRecord
  | .dict entries =>
    let key := required entries "key" .ok
    let valueCount := required entries "value_count" (integer 1)
    let values := required entries "values" listed
    let unknown := unknownNames fieldNames entries
    match key, valueCount, values, unknown with
    | .ok key, .ok valueCount, .ok values, [] =>
      if values.length = valueCount then .ok ⟨key, valueCount, values⟩
      else refuse (.valueCount valueCount values.length)
    | _, _, _, _ => .error (key.faults ++ valueCount.faults ++ values.faults ++ unknown)
  | _ => refuse (.notARecord recordName)

/-- The fields in the order of the format. -/
def entries (s : SlotRecord) : List (Value × Value) :=
  [(.text "key", s.key), (.text "value_count", .int s.valueCount),
    (.text "values", .list s.values)]

def toValue (s : SlotRecord) : Value := .dict s.entries

def display (s : SlotRecord) : String :=
  recordName ++ "(key=" ++ s.key.display ++ ", value_count=" ++ toString s.valueCount
    ++ ", values=" ++ Value.displayList s.values ++ ")"

/-- A slot as a thing of its own among values: walking over it gives its
fields with their names. -/
def toObject (s : SlotRecord) : Value :=
  .object
    { identity := none, type := recordName, isHashable := false, isCollection := true
      isSet := false, shown := s.display, trouble := none }
    (s.entries.map fun e => .tuple [e.1, e.2])

end SlotRecord

namespace Document

def recordName : String := "EncodedMultimap"

def fieldNames : List String :=
  ["format", "key_comparator", "value_comparator", "key_count", "slots", "payload_hash"]

/-- A text that names the current format. -/
def checkFormat (v : Value) : Checked Text :=
  match string v with
  | .ok format =>
    if format = currentFormat then .ok format
    else refuse (.unsupportedFormat format currentFormat)
  | .error fs => .error fs

/-- A list of slots, each checked. -/
def checkSlots (v : Value) : Checked (List SlotRecord) :=
  match listed v with
  | .ok items => each SlotRecord.check 0 items
  | .error fs => .error fs

/-- A document from a value: no fields but its own, and as many slots as
it counts. -/
def check : Value → Checked Document
  | .dict entries =>
    let format := optional entries "format" currentFormat checkFormat
    let keyComparator := required entries "key_comparator" string
    let valueComparator := required entries "value_comparator" string
    let keyCount := required entries "key_count" (integer 0)
    let slots := required entries "slots" checkSlots
    let payloadHash := optional entries "payload_hash" ("" : Text) string
    let unknown := unknownNames fieldNames entries
    match format, keyComparator, valueComparator, keyCount, slots, payloadHash, unknown with
    | .ok format, .ok keyComparator, .ok valueComparator, .ok keyCount, .ok slots,
        .ok payloadHash, [] =>
      if slots.length = keyCount then
        .ok ⟨format, keyComparator, valueComparator, keyCount, slots, payloadHash⟩
      else refuse (.keyCount keyCount slots.length)
    | _, _, _, _, _, _, _ =>
      .error (format.faults ++ keyComparator.faults ++ valueComparator.faults
        ++ keyCount.faults ++ slots.faults ++ payloadHash.faults ++ unknown)
  | _ => refuse (.notARecord recordName)

/-- The fields in the order of the format. -/
def entries (d : Document) : List (Value × Value) :=
  [(.text "format", .text d.format), (.text "key_comparator", .text d.keyComparator),
    (.text "value_comparator", .text d.valueComparator),
    (.text "key_count", .int d.keyCount),
    (.text "slots", .list (d.slots.map SlotRecord.toValue)),
    (.text "payload_hash", .text d.payloadHash)]

def toValue (d : Document) : Value := .dict d.entries

/-- The fields by their names, the slots being things of their own. -/
def attributes (d : Document) : List (String × Value) :=
  [("format", .text d.format), ("key_comparator", .text d.keyComparator),
    ("value_comparator", .text d.valueComparator), ("key_count", .int d.keyCount),
    ("slots", .list (d.slots.map SlotRecord.toObject)),
    ("payload_hash", .text d.payloadHash)]

def display (d : Document) : String :=
  recordName ++ "("
    ++ Value.commaSeparated (d.attributes.map fun e => e.1 ++ "=" ++ e.2.display) ++ ")"

/-- The number of values that the slots claim. -/
def entryCount (d : Document) : Int := d.slots.foldl (fun n slot => n + slot.valueCount) 0

end Document

end Collation.Wire
