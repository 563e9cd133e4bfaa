/-
The digest that closes a document: SHA-256 of the canonical text of all
its other fields, in hexadecimal. It depends on the fields as values, not
on how they were spelled or in which order they came.
-/
import Collation.Digest.Sha256
import Collation.Json.Canonical

namespace Collation.Wire

/-- The name of the field that holds the digest. -/
def digestName : Value := .text "payload_hash"

/-- The octets of an ASCII text. -/
def asciiOctets (text : List Char) : List UInt8 := text.map fun c => UInt8.ofNat c.toNat

/-- Octets in hexadecimal. -/
def hexText (octets : List UInt8) : String :=
  String.ofList (octets.flatMap fun b => Text.hex 2 b.toNat)

/-- The digest of a document's fields, less the one for the digest. -/
def digestOf (entries : List (Value × Value)) : Except Fault Text := do
  let body := entries.filter fun e => !Value.agree e.1 digestName
  let text ← Json.written (.dict body)
  return hexText (Sha256.digest (asciiOctets text))

end Collation.Wire
