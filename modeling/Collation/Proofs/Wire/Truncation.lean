/-
Documents that are cut short. Whatever is left of an encoded multimap, it
is refused as corrupt, and that before any field or the digest is looked
at: the octets are all printed ASCII, so what is left of them is taken for
the characters that it is, and what is left of the text is malformed
(`Json.readAll_cut`).
-/
import Collation.Proofs.Json.Truncation
import Collation.Proofs.Wire.Tampering

namespace Collation

open Wire

variable {p t : List Char} {m : Multimap} {registry : Registry} {octets : List UInt8}

/-- A text that is malformed is refused with the place where it is. -/
theorem Json.ofPoints_malformed {ps : List CodePoint} (h : Json.Malformed (Json.readAll ps)) :
    ∃ fault, Json.ofPoints ps = .error (.syntaxError fault) := by
  obtain ⟨cause, rest, h⟩ := h
  exact ⟨Json.place ps rest cause, by rw [Json.ofPoints, h]⟩

namespace Wire.Document

variable {d : Document}

/-- The octets of a plain document that are left when it is cut short. -/
theorem parse_cut (h : d.toValue.Plain) (ht : Json.written d.toValue = .ok t) (hp : p <+: t)
    (hne : p ≠ t) (verify : Bool) :
    ∃ fault, parse verify (.bytes (asciiOctets p)) = .error (.corruptSyntax fault) := by
  have hlegible := Json.legible_of_written h ht
  have hprinted : Json.Printable p := fun c hc => hlegible.printable ht c (hp.subset hc)
  have hprefix : codePoints p <+: codePoints t := hp.map _
  have hcut : codePoints p ≠ codePoints t := fun heq =>
    hne (Text.ofChars_injective (congrArg Text.mk heq))
  obtain ⟨fault, hfault⟩ := Json.ofPoints_malformed (Json.readAll_cut h ht hprefix hcut)
  have hread : readJson (.bytes (asciiOctets p)) = .error (.syntaxError fault) := by
    show Json.ofOctets (asciiOctets p) = _
    rw [Json.ofOctets, Json.decodeDetected_printable hprinted]
    exact hfault
  exact ⟨fault, by rw [parse, hread]; rfl⟩

end Wire.Document

namespace Multimap

/-- Truncation is detected. Of an encoded multimap, whatever its contents,
any number of octets short of all of them is refused as corrupt, with the
digest compared or not, and so it is by decoding, with any registry. -/
theorem truncation_detected (registry : Registry) (hproper : m.Proper)
    (hencode : (m.encode registry).result = .ok octets) {n : Nat} (hn : n < octets.length)
    (registry' : Registry) (verify : Bool) :
    ∃ e, Document.parse verify (.bytes (octets.take n)) = .error e
      ∧ (decode registry' verify (.bytes (octets.take n))).result = .error e
      ∧ e.kind = "CorruptDataError" := by
  obtain ⟨d, t, hd, ht, rfl⟩ := encode_eq_ok.1 hencode
  rw [asciiOctets, List.length_map] at hn
  have hne : t.take n ≠ t := mt (List.take_eq_self_iff t).1 (Nat.not_le.2 hn)
  obtain ⟨fault, hparse⟩ :=
    Document.parse_cut (hproper.sealed hd).plain ht (List.take_prefix n t) hne verify
  rw [asciiOctets, List.map_take, ← asciiOctets] at hparse
  refine ⟨_, hparse, ?_, rfl⟩
  rw [decode, hparse]
  rfl

/-- Cut in the middle of a surrogate pair. -/
theorem truncation_detected_halfway :
    let m := ((empty .natural .caseFold).put (.text "𝄞")
      (.list [.int (-12), .float (.zero true)])).state
    ∃ octets, (m.encode .withBuiltins).result = .ok octets ∧ 178 < octets.length
      ∧ ∃ e, Document.parse false (.bytes (octets.take 178)) = .error e
        ∧ (decode .withBuiltins false (.bytes (octets.take 178))).result = .error e
        ∧ e.kind = "CorruptDataError" := by
  intro m
  have hproper : m.Proper := by decide +kernel
  have hlength : (m.encode .withBuiltins).result.toOption.any (178 < ·.length) = true := by
    decide +kernel
  cases hencode : (m.encode .withBuiltins).result with
  | error e =>
    rw [hencode] at hlength
    cases hlength
  | ok octets =>
    rw [hencode] at hlength
    have hlong : 178 < octets.length := of_decide_eq_true hlength
    exact ⟨octets, rfl, hlong,
      truncation_detected .withBuiltins hproper hencode hlong .withBuiltins false⟩

end Multimap

end Collation
