/-
The canonical text tells everything about a value but the order in which
the entries of its dictionaries were given. It is read back as a value that
is like the one written, in type and content at every depth, and two values
have one text only if they are alike: true, 1 and 1.0 are told apart, and so
are the two zeros. This is about any value that is taken into a document,
however it is nested; all that is asked beyond the check which a document
makes is that its integers can be shown (`isShowable`), and that nowhere in
it halves of a surrogate pair stand side by side (`isWhole`).

Both directions go through the normal form, which the text is one spelling
of (`Json.Legible.spells_normal`): alike values have one normal form
(`Plain.same_of_alike`), and plain values with one normal form are alike
(`Plain.alike_of_same`).
-/
import Collation.Proofs.Value.Alike
import Collation.Proofs.Wire.Failure
import Collation.Proofs.Wire.Tampering

namespace Collation.Wire

variable {v w : Value} {t u : List Char} {es fs : List (Value × Value)} {place place' : String}

/-- The octets of a value's canonical text. -/
def canonical (v : Value) : Except Fault (List UInt8) := (Json.written v).map asciiOctets

private theorem canonical_eq_ok {octets : List UInt8} :
    canonical v = .ok octets ↔ ∃ t, Json.written v = .ok t ∧ octets = asciiOctets t :=
  map_eq_ok

/-- Plain values have one canonical text if they are alike, and only then if
they are whole. -/
theorem written_eq_iff (hv : v.Plain) (hw : w.Plain) (hwhole : v.isWhole = true)
    (hwhole' : w.isWhole = true) (ht : Json.written v = .ok t) (hu : Json.written w = .ok u) :
    t = u ↔ v.Alike w := by
  constructor
  · rintro rfl
    have hlegible := Json.legible_of_written hv ht
    have hlegible' := Json.legible_of_written hw hu
    exact hv.alike_of_same hw (hlegible.same_of_written_eq hlegible' hwhole hwhole' ht hu)
  · intro halike
    have hsame : v.normal = w.normal := (hv.same_of_alike halike).2
    rw [← Json.written_normal hv, hsame, Json.written_normal hw, hu] at ht
    exact (Except.ok.inj ht).symm

/-- Fields that are alike have one digest. -/
theorem digestOf_eq_of_alike (h : (Value.dict es).Plain)
    (halike : (Value.dict es).Alike (.dict fs)) : digestOf es = digestOf fs := by
  obtain ⟨hplain, hsame⟩ := h.same_of_alike halike
  rw [Value.Same, Value.normal_dict, Value.normal_dict, Value.dict.injEq] at hsame
  rw [← digestOf_canonicalEntries h, hsame, digestOf_canonicalEntries hplain]

/-- The canonical form loses nothing and tells values apart. Of any two values
that are taken into a document, none of their integers being too long to be
shown and no halves of a surrogate pair standing side by side in their
texts, each has canonical octets, and what these are read as is like the
value; the two have the same octets if they are alike, and only then; and if
they are dictionaries that are alike, they have one digest. -/
theorem canonical_faithful (hv : v.checkEncodable place = .ok ())
    (hw : w.checkEncodable place' = .ok ()) (hproper : v.isProper = true)
    (hproper' : w.isProper = true) (hshown : v.isShowable = true) (hshown' : w.isShowable = true)
    (hwhole : v.isWhole = true) (hwhole' : w.isWhole = true) :
    ∃ octets octets', canonical v = .ok octets ∧ canonical w = .ok octets'
      ∧ (∃ v', readJson (.bytes octets) = .ok v' ∧ v.Alike v')
      ∧ (octets = octets' ↔ v.Alike w)
      ∧ ∀ es fs, v = .dict es → w = .dict fs → v.Alike w →
        ∃ digest, digestOf es = .ok digest ∧ digestOf fs = .ok digest := by
  have hplain := Value.plain_of_checkEncodable hv hproper
  have hplain' := Value.plain_of_checkEncodable hw hproper'
  have hlegible := hplain.legible hshown
  obtain ⟨t, ht⟩ := hlegible.written
  have hlegible' := hplain'.legible hshown'
  obtain ⟨u, hu⟩ := hlegible'.written
  refine ⟨_, _, canonical_eq_ok.2 ⟨t, ht, rfl⟩, canonical_eq_ok.2 ⟨u, hu, rfl⟩, ?_, ?_, ?_⟩
  · exact ⟨v.normal, readJson_whole hlegible hwhole ht,
      hplain.alike_of_same hplain.normal hplain.normal_normal.symm⟩
  · rw [← written_eq_iff hplain hplain' hwhole hwhole' ht hu]
    exact ⟨asciiOctets_inj (hlegible.ascii ht) (hlegible'.ascii hu), congrArg asciiOctets⟩
  · rintro es fs rfl rfl halike
    obtain ⟨digest, hdigest⟩ := digestOf_legible hlegible
    exact ⟨digest, hdigest, digestOf_eq_of_alike hplain halike ▸ hdigest⟩

/-- Two dictionaries with one inside them, given in different orders. -/
theorem canonical_faithful_rearranged :
    let inner : List (Value × Value) :=
      [(.text "é\n", .float (.zero true)), (.text "\"", .list [.int 1, .bool true, .null])]
    let v : Value := .dict [(.text "ab", .dict inner), (.text "a", .text "𝄞")]
    let w : Value := .dict [(.text "a", .text "𝄞"), (.text "ab", .dict inner.reverse)]
    ∃ octets, canonical v = .ok octets ∧ canonical w = .ok octets
      ∧ ∃ v', readJson (.bytes octets) = .ok v' ∧ v.Alike v' := by
  intro inner v w
  have halike : v.Alike w := by
    have hinner : (Value.dict inner).Alike (.dict inner.reverse) :=
      .dict (List.reverse_perm inner) (.cons (.refl _) (.cons (.refl _) .nil))
        (.cons (.refl _) (.cons (.refl _) .nil))
    exact .dict (List.Perm.swap _ _ _) (.cons (.refl _) (.cons (.refl _) .nil))
      (.cons hinner (.cons (.refl _) .nil))
  obtain ⟨octets, octets', hoctets, hoctets', hread, heq, -⟩ :=
    canonical_faithful (show v.checkEncodable "here" = .ok () from rfl)
      (show w.checkEncodable "there" = .ok () from rfl) (by decide +kernel)
      (by decide +kernel) (by decide +kernel) (by decide +kernel) (by decide +kernel)
      (by decide +kernel)
  obtain rfl := heq.2 halike
  exact ⟨octets, hoctets, hoctets', hread⟩

end Collation.Wire
