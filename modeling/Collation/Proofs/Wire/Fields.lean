/-
What the checks of a document's fields come to. A check that succeeds
tells every field (`SlotRecord.check_eq_ok`, `Document.check_eq_ok`), and
it asks for fields by their names only: it succeeds on the normal form of
a record too, with the normal forms of what the fields hold.
-/
import Collation.Proofs.Json.Canonical
import Collation.Wire.Decode
import Collation.Wire.Encode

namespace Collation.Wire

open Value (Named canonicalEntries)

variable {α : Type} {es : List (Value × Value)} {name : String} {p : Value → Checked α} {a : α}

-- ======================================================== single fields

private theorem Checked.under_eq_ok {c : Checked α} : c.under name = .ok a ↔ c = .ok a := by
  cases c with
  | error fs => exact iff_of_false (fun h => nomatch h) fun h => nomatch h
  | ok b => exact Iff.rfl

/-- A required field is there and is as it should be. -/
theorem required_eq_ok :
    required es name p = .ok a ↔ ∃ v, Value.lookup (.text name) es = some v ∧ p v = .ok a := by
  rw [required, Checked.under_eq_ok]
  cases Value.lookup (.text name) es with
  | none => exact iff_of_false (fun h => nomatch h) fun ⟨_, h, _⟩ => nomatch h
  | some v => simp

/-- An optional field is as it should be, or absent. -/
theorem optional_eq_ok {absent : α} :
    optional es name absent p = .ok a ↔
      (∃ v, Value.lookup (.text name) es = some v ∧ p v = .ok a)
        ∨ Value.lookup (.text name) es = none ∧ absent = a := by
  rw [optional, Checked.under_eq_ok]
  cases Value.lookup (.text name) es with
  | none => simp
  | some v => simp

/-- An integer that is not too small. -/
theorem integer_int_eq_ok {least m n : Int} :
    integer least (.int m) = .ok n ↔ least ≤ n ∧ m = n := by
  rw [integer]
  split
  · next h => exact iff_of_false (fun h => nomatch h) fun ⟨hle, heq⟩ => by omega
  · next h =>
    constructor
    · rintro ⟨⟩
      exact ⟨Int.not_lt.1 h, rfl⟩
    · rintro ⟨-, rfl⟩
      rfl

/-- No name is unknown if all are among those that are known. -/
theorem unknownNames_eq_nil {known : List String} :
    unknownNames known es = [] ↔ ∀ e ∈ es, ∃ field ∈ known, e.1.text? = some (.ofString field) := by
  rw [unknownNames, List.filterMap_eq_nil_iff]
  refine forall₂_congr fun e _ => ?_
  cases e.1.text? with
  | none => simp
  | some s => simp

/-- Each is as it should be, whatever its place. -/
theorem each_eq_ok {xs : List Value} {ys : List α} (index : Nat) :
    each p index xs = .ok ys ↔ List.Forall₂ (fun x y => p x = .ok y) xs ys := by
  induction xs generalizing ys index with
  | nil =>
    rw [List.forall₂_nil_left_iff]
    exact ⟨fun h => (Except.ok.inj h).symm, fun h => h ▸ rfl⟩
  | cons x xs ih =>
    rw [List.forall₂_cons_left_iff, each]
    simp only [← ih (index + 1)]
    cases p x with
    | error fs =>
      refine iff_of_false (fun h => ?_) fun ⟨y, ys', h, _⟩ => nomatch h
      cases h
    | ok a =>
      cases each p (index + 1) xs with
      | error fs => exact iff_of_false (fun h => nomatch h) fun ⟨y, ys', _, h, _⟩ => nomatch h
      | ok as =>
        constructor
        · intro h
          exact ⟨a, as, rfl, rfl, (Except.ok.inj h).symm⟩
        · rintro ⟨y, ys', hy, hys, rfl⟩
          cases hy
          cases hys
          rfl

-- =============================================================== parts

/-- The predicate goes over to the elements of a value and to what stands
under its names, and lets a dictionary have only different texts for names. -/
structure Hereditary (P : Value → Prop) : Prop where
  listed : ∀ {v : Value} {xs : List Value}, P v → listed v = .ok xs → ∀ x ∈ xs, P x
  dict : ∀ {es : List (Value × Value)}, P (.dict es) → Named es ∧ ∀ e ∈ es, P e.2

/-- What is read off a field is read off such a part. -/
theorem Hereditary.required {P : Value → Prop} (hP : Hereditary P) (hes : P (.dict es))
    (h : required es name p = .ok a) : ∃ v, P v ∧ p v = .ok a := by
  obtain ⟨hnamed, hparts⟩ := hP.dict hes
  obtain ⟨v, hv, ha⟩ := required_eq_ok.1 h
  exact ⟨v, hparts _ ((Value.lookup_eq_some_iff hnamed).1 hv), ha⟩

/-- Plain values are made of plain ones. -/
theorem hereditary_plain : Hereditary Value.Plain where
  listed hv h := by
    cases hv with
    | list hxs =>
      cases h
      exact hxs
    | _ => cases h
  dict := Value.Plain.of_dict

-- ========================================================= normal forms

private theorem unknownNames_canonicalEntries {known : List String}
    (h : unknownNames known es = []) :
    unknownNames known (canonicalEntries es) = [] := by
  rw [unknownNames_eq_nil] at h ⊢
  exact List.forall_mem_map.2 fun e he => h e (Value.mem_byName.1 he)

/-- A check that succeeds on the normal form of a plain value too. -/
def Keeps (p : Value → Checked α) (f : α → α) : Prop :=
  ∀ v a, v.Plain → p v = .ok a → p v.normal = .ok (f a)

/-- A required field is found in the normal form, in its own. -/
private theorem required_canonicalEntries {f : α → α} (hes : (Value.dict es).Plain) (hp : Keeps p f)
    (h : required es name p = .ok a) : required (canonicalEntries es) name p = .ok (f a) := by
  obtain ⟨hnamed, hplain⟩ := hes.of_dict
  obtain ⟨v, hv, ha⟩ := required_eq_ok.1 h
  have hmem := (Value.lookup_eq_some_iff hnamed).1 hv
  refine required_eq_ok.2 ⟨v.normal, ?_, hp v a (hplain _ hmem) ha⟩
  rw [Value.lookup_canonicalEntries hnamed, hv]
  rfl

/-- So is an optional one, or its default. -/
private theorem optional_canonicalEntries {absent : α} (hes : (Value.dict es).Plain)
    (hp : Keeps p id)
    (h : optional es name absent p = .ok a) :
    optional (canonicalEntries es) name absent p = .ok a := by
  obtain ⟨hnamed, hplain⟩ := hes.of_dict
  rw [optional_eq_ok, Value.lookup_canonicalEntries hnamed]
  rcases optional_eq_ok.1 h with ⟨v, hv, ha⟩ | ⟨hnone, rfl⟩
  · have hmem := (Value.lookup_eq_some_iff hnamed).1 hv
    exact .inl ⟨v.normal, by rw [hv]; rfl, hp v a (hplain _ hmem) ha⟩
  · exact .inr ⟨by rw [hnone]; rfl, rfl⟩

private theorem keeps_any : Keeps .ok Value.normal := by
  rintro v _ _ ⟨⟩
  rfl

private theorem keeps_integer (least : Int) : Keeps (integer least) id := by
  intro v a hv h
  cases hv with
  | int n => exact h
  | _ => cases h

private theorem keeps_string : Keeps string id := by
  intro v a hv h
  cases hv with
  | text s => exact h
  | _ => cases h

private theorem keeps_listed : Keeps listed (List.map Value.normal) := by
  intro v a hv h
  cases hv with
  | @list xs hxs =>
    cases h
    rw [Value.normal_list]
    rfl
  | _ => cases h

/-- A check of each element of a list. -/
theorem Keeps.each {f : α → α} (hp : Keeps p f) {xs : List Value} {as : List α} {index : Nat}
    (hxs : ∀ x ∈ xs, x.Plain) (h : each p index xs = .ok as) :
    each p index (xs.map Value.normal) = .ok (as.map f) := by
  rw [each_eq_ok] at h ⊢
  refine List.forall₂_map_left_iff.2 (List.forall₂_map_right_iff.2 ?_)
  exact forall₂_imp_of_mem h fun x hx a ha => hp x a (hxs x hx) ha

-- ================================================================ slots

namespace SlotRecord

variable {s : SlotRecord}

/-- A checked slot, field by field. -/
theorem check_eq_ok :
    check (.dict es) = .ok s ↔
      required es "key" .ok = .ok s.key ∧ required es "value_count" (integer 1) = .ok s.valueCount
        ∧ required es "values" listed = .ok s.values ∧ unknownNames fieldNames es = []
        ∧ s.values.length = s.valueCount := by
  unfold check
  dsimp only
  generalize required es "key" .ok = key
  generalize required es "value_count" (integer 1) = valueCount
  generalize required es "values" listed = values
  generalize unknownNames fieldNames es = unknown
  constructor
  · intro h
    split at h
    · split at h
      · next hcount =>
        cases h
        exact ⟨rfl, rfl, rfl, rfl, hcount⟩
      · cases h
    · cases h
  · rintro ⟨rfl, rfl, rfl, rfl, hcount⟩
    exact if_pos hcount

/-- The slot with its key and its values in normal form. -/
def normal (s : SlotRecord) : SlotRecord := ⟨s.key.normal, s.valueCount, s.values.map Value.normal⟩

private theorem keeps_check : Keeps check normal := by
  intro v s hv h
  cases hv with
  | @dict es hes hvalues =>
    have hplain := Value.Plain.dict hes hvalues
    obtain ⟨hkey, hcount, hvalues, hunknown, hlength⟩ := check_eq_ok.1 h
    rw [Value.normal_dict]
    refine check_eq_ok.2 ⟨required_canonicalEntries hplain keeps_any hkey,
      required_canonicalEntries hplain (keeps_integer 1) hcount,
      required_canonicalEntries hplain keeps_listed hvalues,
      unknownNames_canonicalEntries hunknown, ?_⟩
    exact (congrArg Nat.cast (List.length_map _)).trans hlength
  | _ => cases h

end SlotRecord

-- ============================================================= documents

namespace Document

variable {d : Document}

/-- A checked document, field by field. -/
theorem check_eq_ok :
    check (.dict es) = .ok d ↔
      optional es "format" currentFormat checkFormat = .ok d.format
        ∧ required es "key_comparator" string = .ok d.keyComparator
        ∧ required es "value_comparator" string = .ok d.valueComparator
        ∧ required es "key_count" (integer 0) = .ok d.keyCount
        ∧ required es "slots" checkSlots = .ok d.slots
        ∧ optional es "payload_hash" ("" : Text) string = .ok d.payloadHash
        ∧ unknownNames fieldNames es = [] ∧ d.slots.length = d.keyCount := by
  unfold check
  dsimp only
  generalize optional es "format" currentFormat checkFormat = format
  generalize required es "key_comparator" string = keyComparator
  generalize required es "value_comparator" string = valueComparator
  generalize required es "key_count" (integer 0) = keyCount
  generalize required es "slots" checkSlots = slots
  generalize optional es "payload_hash" ("" : Text) string = payloadHash
  generalize unknownNames fieldNames es = unknown
  constructor
  · intro h
    split at h
    · split at h
      · next hcount =>
        cases h
        exact ⟨rfl, rfl, rfl, rfl, rfl, rfl, rfl, hcount⟩
      · cases h
    · cases h
  · rintro ⟨rfl, rfl, rfl, rfl, rfl, rfl, rfl, hcount⟩
    exact if_pos hcount

private theorem keeps_checkFormat : Keeps checkFormat id := by
  intro v a hv h
  cases hv with
  | text s => exact h
  | _ => cases h

private theorem keeps_checkSlots : Keeps checkSlots (List.map SlotRecord.normal) := by
  intro v a hv h
  cases hv with
  | @list xs hxs =>
    rw [Value.normal_list]
    exact SlotRecord.keeps_check.each hxs h
  | _ => cases h

/-- The document with its slots in normal form. -/
def normal (d : Document) : Document := { d with slots := d.slots.map SlotRecord.normal }

/-- A document is checked in normal form as it is. -/
theorem keeps_check : Keeps check normal := by
  intro v d hv h
  cases hv with
  | @dict es hes hvalues =>
    have hplain := Value.Plain.dict hes hvalues
    obtain ⟨hformat, hkeys, hvalues, hcount, hslots, hhash, hunknown, hlength⟩ := check_eq_ok.1 h
    rw [Value.normal_dict]
    refine check_eq_ok.2 ⟨optional_canonicalEntries hplain keeps_checkFormat hformat,
      required_canonicalEntries hplain keeps_string hkeys,
      required_canonicalEntries hplain keeps_string hvalues,
      required_canonicalEntries hplain (keeps_integer 0) hcount,
      required_canonicalEntries hplain keeps_checkSlots hslots,
      optional_canonicalEntries hplain keeps_string hhash,
      unknownNames_canonicalEntries hunknown, ?_⟩
    exact (congrArg Nat.cast (List.length_map _)).trans hlength
  | _ => cases h

end Document

end Collation.Wire
