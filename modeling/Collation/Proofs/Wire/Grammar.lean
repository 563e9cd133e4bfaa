/-
The grammar of documents, told without the checks. A slot is an object of
exactly three fields, a document one of at most six, and what each of them
holds is said of the entries as they stand, in whatever order
(`SlotForm`, `DocumentForm`). Parsing accepts that and nothing else.

JSON has only some of the values that a check lets pass: no octets that
spell a text, no tuple or set in the place of a list. On what was read, a
field check so asks for one kind of value (`string_eq_ok`, `listed_eq_ok`,
`integer_eq_ok`), and a record check for the entries of the record
(`SlotRecord.check_legible`, `Document.check_legible`). The digest is asked
for among the entries too: one that is left out counts as the empty text,
which no digest is.
-/
import Collation.Proofs.Wire.Tampering

namespace Collation.Wire

open Json (Legible)
open Value (Named)

variable {α : Type} {es : List (Value × Value)} {name : String} {s : Text} {v : Value}
  {n least : Int}
  {xs : List Value} {p : Value → Checked α} {a : α}

-- ============================================================= the forms

/-- The entries of a slot: a key, a number, and a list of that many values,
at least one. -/
structure SlotForm (es : List (Value × Value)) : Prop where
  names : ∀ e ∈ es, e.1 = .text "key" ∨ e.1 = .text "value_count" ∨ e.1 = .text "values"
  key : ∃ v, (.text "key", v) ∈ es
  counted : ∃ n vs, (.text "value_count", .int n) ∈ es ∧ (.text "values", .list vs) ∈ es
    ∧ 1 ≤ n ∧ n = vs.length

/-- The entries of a document: two names of comparators, a number, and a
list of that many slots. The format and the digest may be left out. -/
structure DocumentForm (es : List (Value × Value)) : Prop where
  names : ∀ e ∈ es, e.1 = .text "format" ∨ e.1 = .text "key_comparator"
    ∨ e.1 = .text "value_comparator" ∨ e.1 = .text "key_count" ∨ e.1 = .text "slots"
    ∨ e.1 = .text "payload_hash"
  format : ∀ v, (.text "format", v) ∈ es → v = .text "sortedmultimap/1"
  keyComparator : ∃ s, (.text "key_comparator", .text s) ∈ es
  valueComparator : ∃ s, (.text "value_comparator", .text s) ∈ es
  counted : ∃ n slots, (.text "key_count", .int n) ∈ es ∧ (.text "slots", .list slots) ∈ es
    ∧ 0 ≤ n ∧ n = slots.length ∧ ∀ x ∈ slots, ∃ fs, x = .dict fs ∧ SlotForm fs
  payloadHash : ∀ v, (.text "payload_hash", v) ∈ es → ∃ s, v = .text s

-- =============================================== checks on what was read

private theorem string_eq_ok (h : Legible v) : string v = .ok s ↔ v = .text s := by
  cases h with
  | text t => simp [string]
  | _ => constructor <;> intro h <;> cases h

private theorem listed_eq_ok (h : Legible v) : listed v = .ok xs ↔ v = .list xs := by
  cases h with
  | list ys => simp [listed]
  | _ => constructor <;> intro h <;> cases h

private theorem integer_eq_ok : integer least v = .ok n ↔ least ≤ n ∧ v = .int n := by
  cases v with
  | int m => rw [integer_int_eq_ok, Value.int.injEq]
  | _ => exact iff_of_false (fun h => nomatch h) fun h => nomatch h.2

/-- The format is the text of the current one. -/
private theorem checkFormat_eq_ok (h : Legible v) :
    Document.checkFormat v = .ok s ↔ v = .text s ∧ s = currentFormat := by
  unfold Document.checkFormat
  cases hstring : string v with
  | error fs =>
    refine iff_of_false (fun h => nomatch h) fun ⟨hv, _⟩ => ?_
    rw [(string_eq_ok h).2 hv] at hstring
    cases hstring
  | ok t =>
    rw [(string_eq_ok h).1 hstring, Value.text.injEq]
    dsimp only
    split
    · next heq =>
      rw [Except.ok.injEq, heq]
      exact ⟨fun h => ⟨h, h.symm⟩, fun h => h.1⟩
    · next hne => exact iff_of_false (fun h => nomatch h) fun ⟨heq, hs⟩ => hne (heq.trans hs)

-- ===================================================== fields by entries

private theorem required_named (hes : Named es) :
    required es name p = .ok a ↔ ∃ v, (.text name, v) ∈ es ∧ p v = .ok a := by
  simp only [required_eq_ok, Value.lookup_eq_some_iff hes]

private theorem lookup_eq_none_iff (hes : Named es) :
    Value.lookup (.text name) es = none ↔ ∀ v, (.text name, v) ∉ es := by
  simp only [← Value.lookup_eq_some_iff hes, Option.eq_none_iff_forall_ne_some, ne_eq]

private theorem optional_named {absent : α} (hes : Named es) :
    optional es name absent p = .ok a ↔ (∃ v, (.text name, v) ∈ es ∧ p v = .ok a)
      ∨ (∀ v, (.text name, v) ∉ es) ∧ absent = a := by
  simp only [optional_eq_ok, Value.lookup_eq_some_iff hes, lookup_eq_none_iff hes]

private theorem entry_unique {w : Value} (hes : Named es) (hv : (.text name, v) ∈ es)
    (hw : (.text name, w) ∈ es) : v = w :=
  Option.some.inj (((Value.lookup_eq_some_iff hes).2 hv).symm.trans
    ((Value.lookup_eq_some_iff hes).2 hw))

/-- A field that may be left out is right if what it holds is. -/
theorem exists_optional_iff {absent : α} (hes : Named es) :
    (∃ a, optional es name absent p = .ok a) ↔ ∀ v, (.text name, v) ∈ es → ∃ a, p v = .ok a := by
  simp only [optional_named hes]
  constructor
  · rintro ⟨a, ⟨w, hw, ha⟩ | ⟨hnone, -⟩⟩ v hv
    · obtain rfl := entry_unique hes hv hw
      exact ⟨a, ha⟩
    · exact absurd hv (hnone v)
  · intro h
    by_cases hsome : ∃ v, (.text name, v) ∈ es
    · obtain ⟨v, hv⟩ := hsome
      obtain ⟨a, ha⟩ := h v hv
      exact ⟨a, .inl ⟨v, hv, ha⟩⟩
    · exact ⟨absent, .inr ⟨not_exists.1 hsome, rfl⟩⟩

/-- Elements that check one by one check together. -/
theorem exists_each_iff (index : Nat) :
    (∃ as, each p index xs = .ok as) ↔ ∀ x ∈ xs, ∃ a, p x = .ok a := by
  simp only [each_eq_ok]
  induction xs with
  | nil => exact iff_of_true ⟨[], .nil⟩ fun _ h => absurd h List.not_mem_nil
  | cons x xs ih =>
    rw [List.forall_mem_cons, ← ih]
    constructor
    · rintro ⟨as, h⟩
      cases h with
      | cons ha has => exact ⟨⟨_, ha⟩, _, has⟩
    · rintro ⟨⟨a, ha⟩, as, has⟩
      exact ⟨a :: as, .cons ha has⟩

private theorem length_of_each {as : List α} {index : Nat} (h : each p index xs = .ok as) :
    as.length = xs.length :=
  ((each_eq_ok index).1 h).length_eq.symm

private theorem unknownNames_named {known : List String} (hes : Named es) :
    unknownNames known es = [] ↔ ∀ e ∈ es, ∃ s ∈ known, e.1 = .text s := by
  rw [unknownNames_eq_nil]
  refine forall₂_congr fun e he => ?_
  obtain ⟨t, ht⟩ := hes.texts e he
  simp only [ht, Value.text?, Option.some.injEq, Value.text.injEq]

section

variable (hes : Legible (.dict es))

include hes

private theorem required_any : required es name .ok = .ok v ↔ (.text name, v) ∈ es := by
  simp [required_named hes.of_dict.1]

private theorem required_integer :
    required es name (integer least) = .ok n ↔ (.text name, .int n) ∈ es ∧ least ≤ n := by
  simp only [required_named hes.of_dict.1, integer_eq_ok]
  constructor
  · rintro ⟨v, hv, hleast, rfl⟩
    exact ⟨hv, hleast⟩
  · rintro ⟨hv, hleast⟩
    exact ⟨_, hv, hleast, rfl⟩

private theorem required_string : required es name string = .ok s ↔ (.text name, .text s) ∈ es := by
  obtain ⟨hnamed, hlegible⟩ := hes.of_dict
  rw [required_named hnamed]
  constructor
  · rintro ⟨v, hv, hs⟩
    obtain rfl := (string_eq_ok (hlegible _ hv)).1 hs
    exact hv
  · exact fun h => ⟨_, h, rfl⟩

private theorem required_listed :
    required es name listed = .ok xs ↔ (.text name, .list xs) ∈ es := by
  obtain ⟨hnamed, hlegible⟩ := hes.of_dict
  rw [required_named hnamed]
  constructor
  · rintro ⟨v, hv, hxs⟩
    obtain rfl := (listed_eq_ok (hlegible _ hv)).1 hxs
    exact hv
  · exact fun h => ⟨_, h, rfl⟩

end

-- ================================================================= slots

namespace SlotRecord

variable {r : SlotRecord}

/-- A slot that was read is one of these three entries and no other. -/
theorem check_legible (hes : Legible (.dict es)) :
    check (.dict es) = .ok r ↔ (∀ e ∈ es, ∃ s ∈ fieldNames, e.1 = .text s)
      ∧ (.text "key", r.key) ∈ es ∧ (.text "value_count", .int r.valueCount) ∈ es
      ∧ (.text "values", .list r.values) ∈ es ∧ r.Counted := by
  rw [check_eq_ok, required_any hes, required_integer hes, required_listed hes,
    unknownNames_named hes.of_dict.1, Counted]
  constructor
  · rintro ⟨hkey, ⟨hcount, hleast⟩, hvalues, hnames, hlength⟩
    exact ⟨hnames, hkey, hcount, hvalues, hleast, hlength⟩
  · rintro ⟨hnames, hkey, hcount, hvalues, hleast, hlength⟩
    exact ⟨hkey, ⟨hcount, hleast⟩, hvalues, hnames, hlength⟩

private theorem fieldNames_iff {k : Value} : (∃ s ∈ fieldNames, k = .text s) ↔
    k = .text "key" ∨ k = .text "value_count" ∨ k = .text "values" := by
  simp [fieldNames]

/-- A slot is accepted if and only if it has the form. -/
private theorem exists_check_iff (hv : Legible v) :
    (∃ r, check v = .ok r) ↔ ∃ es, v = .dict es ∧ SlotForm es := by
  cases hv with
  | @dict es hnamed hvalues =>
    have hes := Legible.dict hnamed hvalues
    simp only [check_legible hes, fieldNames_iff, Value.dict.injEq, exists_eq_left']
    constructor
    · rintro ⟨r, hnames, hkey, hcount, hvalues, hleast, hlength⟩
      exact ⟨hnames, ⟨_, hkey⟩, _, _, hcount, hvalues, hleast, hlength.symm⟩
    · rintro ⟨hnames, ⟨k, hkey⟩, n, vs, hcount, hvalues, hleast, hlength⟩
      exact ⟨⟨k, n, vs⟩, hnames, hkey, hcount, hvalues, hleast, hlength.symm⟩
  | _ => exact iff_of_false (fun ⟨_, h⟩ => nomatch h) fun ⟨_, h, _⟩ => nomatch h

end SlotRecord

-- ============================================================= documents

namespace Document

variable {d : Document} {data : Value} {slots : List SlotRecord}

/-- The slots are a list of what is accepted one by one. -/
private theorem required_checkSlots (hes : Legible (.dict es)) :
    required es "slots" checkSlots = .ok slots ↔
      ∃ xs, (.text "slots", .list xs) ∈ es ∧ each SlotRecord.check 0 xs = .ok slots := by
  obtain ⟨hnamed, hlegible⟩ := hes.of_dict
  rw [required_named hnamed]
  constructor
  · rintro ⟨v, hv, hslots⟩
    unfold checkSlots at hslots
    cases hlisted : listed v with
    | error fs =>
      rw [hlisted] at hslots
      cases hslots
    | ok xs =>
      rw [hlisted] at hslots
      obtain rfl := (listed_eq_ok (hlegible _ hv)).1 hlisted
      exact ⟨xs, hv, hslots⟩
  · rintro ⟨xs, hxs, hslots⟩
    exact ⟨_, hxs, hslots⟩

/-- A document that was read, entry by entry. -/
theorem check_legible (hes : Legible (.dict es)) :
    check (.dict es) = .ok d ↔ (∀ e ∈ es, ∃ s ∈ fieldNames, e.1 = .text s)
      ∧ optional es "format" currentFormat checkFormat = .ok d.format
      ∧ (.text "key_comparator", .text d.keyComparator) ∈ es
      ∧ (.text "value_comparator", .text d.valueComparator) ∈ es
      ∧ (.text "key_count", .int d.keyCount) ∈ es
      ∧ (∃ xs, (.text "slots", .list xs) ∈ es ∧ each SlotRecord.check 0 xs = .ok d.slots)
      ∧ optional es "payload_hash" ("" : Text) string = .ok d.payloadHash
      ∧ d.slots.length = d.keyCount := by
  rw [check_eq_ok, required_string hes, required_string hes, required_integer hes,
    required_checkSlots hes, unknownNames_named hes.of_dict.1]
  constructor
  · rintro ⟨hformat, hkeys, hvalues, ⟨hcount, -⟩, hslots, hhash, hnames, hlength⟩
    exact ⟨hnames, hformat, hkeys, hvalues, hcount, hslots, hhash, hlength⟩
  · rintro ⟨hnames, hformat, hkeys, hvalues, hcount, hslots, hhash, hlength⟩
    exact ⟨hformat, hkeys, hvalues, ⟨hcount, by omega⟩, hslots, hhash, hnames, hlength⟩

private theorem fieldNames_iff {k : Value} : (∃ s ∈ fieldNames, k = .text s) ↔
    k = .text "format" ∨ k = .text "key_comparator" ∨ k = .text "value_comparator"
      ∨ k = .text "key_count" ∨ k = .text "slots" ∨ k = .text "payload_hash" := by
  simp [fieldNames]

/-- A format, if there is one, is the current one. -/
private theorem exists_format_iff (hes : Legible (.dict es)) :
    (∃ s, optional es "format" currentFormat checkFormat = .ok s) ↔
      ∀ v, (.text "format", v) ∈ es → v = .text currentFormat := by
  obtain ⟨hnamed, hlegible⟩ := hes.of_dict
  rw [exists_optional_iff hnamed]
  refine forall₂_congr fun v hv => ?_
  simp only [checkFormat_eq_ok (hlegible _ hv), exists_eq_right]

/-- A digest, if there is one, is a text. -/
private theorem exists_payloadHash_iff (hes : Legible (.dict es)) :
    (∃ s, optional es "payload_hash" ("" : Text) string = .ok s) ↔
      ∀ v, (.text "payload_hash", v) ∈ es → ∃ s, v = .text s := by
  obtain ⟨hnamed, hlegible⟩ := hes.of_dict
  rw [exists_optional_iff hnamed]
  refine forall₂_congr fun v hv => ?_
  simp only [string_eq_ok (hlegible _ hv)]

private theorem exists_slots_iff (hxs : Legible (.list xs)) :
    (∃ slots, each SlotRecord.check 0 xs = .ok slots) ↔
      ∀ x ∈ xs, ∃ fs, x = .dict fs ∧ SlotForm fs := by
  rw [exists_each_iff]
  exact forall₂_congr fun x hx => SlotRecord.exists_check_iff (hxs.of_list x hx)

/-- A document is accepted if and only if it has the form. -/
private theorem exists_check_iff (hv : Legible v) :
    (∃ d, check v = .ok d) ↔ ∃ es, v = .dict es ∧ DocumentForm es := by
  cases hv with
  | @dict es hnamed hlegible =>
    have hes := Legible.dict hnamed hlegible
    simp only [check_legible hes, fieldNames_iff, Value.dict.injEq, exists_eq_left']
    constructor
    · rintro ⟨d, hnames, hformat, hkeys, hvalues, hcount, ⟨xs, hxs, hslots⟩, hhash, hlength⟩
      have hforms := (exists_slots_iff (hlegible _ hxs)).1 ⟨_, hslots⟩
      rw [length_of_each hslots] at hlength
      exact ⟨hnames, (exists_format_iff hes).1 ⟨_, hformat⟩, ⟨_, hkeys⟩, ⟨_, hvalues⟩,
        ⟨_, xs, hcount, hxs, by omega, hlength.symm, hforms⟩,
        (exists_payloadHash_iff hes).1 ⟨_, hhash⟩⟩
    · rintro ⟨hnames, hformat, ⟨k, hkeys⟩, ⟨w, hvalues⟩, ⟨n, xs, hcount, hxs, -, hlength, hforms⟩,
        hhash⟩
      obtain ⟨f, hf⟩ := (exists_format_iff hes).2 hformat
      obtain ⟨h, hh⟩ := (exists_payloadHash_iff hes).2 hhash
      obtain ⟨slots, hslots⟩ := (exists_slots_iff (hlegible _ hxs)).2 hforms
      rw [← length_of_each hslots] at hlength
      exact ⟨⟨f, k, w, n, slots, h⟩, hnames, hf, hkeys, hvalues, hcount, ⟨xs, hxs, hslots⟩, hh,
        hlength.symm⟩
  | _ => exact iff_of_false (fun ⟨_, h⟩ => nomatch h) fun ⟨_, h, _⟩ => nomatch h

/-- The digest that a document claims is what stands in its field. -/
theorem payloadHash_eq (hes : Legible (.dict es)) (h : check (.dict es) = .ok d)
    (hmem : (digestName, .text s) ∈ es) : d.payloadHash = s := by
  obtain ⟨hnamed, hlegible⟩ := hes.of_dict
  obtain ⟨-, -, -, -, -, hhash, -⟩ := check_eq_ok.1 h
  rcases (optional_named hnamed).1 hhash with ⟨v, hv, hstring⟩ | ⟨hnone, -⟩
  · have heq := (string_eq_ok (hlegible _ hv)).1 hstring
    rw [entry_unique hnamed hv hmem, Value.text.injEq] at heq
    exact heq.symm
  · exact absurd hmem (hnone _)

/-- Parsing accepts the texts of objects in the form of a document, and no
others; where it compares the digest, those that hold the digest of their
other fields. -/
theorem parse_accepts_iff (data : Value) :
    ((∃ d, parse false data = .ok d) ↔
      ∃ es, readJson data = .ok (.dict es) ∧ DocumentForm es)
    ∧ ((∃ d, parse true data = .ok d) ↔
      ∃ es, readJson data = .ok (.dict es) ∧ DocumentForm es
        ∧ ∃ s, (.text "payload_hash", .text s) ∈ es ∧ digestOf es = .ok s) := by
  simp only [parse_eq_ok]
  have hform : ∀ {es}, readJson data = .ok (.dict es) →
      ((∃ d, check (.dict es) = .ok d) ↔ DocumentForm es) := by
    intro es hread
    simpa using exists_check_iff (legible_of_read hread)
  constructor
  · constructor
    · rintro ⟨d, es, hread, hcheck, -⟩
      exact ⟨es, hread, (hform hread).1 ⟨d, hcheck⟩⟩
    · rintro ⟨es, hread, hes⟩
      obtain ⟨d, hcheck⟩ := (hform hread).2 hes
      exact ⟨d, es, hread, hcheck, fun h => nomatch h⟩
  · constructor
    · rintro ⟨d, es, hread, hcheck, hdigest⟩
      have hhash := hdigest trivial
      exact ⟨es, hread, (hform hread).1 ⟨d, hcheck⟩, d.payloadHash,
        digest_mem (legible_of_read hread) hcheck hhash, hhash⟩
    · rintro ⟨es, hread, hes, s, hmem, hdigest⟩
      obtain ⟨d, hcheck⟩ := (hform hread).2 hes
      obtain rfl := payloadHash_eq (legible_of_read hread) hcheck hmem
      exact ⟨d, es, hread, hcheck, fun _ => hdigest⟩

end Document

end Collation.Wire
