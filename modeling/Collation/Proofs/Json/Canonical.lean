/-
The canonical text of a plain value. It is the text of the value's normal
form (`written_normal`), so values that JSON does not tell apart have one
text. Its parts are in ASCII: other characters are escaped.
-/
import Collation.Proofs.Fallible
import Collation.Proofs.Json.Scalars
import Collation.Proofs.Value.Normal

namespace Collation

namespace Json

open Value (Named Plain byName)

variable {cs ds t : List Char} {v : Value} {s : Text} {xs : List Value}
  {es : List (Value × Value)}

-- ========================================================== containers

private theorem writtenItems_eq (xs : List Value) : writtenItems xs = xs.mapM written := by
  induction xs with
  | nil => rfl
  | cons x xs ih =>
    rw [List.mapM_cons, ← ih]
    rfl

/-- The values under names are written one by one. -/
private theorem writtenValues_eq (es : List (Value × Value)) :
    writtenValues es = es.map fun e => (e.1, written e.2) := by
  induction es with
  | nil => rfl
  | cons e es ih =>
    obtain ⟨k, v⟩ := e
    exact congrArg ((k, written v) :: ·) ih

/-- A list is its parts between brackets. -/
theorem written_list (xs : List Value) :
    written (.list xs) = (xs.mapM written).map fun parts => '[' :: joined parts ++ [']'] := by
  rw [written, writtenItems_eq]
  cases xs.mapM written <;> rfl

/-- The entries of a dictionary are written in the order of their names. -/
theorem written_dict (h : Named es) :
    written (.dict es) = ((byName es).mapM fun e => writtenEntry (e.1, written e.2)).map
      fun parts => '\x7b' :: joined parts ++ ['\x7d'] := by
  have hnamed := h.map fun e => written e.2
  have hparts : ((byName es).map fun e => (e.1, written e.2)).mapM writtenEntry
      = (byName es).mapM fun e => writtenEntry (e.1, written e.2) := List.mapM_map
  rw [written, writtenValues_eq, writtenObject, Value.sortBy_named hnamed.texts,
    Value.byName_map]
  simp only [bind, Except.bind]
  rw [hparts]
  cases (byName es).mapM fun e => writtenEntry (e.1, written e.2) <;> rfl

/-- What a list is written as: what its items are, between brackets. -/
theorem written_list_eq_ok :
    written (.list xs) = .ok t ↔ ∃ parts, List.Forall₂ (fun x part => written x = .ok part) xs parts
      ∧ t = '[' :: joined parts ++ [']'] := by
  simp only [written_list, map_eq_ok, mapM_eq_ok]

/-- The text of an entry under a text. -/
theorem writtenEntry_text_eq_ok {w : Except Fault (List Char)} :
    writtenEntry (.text s, w) = .ok t ↔ ∃ ds, w = .ok ds ∧ t = writtenText s ++ ':' :: ds := by
  have hmap : writtenEntry (.text s, w) = w.map fun ds => writtenText s ++ ':' :: ds := by
    cases w <;> rfl
  simp only [hmap, map_eq_ok]

/-- What a dictionary is written as: what its entries are, by their names. -/
theorem written_dict_eq_ok (h : Named es) :
    written (.dict es) = .ok t ↔ ∃ parts,
      List.Forall₂ (fun e part => writtenEntry (e.1, written e.2) = .ok part) (byName es) parts
        ∧ t = '\x7b' :: joined parts ++ ['\x7d'] := by
  simp only [written_dict h, map_eq_ok, mapM_eq_ok]

/-- Parts with a comma between them start as the first part does. -/
theorem joined_cons (c : Char) (cs : List Char) (parts : List (List Char)) :
    ∃ ds, joined ((c :: cs) :: parts) = c :: ds := by
  cases parts with
  | nil => exact ⟨cs, rfl⟩
  | cons next parts => exact ⟨cs ++ ',' :: joined (next :: parts), rfl⟩

/-- A dictionary that is not empty is written with a name at its head. -/
theorem written_dict_head (h : Named es) (hne : es ≠ []) (ht : written (.dict es) = .ok t) :
    ∃ cs, t = '\x7b' :: '"' :: cs := by
  obtain ⟨parts, hparts, rfl⟩ := (written_dict_eq_ok h).1 ht
  obtain ⟨e, fs, hsorted⟩ := List.exists_cons_of_ne_nil fun hnil =>
    hne (List.nil_perm.1 (hnil ▸ Value.byName_perm es))
  obtain ⟨s, hs⟩ := h.texts e (Value.mem_byName.1 (hsorted ▸ List.mem_cons_self))
  rw [hsorted, List.forall₂_cons_left_iff] at hparts
  obtain ⟨part, parts, hpart, -, rfl⟩ := hparts
  rw [hs] at hpart
  obtain ⟨ds, -, rfl⟩ := writtenEntry_text_eq_ok.1 hpart
  obtain ⟨cs, hcs⟩ := joined_cons '"' (s.points.flatMap escapedPoint ++ ['"'] ++ ':' :: ds) parts
  refine ⟨cs ++ ['\x7d'], ?_⟩
  rw [← List.cons_append, ← hcs]
  rfl

/-- The text of a value is that of its normal form. -/
theorem written_normal (h : v.Plain) : written v.normal = written v := by
  induction h with
  | null => rfl
  | bool b => rfl
  | int n => rfl
  | float hx => rfl
  | text s => rfl
  | list _ ih =>
    rw [Value.normal_list, written_list, written_list, List.mapM_map]
    exact congrArg _ (mapM_congr ih)
  | @dict es hes _ ih =>
    rw [Value.normal_dict, written_dict hes.canonicalEntries, written_dict hes,
      Value.canonicalEntries, Value.byName_map, Value.byName_byName, List.mapM_map]
    refine congrArg _ (mapM_congr fun e he => ?_)
    exact congrArg (fun text => writtenEntry (e.1, text)) (ih e (Value.mem_byName.1 he))

-- =============================================================== ASCII

/-- Only characters of ASCII. -/
def Ascii (cs : List Char) : Prop := ∀ c ∈ cs, c.toNat < 0x80

instance : DecidablePred Ascii := fun cs => List.decidableBAll (fun c : Char => c.toNat < 0x80) cs

/-- Only characters of ASCII that are printed, the blank among them. -/
def Printable (cs : List Char) : Prop := ∀ c ∈ cs, 0x20 ≤ c.toNat ∧ c.toNat < 0x7F

instance : DecidablePred Printable := fun cs =>
  List.decidableBAll (fun c : Char => 0x20 ≤ c.toNat ∧ c.toNat < 0x7F) cs

/-- What is printed is of ASCII. -/
theorem Printable.ascii (h : Printable cs) : Ascii cs := fun c hc => (h c hc).2.trans (by decide)

theorem Printable.append (h : Printable cs) (h' : Printable ds) : Printable (cs ++ ds) :=
  List.forall_mem_append.2 ⟨h, h'⟩

theorem Printable.cons {c : Char} (h : 0x20 ≤ c.toNat ∧ c.toNat < 0x7F) (h' : Printable cs) :
    Printable (c :: cs) :=
  List.forall_mem_cons.2 ⟨h, h'⟩

/-- Joining adds nothing but commas. -/
private theorem printable_joined {parts : List (List Char)} (h : ∀ part ∈ parts, Printable part) :
    Printable (joined parts) := by
  induction parts with
  | nil => exact fun _ hc => absurd hc List.not_mem_nil
  | cons part rest ih =>
    obtain ⟨hpart, hrest⟩ := List.forall_mem_cons.1 h
    cases rest with
    | nil => exact hpart
    | cons next rest => exact hpart.append ((ih hrest).cons (by decide))

/-- Numbers are printed. -/
theorem printable_of_numeric (h : ∀ c ∈ cs, Numeric c) : Printable cs := by
  intro c hc
  rcases h c hc with hdigit | hmark
  · have hrange := Char.isDigit_iff_toNat.1 hdigit
    have hzero : '0'.toNat = 48 := rfl
    have hnine : '9'.toNat = 57 := rfl
    omega
  · have hmarks : ∀ d ∈ ['-', '+', '.', 'e'], 0x20 ≤ d.toNat ∧ d.toNat < 0x7F :=
      List.forall_iff_forall_mem.1 (by decide)
    exact hmarks c hmark

private theorem printable_hex (width n : Nat) : Printable (Text.hex width n) := by
  induction width generalizing n with
  | zero => exact fun _ hc => absurd hc List.not_mem_nil
  | succ width ih =>
    have hdigit : ∀ d < 16, 0x20 ≤ (Text.hexDigit d).toNat ∧ (Text.hexDigit d).toNat < 0x7F := by
      decide
    exact (ih _).append (List.forall_mem_singleton.2 (hdigit _ (Nat.mod_lt n (by decide))))

private theorem printable_unitEscape (n : Nat) : Printable (unitEscape n) :=
  Printable.cons (by decide) (Printable.cons (by decide) (printable_hex 4 n))

private theorem printable_escaped (c : Char) : Printable (escaped c) := by
  have hwritten := writtenAs_escaped c
  generalize escaped c = text at hwritten ⊢
  cases hwritten with
  | @short d hd _ =>
    have hshort : ∀ d ∈ ['"', '\\', 'n', 'r', 't', 'f', 'b'], Printable ['\\', d] :=
      List.forall_iff_forall_mem.1 (by decide)
    exact hshort d hd
  | itself hfirst hlast _ _ =>
    have hfirst : ' '.toNat ≤ c.toNat := hfirst
    have hlast : c.toNat ≤ '~'.toNat := hlast
    rw [show ' '.toNat = 0x20 from rfl] at hfirst
    rw [show '~'.toNat = 0x7E from rfl] at hlast
    exact List.forall_mem_singleton.2 (by omega)
  | unit _ => exact printable_unitEscape _
  | pair _ => exact (printable_unitEscape _).append (printable_unitEscape _)

private theorem printable_escapedPoint (p : CodePoint) : Printable (escapedPoint p) := by
  cases p with
  | char c => exact printable_escaped c
  | high bits => exact printable_unitEscape _
  | low bits => exact printable_unitEscape _

/-- A text is written in characters that are printed. -/
theorem printable_writtenText (s : Text) : Printable (writtenText s) := by
  refine Printable.append (Printable.cons (by decide) fun c hc => ?_) ?_
  · obtain ⟨p, -, hp⟩ := List.mem_flatMap.1 hc
    exact printable_escapedPoint p c hp
  · exact List.forall_mem_singleton.2 (by decide)

/-- The text of a list, given the texts of its items. -/
theorem printable_list {parts : List (List Char)} (h : ∀ part ∈ parts, Printable part) :
    Printable ('[' :: joined parts ++ [']']) :=
  (Printable.cons (by decide) (printable_joined h)).append (List.forall_mem_singleton.2 (by decide))

/-- The text of a dictionary, given the texts of its entries. -/
theorem printable_dict {parts : List (List Char)} (h : ∀ part ∈ parts, Printable part) :
    Printable ('\x7b' :: joined parts ++ ['\x7d']) :=
  (Printable.cons (by decide) (printable_joined h)).append (List.forall_mem_singleton.2 (by decide))

end Json

end Collation
