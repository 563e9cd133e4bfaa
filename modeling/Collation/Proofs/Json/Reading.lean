/-
What is read from canonical texts. The text of a legible value is read as
the value's normal form with its texts joined, whatever follows that may
follow a value (`Legible.spells`): the entries of a dictionary come back in
the order in which they were written, which is that of their names, and of
the two halves of a pair that stand side by side their character. Of a
whole value nothing else is lost than the order of entries, so whole values
with one text are the same to JSON (`Legible.same_of_written_eq`).
-/
import Collation.Proofs.Json.Legible
import Collation.Wire.Digest

namespace Collation.Json

open Value (Named Plain byName canonicalEntries)

variable {cs t : List Char} {ps qs rest : List CodePoint} {c : Char} {p : CodePoint} {v : Value}
  {s : Text} {parts : List (List Char)}

/-- A text that no blank starts, nor the end of a list. -/
def Starts (t : List Char) : Prop := ∃ c cs, t = c :: cs ∧ isBlank (.char c) = false ∧ c ≠ ']'

/-- A text that is read as a value, whatever may follow it. -/
structure Spells (t : List Char) (v : Value) : Prop where
  starts : Starts t
  read : ∀ fuel rest, t.length ≤ fuel → Closes rest →
    readValue fuel (codePoints t ++ rest) = .ok (v, rest)

/-- Nothing is skipped if no blank comes first. -/
theorem skipBlanks_cons (h : isBlank p = false) (ps : List CodePoint) :
    skipBlanks (p :: ps) = p :: ps :=
  List.dropWhile_cons_of_neg (by rw [h]; exact Bool.false_ne_true)

/-- So with a text that starts with none. -/
theorem Starts.skipBlanks (h : Starts t) (rest : List CodePoint) :
    skipBlanks (codePoints t ++ rest) = codePoints t ++ rest := by
  obtain ⟨c, cs, rfl, hblank, -⟩ := h
  exact skipBlanks_cons hblank (codePoints cs ++ rest)

/-- A comma or a bracket ends a number. -/
theorem closes_cons (h : c = ',' ∨ c = ']' ∨ c = '\x7d') (ps : List CodePoint) :
    Closes (.char c :: ps) := by
  intro d hd
  obtain rfl := Option.some.inj hd
  simpa using h

-- ======================================================== by the head

section

variable (fuel : Nat) (ps : List CodePoint)

/-- A quote opens a text. -/
theorem readValue_quote : readValue (fuel + 1) (.char '"' :: ps) = (do
    let (text, rest) ← readText (.char '"' :: ps) (ps.length + 1) ps
    return (.text ⟨text⟩, rest)) := rfl

/-- A name is a text with a colon behind it. -/
theorem readName_quote : readName (.char '"' :: ps) = (do
    let (name, rest) ← readText (.char '"' :: ps) (ps.length + 1) ps
    match skipBlanks rest with
    | .char ':' :: rest => return (.text ⟨name⟩, skipBlanks rest)
    | ps => throw (.malformed .colon ps)) := rfl

/-- A bracket opens a list. -/
theorem readValue_items (hblank : isBlank p = false) (hne : p ≠ .char ']') :
    readValue (fuel + 1) (.char '[' :: p :: ps) = (do
      let (items, rest) ← readItems fuel (p :: ps)
      return (.list items, rest)) := by
  rw [readValue]
  dsimp only
  rw [skipBlanks_cons hblank]
  split
  · next heq => exact absurd (List.cons.inj heq).1 hne
  · rfl

/-- A brace opens a dictionary. -/
theorem readValue_entries (hblank : isBlank p = false) (hne : p ≠ .char '\x7d') :
    readValue (fuel + 1) (.char '\x7b' :: p :: ps) = (do
      let (entries, rest) ← readEntries fuel (p :: ps)
      return (.dict (Value.dictOf entries), rest)) := by
  rw [readValue]
  dsimp only
  rw [skipBlanks_cons hblank]
  split
  · next heq => exact absurd (List.cons.inj heq).1 hne
  · rfl

/-- Anything else is a word or a number. -/
theorem readValue_scalar (hquote : p ≠ .char '"') (hitems : p ≠ .char '[')
    (hentries : p ≠ .char '\x7b') : readValue (fuel + 1) (p :: ps) = readScalar (p :: ps) := by
  unfold readValue
  split
  · next heq => exact absurd (List.cons.inj heq).1 hquote
  · next heq => exact absurd (List.cons.inj heq).1 hitems
  · next heq => exact absurd (List.cons.inj heq).1 hentries
  · rfl

end

-- ============================================================== scalars

private theorem exists_fuel {fuel : Nat} (h : t.length ≤ fuel) (hne : t ≠ []) :
    ∃ k, fuel = k + 1 := by
  have hpos := List.length_pos_iff.2 hne
  exact ⟨fuel - 1, by omega⟩

private theorem spells_null : Spells "null".toList .null := by
  refine ⟨⟨'n', _, rfl, rfl, by decide⟩, fun fuel rest hfuel _ => ?_⟩
  obtain ⟨fuel, rfl⟩ := exists_fuel hfuel (by decide)
  rfl

private theorem spells_bool (b : Bool) :
    Spells (if b then "true" else "false" : String).toList (.bool b) := by
  cases b with
  | true =>
    refine ⟨⟨'t', _, rfl, rfl, by decide⟩, fun fuel rest hfuel _ => ?_⟩
    obtain ⟨fuel, rfl⟩ := exists_fuel hfuel (by decide)
    rfl
  | false =>
    refine ⟨⟨'f', _, rfl, rfl, by decide⟩, fun fuel rest hfuel _ => ?_⟩
    obtain ⟨fuel, rfl⟩ := exists_fuel hfuel (by decide)
    rfl

/-- No word starts with a digit or with a sign and a digit. -/
theorem readScalar_number (negative : Bool) (h : c.isDigit = true) (ps : List CodePoint) :
    readScalar (codePoints (signText negative) ++ .char c :: ps)
      = readNumber (codePoints (signText negative) ++ .char c :: ps) := by
  have hchar : ∀ a b : Char, (CodePoint.char a == .char b) = (a == b) := fun a b => by
    rw [Bool.eq_iff_iff, beq_iff_eq, beq_iff_eq, CodePoint.char.injEq]
  have hne : ∀ d : Char, d.isDigit = false → (d == c) = false := by
    intro d hd
    refine beq_false_of_ne ?_
    rintro rfl
    rw [h] at hd
    cases hd
  have hnone : words.find? (fun w =>
      (codePoints w.1).isPrefixOf (codePoints (signText negative) ++ .char c :: ps)) = none := by
    cases negative with
    | true => simp [words, signText, List.find?, List.isPrefixOf, hchar, hne 'I' rfl]
    | false =>
      simp [words, signText, List.find?, List.isPrefixOf, hchar, hne 'n' rfl, hne 't' rfl,
        hne 'f' rfl, hne 'N' rfl, hne 'I' rfl, hne '-' rfl]
  rw [readScalar, hnone]

/-- A digit is none of the other characters. -/
theorem ne_of_isDigit (h : c.isDigit = true) {d : Char} (hd : d.isDigit = false) : c ≠ d := by
  rintro rfl
  rw [h] at hd
  cases hd

/-- A digit is no blank. -/
theorem isBlank_of_isDigit (h : c.isDigit = true) : isBlank (.char c) = false := by
  simp [isBlank, ne_of_isDigit h (d := ' ') rfl, ne_of_isDigit h (d := '\t') rfl,
    ne_of_isDigit h (d := '\n') rfl, ne_of_isDigit h (d := '\r') rfl]

/-- What starts with a digit, or with a sign and a digit, is read as a
number. -/
theorem readValue_number (fuel : Nat) (negative : Bool) (h : c.isDigit = true)
    (ps : List CodePoint) :
    readValue (fuel + 1) (codePoints (signText negative) ++ .char c :: ps)
      = readNumber (codePoints (signText negative) ++ .char c :: ps) := by
  rw [← readScalar_number negative h ps]
  have hne : ∀ {d : Char}, d.isDigit = false → CodePoint.char c ≠ .char d := fun hd heq =>
    ne_of_isDigit h hd (CodePoint.char.inj heq)
  cases negative with
  | true => exact readValue_scalar fuel _ (by decide) (by decide) (by decide)
  | false => exact readValue_scalar fuel _ (hne rfl) (hne rfl) (hne rfl)

/-- A number, given how it is read as one. -/
theorem spells_number (negative : Bool) (h : c.isDigit = true)
    (hread : ∀ rest, Closes rest →
      readNumber (codePoints (signText negative ++ c :: cs) ++ rest) = .ok (v, rest)) :
    Spells (signText negative ++ c :: cs) v := by
  refine ⟨?_, fun fuel rest hfuel hrest => ?_⟩
  · cases negative with
    | true => exact ⟨'-', c :: cs, rfl, rfl, by decide⟩
    | false => exact ⟨c, cs, rfl, isBlank_of_isDigit h, ne_of_isDigit h rfl⟩
  · have hne := List.append_ne_nil_of_right_ne_nil (signText negative) (List.cons_ne_nil c cs)
    obtain ⟨fuel, rfl⟩ := exists_fuel hfuel hne
    rw [← hread rest hrest, codePoints_append, List.append_assoc]
    exact readValue_number fuel negative h (codePoints cs ++ rest)

/-- An integer is read from its digits, if they are not too many to be
written. -/
private theorem spells_int {n : Int} {text : String} (h : integerText n = .ok text) :
    Spells text.toList (.int n) := by
  obtain ⟨c, cs, hcs, hc⟩ := WholePart.head_isDigit (wholePart_toDigits n.natAbs) []
  rw [List.append_nil] at hcs
  have hread : ∀ rest, Closes rest →
      readNumber (codePoints text.toList ++ rest) = .ok (.int n, rest) := fun _ => readNumber_int h
  rw [(integerText_eq_ok h).1, hcs] at hread ⊢
  exact spells_number _ hc hread

/-- A finite number is read from its shortest spelling. -/
private theorem spells_float {x : Binary64} (hfinite : x.isFinite = true) (layout : DecimalLayout) :
    Spells (x.spell layout).toList (.float x) := by
  obtain ⟨text, digits, e, htext, hform, -⟩ := spell_form hfinite layout
  obtain ⟨c, cs, rfl, hc⟩ := form_head_isDigit hform
  have hread : ∀ rest, Closes rest →
      readNumber (codePoints (x.spell layout).toList ++ rest) = .ok (.float x, rest) :=
    fun _ => readNumber_float hfinite layout
  rw [htext] at hread ⊢
  exact spells_number _ hc hread

private theorem length_le_flatMap_escapedPoint (ps : List CodePoint) :
    ps.length ≤ (ps.flatMap escapedPoint).length := by
  induction ps with
  | nil => exact Nat.le_refl 0
  | cons p ps ih =>
    obtain ⟨q, qs, hescaped, -⟩ := readPoint_escapedPoint p
    have hlength := congrArg List.length hescaped
    rw [length_codePoints, List.length_cons] at hlength
    rw [List.flatMap_cons, List.length_append, List.length_cons]
    omega

/-- A text between its quotes, whatever follows. -/
theorem readText_quoted (opening : List CodePoint) (s : Text) (rest : List CodePoint) :
    readText opening
        ((codePoints (s.points.flatMap escapedPoint) ++ .char '"' :: rest).length + 1)
        (codePoints (s.points.flatMap escapedPoint) ++ .char '"' :: rest)
      = .ok (joinedPoints s.points, rest) := by
  have hlength := length_le_flatMap_escapedPoint s.points
  refine readText_written opening s.points _ ?_
  rw [List.length_append, length_codePoints]
  omega

/-- A text is written between quotes. -/
theorem writtenText_append (s : Text) (rest : List CodePoint) :
    codePoints (writtenText s) ++ rest
      = .char '"' :: (codePoints (s.points.flatMap escapedPoint) ++ .char '"' :: rest) := by
  rw [writtenText, codePoints_append, List.append_assoc]
  rfl

private theorem spells_text (s : Text) : Spells (writtenText s) (.text s.joined) := by
  refine ⟨⟨'"', _, rfl, rfl, by decide⟩, fun fuel rest hfuel _ => ?_⟩
  obtain ⟨fuel, rfl⟩ := exists_fuel hfuel (List.cons_ne_nil _ _)
  rw [writtenText_append, readValue_quote, readText_quoted]
  rfl

theorem readName_writtenText (s : Text) (h : skipBlanks rest = rest) :
    readName (codePoints (writtenText s) ++ .char ':' :: rest)
      = .ok (.text s.joined, rest) := by
  rw [writtenText_append, readName_quote, readText_quoted]
  simp only [bind, Except.bind, pure, Except.pure]
  rw [skipBlanks_cons rfl]
  exact congrArg (fun ps => Except.ok (Value.text s.joined, ps)) h

-- =========================================================== containers

section

variable {fuel : Nat} {x : Value} {xs : List Value} {es : List (Value × Value)}

private theorem readItems_last (h : readValue fuel ps = .ok (x, .char ']' :: rest)) :
    readItems (fuel + 1) ps = .ok ([x], rest) := by
  rw [readItems, h]
  simp only [bind, Except.bind]
  rw [skipBlanks_cons rfl]
  rfl

/-- After a comma there are more of them. -/
private theorem readItems_more (h : readValue fuel ps = .ok (x, .char ',' :: qs))
    (hmore : readItems fuel (skipBlanks qs) = .ok (xs, rest)) :
    readItems (fuel + 1) ps = .ok (x :: xs, rest) := by
  rw [readItems, h]
  simp only [bind, Except.bind]
  rw [skipBlanks_cons rfl]
  show Except.bind (readItems fuel (skipBlanks qs)) _ = _
  rw [hmore]
  rfl

/-- A brace ends the entries. -/
private theorem readEntries_last (hname : readName ps = .ok (.text s, qs))
    (h : readValue fuel qs = .ok (x, .char '\x7d' :: rest)) :
    readEntries (fuel + 1) ps = .ok ([(.text s, x)], rest) := by
  rw [readEntries, hname]
  simp only [bind, Except.bind]
  rw [h]
  dsimp only
  rw [skipBlanks_cons rfl]
  rfl

/-- After a comma there are more of them. -/
private theorem readEntries_more {qs' : List CodePoint} (hname : readName ps = .ok (.text s, qs))
    (h : readValue fuel qs = .ok (x, .char ',' :: qs'))
    (hmore : readEntries fuel (skipBlanks qs') = .ok (es, rest)) :
    readEntries (fuel + 1) ps = .ok ((.text s, x) :: es, rest) := by
  rw [readEntries, hname]
  simp only [bind, Except.bind]
  rw [h]
  dsimp only
  rw [skipBlanks_cons rfl]
  show Except.bind (readEntries fuel (skipBlanks qs')) _ = _
  rw [hmore]
  rfl

end

/-- Commas stand between the parts. -/
theorem joined_more (part next : List Char) (parts : List (List Char)) :
    joined (part :: next :: parts) = part ++ ',' :: joined (next :: parts) := rfl

/-- What is joined starts as its first part does. -/
theorem starts_joined (h : Starts t) (parts : List (List Char)) : Starts (joined (t :: parts)) := by
  obtain ⟨c, cs, rfl, hc⟩ := h
  obtain ⟨ds, hds⟩ := joined_cons c cs parts
  exact ⟨c, ds, hds, hc⟩

/-- Items are read from their parts, joined. -/
private theorem readItems_joined {vs : List Value} (h : List.Forall₂ Spells parts vs)
    (hne : parts ≠ []) :
    ∀ fuel rest, (joined parts).length < fuel →
      readItems fuel (codePoints (joined parts) ++ .char ']' :: rest) = .ok (vs, rest) := by
  induction h with
  | nil => exact absurd rfl hne
  | @cons part v parts vs hpart hparts ih =>
    intro fuel rest hfuel
    obtain ⟨fuel, rfl⟩ : ∃ k, fuel = k + 1 := ⟨fuel - 1, by omega⟩
    cases hparts with
    | nil =>
      rw [joined] at hfuel ⊢
      exact readItems_last (hpart.read fuel _ (by omega) (closes_cons (by decide) rest))
    | @cons next w parts vs hnext _ =>
      have hstarts := starts_joined hnext.starts parts
      rw [joined_more, List.length_append, List.length_cons] at hfuel
      rw [joined_more, codePoints_append, codePoints_cons, List.append_assoc, List.cons_append]
      refine readItems_more (hpart.read fuel _ (by omega) (closes_cons (by decide) _)) ?_
      rw [hstarts.skipBlanks]
      exact ih (List.cons_ne_nil _ _) fuel rest (by omega)

/-- A text that is read as an entry under a text. -/
def SpellsEntry (t : List Char) (e : Value × Value) : Prop :=
  ∃ s ds, t = writtenText s ++ ':' :: ds ∧ e.1 = .text s.joined ∧ Spells ds e.2

private theorem SpellsEntry.starts {e : Value × Value} (h : SpellsEntry t e) : Starts t := by
  obtain ⟨s, ds, rfl, -⟩ := h
  exact ⟨'"', _, rfl, rfl, by decide⟩

/-- Entries are read from their parts, joined. -/
private theorem readEntries_joined {es : List (Value × Value)}
    (h : List.Forall₂ SpellsEntry parts es)
    (hne : parts ≠ []) :
    ∀ fuel rest, (joined parts).length < fuel →
      readEntries fuel (codePoints (joined parts) ++ .char '\x7d' :: rest) = .ok (es, rest) := by
  induction h with
  | nil => exact absurd rfl hne
  | @cons part e parts es hpart hparts ih =>
    intro fuel rest hfuel
    obtain ⟨fuel, rfl⟩ : ∃ k, fuel = k + 1 := ⟨fuel - 1, by omega⟩
    obtain ⟨k, v⟩ := e
    obtain ⟨s, ds, rfl, rfl, hds⟩ := hpart
    cases hparts with
    | nil =>
      rw [joined, List.length_append, List.length_cons] at hfuel
      rw [joined, codePoints_append, codePoints_cons, List.append_assoc, List.cons_append]
      exact readEntries_last (readName_writtenText s (hds.starts.skipBlanks _))
        (hds.read fuel _ (by omega) (closes_cons (by decide) rest))
    | @cons next f parts es hnext _ =>
      have hstarts := starts_joined hnext.starts parts
      rw [joined_more, List.length_append, List.length_append, List.length_cons,
        List.length_cons] at hfuel
      simp only [joined_more, codePoints_append, codePoints_cons, List.append_assoc,
        List.cons_append]
      refine readEntries_more (readName_writtenText s (hds.starts.skipBlanks _))
        (hds.read fuel _ (by omega) (closes_cons (by decide) _)) ?_
      rw [hstarts.skipBlanks]
      exact ih (List.cons_ne_nil _ _) fuel rest (by omega)

/-- A list is read from the parts of its items between brackets. -/
private theorem spells_list {xs : List Value} (h : List.Forall₂ Spells parts xs) :
    Spells ('[' :: joined parts ++ [']']) (.list xs) := by
  refine ⟨⟨'[', _, rfl, rfl, by decide⟩, fun fuel rest hfuel _ => ?_⟩
  obtain ⟨fuel, rfl⟩ := exists_fuel hfuel (List.cons_ne_nil _ _)
  cases h with
  | nil => rfl
  | @cons part x parts xs hpart hparts =>
    obtain ⟨c, cs, hcs, hblank, hne⟩ := starts_joined hpart.starts parts
    have hitems := readItems_joined (.cons hpart hparts) (List.cons_ne_nil _ _) fuel rest
      (by simp only [List.length_append, List.length_cons] at hfuel; omega)
    have htext : codePoints ('[' :: joined (part :: parts) ++ [']']) ++ rest
        = .char '[' :: .char c :: (codePoints cs ++ .char ']' :: rest) := by
      rw [hcs]
      simp
    rw [hcs, codePoints_cons, List.cons_append] at hitems
    rw [htext, readValue_items fuel _ hblank (mt CodePoint.char.inj hne), hitems]
    rfl

/-- Of entries under one name the last one counts. -/
theorem spells_dict {es : List (Value × Value)} (h : List.Forall₂ SpellsEntry parts es) :
    Spells ('\x7b' :: joined parts ++ ['\x7d']) (.dict (Value.dictOf es)) := by
  refine ⟨⟨'\x7b', _, rfl, rfl, by decide⟩, fun fuel rest hfuel _ => ?_⟩
  obtain ⟨fuel, rfl⟩ := exists_fuel hfuel (List.cons_ne_nil _ _)
  cases h with
  | nil => rfl
  | @cons part e parts es hpart hparts =>
    have hentries := readEntries_joined (.cons hpart hparts) (List.cons_ne_nil _ _) fuel rest
      (by simp only [List.length_append, List.length_cons] at hfuel; omega)
    obtain ⟨cs, hcs⟩ : ∃ cs, joined (part :: parts) = '"' :: cs := by
      obtain ⟨s, ds, rfl, -⟩ := hpart
      exact joined_cons '"' _ parts
    have htext : codePoints ('\x7b' :: joined (part :: parts) ++ ['\x7d']) ++ rest
        = .char '\x7b' :: .char '"' :: (codePoints cs ++ .char '\x7d' :: rest) := by
      rw [hcs]
      simp
    rw [hcs, codePoints_cons, List.cons_append] at hentries
    rw [htext, readValue_entries fuel _ rfl (by decide), hentries]
    rfl

-- ====================================================== canonical texts

/-- A text is read in one way. -/
theorem Spells.unique {w : Value} (hv : Spells t v) (hw : Spells t w) : v = w := by
  have hread := hv.read _ [] (Nat.le_refl _) closes_nil
  rw [hw.read _ [] (Nat.le_refl _) closes_nil] at hread
  cases hread
  rfl

/-- The words for the floats that are not finite. -/
theorem spells_nan : Spells "NaN".toList (.float (.nan 0)) := by
  refine ⟨⟨'N', _, rfl, rfl, by decide⟩, fun fuel rest hfuel _ => ?_⟩
  obtain ⟨fuel, rfl⟩ := exists_fuel hfuel (by decide)
  rfl

/-- The infinite numbers are read from their words. -/
private theorem spells_infinity (negative : Bool) :
    Spells (if negative then "-Infinity" else "Infinity" : String).toList
      (.float (.infinity negative)) := by
  cases negative with
  | true =>
    refine ⟨⟨'-', _, rfl, rfl, by decide⟩, fun fuel rest hfuel _ => ?_⟩
    obtain ⟨fuel, rfl⟩ := exists_fuel hfuel (by decide)
    rfl
  | false =>
    refine ⟨⟨'I', _, rfl, rfl, by decide⟩, fun fuel rest hfuel _ => ?_⟩
    obtain ⟨fuel, rfl⟩ := exists_fuel hfuel (by decide)
    rfl

/-- A float is read as what it is, if it is the one that is no number. -/
theorem spells_spell {x : Binary64} (h : x.isNaN = true → x = .nan 0) :
    Spells (x.spell floatLayout).toList (.float x) := by
  rcases x.kind with hfinite | hnan | hinfinite
  · exact spells_float hfinite floatLayout
  · rw [spell_nan hnan, h hnan]
    exact spells_nan
  · have hspells := spells_infinity x.isNegative
    rwa [← spell_infinite hinfinite, ← Binary64.eq_infinity hinfinite] at hspells

/-- The canonical text of a legible value is read as the value's normal form,
its texts joined. -/
theorem Legible.spells (h : Legible v) :
    ∀ {t : List Char}, Json.written v = .ok t → Spells t v.normal.joined := by
  induction h with
  | null =>
    rintro t ⟨⟩
    exact spells_null
  | bool b =>
    rintro t ⟨⟩
    exact spells_bool b
  | @int n _ =>
    intro t ht
    obtain ⟨text, htext, rfl⟩ := map_eq_ok.1 ht
    exact spells_int htext
  | float hnan =>
    rintro t ⟨⟩
    exact spells_spell hnan
  | text s =>
    rintro t ⟨⟩
    exact spells_text s
  | @list xs _ ih =>
    intro t ht
    obtain ⟨parts, hparts, rfl⟩ := written_list_eq_ok.1 ht
    rw [Value.normal_list, Value.joined_list, List.map_map]
    refine spells_list (List.forall₂_map_right_iff.2 (forall₂_imp_of_mem hparts ?_).flip)
    exact fun x hx part hpart => ih x hx hpart
  | @dict es hes _ ih =>
    intro t ht
    obtain ⟨parts, hparts, rfl⟩ := (written_dict_eq_ok hes).1 ht
    rw [Value.normal_dict, Value.joined_dict, canonicalEntries, List.map_map]
    refine spells_dict (List.forall₂_map_right_iff.2 (forall₂_imp_of_mem hparts ?_).flip)
    intro e he part hpart
    obtain ⟨s, hs⟩ := hes.texts e (Value.mem_byName.1 he)
    rw [hs] at hpart
    obtain ⟨ds, hds, rfl⟩ := writtenEntry_text_eq_ok.1 hpart
    exact ⟨s, ds, rfl, congrArg Value.joined hs, ih e (Value.mem_byName.1 he) hds⟩

/-- The canonical text of a whole value is read as its normal form. -/
theorem Legible.spells_normal (h : Legible v) (hwhole : v.isWhole = true)
    (ht : Json.written v = .ok t) : Spells t v.normal := by
  have hspells := h.spells ht
  rwa [h.normal.joined (v.isWhole_normal.trans hwhole)] at hspells

/-- What legible values with one text have in common. -/
theorem Legible.joined_of_written_eq {w : Value} (hv : Legible v) (hw : Legible w)
    (htv : Json.written v = .ok t) (htw : Json.written w = .ok t) :
    v.normal.joined = w.normal.joined :=
  (hv.spells htv).unique (hw.spells htw)

/-- Whole values with one text are the same to JSON. -/
theorem Legible.same_of_written_eq {w : Value} (hv : Legible v) (hw : Legible w)
    (hwholev : v.isWhole = true) (hwholew : w.isWhole = true) (htv : Json.written v = .ok t)
    (htw : Json.written w = .ok t) : v.Same w :=
  (hv.spells_normal hwholev htv).unique (hw.spells_normal hwholew htw)

-- ========================================================== whole texts

private theorem Spells.readAll (h : Spells t v) : readAll (codePoints t) = .ok v := by
  have hread := h.read (2 * t.length + 2) [] (by omega) closes_nil
  have hskip := h.starts.skipBlanks []
  rw [List.append_nil] at hread hskip
  rw [Json.readAll, hskip, length_codePoints, hread]
  rfl

theorem Spells.ofPoints (h : Spells t v) : ofPoints (codePoints t) = .ok v := by
  rw [Json.ofPoints, h.readAll]

/-- A text is read by its code points, unless a mark stands at its head. -/
theorem ofText_eq (h : s.points.head? ≠ some (.char '\uFEFF')) : ofText s = ofPoints s.points :=
  if_neg h

-- ============================================================== octets

/-- The step takes ASCII octets for the characters that they are. -/
def PassesAscii (step : Text.Step) : Prop :=
  ∀ (b : UInt8) (rest : List UInt8), b < 0x80 →
    step (b :: rest) = .ok (.char (Char.ofNat b.toNat), rest)

private theorem stepUtf8_ascii : PassesAscii Text.stepUtf8 := fun _ _ h => if_pos h

private theorem stepLenientUtf8_ascii : PassesAscii Text.stepLenientUtf8 := by
  intro b rest h
  unfold Text.stepLenientUtf8
  split
  · next heq =>
    rw [(List.cons.inj heq).1] at h
    exact absurd h (by decide)
  · exact stepUtf8_ascii b rest h

/-- A character of ASCII is one octet, and that octet is the character. -/
private theorem asciiOctet {c : Char} (h : c.toNat < 0x80) :
    UInt8.ofNat c.toNat < 0x80 ∧ Char.ofNat (UInt8.ofNat c.toNat).toNat = c := by
  have htoNat : (UInt8.ofNat c.toNat).toNat = c.toNat := by
    rw [UInt8.toNat_ofNat']
    omega
  refine ⟨UInt8.lt_iff_toNat_lt.2 (by rw [htoNat]; exact h), ?_⟩
  rw [htoNat, Char.ofNat_toNat]

/-- Octets that are ASCII are the characters that they were. -/
theorem stepThrough_ascii {step : Text.Step} (hstep : PassesAscii step) (h : Ascii cs) :
    ∀ fuel, cs.length ≤ fuel →
      Text.stepThrough step fuel (Wire.asciiOctets cs) = .ok (codePoints cs) := by
  induction cs with
  | nil => exact fun fuel _ => by cases fuel <;> rfl
  | cons c cs ih =>
    intro fuel hfuel
    obtain ⟨fuel, rfl⟩ := exists_fuel hfuel (List.cons_ne_nil _ _)
    obtain ⟨hc, hcs⟩ := List.forall_mem_cons.1 h
    obtain ⟨hless, hchar⟩ := asciiOctet hc
    rw [Wire.asciiOctets, List.map_cons, Text.stepThrough, hstep _ _ hless]
    dsimp only
    have hmore := ih hcs fuel (by simpa using hfuel)
    rw [Wire.asciiOctets] at hmore
    rw [hmore, hchar]
    rfl

/-- Text of ASCII is decoded character by character, by whatever passes ASCII. -/
private theorem decodeBy_ascii (encoding : Text.Encoding) {step : Text.Step}
    (hstep : PassesAscii step)
    (h : Ascii cs) :
    Text.decodeBy encoding step 0 (Wire.asciiOctets cs) = .ok (Text.ofChars cs) := by
  have hlength : cs.length = (Wire.asciiOctets cs).length := (List.length_map _).symm
  rw [Text.decodeBy, stepThrough_ascii hstep h _ (Nat.le_of_eq hlength)]
  rfl

/-- Text of ASCII is decoded from its octets. -/
theorem decodeUtf8_ascii (h : Ascii cs) :
    Text.decodeUtf8 (Wire.asciiOctets cs) = .ok (Text.ofChars cs) :=
  decodeBy_ascii .utf8 stepUtf8_ascii h

/-- Where no octet is zero or part of a mark, UTF-8 is shown. -/
theorem detect_utf8 {octets : List UInt8} (h : ∀ b ∈ octets, b ≠ 0 ∧ b < 0xEF) :
    Text.detect octets = ⟨.utf8, 0, octets⟩ := by
  have hhead : ∀ b bs, octets = b :: bs → b ≠ 0 ∧ b < 0xEF := by
    rintro b bs rfl
    exact h b List.mem_cons_self
  have hnext : ∀ a b bs, octets = a :: b :: bs → b ≠ 0 := by
    rintro a b bs rfl
    exact (h b (List.mem_cons_of_mem a List.mem_cons_self)).1
  unfold Text.detect
  split
  · exact absurd rfl (hhead _ _ rfl).1
  iterate 4 exact absurd (hhead _ _ rfl).2 (by decide)
  · refine congrArg (Text.Unmarked.mk · 0 octets) ?_
    split
    · rw [if_neg (hhead _ _ rfl).1, if_neg (hnext _ _ _ rfl)]
    · rw [if_neg (hhead _ _ rfl).1, if_neg (hnext _ _ _ rfl)]
    · rfl

/-- Octets that are printed are taken for the characters that they are. -/
theorem decodeDetected_printable (h : Printable cs) :
    Text.decodeDetected (Wire.asciiOctets cs) = .ok (Text.ofChars cs) := by
  have hdetect : Text.detect (Wire.asciiOctets cs) = ⟨.utf8, 0, Wire.asciiOctets cs⟩ := by
    refine detect_utf8 fun b hb => ?_
    obtain ⟨c, hc, rfl⟩ := List.mem_map.1 hb
    have hprinted := h c hc
    have htoNat : (UInt8.ofNat c.toNat).toNat = c.toNat := by
      rw [UInt8.toNat_ofNat']
      omega
    refine ⟨fun hzero => ?_, UInt8.lt_iff_toNat_lt.2 ?_⟩
    · rw [hzero, UInt8.toNat_zero] at htoNat
      omega
    · rw [htoNat]
      exact hprinted.2.trans (by decide)
  rw [Text.decodeDetected, hdetect]
  exact decodeBy_ascii .utf8 stepLenientUtf8_ascii h.ascii

end Collation.Json
