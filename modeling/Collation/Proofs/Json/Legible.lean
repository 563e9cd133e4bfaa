/-
The values that a JSON text can spell. Such a value is legible: its
integers have no more digits than are read, and its dictionaries have texts
for keys, no two of them the same. Unlike a plain value it may hold numbers
that are not finite, for the reader takes words for them. Legible values
have canonical texts (`Legible.written`), since nothing in them is refused
there.
-/
import Collation.Proofs.Json.Canonical
import Collation.Proofs.Number.Shortest
import Collation.Proofs.Value.Joined

namespace Collation.Json

open Value (Named)

variable {es : List (Value × Value)}

-- ============================================================== legible

/-- A value that a JSON text can spell. There is one word for no number, and
so one such value. -/
inductive Legible : Value → Prop where
  | null : Legible .null
  | bool (b : Bool) : Legible (.bool b)
  | int {n : Int} : (Nat.toDigits 10 n.natAbs).length ≤ digitLimit → Legible (.int n)
  | float {x : Binary64} : (x.isNaN = true → x = .nan 0) → Legible (.float x)
  | text (s : Text) : Legible (.text s)
  | list {xs : List Value} : (∀ x ∈ xs, Legible x) → Legible (.list xs)
  | dict {es : List (Value × Value)} : Named es → (∀ e ∈ es, Legible e.2) → Legible (.dict es)

/-- The items of a legible list are legible. -/
theorem Legible.of_list {xs : List Value} (h : Legible (.list xs)) : ∀ x ∈ xs, Legible x := by
  cases h with
  | list hxs => exact hxs

/-- A legible dictionary has names, each once, and legible values under them. -/
theorem Legible.of_dict (h : Legible (.dict es)) : Named es ∧ ∀ e ∈ es, Legible e.2 := by
  cases h with
  | dict hes hvalues => exact ⟨hes, hvalues⟩

/-- No dictionary in a legible value has a name twice. -/
theorem Legible.isProper {v : Value} (h : Legible v) : v.isProper = true := by
  induction h with
  | null => rfl
  | bool b => rfl
  | int _ => rfl
  | float _ => rfl
  | text s => rfl
  | list _ ih => exact Value.isProper_list.2 ih
  | dict hes _ ih =>
    refine Value.isProper_dict.2 ⟨hes.pairwise, fun e he => ⟨?_, ih e he⟩⟩
    obtain ⟨s, hs⟩ := hes.texts e he
    rw [hs]
    rfl

/-- A finite number is legible. -/
theorem Legible.of_isFinite {x : Binary64} (h : x.isFinite = true) : Legible (.float x) := by
  refine .float fun hnan => ?_
  rw [Binary64.isNaN_of_isFinite h] at hnan
  cases hnan

/-- None of its integers has too many digits to be shown. -/
theorem Legible.isShowable {v : Value} (h : Legible v) : v.isShowable = true := by
  induction h with
  | null => rfl
  | bool b => rfl
  | int hn => exact decide_eq_true hn
  | float _ => rfl
  | text s => rfl
  | list _ ih =>
    rw [Value.isShowable, Value.areShowable_eq]
    exact List.all_eq_true.2 ih
  | dict hes _ ih =>
    rw [Value.isShowable, Value.entriesShowable_eq]
    refine List.all_eq_true.2 fun e he => ?_
    obtain ⟨s, hs⟩ := hes.texts e he
    rw [hs, ih e he]
    rfl

/-- What is not a number is spelled as a word. -/
theorem spell_nan {x : Binary64} (h : x.isNaN = true) : x.spell floatLayout = "NaN" := if_pos h

/-- So are the infinite numbers, with their sign. -/
theorem spell_infinite {x : Binary64} (h : x.isInfinite = true) :
    x.spell floatLayout = if x.isNegative then "-Infinity" else "Infinity" := by
  have hnumber : x.isNaN = false := by
    rw [Binary64.isInfinite, Bool.and_eq_true, beq_iff_eq, beq_iff_eq] at h
    rw [Binary64.isNaN, h.2]
    exact Bool.and_false _
  unfold Binary64.spell
  rw [hnumber, if_neg Bool.false_ne_true]
  dsimp only
  rw [if_pos h]
  cases x.isNegative <;> rfl

/-- A float is spelled as a finite number or by one of three words. -/
theorem spell_cases (x : Binary64) :
    x.isFinite = true
      ∨ ∃ w ∈ ["NaN", "Infinity", "-Infinity"], x.spell floatLayout = w := by
  rcases x.kind with hfinite | hnan | hinfinite
  · exact .inl hfinite
  · exact .inr ⟨"NaN", by simp, spell_nan hnan⟩
  · refine .inr ⟨_, ?_, spell_infinite hinfinite⟩
    cases x.isNegative <;> simp

private theorem printable_spell (x : Binary64) : Printable (x.spell floatLayout).toList := by
  rcases spell_cases x with hfinite | ⟨w, hw, hspell⟩
  · exact printable_of_numeric (numeric_float hfinite floatLayout)
  · rw [hspell]
    simp only [List.mem_cons, List.not_mem_nil, or_false] at hw
    rcases hw with rfl | rfl | rfl <;> decide

/-- A legible value has a canonical text. -/
theorem Legible.written {v : Value} (h : Legible v) : ∃ t, written v = .ok t := by
  induction h with
  | null => exact ⟨_, rfl⟩
  | bool b => exact ⟨_, rfl⟩
  | float _ => exact ⟨_, rfl⟩
  | text s => exact ⟨_, rfl⟩
  | @int n hn =>
    refine ⟨(toString n).toList, ?_⟩
    show (integerText n).map String.toList = _
    rw [integerText, if_neg (show ¬mostDigits < _ from Nat.not_lt.2 hn)]
    rfl
  | @list xs _ ih =>
    obtain ⟨parts, hparts⟩ := forall₂_of_total ih
    exact ⟨_, written_list_eq_ok.2 ⟨parts, hparts, rfl⟩⟩
  | @dict es hes _ ih =>
    have hentries : ∀ e ∈ Value.byName es, ∃ t, writtenEntry (e.1, Json.written e.2) = .ok t := by
      intro e he
      obtain ⟨s, hs⟩ := hes.texts e (Value.mem_byName.1 he)
      obtain ⟨t, ht⟩ := ih e (Value.mem_byName.1 he)
      rw [hs]
      exact ⟨_, writtenEntry_text_eq_ok.2 ⟨t, ht, rfl⟩⟩
    obtain ⟨parts, hparts⟩ := forall₂_of_total hentries
    exact ⟨_, (written_dict_eq_ok hes).2 ⟨parts, hparts, rfl⟩⟩

/-- A plain value that has a canonical text is legible: none of its integers
has too many digits. -/
theorem legible_of_written {v : Value} (h : v.Plain) :
    ∀ {t : List Char}, Json.written v = .ok t → Legible v := by
  induction h with
  | null => exact fun _ => .null
  | bool b => exact fun _ => .bool b
  | float hfinite => exact fun _ => .of_isFinite hfinite
  | text s => exact fun _ => .text s
  | int n =>
    intro t ht
    obtain ⟨text, htext, -⟩ := map_eq_ok.1 ht
    -- an integer with too many digits would have no text
    refine .int (Nat.not_lt.1 fun hlong => ?_)
    rw [integerText, if_pos (show mostDigits < _ from hlong)] at htext
    cases htext
  | list _ ih =>
    intro t ht
    obtain ⟨parts, hparts, -⟩ := written_list_eq_ok.1 ht
    refine .list fun x hx => ?_
    obtain ⟨part, -, hpart⟩ := exists_of_mem_right hparts.flip x hx
    exact ih x hx hpart
  | dict hes _ ih =>
    intro t ht
    obtain ⟨parts, hparts, -⟩ := (written_dict_eq_ok hes).1 ht
    refine .dict hes fun e he => ?_
    obtain ⟨part, -, hpart⟩ := exists_of_mem_right hparts.flip e (Value.mem_byName.2 he)
    obtain ⟨s, hs⟩ := hes.texts e he
    rw [hs] at hpart
    obtain ⟨ds, hds, -⟩ := writtenEntry_text_eq_ok.1 hpart
    exact ih e he hds

/-- The canonical text of a legible value is in ASCII, and all of it is
printed. -/
theorem Legible.printable {v : Value} (h : Legible v) :
    ∀ {t : List Char}, Json.written v = .ok t → Printable t := by
  induction h with
  | null =>
    rintro t ⟨⟩
    decide
  | bool b =>
    rintro t ⟨⟩
    cases b <;> decide
  | @int n _ =>
    intro t ht
    obtain ⟨text, htext, rfl⟩ := map_eq_ok.1 ht
    exact printable_of_numeric (numeric_int htext)
  | @float x _ =>
    rintro t ⟨⟩
    exact printable_spell x
  | text s =>
    rintro t ⟨⟩
    exact printable_writtenText s
  | list _ ih =>
    intro t ht
    obtain ⟨parts, hparts, rfl⟩ := written_list_eq_ok.1 ht
    refine printable_list fun part hpart => ?_
    obtain ⟨x, hx, hpart⟩ := exists_of_mem_right hparts part hpart
    exact ih x hx hpart
  | dict hes _ ih =>
    intro t ht
    obtain ⟨parts, hparts, rfl⟩ := (written_dict_eq_ok hes).1 ht
    refine printable_dict fun part hpart => ?_
    obtain ⟨e, he, hpart⟩ := exists_of_mem_right hparts part hpart
    obtain ⟨s, hs⟩ := hes.texts e (Value.mem_byName.1 he)
    rw [hs] at hpart
    obtain ⟨ds, hds, rfl⟩ := writtenEntry_text_eq_ok.1 hpart
    exact (printable_writtenText s).append ((ih e (Value.mem_byName.1 he) hds).cons (by decide))

/-- What a legible value is written as is of ASCII. -/
theorem Legible.ascii {v : Value} {t : List Char} (h : Legible v) (ht : Json.written v = .ok t) :
    Ascii t :=
  (h.printable ht).ascii

/-- So is what a plain one is written as. -/
theorem ascii_written {v : Value} {t : List Char} (h : v.Plain) (ht : Json.written v = .ok t) :
    Ascii t :=
  (legible_of_written h ht).ascii ht

/-- The order of entries has no part in it. -/
theorem Legible.normal {v : Value} (h : Legible v) : Legible v.normal := by
  induction h with
  | null => exact .null
  | bool b => exact .bool b
  | int hn => exact .int hn
  | float hnan => exact .float hnan
  | text s => exact .text s
  | list _ ih =>
    rw [Value.normal_list]
    exact .list (List.forall_mem_map.2 ih)
  | dict hes _ ih =>
    rw [Value.normal_dict]
    exact .dict hes.canonicalEntries <| List.forall_mem_map.2 fun e he =>
      ih e (Value.mem_byName.1 he)

/-- A legible value is plain if its normal form is, since the order of entries
is all that is different. -/
theorem Legible.plain_of_normal {v : Value} (h : Legible v) : v.normal.Plain → v.Plain := by
  induction h with
  | null => exact id
  | bool b => exact id
  | int _ => exact id
  | float _ => exact id
  | text s => exact id
  | @list xs _ ih =>
    intro hplain
    rw [Value.normal_list] at hplain
    exact .list fun x hx => ih x hx (hplain.of_list _ (List.mem_map_of_mem hx))
  | @dict es hes _ ih =>
    intro hplain
    rw [Value.normal_dict] at hplain
    refine .dict hes fun e he => ih e he ?_
    exact hplain.of_dict.2 (e.1, e.2.normal) (List.mem_map.2 ⟨e, Value.mem_byName.2 he, rfl⟩)

/-- There is nothing to join in a whole value. -/
theorem Legible.joined {v : Value} (h : Legible v) : v.isWhole = true → v.joined = v := by
  induction h with
  | null => exact fun _ => rfl
  | bool b => exact fun _ => rfl
  | int _ => exact fun _ => rfl
  | float _ => exact fun _ => rfl
  | text s => exact fun hwhole => congrArg Value.text (Value.isWhole_text.1 hwhole).joined
  | @list xs _ ih =>
    intro hwhole
    rw [Value.joined_list]
    exact congrArg Value.list
      ((List.map_congr_left fun x hx => ih x hx (Value.isWhole_list.1 hwhole x hx)).trans
        (List.map_id' xs))
  | @dict es hes _ ih =>
    intro hwhole
    have hentries : (es.map fun e => (e.1.joined, e.2.joined)) = es := by
      refine (List.map_congr_left fun e he => ?_).trans (List.map_id' es)
      obtain ⟨hname, hvalue⟩ := Value.isWhole_dict.1 hwhole e he
      obtain ⟨s, hs⟩ := hes.texts e he
      rw [hs] at hname
      have htext : e.1.joined = e.1 := by
        rw [hs]
        exact congrArg Value.text (Value.isWhole_text.1 hname).joined
      exact Prod.ext htext (ih e he hvalue)
    rw [Value.joined_dict, hentries, Value.dictOf_named hes]

end Collation.Json
