/-
What reading a JSON text can come to, whatever the text. A value that is
read is legible. If there are only characters in the text it is whole too:
half of a surrogate pair then comes from an escape, and two escapes in a
row make one character (`whole_of_readText`). A text that cannot be read is
malformed, unless a number stands in it with too many digits; then there
are so many digits in a row.

Each reader takes something off the head of the text and returns the rest,
or refuses. What either comes to is one predicate (`Reads`), and readers
put together keep it (`Reads.bind`), so that the whole is one induction
over the fuel (`reads_fuel`).
-/
import Collation.Proofs.Json.Legible

namespace Collation.Json

variable {α β : Type} {P : α → Prop} {Q : β → Prop} {p q : CodePoint}
  {ps qs rest : List CodePoint} {ds : List Char} {n : Nat} {es : List (Value × Value)}
  {solid : Prop}

-- ============================================================= readings

/-- So many digits in a row. -/
def Run (n : Nat) (ps : List CodePoint) : Prop :=
  ∃ ds, AllDigits ds ∧ ds.length = n ∧ codePoints ds <:+: ps

/-- What comes of reading a thing off the head of a text: one as it should
be and what follows it, or a refusal. Only a long run of digits is blamed
for being one. -/
def Reads (P : α → Prop) (ps : List CodePoint) : Except Refusal (α × List CodePoint) → Prop
  | .ok (a, rest) => P a ∧ rest <:+ ps
  | .error (.malformed _ _) => True
  | .error (.tooManyDigits n) => digitLimit < n ∧ Run n ps

private theorem Run.of_suffix (h : Run n qs) (hsuffix : qs <:+ ps) : Run n ps := by
  obtain ⟨digits, hdigits, hlength, hinfix⟩ := h
  exact ⟨digits, hdigits, hlength, hinfix.trans hsuffix.isInfix⟩

private theorem Reads.done {a : α} (h : P a) (rest : List CodePoint) :
    Reads P rest (.ok (a, rest)) :=
  ⟨h, List.suffix_rfl⟩

private theorem Reads.of_suffix {r : Except Refusal (α × List CodePoint)} (h : Reads P qs r)
    (hsuffix : qs <:+ ps) : Reads P ps r := by
  match r, h with
  | .ok (_, _), h => exact ⟨h.1, h.2.trans hsuffix⟩
  | .error (.malformed _ _), _ => trivial
  | .error (.tooManyDigits _), h => exact ⟨h.1, h.2.of_suffix hsuffix⟩

/-- Something else is known of what is read. -/
theorem Reads.of_ok {P' : α → Prop} {r : Except Refusal (α × List CodePoint)} (h : Reads P ps r)
    (hread : ∀ a rest, r = .ok (a, rest) → P' a) : Reads P' ps r := by
  match r, h with
  | .ok (a, rest), h => exact ⟨hread a rest rfl, h.2⟩
  | .error (.malformed _ _), _ => trivial
  | .error (.tooManyDigits _), h => exact h

/-- One reader after another. -/
theorem Reads.bind {r : Except Refusal (α × List CodePoint)}
    {f : α × List CodePoint → Except Refusal (β × List CodePoint)} (h : Reads P ps r)
    (hf : ∀ a rest, P a → rest <:+ ps → Reads Q rest (f (a, rest))) : Reads Q ps (r >>= f) := by
  match r, h with
  | .ok (a, rest), h => exact (hf a rest h.1 h.2).of_suffix h.2
  | .error (.malformed _ _), _ => trivial
  | .error (.tooManyDigits _), h => exact h

/-- Only the beginning of a text is skipped. -/
theorem skipBlanks_suffix (ps : List CodePoint) : skipBlanks ps <:+ ps := List.dropWhile_suffix _

/-- What follows a code point that stands behind blanks. -/
theorem suffix_of_skipBlanks (h : skipBlanks ps = p :: rest) : rest <:+ ps := by
  have hblank := skipBlanks_suffix ps
  rw [h] at hblank
  exact (List.suffix_cons p rest).trans hblank

-- ================================================================ texts

private theorem hexUnit_suffix (h : hexUnit? ps = some (n, rest)) : rest <:+ ps := by
  unfold hexUnit? at h
  split at h
  · next a b c d tail =>
    by_cases hend : tail.isEmpty = true
    · rw [if_pos hend] at h
      cases h
    · rw [if_neg hend] at h
      simp only [Option.bind_eq_bind, Option.bind_eq_some_iff, Option.pure_def] at h
      obtain ⟨_, -, _, -, _, -, _, -, heq⟩ := h
      cases heq
      exact List.suffix_append [.char a, .char b, .char c, .char d] rest
  · cases h

/-- An escape by its unit is read from the front. -/
private theorem reads_units (ps : List CodePoint) : Reads (fun _ => True) ps (readUnits ps) := by
  unfold readUnits
  split
  · trivial
  · next unit rest hunit =>
    have hrest : rest <:+ ps := (hexUnit_suffix hunit).trans (List.tail_suffix ps)
    split
    · next h digits _ =>
      split
      · trivial
      · next next rest' hnext =>
        split
        · exact ⟨trivial, (hexUnit_suffix hnext).trans
            ((List.suffix_append [CodePoint.char '\\', .char 'u'] digits).trans hrest)⟩
        · exact ⟨trivial, hrest⟩
    · exact ⟨trivial, hrest⟩

private theorem reads_point (opening : List CodePoint) (p : CodePoint) (ps : List CodePoint) :
    Reads (fun _ => True) ps (readPoint opening p ps) := by
  unfold readPoint
  split
  · unfold readEscape
    split
    · trivial
    · exact reads_units _
    · next e after _ =>
      split
      · exact ⟨trivial, List.suffix_cons e after⟩
      · trivial
  · split
    · trivial
    · exact ⟨trivial, List.suffix_rfl⟩

private theorem reads_text (opening : List CodePoint) (fuel : Nat) (ps : List CodePoint) :
    Reads (fun _ => True) ps (readText opening fuel ps) := by
  induction fuel generalizing ps with
  | zero => trivial
  | succ fuel ih =>
    cases ps with
    | nil => trivial
    | cons p ps =>
      rw [readText]
      split
      · exact ⟨trivial, List.suffix_cons p ps⟩
      · refine Reads.of_suffix ?_ (List.suffix_cons p ps)
        exact (reads_point opening p ps).bind fun _ rest _ _ =>
          (ih rest).bind fun _ rest _ _ => .done trivial rest

/-- A first half is read alone where no second half follows. -/
theorem noLow_of_readUnits {h : Fin 1024} (hread : readUnits ps = .ok (.high h, rest)) :
    NoLow rest := by
  unfold readUnits at hread
  split at hread
  · cases hread
  · next unit after hunit =>
    split at hread
    · next h' digits _ =>
      split at hread
      · cases hread
      · next n rest' hnext =>
        split at hread
        · cases hread
        · next hlow =>
          cases hread
          rintro digits' heq
          cases heq
          exact ⟨n, rest', hnext, hlow⟩
    · next hnot =>
      obtain ⟨hunit', rfl⟩ := Prod.mk.inj (Except.ok.inj hread)
      exact fun digits heq => absurd heq (hnot h digits hunit')

/-- A first half that is read alone has no second one behind it. -/
private theorem noLow_of_readPoint {opening : List CodePoint} {h : Fin 1024} (hp : p.isHalf = false)
    (hread : readPoint opening p ps = .ok (.high h, rest)) : NoLow rest := by
  unfold readPoint at hread
  split at hread
  · unfold readEscape at hread
    split at hread
    · cases hread
    · exact noLow_of_readUnits hread
    · split at hread <;> cases hread
  · split at hread
    · cases hread
    · cases hread
      cases hp

/-- No second half is read where no escape of one stands at the head. -/
theorem ne_low_of_readPoint {opening : List CodePoint} (hp : p.isHalf = false)
    (hlow : NoLow (p :: ps)) (hread : readPoint opening p ps = .ok (q, rest)) (l : Fin 1024) :
    q ≠ .low l := by
  rintro rfl
  unfold readPoint at hread
  split at hread
  · next hslash =>
    unfold readEscape at hread
    split at hread
    · cases hread
    · next digits =>
      -- an escape by its unit, which is not that of a second half
      obtain ⟨n, after, hunit, hnot⟩ := hlow digits (by rw [hslash])
      unfold readUnits at hread
      rw [List.tail_cons, hunit] at hread
      dsimp only at hread
      split at hread
      · split at hread
        · cases hread
        · split at hread <;> cases hread
      · exact hnot l (Prod.mk.inj (Except.ok.inj hread)).1
    · split at hread <;> cases hread
  · split at hread
    · cases hread
    · cases hread
      cases hp

/-- Where there are only characters to read, halves of pairs come from
escapes, of which two in a row make one character. -/
theorem whole_of_readText {opening : List CodePoint} {fuel : Nat} (hps : NoHalf ps)
    (h : readText opening fuel ps = .ok (qs, rest)) :
    Whole qs ∧ (NoLow ps → ∀ l more, qs ≠ .low l :: more) := by
  induction fuel generalizing ps qs with
  | zero => cases h
  | succ fuel ih =>
    cases ps with
    | nil => cases h
    | cons p ps =>
      obtain ⟨hp, hps⟩ := List.forall_mem_cons.1 hps
      rw [readText] at h
      split at h
      · cases h
        exact ⟨whole_nil, fun _ _ _ h => absurd h.symm (List.cons_ne_nil _ _)⟩
      · obtain ⟨⟨q, after⟩, hpoint, h⟩ := bind_eq_ok.1 h
        obtain ⟨⟨more, rest'⟩, hmore, h⟩ := bind_eq_ok.1 h
        cases h
        have hafter := reads_point opening p ps
        rw [hpoint] at hafter
        obtain ⟨hwhole, hhead⟩ := ih (fun x hx => hps x (hafter.2.subset hx)) hmore
        refine ⟨whole_cons.2 ⟨?_, hwhole⟩, fun hlow l more' heq => ?_⟩
        · rintro ⟨high, low, more', rfl, hmeets⟩
          exact hhead (noLow_of_readPoint hp hpoint) low more' hmeets
        · exact ne_low_of_readPoint hp hlow hpoint l (List.cons.inj heq).1

/-- Legible; and whole where only characters are read (`solid`). -/
structure Fit (solid : Prop) (v : Value) : Prop where
  legible : Legible v
  whole : solid → v.isWhole = true

private theorem reads_whole (opening : List CodePoint) (fuel : Nat) (hps : solid → NoHalf ps) :
    Reads (fun qs => solid → Whole qs) ps (readText opening fuel ps) :=
  (reads_text opening fuel ps).of_ok fun _ _ hread hsolid =>
    (whole_of_readText (hps hsolid) hread).1

private theorem fit_text {qs : List CodePoint} (h : solid → Whole qs) : Fit solid (.text ⟨qs⟩) :=
  ⟨.text _, fun hsolid => Value.isWhole_text.2 (h hsolid)⟩

/-- A name is a text. -/
theorem reads_name (hps : solid → NoHalf ps) :
    Reads (fun v => (∃ s, v = .text s) ∧ (solid → v.isWhole = true)) ps (readName ps) := by
  unfold readName
  split
  · next tail =>
    have hsuffix := List.suffix_cons (CodePoint.char '"') tail
    refine Reads.of_suffix ?_ hsuffix
    refine (reads_whole _ _ fun h => (hps h).of_suffix hsuffix).bind fun name rest hname _ => ?_
    dsimp only
    split
    · next after heq =>
      exact ⟨⟨⟨_, rfl⟩, (fit_text hname).whole⟩,
        (skipBlanks_suffix after).trans (suffix_of_skipBlanks heq)⟩
    · trivial
  · trivial

-- ============================================================== numbers

/-- The digits at the front are all digits, and what follows is left. -/
private theorem spanDigits_eq (h : Binary64.spanDigits ps = (ds, rest)) :
    ps = codePoints ds ++ rest ∧ AllDigits ds := by
  induction ps generalizing ds with
  | nil =>
    cases h
    exact ⟨rfl, fun _ hc => absurd hc List.not_mem_nil⟩
  | cons p ps ih =>
    unfold Binary64.spanDigits at h
    split at h
    · next c ps' heq =>
      obtain ⟨rfl, rfl⟩ := List.cons.inj heq
      split at h
      · next hdigit =>
        cases hspan : Binary64.spanDigits ps with
        | mk ds' rest' =>
          rw [hspan] at h
          cases h
          obtain ⟨hps, hds⟩ := ih hspan
          exact ⟨congrArg (CodePoint.char c :: ·) hps, List.forall_mem_cons.2 ⟨hdigit, hds⟩⟩
      · cases h
        exact ⟨rfl, fun _ hc => absurd hc List.not_mem_nil⟩
    · cases h
      exact ⟨rfl, fun _ hc => absurd hc List.not_mem_nil⟩

/-- An integer part is some digits. -/
theorem integerPart_eq (h : integerPart? ps = some (ds, rest)) :
    ps = codePoints ds ++ rest ∧ AllDigits ds ∧ ds ≠ [] := by
  unfold integerPart? at h
  split at h
  · next c tail =>
    split at h
    · next hzero =>
      cases h
      rw [hzero]
      exact ⟨rfl, allDigits_zeros 1, List.cons_ne_nil _ _⟩
    · split at h
      · next hdigit =>
        have hspan := Option.some.inj h
        obtain ⟨heq, hdigits⟩ := spanDigits_eq hspan
        refine ⟨heq, hdigits, ?_⟩
        rintro rfl
        rw [Binary64.spanDigits, if_pos hdigit] at hspan
        cases hspan
      · cases h
  · cases h

private theorem fractionPart_suffix (h : fractionPart ps = (ds, rest)) : rest <:+ ps := by
  unfold fractionPart at h
  split at h
  · next tail =>
    split at h
    · next heq =>
      cases h
      exact List.suffix_rfl
    · have heq := (spanDigits_eq h).1
      rw [heq]
      exact (List.suffix_append _ rest).trans (List.suffix_cons (CodePoint.char '.') _)
  · cases h
    exact List.suffix_rfl

private theorem exponentPart_suffix {e : Int} (h : Binary64.exponentPart? ps = some (e, rest)) :
    rest <:+ ps := by
  unfold Binary64.exponentPart? at h
  split at h
  · next c qs =>
    refine List.IsSuffix.trans ?_ (List.suffix_cons (.char c) qs)
    split at h
    · dsimp only at h
      -- what is left once the sign is passed over
      generalize hrest : Prod.snd _ = unsigned at h
      have hsign : unsigned <:+ qs := by
        subst hrest
        split
        · exact List.suffix_cons _ _
        · exact List.suffix_cons _ _
        · exact List.suffix_rfl
      split at h
      · cases h
      · next ds rest' _ hspan =>
        obtain ⟨-, rfl⟩ := Prod.mk.inj (Option.some.inj h)
        exact List.IsSuffix.trans ⟨codePoints ds, (spanDigits_eq hspan).1.symm⟩ hsign
    · cases h
  · cases h

private theorem splitSign_suffix (ps : List CodePoint) : (splitSign ps).2 <:+ ps := by
  unfold splitSign
  split
  · exact List.suffix_cons _ _
  · exact List.suffix_rfl

/-- A number of so many digits has no more. -/
private theorem natOfDigits_lt (h : AllDigits ds) : natOfDigits ds < 10 ^ ds.length := by
  induction ds with
  | nil => exact Nat.one_pos
  | cons c ds ih =>
    obtain ⟨hc, hds⟩ := List.forall_mem_cons.1 h
    have hdigit : natOfDigits [c] ≤ 9 := by
      have hbound := (Char.isDigit_iff_toNat.1 hc).2
      show 10 * 0 + (c.toNat - '0'.toNat) ≤ 9
      have hzero : '0'.toNat = 48 := rfl
      have hnine : '9'.toNat = 57 := rfl
      omega
    calc natOfDigits (c :: ds)
        = natOfDigits [c] * 10 ^ ds.length + natOfDigits ds := natOfDigits_append [c] ds
      _ < natOfDigits [c] * 10 ^ ds.length + 10 ^ ds.length := Nat.add_lt_add_left (ih hds) _
      _ = (natOfDigits [c] + 1) * 10 ^ ds.length := (Nat.succ_mul _ _).symm
      _ ≤ 10 * 10 ^ ds.length := Nat.mul_le_mul_right _ (Nat.succ_le_succ hdigit)
      _ = 10 ^ (c :: ds).length := (Nat.pow_succ').symm

/-- An integer that is read has no more digits than were read. -/
theorem legible_int (h : AllDigits ds) (hne : ds ≠ []) (hlimit : ds.length ≤ digitLimit)
    (negative : Bool) :
    Legible (.int (if negative then -(natOfDigits ds : Int) else natOfDigits ds)) := by
  have hdigits : (Nat.toDigits 10 (natOfDigits ds)).length ≤ ds.length :=
    (Nat.length_toDigits_le_iff (by decide) (List.length_pos_iff.2 hne)).2 (natOfDigits_lt h)
  refine .int ?_
  cases negative with
  | false => exact hdigits.trans hlimit
  | true =>
    rw [if_pos rfl, Int.natAbs_neg]
    exact hdigits.trans hlimit

private theorem fit_decimal (negative : Bool) (digits : Nat) (e : Int) :
    Fit solid (.float (Binary64.ofDecimal negative digits e)) := by
  refine ⟨.float fun hnan => ?_, fun _ => rfl⟩
  rw [Binary64.isNaN_ofDecimal] at hnan
  cases hnan

/-- A number that is read is legible. What is refused for its digits is an
integer part of so many. -/
theorem reads_number (ps : List CodePoint) : Reads (Fit solid) ps (readNumber ps) := by
  have hsign := splitSign_suffix ps
  unfold readNumber
  generalize splitSign ps = signed at hsign ⊢
  obtain ⟨negative, unsigned⟩ := signed
  dsimp only at hsign ⊢
  split
  · trivial
  · next whole afterWhole hwhole =>
    obtain ⟨hunsigned, hdigits, hne⟩ := integerPart_eq hwhole
    have hafter : afterWhole <:+ ps := List.IsSuffix.trans ⟨codePoints whole, hunsigned.symm⟩ hsign
    cases hfraction : fractionPart afterWhole with
    | mk part afterPart =>
      have hrest : afterPart <:+ ps := (fractionPart_suffix hfraction).trans hafter
      dsimp only
      split
      · next e rest hexp => exact ⟨fit_decimal _ _ _, (exponentPart_suffix hexp).trans hrest⟩
      · split
        · next hpart =>
          rw [List.isEmpty_iff.1 hpart, List.append_nil]
          by_cases hlimit : digitLimit < whole.length
          · rw [if_pos hlimit]
            refine ⟨hlimit, whole, hdigits, rfl, ?_⟩
            exact List.IsInfix.trans ⟨[], afterWhole, hunsigned.symm⟩ hsign.isInfix
          · rw [if_neg hlimit]
            exact ⟨⟨legible_int hdigits hne (Nat.not_lt.1 hlimit) negative, fun _ => rfl⟩, hrest⟩
        · exact ⟨fit_decimal _ _ _, hrest⟩

/-- A word, a number or neither: each is read from the front. -/
theorem reads_scalar (ps : List CodePoint) : Reads (Fit solid) ps (readScalar ps) := by
  unfold readScalar
  split
  · next word v hword =>
    have hwords : ∀ w ∈ words, Fit solid w.2 := by
      intro w hw
      simp only [words, List.mem_cons, List.not_mem_nil, or_false] at hw
      rcases hw with rfl | rfl | rfl | rfl | rfl | rfl
      · exact ⟨.null, fun _ => rfl⟩
      · exact ⟨.bool true, fun _ => rfl⟩
      · exact ⟨.bool false, fun _ => rfl⟩
      · exact ⟨.float fun _ => rfl, fun _ => rfl⟩
      all_goals exact ⟨.float fun hnan => absurd hnan (by decide), fun _ => rfl⟩
    exact ⟨hwords _ (List.mem_of_find?_eq_some hword), List.drop_suffix _ ps⟩
  · exact reads_number ps

-- ============================================================ containers

/-- Entries as they are read. -/
def Entries (solid : Prop) (es : List (Value × Value)) : Prop :=
  ∀ e ∈ es, (∃ s, e.1 = .text s) ∧ (solid → e.1.isWhole = true) ∧ Fit solid e.2

private theorem fit_cons {e : Value × Value}
    (he : (∃ s, e.1 = .text s) ∧ (solid → e.1.isWhole = true) ∧ Fit solid e.2)
    (hes : Entries solid es) : Entries solid (e :: es) :=
  List.forall_mem_cons.2 ⟨he, hes⟩

private theorem fit_list {xs : List Value} (h : ∀ x ∈ xs, Fit solid x) : Fit solid (.list xs) :=
  ⟨.list fun x hx => (h x hx).legible,
    fun hsolid => Value.isWhole_list.2 fun x hx => (h x hx).whole hsolid⟩

/-- Entries given one by one make a dictionary. -/
theorem fit_dictOf (h : Entries solid es) : Fit solid (.dict (Value.dictOf es)) := by
  refine ⟨.dict (Value.named_dictOf fun e he => (h e he).1) fun e he => ?_,
    fun hsolid => Value.isWhole_dict.2 fun e he => ?_⟩
  · obtain ⟨-, f, hf, heq⟩ := Value.of_mem_dictOf he
    exact heq ▸ (h f hf).2.2.legible
  · obtain ⟨⟨f, hf, hname⟩, g, hg, hvalue⟩ := Value.of_mem_dictOf he
    exact ⟨hname ▸ (h f hf).2.1 hsolid, hvalue ▸ (h g hg).2.2.whole hsolid⟩

section Step

variable {fuel : Nat}

/-- If the lists and the dictionaries of a depth are read as they should be,
so are the values one deeper. -/
private theorem reads_value
    (hitems : ∀ ps, (solid → NoHalf ps) →
      Reads (fun xs => ∀ x ∈ xs, Fit solid x) ps (readItems fuel ps))
    (hentries : ∀ ps, (solid → NoHalf ps) → Reads (Entries solid) ps (readEntries fuel ps))
    (hps : solid → NoHalf ps) : Reads (Fit solid) ps (readValue (fuel + 1) ps) := by
  unfold readValue
  split
  · next tail =>
    have hsuffix := List.suffix_cons (CodePoint.char '"') tail
    refine Reads.of_suffix ?_ hsuffix
    exact (reads_whole _ _ fun h => (hps h).of_suffix hsuffix).bind fun _ rest hwhole _ =>
      .done (fit_text hwhole) rest
  · next tail =>
    have hsuffix := List.suffix_cons (CodePoint.char '[') tail
    refine Reads.of_suffix ?_ hsuffix
    split
    · next rest heq =>
      exact ⟨fit_list fun _ h => absurd h List.not_mem_nil, suffix_of_skipBlanks heq⟩
    · refine Reads.of_suffix ?_ (skipBlanks_suffix tail)
      exact (hitems _ fun h => (hps h).of_suffix ((skipBlanks_suffix tail).trans hsuffix)).bind
        fun xs rest hxs _ => .done (fit_list hxs) rest
  · next tail =>
    have hsuffix := List.suffix_cons (CodePoint.char '\x7b') tail
    refine Reads.of_suffix ?_ hsuffix
    split
    · next rest heq =>
      exact ⟨fit_dictOf fun _ h => absurd h List.not_mem_nil, suffix_of_skipBlanks heq⟩
    · refine Reads.of_suffix ?_ (skipBlanks_suffix tail)
      exact (hentries _ fun h => (hps h).of_suffix ((skipBlanks_suffix tail).trans hsuffix)).bind
        fun es rest hes _ => .done (fit_dictOf hes) rest
  · -- neither a text nor a container
    exact reads_scalar ps

variable
  (hvalue : ∀ ps, (solid → NoHalf ps) → Reads (Fit solid) ps (readValue fuel ps))

include hvalue

/-- The items of a list, if those that follow are read as they should be. -/
private theorem reads_items
    (hitems : ∀ ps, (solid → NoHalf ps) →
      Reads (fun xs => ∀ x ∈ xs, Fit solid x) ps (readItems fuel ps))
    (hps : solid → NoHalf ps) :
    Reads (fun xs => ∀ x ∈ xs, Fit solid x) ps (readItems (fuel + 1) ps) := by
  unfold readItems
  refine (hvalue ps hps).bind fun x rest hx hrest => ?_
  dsimp only
  split
  · next after heq => exact ⟨List.forall_mem_singleton.2 hx, suffix_of_skipBlanks heq⟩
  · next after heq =>
    have hafter := (skipBlanks_suffix after).trans (suffix_of_skipBlanks heq)
    refine Reads.of_suffix ?_ hafter
    exact (hitems _ fun h => (hps h).of_suffix (hafter.trans hrest)).bind fun xs rest hxs _ =>
      .done (List.forall_mem_cons.2 ⟨hx, hxs⟩) rest
  · trivial

/-- The entries of a dictionary, if those that follow are read as they should
be. -/
private theorem reads_entries
    (hentries : ∀ ps, (solid → NoHalf ps) → Reads (Entries solid) ps (readEntries fuel ps))
    (hps : solid → NoHalf ps) : Reads (Entries solid) ps (readEntries (fuel + 1) ps) := by
  unfold readEntries
  refine (reads_name hps).bind fun name rest hname hrest => ?_
  refine (hvalue rest fun h => (hps h).of_suffix hrest).bind fun v rest' hv hrest' => ?_
  have hentry : (∃ s, name = .text s) ∧ (solid → name.isWhole = true) ∧ Fit solid v :=
    ⟨hname.1, hname.2, hv⟩
  dsimp only
  split
  · next after heq =>
      exact ⟨fit_cons hentry fun _ h => absurd h List.not_mem_nil, suffix_of_skipBlanks heq⟩
  · next after heq =>
    have hafter := (skipBlanks_suffix after).trans (suffix_of_skipBlanks heq)
    refine Reads.of_suffix ?_ hafter
    exact (hentries _ fun h => (hps h).of_suffix (hafter.trans (hrest'.trans hrest))).bind
      fun es rest hes _ => .done (fit_cons hentry hes) rest
  · trivial

end Step

/-- Whatever the depth, values, items and entries are read as they should be. -/
private theorem reads_fuel (fuel : Nat) :
    (∀ ps, (solid → NoHalf ps) → Reads (Fit solid) ps (readValue fuel ps))
      ∧ (∀ ps, (solid → NoHalf ps) →
        Reads (fun xs => ∀ x ∈ xs, Fit solid x) ps (readItems fuel ps))
      ∧ ∀ ps, (solid → NoHalf ps) → Reads (Entries solid) ps (readEntries fuel ps) := by
  induction fuel with
  | zero => exact ⟨fun _ _ => trivial, fun _ _ => trivial, fun _ _ => trivial⟩
  | succ fuel ih =>
    obtain ⟨hvalue, hitems, hentries⟩ := ih
    exact ⟨fun _ => reads_value hitems hentries, fun _ => reads_items hvalue hitems,
      fun _ => reads_entries hvalue hentries⟩

-- ========================================================== whole texts

/-- What is read of a whole text is fit. -/
theorem fit_of_readAll {v : Value} (h : readAll ps = .ok v) : Fit (NoHalf ps) v := by
  have hreads := (reads_fuel (2 * ps.length + 2)).1 (skipBlanks ps) fun h : NoHalf ps =>
    h.of_suffix (skipBlanks_suffix ps)
  unfold readAll at h
  rw [bind_eq_ok] at h
  obtain ⟨⟨w, rest⟩, hread, h⟩ := h
  rw [hread] at hreads
  dsimp only at h
  split at h
  · cases h
    exact hreads.1
  · cases h

/-- What is refused for its digits has as many in a row. -/
theorem run_of_readAll (h : readAll ps = .error (.tooManyDigits n)) :
    digitLimit < n ∧ Run n ps := by
  have hreads := (reads_fuel (2 * ps.length + 2)).1 (skipBlanks ps) (False.elim : False → _)
  unfold readAll at h
  cases hread : readValue (2 * ps.length + 2) (skipBlanks ps) with
  | error refusal =>
    rw [hread] at hreads h
    cases h
    exact ⟨hreads.1, hreads.2.of_suffix (skipBlanks_suffix ps)⟩
  | ok found =>
    rw [hread] at h
    obtain ⟨v, rest⟩ := found
    simp only [bind, Except.bind] at h
    split at h <;> cases h

end Collation.Json
