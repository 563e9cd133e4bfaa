/-
Numbers and texts read back from what was written for them, whatever
follows: for a number, something that cannot belong to it (`Closes`); for
a text, anything, since its closing quote ends it.
-/
import Collation.Json.Canonical
import Collation.Json.Reader
import Collation.Proofs.Number.Spelling
import Collation.Proofs.Text.Joined

namespace Collation.Json

variable {cs whole part ds : List Char} {ps rest : List CodePoint} {c : Char}

/-- What may follow a value: the end, or what separates values or closes
their container. -/
def Closes (rest : List CodePoint) : Prop :=
  ∀ p, rest.head? = some p → p = .char ',' ∨ p = .char ']' ∨ p = .char '\x7d'

/-- The end of the text ends a number. -/
theorem closes_nil : Closes [] := fun _ h => nomatch h

private theorem Closes.noDigit (h : Closes rest) : NoDigit rest := by
  intro c hc
  rcases h _ hc with heq | heq | heq
  all_goals
    cases heq
    rfl

private theorem Closes.fractionPart (h : Closes rest) : fractionPart rest = ([], rest) := by
  unfold Json.fractionPart
  split
  · next hdot => rcases h _ rfl with heq | heq | heq <;> cases heq
  · rfl

private theorem Closes.exponentPart (h : Closes rest) : Binary64.exponentPart? rest = none := by
  unfold Binary64.exponentPart?
  split
  · next c ps =>
    refine if_neg ?_
    rcases h _ rfl with heq | heq | heq <;> cases heq <;> decide
  · rfl

-- ============================================================= numbers

/-- The sign in front of a number. -/
def signText (negative : Bool) : List Char := if negative then ['-'] else []

/-- The whole part of a number is read, and nothing that follows. -/
private theorem integerPart_append (hwhole : WholePart whole) (hrest : NoDigit rest) :
    integerPart? (codePoints whole ++ rest) = some (whole, rest) := by
  rcases hwhole with rfl | ⟨hall, c, hc, hne⟩
  · rfl
  · obtain ⟨ds, rfl⟩ := List.head?_eq_some_iff.1 hc
    rw [codePoints_cons, List.cons_append, integerPart?, if_neg hne,
      if_pos (hall c List.mem_cons_self)]
    exact congrArg some (spanDigits_append hall hrest)

private theorem fractionPart_append (hpart : AllDigits part) (hne : part ≠ [])
    (hrest : NoDigit rest) :
    fractionPart (.char '.' :: (codePoints part ++ rest)) = (part, rest) := by
  rw [fractionPart, spanDigits_append hpart hrest]
  cases part with
  | nil => exact absurd rfl hne
  | cons c cs => rfl

private theorem exponentPart_append (negative : Bool) (hds : AllDigits ds) (hne : ds ≠ [])
    (hrest : NoDigit rest) :
    Binary64.exponentPart?
        (.char 'e' :: .char (if negative then '-' else '+') :: (codePoints ds ++ rest))
      = some (if negative then -(natOfDigits ds : Int) else natOfDigits ds, rest) := by
  have hspan := spanDigits_append hds hrest
  obtain ⟨d, ds', rfl⟩ := List.exists_cons_of_ne_nil hne
  cases negative with
  | true =>
    simp only [Binary64.exponentPart?, if_true, hspan, true_or]
  | false =>
    simp only [Binary64.exponentPart?, Bool.false_eq_true, if_false, if_true, hspan, true_or]

/-- A whole part starts with a digit. -/
theorem WholePart.head_isDigit (h : WholePart whole) (more : List Char) :
    ∃ c cs, whole ++ more = c :: cs ∧ c.isDigit = true := by
  rcases h with rfl | ⟨hall, c, hc, -⟩
  · exact ⟨'0', more, rfl, rfl⟩
  · obtain ⟨ds, rfl⟩ := List.head?_eq_some_iff.1 hc
    exact ⟨c, ds ++ more, rfl, hall c List.mem_cons_self⟩

/-- So does a decimal in any of its forms. -/
theorem form_head_isDigit {digits : Nat} {e : Int} (h : Decimal.Form cs digits e) :
    ∃ c ds, cs = c :: ds ∧ c.isDigit = true := by
  cases h with
  | fraction hwhole _ _ => exact WholePart.head_isDigit hwhole _
  | exponent _ hwhole _ _ _ =>
    rw [List.append_assoc]
    exact WholePart.head_isDigit hwhole _

/-- The sign of a number is read off before its digits. -/
theorem splitSign_append (negative : Bool) (h : c.isDigit = true) (ps : List CodePoint) :
    splitSign (codePoints (signText negative) ++ (.char c :: ps)) = (negative, .char c :: ps) := by
  cases negative with
  | true => rfl
  | false =>
    show splitSign (.char c :: ps) = (false, .char c :: ps)
    unfold splitSign
    split
    · next heq =>
      cases heq
      exact absurd h (by decide)
    · rfl

private theorem splitSign_whole (negative : Bool) (hwhole : WholePart whole)
    (rest : List CodePoint) :
    splitSign (codePoints (signText negative) ++ (codePoints whole ++ rest))
      = (negative, codePoints whole ++ rest) := by
  obtain ⟨c, cs, hcons, hc⟩ := WholePart.head_isDigit hwhole []
  rw [List.append_nil] at hcons
  rw [hcons, codePoints_cons, List.cons_append, splitSign_append negative hc]

section

variable (negative : Bool) {after tail : List CodePoint} {e : Int}
  (hwhole : WholePart whole) (hafter : NoDigit after)
  (hfraction : fractionPart after = (part, tail))

include hwhole hafter hfraction

private theorem readNumber_of_exponent (hexp : Binary64.exponentPart? tail = some (e, rest)) :
    readNumber (codePoints (signText negative) ++ (codePoints whole ++ after)) = .ok (.float
      (Binary64.ofDecimal negative (natOfDigits (whole ++ part)) (e - part.length)), rest) := by
  unfold readNumber
  rw [splitSign_whole negative hwhole]
  simp only [integerPart_append hwhole hafter, hfraction, hexp]

private theorem readNumber_of_fraction (hexp : Binary64.exponentPart? tail = none)
    (hne : part ≠ []) :
    readNumber (codePoints (signText negative) ++ (codePoints whole ++ after)) = .ok (.float
      (Binary64.ofDecimal negative (natOfDigits (whole ++ part)) (-part.length)), tail) := by
  unfold readNumber
  rw [splitSign_whole negative hwhole]
  simp only [integerPart_append hwhole hafter, hfraction, hexp, List.isEmpty_iff, hne, if_false]

end

/-- Digits without a fraction or an exponent are an integer, unless they are
too many. -/
theorem readNumber_whole (negative : Bool) (hwhole : WholePart whole) (hrest : Closes rest) :
    readNumber (codePoints (signText negative) ++ (codePoints whole ++ rest))
      = if digitLimit < whole.length then .error (.tooManyDigits whole.length)
        else .ok (.int (if negative then -(natOfDigits whole : Int) else natOfDigits whole),
          rest) := by
  unfold readNumber
  rw [splitSign_whole negative hwhole]
  simp only [integerPart_append hwhole hrest.noDigit, hrest.fractionPart, hrest.exponentPart,
    List.isEmpty_nil, if_true, List.append_nil]

private theorem readNumber_integer (negative : Bool) (hwhole : WholePart whole)
    (hrest : Closes rest)
    (hlimit : whole.length ≤ digitLimit) :
    readNumber (codePoints (signText negative) ++ (codePoints whole ++ rest))
      = .ok (.int (if negative then -(natOfDigits whole : Int) else natOfDigits whole), rest) := by
  rw [readNumber_whole negative hwhole hrest, if_neg (Nat.not_lt.2 hlimit)]

/-- A decimal in either form. -/
theorem readNumber_form (negative : Bool) {text : List Char} {digits : Nat} {e : Int}
    (h : Decimal.Form text digits e) (hrest : Closes rest) :
    readNumber (codePoints (signText negative) ++ (codePoints text ++ rest))
      = .ok (.float (Binary64.ofDecimal negative digits e), rest) := by
  cases h with
  | @fraction whole part hwhole hpart hne =>
    rw [codePoints_append, codePoints_cons, List.append_assoc, List.cons_append]
    exact readNumber_of_fraction negative hwhole (NoDigit.cons rfl)
      (fractionPart_append hpart hne hrest.noDigit) hrest.exponentPart hne
  | @exponent whole part ds expNegative hwhole hpart hds hne =>
    have hexp := exponentPart_append expNegative hds hne hrest.noDigit
    have hmark : NoDigit
        (.char 'e' :: .char (if expNegative then '-' else '+') :: (codePoints ds ++ rest)) :=
      NoDigit.cons rfl
    simp only [codePoints_append, codePoints_cons, List.append_assoc, List.cons_append]
    by_cases hnil : part = []
    · subst hnil
      rw [if_pos rfl, codePoints_nil, List.nil_append]
      have hfraction : fractionPart
          (.char 'e' :: .char (if expNegative then '-' else '+') :: (codePoints ds ++ rest))
          = ([], _) := rfl
      exact readNumber_of_exponent negative hwhole hmark hfraction hexp
    · rw [if_neg hnil, codePoints_cons, List.cons_append]
      have hfraction := fractionPart_append hpart hnil hmark
      exact readNumber_of_exponent negative hwhole (NoDigit.cons rfl) hfraction hexp

/-- The text of a finite float is that of its shortest decimal, with its
sign. -/
theorem spell_finite {x : Binary64} (hfinite : x.isFinite = true) (layout : DecimalLayout) :
    (x.spell layout).toList = signText x.isNegative
      ++ if x.absUnits = 0 then ['0', '.', '0'] else x.shortest.spell layout := by
  have hnumber := Binary64.isNaN_of_isFinite hfinite
  have hbounded : x.isInfinite = false := by
    rw [Binary64.isInfinite, Bool.and_eq_false_iff]
    exact .inl (by simpa [Binary64.isFinite] using hfinite)
  have hsign : (if x.isNegative then "-" else "" : String).toList = signText x.isNegative := by
    cases x.isNegative <;> rfl
  unfold Binary64.spell
  rw [hnumber, hbounded, if_neg Bool.false_ne_true]
  dsimp only
  rw [if_neg Bool.false_ne_true]
  split
  · rw [String.toList_append, hsign]
    rfl
  · rw [String.toList_append, hsign, String.toList_ofList]

/-- The text of a finite float is a decimal that is nearest to it. -/
theorem spell_form {x : Binary64} (hfinite : x.isFinite = true) (layout : DecimalLayout) :
    ∃ text digits e, (x.spell layout).toList = signText x.isNegative ++ text
      ∧ Decimal.Form text digits e ∧ Binary64.ofDecimal x.isNegative digits e = x := by
  rw [spell_finite hfinite]
  rcases Nat.eq_zero_or_pos x.absUnits with hzero | hpos
  · rw [if_pos hzero]
    have hform := Decimal.Form.fraction (.inl rfl : WholePart ['0']) (allDigits_zeros 1)
      (List.cons_ne_nil _ _)
    exact ⟨_, _, _, rfl, hform, (if_pos rfl).trans (Binary64.eq_zero_of_absUnits hzero).symm⟩
  · rw [if_neg hpos.ne']
    have haround := Binary64.shortest_around hpos
    obtain ⟨m, e, hform, heq⟩ :=
      Decimal.spell_form x.shortest (Binary64.digits_pos hpos haround) layout
    rw [← heq] at haround
    exact ⟨_, m, e, rfl, hform, Binary64.ofDecimal_of_around hfinite hpos haround⟩

/-- A finite float comes back from its text. -/
theorem readNumber_float {x : Binary64} (hfinite : x.isFinite = true) (layout : DecimalLayout)
    (hrest : Closes rest) :
    readNumber (codePoints (x.spell layout).toList ++ rest) = .ok (.float x, rest) := by
  obtain ⟨text, digits, e, htext, hform, hvalue⟩ := spell_form hfinite layout
  rw [htext, codePoints_append, List.append_assoc, readNumber_form x.isNegative hform hrest, hvalue]

/-- What an integer is written as: its sign and its digits, not too many. -/
theorem integerText_eq_ok {n : Int} {text : String} (h : integerText n = .ok text) :
    text.toList = signText (decide (n < 0)) ++ Nat.toDigits 10 n.natAbs
      ∧ (Nat.toDigits 10 n.natAbs).length ≤ digitLimit := by
  unfold integerText at h
  split at h
  · cases h
  · next hlimit =>
    injection h with h
    refine ⟨?_, Nat.not_lt.1 hlimit⟩
    subst h
    cases n with
    | ofNat n =>
      have hsign : decide ((n : Int) < 0) = false := decide_eq_false (by omega)
      show (Nat.repr n).toList = _
      rw [Nat.toList_repr, Int.ofNat_eq_natCast, hsign]
      rfl
    | negSucc n =>
      have hsign : decide (Int.negSucc n < 0) = true := decide_eq_true (Int.negSucc_lt_zero n)
      show ("-" ++ Nat.repr (n + 1)).toList = _
      rw [String.toList_append, Nat.toList_repr, hsign]
      rfl

/-- An integer comes back from its text. -/
theorem readNumber_int {n : Int} {text : String} (h : integerText n = .ok text)
    (hrest : Closes rest) : readNumber (codePoints text.toList ++ rest) = .ok (.int n, rest) := by
  obtain ⟨htext, hlimit⟩ := integerText_eq_ok h
  rw [htext, codePoints_append, List.append_assoc,
    readNumber_integer (decide (n < 0)) (wholePart_toDigits n.natAbs) hrest hlimit,
    natOfDigits_toDigits]
  congr 4
  by_cases hneg : n < 0
  · rw [decide_eq_true hneg, if_pos rfl]
    omega
  · rw [decide_eq_false hneg, if_neg Bool.false_ne_true]
    omega

/-- A character that numbers are made of. -/
def Numeric (c : Char) : Prop := c.isDigit = true ∨ c ∈ ['-', '+', '.', 'e']

private theorem numeric_signText (negative : Bool) : ∀ c ∈ signText negative, Numeric c := by
  cases negative with
  | true => exact List.forall_mem_singleton.2 (.inr (by decide))
  | false => exact fun _ hc => absurd hc List.not_mem_nil

private theorem numeric_form {text : List Char} {digits : Nat} {e : Int}
    (h : Decimal.Form text digits e) :
    ∀ c ∈ text, Numeric c := by
  cases h with
  | @fraction whole part hwhole hpart _ =>
    refine List.forall_mem_append.2 ⟨fun c hc => .inl (hwhole.allDigits c hc), ?_⟩
    exact List.forall_mem_cons.2 ⟨.inr (by decide), fun c hc => .inl (hpart c hc)⟩
  | @exponent whole part ds negative hwhole hpart hds _ =>
    refine List.forall_mem_append.2 ⟨List.forall_mem_append.2
      ⟨fun c hc => .inl (hwhole.allDigits c hc), ?_⟩, ?_⟩
    · split
      · exact fun _ hc => absurd hc List.not_mem_nil
      · exact List.forall_mem_cons.2 ⟨.inr (by decide), fun c hc => .inl (hpart c hc)⟩
    · refine List.forall_mem_cons.2 ⟨.inr (by decide), List.forall_mem_cons.2 ⟨.inr ?_, ?_⟩⟩
      · cases negative <;> decide
      · exact fun c hc => .inl (hds c hc)

/-- A finite number is spelled in digits, signs, points and exponents. -/
theorem numeric_float {x : Binary64} (hfinite : x.isFinite = true) (layout : DecimalLayout) :
    ∀ c ∈ (x.spell layout).toList, Numeric c := by
  obtain ⟨text, digits, e, htext, hform, -⟩ := spell_form hfinite layout
  rw [htext]
  exact List.forall_mem_append.2 ⟨numeric_signText _, numeric_form hform⟩

/-- An integer is written in digits and signs. -/
theorem numeric_int {n : Int} {text : String} (h : integerText n = .ok text) :
    ∀ c ∈ text.toList, Numeric c := by
  rw [(integerText_eq_ok h).1]
  exact List.forall_mem_append.2
    ⟨numeric_signText _, fun c hc => .inl (allDigits_toDigits n.natAbs c hc)⟩

-- =============================================================== texts

/-- A hexadecimal digit is read as what it stands for. -/
theorem hexValue_hexDigit : ∀ d < 16, hexValue? (Text.hexDigit d) = some d := by decide

/-- Four hexadecimal digits spell a unit. -/
theorem hexUnit_append {n : Nat} (hn : n < 0x10000) (hrest : rest ≠ []) :
    hexUnit? (codePoints (Text.hex 4 n) ++ rest) = some (n, rest) := by
  obtain ⟨p, ps, rfl⟩ := List.exists_cons_of_ne_nil hrest
  simp only [Text.hex, List.nil_append, List.cons_append, codePoints_cons, codePoints_nil, hexUnit?,
    List.isEmpty_cons, hexValue_hexDigit _ (Nat.mod_lt _ (by decide : 0 < 16)),
    Bool.false_eq_true, if_false]
  show some (_, _) = _
  congr 2
  omega

/-- No escape of a second half stands at the head, so that a first half in
front of it stays alone. -/
def NoLow (ps : List CodePoint) : Prop :=
  ∀ digits, ps = .char '\\' :: .char 'u' :: digits →
    ∃ n rest, hexUnit? digits = some (n, rest) ∧ ∀ l, CodePoint.ofCode n ≠ .low l

/-- A code point by its own unit. -/
theorem readUnits_unit {p : CodePoint} (hp : p.code < 0x10000) (hrest : rest ≠ [])
    (halone : ∀ h, p = .high h → NoLow rest) :
    readUnits (.char 'u' :: (codePoints (Text.hex 4 p.code) ++ rest)) = .ok (p, rest) := by
  unfold readUnits
  rw [List.tail_cons, hexUnit_append hp hrest]
  dsimp only
  rw [CodePoint.ofCode_code]
  split
  · next h digits =>
    obtain ⟨n, rest', hunit, hn⟩ := halone h rfl digits rfl
    rw [hunit]
    dsimp only
    split
    · next l hl => exact absurd hl (hn l)
    · rfl
  · rfl

/-- Two halves that follow one another make one character. -/
theorem readUnits_halves (h l : Fin 1024) (hrest : rest ≠ []) :
    readUnits (.char 'u' :: (codePoints (Text.hex 4 (CodePoint.high h).code)
        ++ (codePoints (unitEscape (CodePoint.low l).code) ++ rest)))
      = .ok (.char (CodePoint.paired h l), rest) := by
  have hmore : codePoints (unitEscape (CodePoint.low l).code) ++ rest ≠ [] := List.cons_ne_nil _ _
  have hescape : codePoints (unitEscape (CodePoint.low l).code) ++ rest
      = .char '\\' :: .char 'u' :: (codePoints (Text.hex 4 (CodePoint.low l).code) ++ rest) := rfl
  unfold readUnits
  rw [List.tail_cons, hexUnit_append (CodePoint.code_lt_of_isHalf rfl) hmore]
  dsimp only
  rw [CodePoint.ofCode_code, hescape]
  simp only
  rw [hexUnit_append (CodePoint.code_lt_of_isHalf rfl) hrest]
  dsimp only
  rw [CodePoint.ofCode_code]

/-- From the blank on there are no control characters. -/
theorem not_control_of_space_le (h : ' ' ≤ c) : ¬(CodePoint.char c).code < 0x20 := by
  have hle : ' '.toNat ≤ c.toNat := h
  rw [show ' '.toNat = 0x20 from rfl] at hle
  simp only [CodePoint.code]
  omega

/-- An escape by its unit. -/
theorem readPoint_unit (opening ps : List CodePoint) :
    readPoint opening (.char '\\') (.char 'u' :: ps) = readUnits (.char 'u' :: ps) := rfl

/-- A character with a short escape of its own is what that escape means. -/
theorem readPoint_short {d : Char} (hmeant : escapeOf? (.char d) = some c)
    (opening rest : List CodePoint) :
    readPoint opening (.char '\\') (.char d :: rest) = .ok (.char c, rest) := by
  unfold readPoint
  rw [if_pos rfl]
  unfold readEscape
  split
  · next heq => cases heq
  · next heq =>
    cases heq
    cases hmeant
  · next heq =>
    cases heq
    rw [hmeant]

/-- How a character is written between quotes: with a short escape that means
it, as itself, by its code unit, or by the two halves of a pair. -/
inductive WrittenAs (c : Char) : List Char → Prop where
  | short {d : Char} : d ∈ ['"', '\\', 'n', 'r', 't', 'f', 'b'] →
    escapeOf? (.char d) = some c → WrittenAs c ['\\', d]
  | itself : ' ' ≤ c → c ≤ '~' → c ≠ '"' → c ≠ '\\' → WrittenAs c [c]
  | unit : c.toNat < 0x10000 → WrittenAs c (unitEscape c.toNat)
  | pair {h l : Fin 1024} : CodePoint.paired h l = c →
    WrittenAs c (unitEscape (CodePoint.high h).code ++ unitEscape (CodePoint.low l).code)

/-- A character is read from its escape. -/
theorem writtenAs_escaped (c : Char) : WrittenAs c (escaped c) := by
  unfold escaped
  split
  · next h => rcases h with rfl | rfl <;> exact .short (by decide) rfl
  iterate 5
    split
    · next h => exact .short (by decide) (h ▸ rfl)
  split
  · next hquote _ _ _ _ _ hprintable =>
    rw [not_or] at hquote
    exact .itself hprintable.1 hprintable.2 hquote.1 hquote.2
  split
  · next hnarrow => exact .unit hnarrow
  · next hwide =>
    obtain ⟨h, l, hpair, hhigh, hlow⟩ := CodePoint.exists_halves hwide
    rw [hhigh, hlow]
    exact .pair hpair

/-- An escape by a unit that is no second half. -/
theorem noLow_unitEscape {p : CodePoint} (hp : p.code < 0x10000) (hnot : ∀ l, p ≠ .low l)
    (hrest : rest ≠ []) : NoLow (codePoints (unitEscape p.code) ++ rest) := by
  rintro digits heq
  unfold unitEscape at heq
  simp only [codePoints_cons, List.cons_append, List.cons.injEq, true_and] at heq
  subst heq
  refine ⟨p.code, rest, hexUnit_append hp hrest, fun l => ?_⟩
  rw [CodePoint.ofCode_code]
  exact hnot l

/-- What is written for a code point is an escape of a second half only if
the code point is one. -/
theorem noLow_escapedPoint {p : CodePoint} (hnot : ∀ l, p ≠ .low l) (hrest : rest ≠ []) :
    NoLow (codePoints (escapedPoint p) ++ rest) := by
  cases p with
  | low l => exact absurd rfl (hnot l)
  | high h => exact noLow_unitEscape (CodePoint.code_lt_of_isHalf rfl) (fun _ => nofun) hrest
  | char c =>
    have hwritten := writtenAs_escaped c
    rw [escapedPoint]
    generalize escaped c = text at hwritten ⊢
    -- only an escape by its unit could be that of a half
    cases hwritten with
    | @short d hd _ =>
      intro digits heq
      simp only [codePoints_cons, List.cons_append, List.cons.injEq, true_and,
        CodePoint.char.injEq] at heq
      rw [heq.1] at hd
      exact absurd hd (by decide)
    | itself _ _ _ hescape =>
      intro digits heq
      simp only [codePoints_cons, List.cons_append, List.cons.injEq, CodePoint.char.injEq] at heq
      exact absurd heq.1 hescape
    | unit hnarrow => exact noLow_unitEscape (p := .char c) hnarrow (fun _ => nofun) hrest
    | @pair h l _ =>
      rw [codePoints_append, List.append_assoc]
      exact noLow_unitEscape (CodePoint.code_lt_of_isHalf rfl) (fun _ => nofun)
        (List.append_ne_nil_of_right_ne_nil _ hrest)

private theorem noLow_quote (ps : List CodePoint) : NoLow (.char '"' :: ps) := fun _ h => nomatch h

/-- A code point comes back from what is written for it between quotes, if
no second half follows a first one. -/
theorem readPoint_escapedPoint (p : CodePoint) :
    ∃ q qs, codePoints (escapedPoint p) = q :: qs ∧ q ≠ .char '"' ∧
      ∀ opening rest, rest ≠ [] → (∀ h, p = .high h → NoLow rest) →
        readPoint opening q (qs ++ rest) = .ok (p, rest) := by
  have hslash : CodePoint.char '\\' ≠ .char '"' := by decide
  -- what is written by a unit of its own is read by it
  have hunit : p.code < 0x10000 → ∃ q qs, codePoints (unitEscape p.code) = q :: qs
      ∧ q ≠ .char '"' ∧ ∀ opening rest, rest ≠ [] → (∀ h, p = .high h → NoLow rest) →
        readPoint opening q (qs ++ rest) = .ok (p, rest) := fun hp =>
    ⟨.char '\\', _, rfl, hslash, fun opening rest hrest halone =>
      (readPoint_unit opening _).trans (readUnits_unit hp hrest halone)⟩
  cases p with
  | high h => exact hunit (CodePoint.code_lt_of_isHalf rfl)
  | low l => exact hunit (CodePoint.code_lt_of_isHalf rfl)
  | char c =>
    have hwritten := writtenAs_escaped c
    rw [escapedPoint]
    generalize escaped c = text at hwritten ⊢
    cases hwritten with
    | @short d _ hmeant =>
      exact ⟨.char '\\', [.char d], rfl, hslash,
        fun opening rest _ _ => readPoint_short hmeant opening rest⟩
    | itself hfirst _ hquote hescape =>
      refine ⟨.char c, [], rfl, mt CodePoint.char.inj hquote, fun opening rest _ _ => ?_⟩
      unfold readPoint
      rw [if_neg (mt CodePoint.char.inj hescape), if_neg (not_control_of_space_le hfirst)]
      rfl
    | unit hnarrow => exact hunit hnarrow
    | @pair h l hpair =>
      refine ⟨.char '\\', .char 'u' :: (codePoints (Text.hex 4 (CodePoint.high h).code)
        ++ codePoints (unitEscape (CodePoint.low l).code)), codePoints_append _ _, hslash,
        fun opening rest hrest _ => ?_⟩
      rw [List.cons_append, List.append_assoc, readPoint_unit, readUnits_halves h l hrest, hpair]

/-- The two halves of a pair come back as the character. -/
theorem readPoint_halves (h l : Fin 1024) (opening : List CodePoint) (hrest : rest ≠ []) :
    readPoint opening (.char '\\') (.char 'u' :: (codePoints (Text.hex 4 (CodePoint.high h).code)
        ++ (codePoints (escapedPoint (.low l)) ++ rest)))
      = .ok (.char (CodePoint.paired h l), rest) :=
  (readPoint_unit opening _).trans (readUnits_halves h l hrest)

private theorem codePoints_flatMap_ne_nil (qs : List CodePoint) :
    codePoints (qs.flatMap escapedPoint) ++ .char '"' :: rest ≠ [] :=
  List.append_ne_nil_of_right_ne_nil _ (List.cons_ne_nil _ _)

/-- A second half at the head of what is written is one of the text. -/
theorem noLow_written (hnot : ∀ l qs, ps ≠ .low l :: qs) :
    NoLow (codePoints (ps.flatMap escapedPoint) ++ .char '"' :: rest) := by
  cases ps with
  | nil => exact noLow_quote rest
  | cons q qs =>
    rw [List.flatMap_cons, codePoints_append, List.append_assoc]
    refine noLow_escapedPoint (fun l heq => ?_) (codePoints_flatMap_ne_nil qs)
    rw [heq] at hnot
    exact hnot l qs rfl

/-- A text comes back from what is written for it, with the halves that stand
side by side joined. -/
theorem readText_written (opening ps : List CodePoint) :
    ∀ fuel, ps.length < fuel →
      readText opening fuel (codePoints (ps.flatMap escapedPoint) ++ .char '"' :: rest)
        = .ok (joinedPoints ps, rest) := by
  induction ps using joinedPoints.induct with
  | case1 h l ps ih =>
    intro fuel hfuel
    obtain ⟨fuel, rfl⟩ : ∃ k, fuel = k + 1 := ⟨fuel - 1, by omega⟩
    simp only [List.length_cons] at hfuel
    rw [List.flatMap_cons, List.flatMap_cons, codePoints_append, codePoints_append,
      List.append_assoc, List.append_assoc]
    -- the two escapes are read together, as the character of the pair
    show readText opening (fuel + 1) (.char '\\' :: .char 'u'
      :: (codePoints (Text.hex 4 (CodePoint.high h).code)
        ++ (codePoints (escapedPoint (.low l)) ++ _))) = _
    rw [readText, if_neg (by decide), readPoint_halves h l opening (codePoints_flatMap_ne_nil ps)]
    simp only [bind, Except.bind, pure, Except.pure]
    rw [ih fuel (by omega)]
    rfl
  | case2 p ps hnot ih =>
    intro fuel hfuel
    obtain ⟨fuel, rfl⟩ : ∃ k, fuel = k + 1 := ⟨fuel - 1, by omega⟩
    -- alone, it is read from its own escape
    have halone : ¬p.Meets ps := fun ⟨h, l, qs, hp, hps⟩ => hnot h l qs hp hps
    obtain ⟨q, qs, hescaped, hne, hread⟩ := readPoint_escapedPoint p
    rw [List.flatMap_cons, codePoints_append, hescaped, List.append_assoc, List.cons_append,
      readText, if_neg hne, joinedPoints_cons halone,
      hread opening _ (codePoints_flatMap_ne_nil ps) fun h hp =>
        noLow_written fun l qs hps => hnot h l qs hp hps]
    simp only [bind, Except.bind, pure, Except.pure]
    rw [ih fuel (by simpa using hfuel)]
  | case3 =>
    intro fuel hfuel
    obtain ⟨fuel, rfl⟩ : ∃ k, fuel = k + 1 := ⟨fuel - 1, by omega⟩
    rfl

end Collation.Json
