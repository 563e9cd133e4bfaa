/-
Canonical texts that are cut short. What is left of a dictionary's text,
be it cut inside a name, an escape, a surrogate pair, a number, or between
the parts, is malformed: it is never read as something else, nor is it
refused for the digits of a number in it.

What is left of a number may be a number, so of a value alone less can be
said: whatever is read of it, neither a comma nor a closing bracket follows
(`Stuck`). That is enough for the container around it to be malformed
(`readItems_stuck`), since the container has not been closed either. So the
induction is over the value: each part of a container is either whole, and
read as such (`Spells.read`), or it is the part in which the cut falls.
-/
import Collation.Proofs.Json.Outcomes
import Collation.Proofs.Json.Reading
import Mathlib.Data.List.TakeWhile

namespace Collation.Json

open Value (Named Plain byName)

variable {α β : Type} {p ps qs ds cs rest : List CodePoint} {t : List Char}
  {parts : List (List Char)} {c d : CodePoint} {v : Value} {s : Text} {fuel n : Nat}

-- ============================================================= prefixes

/-- What starts a text ends within its first part, or goes on into the rest. -/
theorem prefix_append_cases (h : p <+: ds ++ cs) :
    p <+: ds ∨ ∃ q, q ≠ [] ∧ p = ds ++ q ∧ q <+: cs := by
  rcases List.prefix_or_prefix_of_prefix h (List.prefix_append ds cs) with hshort | ⟨q, rfl⟩
  · exact .inl hshort
  · by_cases hq : q = []
    · rw [hq, List.append_nil]
      exact .inl List.prefix_rfl
    · exact .inr ⟨q, hq, rfl, (List.prefix_append_right_inj ds).1 h⟩

/-- A cut is before a character or behind it. -/
private theorem prefix_cons_cases (h : p <+: ds ++ c :: cs) :
    p <+: ds ∨ ∃ q, p = ds ++ c :: q ∧ q <+: cs := by
  rcases prefix_append_cases h with hshort | ⟨q, hne, rfl, hq⟩
  · exact .inl hshort
  · obtain ⟨c', q, rfl⟩ := List.exists_cons_of_ne_nil hne
    obtain ⟨rfl, hq'⟩ := List.cons_prefix_cons.1 hq
    exact .inr ⟨q, rfl, hq'⟩

/-- A text between an opening and a closing character that is cut short. -/
theorem prefix_bracketed (h : p <+: c :: cs ++ [d]) (hne : p ≠ c :: cs ++ [d]) :
    p = [] ∨ ∃ q, p = c :: q ∧ q <+: cs := by
  rcases prefix_cons_cases h with hshort | ⟨q, rfl, hq⟩
  · cases p with
    | nil => exact .inl rfl
    | cons c' q =>
      obtain ⟨rfl, hq⟩ := List.cons_prefix_cons.1 hshort
      exact .inr ⟨q, rfl, hq⟩
  · rw [List.prefix_nil.1 hq] at hne
    exact absurd rfl hne

/-- Nothing is skipped of a cut text either. -/
private theorem Starts.skipBlanks_cut (h : Starts t) (hp : p <+: codePoints t) :
    Json.skipBlanks p = p := by
  obtain ⟨c, cs, rfl, hblank, -⟩ := h
  cases p with
  | nil => rfl
  | cons c' q =>
    obtain ⟨rfl, -⟩ := List.cons_prefix_cons.1 hp
    exact skipBlanks_cons hblank q

-- ============================================================= outcomes

/-- Refused for what stands, or no longer stands, at some place. -/
def Malformed (r : Except Refusal α) : Prop := ∃ cause rest, r = .error (.malformed cause rest)

private theorem Malformed.bind {r : Except Refusal α} (h : Malformed r) (f : α → Except Refusal β) :
    Malformed (r >>= f) := by
  obtain ⟨cause, rest, rfl⟩ := h
  exact ⟨cause, rest, rfl⟩

/-- Nothing that a container could go on with or end with: malformed, or read
with something else after it, or with nothing. -/
def Stuck : Except Refusal (Value × List CodePoint) → Prop
  | .ok (_, rest) => ∀ c, (skipBlanks rest).head? = some c →
    ¬(c = .char ',' ∨ c = .char ']' ∨ c = .char '\x7d')
  | .error (.malformed _ _) => True
  | .error (.tooManyDigits _) => False

private theorem Malformed.stuck {r : Except Refusal (Value × List CodePoint)} (h : Malformed r) :
    Stuck r := by
  obtain ⟨cause, rest, rfl⟩ := h
  trivial

/-- A list is malformed if one of its items is stuck. -/
theorem readItems_stuck (h : Stuck (readValue fuel cs)) : Malformed (readItems (fuel + 1) cs) := by
  match hread : readValue fuel cs, h with
  | .error (.malformed cause rest), _ =>
    rw [readItems, hread]
    exact ⟨cause, rest, rfl⟩
  | .ok (x, rest), h =>
    rw [readItems, hread]
    simp only [bind, Except.bind]
    split
    · next heq => exact absurd (.inr (.inl rfl)) (h (.char ']') (by rw [heq]; rfl))
    · next heq => exact absurd (.inl rfl) (h (.char ',') (by rw [heq]; rfl))
    · exact ⟨_, _, rfl⟩

/-- A dictionary is malformed if one of its values is stuck. -/
theorem readEntries_stuck {name : Value} (hname : readName cs = .ok (name, ds))
    (h : Stuck (readValue fuel ds)) : Malformed (readEntries (fuel + 1) cs) := by
  match hread : readValue fuel ds, h with
  | .error (.malformed cause rest), _ =>
    rw [readEntries, hname]
    simp only [bind, Except.bind]
    rw [hread]
    exact ⟨cause, rest, rfl⟩
  | .ok (x, rest), h =>
    rw [readEntries, hname]
    simp only [bind, Except.bind]
    rw [hread]
    dsimp only
    split
    · next heq => exact absurd (.inr (.inr rfl)) (h (.char '\x7d') (by rw [heq]; rfl))
    · next heq => exact absurd (.inl rfl) (h (.char ',') (by rw [heq]; rfl))
    · exact ⟨_, _, rfl⟩

private theorem readValue_nil (fuel : Nat) : Malformed (readValue fuel []) := by
  cases fuel with
  | zero => exact ⟨_, _, rfl⟩
  | succ fuel => exact ⟨_, _, rfl⟩

-- ================================================================ texts

/-- An escape by a code unit needs its four digits and something after them. -/
theorem hexUnit_short (h : cs.length ≤ 4) : hexUnit? cs = none := by
  unfold hexUnit?
  split
  · next rest =>
    simp only [List.length_cons] at h
    have hnil : rest = [] := List.length_eq_zero_iff.1 (by omega)
    rw [if_pos (List.isEmpty_iff.2 hnil)]
    rfl
  · rfl

private theorem readUnits_short (h : cs.length ≤ 4) : Malformed (readUnits (.char 'u' :: cs)) := by
  unfold readUnits
  rw [List.tail_cons, hexUnit_short h]
  exact ⟨_, _, rfl⟩

/-- What follows does not change a unit. -/
theorem hexUnit_mono {n : Nat} (h : hexUnit? cs = some (n, rest)) (ds : List CodePoint) :
    hexUnit? (cs ++ ds) = some (n, rest ++ ds) := by
  unfold hexUnit? at h
  split at h
  · next a b c d tail =>
    by_cases hend : tail.isEmpty = true
    · rw [if_pos hend] at h
      cases h
    · have hend' : ¬(tail ++ ds).isEmpty = true := fun hnil =>
        hend (List.isEmpty_iff.2 (List.append_eq_nil_iff.1 (List.isEmpty_iff.1 hnil)).1)
      rw [if_neg hend] at h
      simp only [List.cons_append, hexUnit?, if_neg hend']
      simp only [Option.bind_eq_bind, Option.bind_eq_some_iff, Option.pure_def] at h ⊢
      obtain ⟨w, hw, x, hx, y, hy, z, hz, heq⟩ := h
      cases heq
      exact ⟨w, hw, x, hx, y, hy, z, hz, rfl⟩
  · cases h

/-- What is read of a code point at the end of a cut text: nothing, or one
with nothing after it but perhaps a backslash. -/
def Ends (r : Except Refusal (CodePoint × List CodePoint)) : Prop :=
  Malformed r ∨ ∃ q rest, r = .ok (q, rest) ∧ (rest = [] ∨ rest = [.char '\\'])

private theorem readPoint_nil (opening : List CodePoint) (q : CodePoint) :
    Ends (readPoint opening q []) := by
  unfold readPoint
  split
  · exact .inl ⟨_, _, rfl⟩
  · split
    · exact .inl ⟨_, _, rfl⟩
    · exact .inr ⟨q, [], rfl, .inl rfl⟩

private theorem length_hex_four (n : Nat) : (codePoints (Text.hex 4 n)).length = 4 := rfl

/-- A code unit that is cut short. -/
theorem readPoint_unit_cut (opening : List CodePoint)
    (hp : p <+: .char 'u' :: codePoints (Text.hex 4 n)) :
    Ends (readPoint opening (.char '\\') p) := by
  cases p with
  | nil => exact readPoint_nil opening _
  | cons c q =>
    obtain ⟨rfl, hq⟩ := List.cons_prefix_cons.1 hp
    rw [readPoint_unit]
    exact .inl (readUnits_short (hq.length_le.trans (Nat.le_of_eq (length_hex_four n))))

/-- The first half of a pair, with its second half cut short. -/
theorem readPoint_pair_cut (opening : List CodePoint) (h l : Fin 1024)
    (hp : p <+: .char 'u' :: (codePoints (Text.hex 4 (CodePoint.high h).code)
      ++ codePoints (unitEscape (CodePoint.low l).code))) :
    Ends (readPoint opening (.char '\\') p) := by
  rw [← List.cons_append] at hp
  rcases prefix_cons_cases hp with hshort | ⟨q, rfl, hq⟩
  · exact readPoint_unit_cut opening hshort
  · rw [List.cons_append, readPoint_unit]
    unfold readUnits
    rw [List.tail_cons, hexUnit_append (CodePoint.code_lt_of_isHalf rfl) (List.cons_ne_nil _ _)]
    dsimp only
    rw [CodePoint.ofCode_code]
    cases q with
    | nil => exact .inr ⟨_, _, rfl, .inr rfl⟩
    | cons c q =>
      obtain ⟨rfl, hq'⟩ := List.cons_prefix_cons.1 hq
      have hshort : hexUnit? q = none :=
        hexUnit_short (hq'.length_le.trans (Nat.le_of_eq (length_hex_four (CodePoint.low l).code)))
      simp only [hshort]
      exact .inl ⟨_, _, rfl⟩

/-- A code point between quotes that is cut short, or has nothing after it. -/
theorem readPoint_cut (opening : List CodePoint) (q : CodePoint) :
    ∃ d ds, codePoints (escapedPoint q) = d :: ds
      ∧ ∀ p, p <+: ds → Ends (readPoint opening d p) := by
  -- an escape by its unit, for halves and for what has no shorter one
  have hunit : ∀ n, ∃ d ds, codePoints (unitEscape n) = d :: ds
      ∧ ∀ p, p <+: ds → Ends (readPoint opening d p) := fun n =>
    ⟨.char '\\', _, rfl, fun p hp => readPoint_unit_cut opening hp⟩
  cases q with
  | high h => exact hunit _
  | low l => exact hunit _
  | char c =>
    have hwritten := writtenAs_escaped c
    rw [escapedPoint]
    generalize escaped c = text at hwritten ⊢
    cases hwritten with
    | @short d _ hmeant =>
      refine ⟨.char '\\', [.char d], rfl, fun p hp => ?_⟩
      cases p with
      | nil => exact readPoint_nil opening _
      | cons e q =>
        obtain ⟨rfl, hq⟩ := List.cons_prefix_cons.1 hp
        rw [List.prefix_nil.1 hq]
        exact .inr ⟨.char c, [], readPoint_short hmeant opening [], .inl rfl⟩
    | itself =>
      refine ⟨.char c, [], rfl, fun p hp => ?_⟩
      rw [List.prefix_nil.1 hp]
      exact readPoint_nil opening _
    | unit => exact hunit _
    | @pair h l _ =>
      refine ⟨.char '\\', _, codePoints_append _ _, fun p hp => ?_⟩
      exact readPoint_pair_cut opening h l hp

/-- A first half that no second half follows, with something of what follows
it. -/
theorem readPoint_alone (opening : List CodePoint) (h : Fin 1024) (rest : List CodePoint)
    (hlow : NoLow (qs ++ rest))
    (hp : p <+: qs) (hne : p ≠ []) :
    Malformed (readPoint opening (.char '\\')
        (.char 'u' :: (codePoints (Text.hex 4 (CodePoint.high h).code) ++ p)))
      ∨ readPoint opening (.char '\\')
        (.char 'u' :: (codePoints (Text.hex 4 (CodePoint.high h).code) ++ p))
      = .ok (.high h, p) := by
  rw [readPoint_unit]
  unfold readUnits
  rw [List.tail_cons, hexUnit_append (CodePoint.code_lt_of_isHalf rfl) hne]
  dsimp only
  rw [CodePoint.ofCode_code]
  split
  · next h' digits heq =>
    cases heq
    cases hunit : hexUnit? digits with
    | none => exact .inl ⟨_, _, rfl⟩
    | some found =>
      obtain ⟨n, after⟩ := found
      obtain ⟨e, rfl⟩ := hp
      obtain ⟨n', after', hunit', hnot⟩ := hlow (digits ++ (e ++ rest)) (by simp)
      rw [hexUnit_mono hunit] at hunit'
      cases hunit'
      dsimp only
      split
      · next l hl => exact absurd hl (hnot l)
      · exact .inr rfl
  · exact .inr rfl

/-- One code point more in front of a text without its closing quote. -/
theorem readText_cut_cons {opening later : List CodePoint} {q x : CodePoint}
    (hne : q ≠ .char '"') (hcut : ∀ p, p <+: ds → Ends (readPoint opening q p))
    (hwhole : ∀ p, p <+: later → p ≠ [] → Malformed (readPoint opening q (ds ++ p))
      ∨ readPoint opening q (ds ++ p) = .ok (x, p))
    (hlater : ∀ fuel p, p <+: later → Malformed (readText opening fuel p))
    (hp : p <+: q :: (ds ++ later)) : Malformed (readText opening fuel p) := by
  cases fuel with
  | zero => exact ⟨_, _, rfl⟩
  | succ fuel =>
    cases p with
    | nil => exact ⟨_, _, rfl⟩
    | cons e p =>
      obtain ⟨rfl, hp'⟩ := List.cons_prefix_cons.1 hp
      rw [readText, if_neg hne]
      rcases prefix_append_cases hp' with hshort | ⟨more, hmore, rfl, hrest⟩
      · -- the text ends within the code point, or right after it
        rcases hcut p hshort with hread | ⟨q', rest, hread, hrest⟩
        · exact hread.bind _
        · rw [hread]
          refine Malformed.bind (r := readText opening fuel rest) ?_ _
          cases fuel with
          | zero => exact ⟨_, _, rfl⟩
          | succ fuel => rcases hrest with rfl | rfl <;> exact ⟨_, _, rfl⟩
      · -- the code point is whole, so the cut is in what follows
        rcases hwhole more hrest hmore with hread | hread
        · exact hread.bind _
        · rw [hread]
          exact (hlater fuel more hrest).bind _

/-- A text without its closing quote. -/
theorem readText_cut (opening : List CodePoint) :
    ∀ fuel p, p <+: codePoints (ps.flatMap escapedPoint) →
      Malformed (readText opening fuel p) := by
  induction ps using joinedPoints.induct with
  | case1 h l ps ih =>
    intro fuel p hp
    rw [List.flatMap_cons, List.flatMap_cons, codePoints_append, codePoints_append,
      ← List.append_assoc] at hp
    refine readText_cut_cons (q := .char '\\') (x := .char (CodePoint.paired h l)) (by decide)
      (fun q hq => readPoint_pair_cut opening h l hq) (fun q _ hne => .inr ?_) ih hp
    rw [List.cons_append, List.append_assoc]
    exact readPoint_halves h l opening hne
  | case2 q ps hnot ih =>
    intro fuel p hp
    obtain ⟨d, ds, hescaped, hne, hwhole⟩ := readPoint_escapedPoint q
    obtain ⟨d', ds', hescaped', hcut⟩ := readPoint_cut opening q
    obtain ⟨rfl, rfl⟩ := List.cons.inj (hescaped.symm.trans hescaped')
    rw [List.flatMap_cons, codePoints_append, hescaped] at hp
    refine readText_cut_cons (x := q) hne hcut (fun r hr hne' => ?_) ih hp
    cases q with
    | high h =>
      obtain ⟨rfl, rfl⟩ := List.cons.inj hescaped
      refine readPoint_alone opening h [.char '"'] ?_ hr hne'
      exact noLow_written fun l qs hps => hnot h l qs rfl hps
    | _ => exact .inr (hwhole opening r hne' fun _ heq => by cases heq)
  | case3 =>
    intro fuel p hp
    rw [List.prefix_nil.1 hp]
    cases fuel <;> exact ⟨_, _, rfl⟩

/-- A quoted text that is cut short. -/
theorem prefix_quoted (hp : p <+: codePoints (writtenText s))
    (hne : p ≠ codePoints (writtenText s)) :
    p = [] ∨ ∃ q, p = .char '"' :: q ∧ q <+: codePoints (s.points.flatMap escapedPoint) := by
  have htext := writtenText_append s []
  rw [List.append_nil] at htext
  rw [htext] at hp hne
  exact prefix_bracketed hp hne

/-- A quoted text that is cut short, or ends where a colon should stand. -/
theorem readName_cut (hp : p <+: codePoints (writtenText s)) : Malformed (readName p) := by
  by_cases hwhole : p = codePoints (writtenText s)
  · have htext := writtenText_append s []
    rw [List.append_nil] at htext
    rw [hwhole, htext, readName_quote, readText_quoted]
    exact ⟨_, _, rfl⟩
  · rcases prefix_quoted hp hwhole with rfl | ⟨q, rfl, hq⟩
    · exact ⟨_, _, rfl⟩
    · rw [readName_quote]
      exact (readText_cut _ _ _ hq).bind _

-- =============================================================== values

private theorem exists_fuel_of_cons (h : 2 * (c :: cs).length ≤ fuel) :
    ∃ k, fuel = k + 1 ∧ 2 * cs.length + 1 ≤ k := by
  rw [List.length_cons] at h
  exact ⟨fuel - 1, by omega, by omega⟩

/-- Cut short, the text is stuck. -/
def Severs (t : List Char) : Prop :=
  ∀ fuel p, p <+: codePoints t → p ≠ codePoints t → 2 * p.length ≤ fuel →
    Stuck (readValue fuel p)

/-- Stuck where it is cut short, and where it ends. -/
theorem Spells.stuck (hspells : Spells t v) (hsevers : Severs t) (hp : p <+: codePoints t)
    (hfuel : 2 * p.length ≤ fuel) : Stuck (readValue fuel p) := by
  by_cases hwhole : p = codePoints t
  · rw [hwhole, length_codePoints] at hfuel
    have hread := hspells.read fuel [] (by omega) closes_nil
    rw [List.append_nil] at hread
    rw [hwhole, hread]
    exact fun _ h => nomatch h
  · exact hsevers fuel p hp hwhole hfuel

/-- A text that is cut off is stuck, since no quote closes it. -/
private theorem severs_text (s : Text) : Severs (writtenText s) := by
  intro fuel p hp hne hfuel
  refine Malformed.stuck ?_
  rcases prefix_quoted hp hne with rfl | ⟨q, rfl, hq⟩
  · exact readValue_nil fuel
  · obtain ⟨fuel, rfl, -⟩ := exists_fuel_of_cons hfuel
    rw [readValue_quote]
    exact (readText_cut _ _ _ hq).bind _

-- ============================================================== scalars

private theorem splitSign_cut (hp : p <+: qs) : (splitSign p).2 <+: (splitSign qs).2 := by
  cases p with
  | nil => exact ⟨_, rfl⟩
  | cons c q =>
    obtain ⟨e, rfl⟩ := hp
    rw [List.cons_append]
    unfold splitSign
    split
    · next heq =>
      obtain ⟨rfl, rfl⟩ := List.cons.inj heq
      exact List.prefix_append q e
    · next hne =>
      split
      · next heq => exact absurd (congrArg (· :: q) (List.cons.inj heq).1) (hne q)
      · exact List.prefix_append (c :: q) e

/-- How many digits stand at the head. -/
def leading (ps : List CodePoint) : Nat := (Binary64.spanDigits ps).1.length

private theorem leading_char (c : Char) (ps : List CodePoint) :
    leading (.char c :: ps) = if c.isDigit then leading ps + 1 else 0 := by
  rw [leading, Binary64.spanDigits]
  split <;> rfl

/-- Cutting adds no digits at the front. -/
private theorem leading_cut (hp : p <+: qs) : leading p ≤ leading qs := by
  induction p generalizing qs with
  | nil => exact Nat.zero_le _
  | cons d p ih =>
    obtain ⟨e, rfl⟩ := hp
    rw [List.cons_append]
    cases d with
    | char c =>
      have hrest := ih (List.prefix_append p e)
      rw [leading_char, leading_char]
      split
      · omega
      · exact Nat.le_refl 0
    | _ => exact Nat.zero_le _

private theorem leading_codePoints (cs : List Char) :
    leading (codePoints cs) = (cs.takeWhile Char.isDigit).length := by
  induction cs with
  | nil => rfl
  | cons c cs ih =>
    rw [codePoints_cons, leading_char, ih, List.takeWhile_cons]
    split <;> rfl

private theorem le_leading {ds : List Char} (h : AllDigits ds) (rest : List CodePoint) :
    ds.length ≤ leading (codePoints ds ++ rest) := by
  have hcut := leading_cut (List.prefix_append (codePoints ds) rest)
  rwa [leading_codePoints, List.takeWhile_eq_self_iff.2 h] at hcut

/-- A number is refused for digits that it starts with. -/
theorem length_of_tooManyDigits (h : readScalar cs = .error (.tooManyDigits n)) :
    n ≤ leading (splitSign cs).2 := by
  unfold readScalar at h
  split at h
  · cases h
  · unfold readNumber at h
    generalize splitSign cs = signed at h ⊢
    obtain ⟨negative, unsigned⟩ := signed
    dsimp only at h ⊢
    split at h
    · cases h
    · next whole after hwhole =>
      obtain ⟨rfl, hdigits, -⟩ := integerPart_eq hwhole
      have hn : n = whole.length := by
        split at h
        · cases h
        · split at h
          · split at h
            · cases h
              rfl
            · cases h
          · cases h
      rw [hn]
      exact le_leading hdigits after

/-- What is neither quoted nor in brackets, and does not start with too many
digits. -/
theorem severs_scalar (hopening : ∀ c, t.head? = some c → c ≠ '"' ∧ c ≠ '[' ∧ c ≠ '\x7b')
    (hsolid : ∀ c ∈ t, ¬(c = ',' ∨ c = ']' ∨ c = '\x7d'))
    (hdigits : leading (splitSign (codePoints t)).2 ≤ digitLimit) : Severs t := by
  intro fuel p hp _ hfuel
  cases p with
  | nil => exact (readValue_nil fuel).stuck
  | cons q p =>
    obtain ⟨fuel, rfl, -⟩ := exists_fuel_of_cons hfuel
    have hchar : ∀ d ∈ codePoints t, ∃ c ∈ t, d = .char c := fun d hd => by
      obtain ⟨c, hc, rfl⟩ := List.mem_map.1 hd
      exact ⟨c, hc, rfl⟩
    obtain ⟨c, hc, rfl⟩ : ∃ c, t.head? = some c ∧ q = .char c := by
      obtain ⟨e, he⟩ := hp
      cases t with
      | nil => cases he
      | cons c cs => exact ⟨c, rfl, (List.cons.inj he).1⟩
    obtain ⟨hquote, hitems, hentries⟩ := hopening c hc
    rw [readValue_scalar fuel p (mt CodePoint.char.inj hquote) (mt CodePoint.char.inj hitems)
      (mt CodePoint.char.inj hentries)]
    have hreads : Reads (Fit False) (.char c :: p) (readScalar (.char c :: p)) := reads_scalar _
    -- no character of the scalar lets a container go on, and its digits are few
    match hread : readScalar (.char c :: p), hreads with
    | .ok (v, rest), hreads =>
      intro d hd
      have hrest := (skipBlanks_suffix rest).subset (List.mem_of_head? hd)
      obtain ⟨c', hc', rfl⟩ := hchar d (hp.subset (hreads.2.subset hrest))
      simpa using hsolid c' hc'
    | .error (.malformed _ _), _ => trivial
    | .error (.tooManyDigits n), hreads =>
      have hmost := length_of_tooManyDigits hread
      have hless := leading_cut (splitSign_cut hp)
      exact absurd hreads.1 (by omega)

private theorem severs_null : Severs "null".toList :=
  severs_scalar (by rintro c ⟨⟩; decide) (List.forall_iff_forall_mem.1 (by decide)) (by decide)

private theorem severs_bool (b : Bool) :
    Severs (if b then "true" else "false" : String).toList := by
  cases b with
  | true =>
    exact severs_scalar (by rintro c ⟨⟩; decide) (List.forall_iff_forall_mem.1 (by decide))
      (by decide)
  | false =>
    exact severs_scalar (by rintro c ⟨⟩; decide) (List.forall_iff_forall_mem.1 (by decide))
      (by decide)

private theorem severs_number {c : Char} {cs : List Char} (negative : Bool) (hc : c.isDigit = true)
    (hnumeric : ∀ d ∈ signText negative ++ c :: cs, Numeric d)
    (hdigits : ((c :: cs).takeWhile Char.isDigit).length ≤ digitLimit) :
    Severs (signText negative ++ c :: cs) := by
  have hother : ∀ {d e : Char}, Numeric d → e.isDigit = false → e ∉ ['-', '+', '.', 'e'] →
      d ≠ e := by
    rintro d e (hdigit | hmark) he hne rfl
    · rw [hdigit] at he
      cases he
    · exact hne hmark
  refine severs_scalar (fun d hd => ?_) (fun d hd => ?_) ?_
  · have hnum := hnumeric d (List.mem_of_head? hd)
    exact ⟨hother hnum rfl (by decide), hother hnum rfl (by decide), hother hnum rfl (by decide)⟩
  · have hnum := hnumeric d hd
    rintro (heq | heq | heq)
    · exact hother hnum rfl (by decide) heq
    · exact hother hnum rfl (by decide) heq
    · exact hother hnum rfl (by decide) heq
  · rw [codePoints_append, codePoints_cons, splitSign_append negative hc, ← codePoints_cons,
      leading_codePoints]
    exact hdigits

private theorem severs_int {n : Int} {text : String} (h : integerText n = .ok text) :
    Severs text.toList := by
  have hnumeric := numeric_int h
  obtain ⟨htext, hlimit⟩ := integerText_eq_ok h
  obtain ⟨c, cs, hcs, hc⟩ := WholePart.head_isDigit (wholePart_toDigits n.natAbs) []
  rw [List.append_nil] at hcs
  rw [htext] at hnumeric ⊢
  rw [hcs] at hnumeric hlimit ⊢
  exact severs_number _ hc hnumeric (( List.takeWhile_prefix _).length_le.trans hlimit)

private theorem severs_float {x : Binary64} (hfinite : x.isFinite = true) :
    Severs (x.spell floatLayout).toList := by
  have hnumeric := numeric_float hfinite floatLayout
  obtain ⟨text, digits, e, htext, hform, -⟩ := spell_form hfinite floatLayout
  obtain ⟨c, cs, hcs, hc⟩ := form_head_isDigit hform
  have hdigits : (text.takeWhile Char.isDigit).length ≤ digitLimit := by
    obtain rfl := List.append_cancel_left (htext.symm.trans (spell_finite hfinite floatLayout))
    split
    · decide
    · exact (Decimal.length_leading_spell _ _).trans (by decide)
  rw [htext] at hnumeric ⊢
  rw [hcs] at hnumeric hdigits ⊢
  exact severs_number _ hc hnumeric hdigits

-- =========================================================== containers

/-- Items that are cut off somewhere are malformed, since no bracket closes
them. -/
private theorem readItems_cut (h : ∀ part ∈ parts, (∃ v, Spells part v) ∧ Severs part) :
    ∀ fuel p, p <+: codePoints (joined parts) → 2 * p.length + 1 ≤ fuel →
      Malformed (readItems fuel p) := by
  induction parts with
  | nil =>
    intro fuel p hp hfuel
    obtain ⟨fuel, rfl⟩ : ∃ k, fuel = k + 1 := ⟨fuel - 1, by omega⟩
    rw [List.prefix_nil.1 hp]
    exact readItems_stuck (readValue_nil fuel).stuck
  | cons part parts ih =>
    intro fuel p hp hfuel
    obtain ⟨fuel, rfl⟩ : ∃ k, fuel = k + 1 := ⟨fuel - 1, by omega⟩
    obtain ⟨⟨⟨v, hspells⟩, hsevers⟩, hparts⟩ := List.forall_mem_cons.1 h
    cases parts with
    | nil => exact readItems_stuck (hspells.stuck hsevers hp (by omega))
    | cons next parts =>
      rw [joined_more, codePoints_append, codePoints_cons] at hp
      rcases prefix_cons_cases hp with hshort | ⟨q, rfl, hq⟩
      · exact readItems_stuck (hspells.stuck hsevers hshort (by omega))
      · -- the part is whole, so the cut falls in the others
        rw [List.length_append, List.length_cons, length_codePoints] at hfuel
        obtain ⟨⟨w, hnext⟩, -⟩ := hparts next List.mem_cons_self
        rw [readItems, hspells.read fuel (.char ',' :: q) (by omega) (closes_cons (by decide) q)]
        simp only [bind, Except.bind]
        rw [skipBlanks_cons rfl]
        show Malformed (readItems fuel (skipBlanks q) >>= _)
        rw [(starts_joined hnext.starts parts).skipBlanks_cut hq]
        exact (ih hparts fuel q hq (by omega)).bind _

/-- A text that is read as an entry, the value of which is stuck where it is
cut short. -/
def SeversEntry (t : List Char) : Prop :=
  ∃ s ds v, t = writtenText s ++ ':' :: ds ∧ Spells ds v ∧ Severs ds

private theorem SeversEntry.starts (h : SeversEntry t) : Starts t := by
  obtain ⟨s, ds, v, rfl, -⟩ := h
  exact ⟨'"', _, rfl, rfl, by decide⟩

/-- The entry in which the cut falls, or that it follows. -/
theorem readEntries_part (h : SeversEntry t) (hp : p <+: codePoints t)
    (hfuel : 2 * p.length ≤ fuel) : Malformed (readEntries (fuel + 1) p) := by
  obtain ⟨s, ds, v, rfl, hspells, hsevers⟩ := h
  rw [codePoints_append, codePoints_cons] at hp
  rcases prefix_cons_cases hp with hname | ⟨q, rfl, hq⟩
  · rw [readEntries]
    exact (readName_cut hname).bind _
  · rw [List.length_append, List.length_cons] at hfuel
    exact readEntries_stuck (readName_writtenText s (hspells.starts.skipBlanks_cut hq))
      (hspells.stuck hsevers hq (by omega))

/-- So are entries that are cut off. -/
private theorem readEntries_cut (h : ∀ part ∈ parts, SeversEntry part) :
    ∀ fuel p, p <+: codePoints (joined parts) → 2 * p.length + 1 ≤ fuel →
      Malformed (readEntries fuel p) := by
  induction parts with
  | nil =>
    intro fuel p hp hfuel
    obtain ⟨fuel, rfl⟩ : ∃ k, fuel = k + 1 := ⟨fuel - 1, by omega⟩
    rw [List.prefix_nil.1 hp]
    exact ⟨_, _, rfl⟩
  | cons part parts ih =>
    intro fuel p hp hfuel
    obtain ⟨fuel, rfl⟩ : ∃ k, fuel = k + 1 := ⟨fuel - 1, by omega⟩
    obtain ⟨hpart, hparts⟩ := List.forall_mem_cons.1 h
    cases parts with
    | nil => exact readEntries_part hpart hp (by omega)
    | cons next parts =>
      rw [joined_more, codePoints_append, codePoints_cons] at hp
      rcases prefix_cons_cases hp with hshort | ⟨q, rfl, hq⟩
      · exact readEntries_part hpart hshort (by omega)
      · -- the entry is whole, so the cut falls in the others
        have hnext := starts_joined (hparts next List.mem_cons_self).starts parts
        obtain ⟨s, ds, v, rfl, hspells, -⟩ := hpart
        simp only [List.length_append, List.length_cons, length_codePoints] at hfuel
        rw [codePoints_append, codePoints_cons, List.append_assoc, List.cons_append, readEntries,
          readName_writtenText s (hspells.starts.skipBlanks _)]
        simp only [bind, Except.bind]
        rw [hspells.read fuel (.char ',' :: q) (by omega) (closes_cons (by decide) q)]
        dsimp only
        rw [skipBlanks_cons rfl]
        show Malformed (readEntries fuel (skipBlanks q) >>= _)
        rw [hnext.skipBlanks_cut hq]
        exact (ih hparts fuel q hq (by omega)).bind _

/-- The text of a list that is cut short. -/
theorem malformed_list (h : ∀ part ∈ parts, (∃ v, Spells part v) ∧ Severs part)
    (hp : p <+: codePoints ('[' :: joined parts ++ [']']))
    (hne : p ≠ codePoints ('[' :: joined parts ++ [']'])) (hfuel : 2 * p.length ≤ fuel) :
    Malformed (readValue fuel p) := by
  rw [codePoints_append, codePoints_cons] at hp hne
  rcases prefix_bracketed hp hne with rfl | ⟨q, rfl, hq⟩
  · exact readValue_nil fuel
  · obtain ⟨fuel, rfl, hmore⟩ := exists_fuel_of_cons hfuel
    have hitems := readItems_cut h fuel q hq hmore
    cases q with
    | nil => exact hitems.bind _
    | cons c q =>
      cases parts with
      | nil => exact absurd (List.prefix_nil.1 hq) (List.cons_ne_nil _ _)
      | cons part parts =>
        obtain ⟨⟨⟨v, hspells⟩, -⟩, -⟩ := List.forall_mem_cons.1 h
        obtain ⟨d, ds, hds, hblank, hclosing⟩ := starts_joined hspells.starts parts
        obtain ⟨rfl, -⟩ := List.cons_prefix_cons.1 (hds ▸ hq)
        rw [readValue_items fuel q hblank (mt CodePoint.char.inj hclosing)]
        exact hitems.bind _

/-- The text of a dictionary that is cut short. -/
theorem malformed_dict (h : ∀ part ∈ parts, SeversEntry part)
    (hp : p <+: codePoints ('\x7b' :: joined parts ++ ['\x7d']))
    (hne : p ≠ codePoints ('\x7b' :: joined parts ++ ['\x7d'])) (hfuel : 2 * p.length ≤ fuel) :
    Malformed (readValue fuel p) := by
  rw [codePoints_append, codePoints_cons] at hp hne
  rcases prefix_bracketed hp hne with rfl | ⟨q, rfl, hq⟩
  · exact readValue_nil fuel
  · obtain ⟨fuel, rfl, hmore⟩ := exists_fuel_of_cons hfuel
    have hentries := readEntries_cut h fuel q hq hmore
    cases q with
    | nil => exact hentries.bind _
    | cons c q =>
      cases parts with
      | nil => exact absurd (List.prefix_nil.1 hq) (List.cons_ne_nil _ _)
      | cons part parts =>
        obtain ⟨⟨s, ds, v, rfl, -⟩, -⟩ := List.forall_mem_cons.1 h
        obtain ⟨cs, hcs⟩ :=
          joined_cons '"' (s.points.flatMap escapedPoint ++ ['"'] ++ ':' :: ds) parts
        obtain ⟨rfl, -⟩ := List.cons_prefix_cons.1 (hcs ▸ hq)
        rw [readValue_entries fuel q rfl (by decide)]
        exact hentries.bind _

-- ====================================================== canonical texts

/-- The parts of a dictionary's text, given what is known of its values. -/
theorem seversEntry_parts {es : List (Value × Value)} (hes : (Value.dict es).Plain)
    (hvalues : ∀ e ∈ es, ∀ {ds : List Char}, written e.2 = .ok ds → Severs ds)
    (hparts : List.Forall₂ (fun e part => writtenEntry (e.1, written e.2) = .ok part)
      (byName es) parts) : ∀ part ∈ parts, SeversEntry part := by
  intro part hpart
  obtain ⟨hnamed, hplain⟩ := hes.of_dict
  obtain ⟨e, he, hpart⟩ := exists_of_mem_right hparts part hpart
  have he := Value.mem_byName.1 he
  obtain ⟨s, hs⟩ := hnamed.texts e he
  rw [hs] at hpart
  obtain ⟨ds, hds, rfl⟩ := writtenEntry_text_eq_ok.1 hpart
  exact ⟨s, ds, _, rfl, (legible_of_written (hplain e he) hds).spells hds, hvalues e he hds⟩

/-- The canonical text of a plain value is stuck where it is cut short. -/
theorem severs_written (h : v.Plain) : ∀ {t : List Char}, written v = .ok t → Severs t := by
  -- along the value; the parts of a container are severed in turn
  induction h with
  | null =>
    rintro t ⟨⟩
    exact severs_null
  | bool b =>
    rintro t ⟨⟩
    exact severs_bool b
  | int n =>
    intro t ht
    obtain ⟨text, htext, rfl⟩ := map_eq_ok.1 ht
    exact severs_int htext
  | float hfinite =>
    rintro t ⟨⟩
    exact severs_float hfinite
  | text s =>
    rintro t ⟨⟩
    exact severs_text s
  | list hxs ih =>
    intro t ht
    obtain ⟨parts, hparts, rfl⟩ := written_list_eq_ok.1 ht
    intro fuel p hp hne hfuel
    refine (malformed_list (fun part hpart => ?_) hp hne hfuel).stuck
    obtain ⟨x, hx, hpart⟩ := exists_of_mem_right hparts part hpart
    exact ⟨⟨_, (legible_of_written (hxs x hx) hpart).spells hpart⟩, ih x hx hpart⟩
  | dict hes hvalues ih =>
    intro t ht
    obtain ⟨parts, hparts, rfl⟩ := (written_dict_eq_ok hes).1 ht
    intro fuel p hp hne hfuel
    exact (malformed_dict (seversEntry_parts (.dict hes hvalues) ih hparts) hp hne hfuel).stuck

/-- Cut short, the canonical text of a dictionary is malformed. -/
theorem readAll_cut {es : List (Value × Value)} (h : (Value.dict es).Plain)
    (ht : written (.dict es) = .ok t) (hp : p <+: codePoints t) (hne : p ≠ codePoints t) :
    Malformed (readAll p) := by
  have hskip := ((legible_of_written h ht).spells ht).starts.skipBlanks_cut hp
  obtain ⟨parts, hparts, rfl⟩ := (written_dict_eq_ok h.of_dict.1).1 ht
  have hentries := seversEntry_parts h (fun e he _ => severs_written (h.of_dict.2 e he)) hparts
  rw [readAll, hskip]
  exact (malformed_dict hentries hp hne (by omega)).bind _

end Collation.Json
