/-
Texts in which the two halves of a surrogate pair stand side by side. Such
a text is not the one with the character of the pair in its place, yet
what is written for the two is the same, and reading it gives the
character. So a text is known from what is written for it only up to
joining (`Text.joined`), and exactly if there is nothing to join
(`Text.IsWhole`).
-/
import Collation.Proofs.Text.Order

namespace Collation

namespace CodePoint

variable {c : Char} {p : CodePoint} {h l : Fin 1024}

/-- The code point of a number is the one that has it. -/
theorem ofCode_code (p : CodePoint) : ofCode p.code = p := by
  unfold ofCode
  cases p with
  | char c =>
    have hc := code_char c
    rw [dif_neg (by simp only [code]; omega), dif_neg (by simp only [code]; omega)]
    exact congrArg char (Char.ofNat_toNat c)
  | high bits =>
    rw [dif_pos (by simp only [code]; omega)]
    exact congrArg high (Fin.ext (by simp only [code]; omega))
  | low bits =>
    rw [dif_neg (by simp only [code]; omega), dif_pos (by simp only [code]; omega)]
    exact congrArg low (Fin.ext (by simp only [code]; omega))

private theorem toNat_paired (h l : Fin 1024) : (paired h l).toNat = 0x10000 + h * 1024 + l := by
  have hvalid : (0x10000 + h * 1024 + l : Nat).isValidChar := .inr (by omega)
  rw [paired, Char.ofNat, dif_pos hvalid]
  rfl

/-- The halves of one of the wider characters. -/
theorem exists_halves (hwide : ¬c.toNat < 0x10000) :
    ∃ h l : Fin 1024, paired h l = c ∧ 0xD800 + (c.toNat - 0x10000) / 1024 = (high h).code
      ∧ 0xDC00 + (c.toNat - 0x10000) % 1024 = (low l).code := by
  have hlast : c.toNat < 0x110000 := by
    rcases c.valid with hc | ⟨-, hc⟩
    · exact hc.trans (by decide)
    · exact hc
  refine ⟨⟨(c.toNat - 0x10000) / 1024, by omega⟩, ⟨(c.toNat - 0x10000) % 1024, by omega⟩, ?_, rfl,
    rfl⟩
  rw [← Char.toNat_inj, toNat_paired]
  dsimp only
  omega

/-- A half of a pair has a code of four hexadecimal digits. -/
theorem code_lt_of_isHalf (h : p.isHalf = true) : p.code < 0x10000 := by
  cases p with
  | char c => cases h
  | high bits =>
    simp only [code]
    omega
  | low bits =>
    simp only [code]
    omega

end CodePoint

-- ============================================================== joining

/-- Code points with each pair of halves that stand side by side made the
character of the pair. -/
def joinedPoints : List CodePoint → List CodePoint
  | .high h :: .low l :: ps => .char (CodePoint.paired h l) :: joinedPoints ps
  | p :: ps => p :: joinedPoints ps
  | [] => []

namespace CodePoint

/-- The first is a first half, and the second half stands behind it. -/
def Meets (p : CodePoint) (ps : List CodePoint) : Prop :=
  ∃ h l qs, p = high h ∧ ps = low l :: qs

end CodePoint

variable {p : CodePoint} {ps : List CodePoint}

/-- What meets nothing stays as it is. -/
theorem joinedPoints_cons (h : ¬p.Meets ps) : joinedPoints (p :: ps) = p :: joinedPoints ps :=
  joinedPoints.eq_2 p ps fun _ _ _ hp hps => h ⟨_, _, _, hp, hps⟩

/-- No second half stands behind a first one. -/
def Whole (ps : List CodePoint) : Prop := joinedPoints ps = ps

instance : DecidablePred Whole := fun ps => inferInstanceAs (Decidable (joinedPoints ps = ps))

theorem whole_nil : Whole [] := rfl

/-- One code point more, which must not meet the next. -/
theorem whole_cons : Whole (p :: ps) ↔ ¬p.Meets ps ∧ Whole ps := by
  constructor
  · intro h
    have hnot : ¬p.Meets ps := by
      rintro ⟨high, low, qs, rfl, rfl⟩
      cases h
    rw [Whole, joinedPoints_cons hnot] at h
    exact ⟨hnot, (List.cons.inj h).2⟩
  · rintro ⟨hnot, hps⟩
    rw [Whole, joinedPoints_cons hnot, hps]

/-- Nothing but characters. -/
def NoHalf (ps : List CodePoint) : Prop := ∀ p ∈ ps, p.isHalf = false

/-- The end of a text without halves has none. -/
theorem NoHalf.of_suffix {qs : List CodePoint} (h : NoHalf ps) (hsuffix : qs <:+ ps) : NoHalf qs :=
  fun p hp => h p (hsuffix.subset hp)

/-- Characters are no halves. -/
theorem noHalf_codePoints (cs : List Char) : NoHalf (codePoints cs) :=
  List.forall_mem_map.2 fun _ _ => rfl

/-- Characters have nothing to join. -/
theorem whole_codePoints (cs : List Char) : Whole (codePoints cs) := by
  induction cs with
  | nil => exact whole_nil
  | cons c cs ih => exact whole_cons.2 ⟨(fun ⟨_, _, _, hc, _⟩ => nomatch hc), ih⟩

namespace Text

/-- The text with the halves that stand side by side joined. -/
def joined (t : Text) : Text := ⟨joinedPoints t.points⟩

/-- There is nothing to join in the text. -/
def IsWhole (t : Text) : Prop := Whole t.points

instance : DecidablePred IsWhole := fun t => inferInstanceAs (Decidable (Whole t.points))

/-- Joining leaves a whole text as it is. -/
theorem IsWhole.joined {t : Text} (h : t.IsWhole) : t.joined = t := congrArg Text.mk h

/-- A text of characters is whole. -/
theorem isWhole_ofString (s : String) : (ofString s).IsWhole := whole_codePoints s.toList

end Text

end Collation
