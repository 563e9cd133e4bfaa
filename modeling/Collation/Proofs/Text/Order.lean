/-
Code points in the order of their numbers, and texts in the order of their
code points: both are linear. The order of the numbers has no gap for the
halves of surrogate pairs, so a half is below some characters and above
others, like any other code point.
-/
import Collation.Text.Basic
import Mathlib.Data.List.Lex

namespace Collation

namespace CodePoint

/-- A character is no half of a pair by its number. -/
theorem code_char (c : Char) : c.toNat < 0xD800 ∨ 0xE000 ≤ c.toNat := by
  rcases c.valid with h | ⟨h, -⟩
  · exact .inl h
  · exact .inr (Nat.succ_le_of_lt h)

/-- Code points are told apart by their numbers. -/
private theorem code_injective : Function.Injective code := by
  intro p q h
  cases p <;> cases q
  case char.char c d => rw [Char.toNat_inj.1 h]
  case high.high bits bits' => rw [Fin.ext (Nat.add_left_cancel h)]
  case low.low bits bits' => rw [Fin.ext (Nat.add_left_cancel h)]
  -- The numbers of characters, first halves and second halves are apart.
  case char.high c bits | char.low c bits =>
    have hc := code_char c
    simp only [code] at h
    omega
  case high.char bits c | low.char bits c =>
    have hc := code_char c
    simp only [code] at h
    omega
  all_goals
    simp only [code] at h
    omega

instance : LinearOrder CodePoint := .lift' code code_injective

end CodePoint

namespace Text

/-- Texts are told apart by their characters. -/
theorem ofChars_injective : Function.Injective ofChars := by
  intro cs ds h
  exact (List.map_injective_iff.2 fun _ _ => CodePoint.char.inj) (congrArg Text.points h)

private theorem ofString_injective : Function.Injective ofString := fun _ _ h =>
  String.toList_inj.1 (ofChars_injective h)

/-- Whether a string is the text of another one. -/
theorem ofString_inj {s t : String} : ofString s = ofString t ↔ s = t := ofString_injective.eq_iff

/-- A string is a text and a string again. -/
theorem lossy_ofString (s : String) : (ofString s).lossy = s := by
  have hchars : (codePoints s.toList).map CodePoint.toChar = s.toList := by
    rw [codePoints, List.map_map]
    exact List.map_id s.toList
  exact (congrArg String.ofList hchars).trans String.ofList_toList

instance : LinearOrder Text where
  le s t := s.points ≤ t.points
  le_refl s := le_refl s.points
  le_trans _ _ _ h h' := le_trans h h'
  lt_iff_le_not_ge s t := lt_iff_le_not_ge (a := s.points) (b := t.points)
  le_antisymm _ _ h h' := congrArg Text.mk (le_antisymm h h')
  le_total s t := le_total s.points t.points
  toDecidableLE s t := inferInstanceAs (Decidable (s.points ≤ t.points))
  toDecidableEq := inferInstance
  toDecidableLT := inferInstance

end Text

end Collation
