/-
What octets spell in UTF-8 proper. Half of a surrogate pair would be spelled
in three octets, the first of them 0xED; behind that one the range of the
second octet ends where the halves begin. So the code points that are read
are characters, every one of them (`noHalf_of_decodeUtf8`).
-/
import Collation.Proofs.Text.Joined
import Collation.Text.Encoding
import Mathlib.Tactic.Ring

namespace Collation

open Text

variable {n taken missing : Nat} {range : UInt8 × UInt8} {b : UInt8} {p : CodePoint}
  {rest octets : List UInt8}

/-- The halves have their own range of numbers. -/
private theorem isHalf_ofCode (h : n < 0xD800 ∨ 0xE000 ≤ n) :
    (CodePoint.ofCode n).isHalf = false := by
  unfold CodePoint.ofCode
  rw [dif_neg (by omega), dif_neg (by omega)]
  rfl

/-- One more octet is there, and it lies in the range. -/
private theorem continued_succ_eq_ok
    (h : continued taken n range (missing + 1) octets = .ok (p, rest)) :
    ∃ b tail, range.1 ≤ b ∧ b ≤ range.2
      ∧ continued (taken + 1) (n * 64 + b.toNat % 64) (0x80, 0xBF) missing tail
        = .ok (p, rest) := by
  cases octets with
  | nil => cases h
  | cons b tail =>
    rw [continued] at h
    split at h
    · next hrange => exact ⟨b, tail, hrange.1, hrange.2, h⟩
    · cases h

/-- The further octets add six bits each. -/
private theorem continued_eq_ok (h : continued taken n range missing octets = .ok (p, rest)) :
    ∃ k, p = .ofCode k ∧ n * 64 ^ missing ≤ k ∧ k < (n + 1) * 64 ^ missing := by
  induction missing generalizing taken n range octets with
  | zero =>
    cases h
    exact ⟨n, rfl, by omega, by omega⟩
  | succ missing ih =>
    obtain ⟨b, tail, -, -, h⟩ := continued_succ_eq_ok h
    obtain ⟨k, rfl, hleast, hmost⟩ := ih h
    have hmod := Nat.mod_lt b.toNat (by decide : 0 < 64)
    refine ⟨k, rfl, ?_, ?_⟩
    · calc n * 64 ^ (missing + 1) = (n * 64) * 64 ^ missing := by ring
        _ ≤ (n * 64 + b.toNat % 64) * 64 ^ missing := Nat.mul_le_mul_right _ (by omega)
        _ ≤ k := hleast
    · calc k < (n * 64 + b.toNat % 64 + 1) * 64 ^ missing := hmost
        _ ≤ (n * 64 + 64) * 64 ^ missing := Nat.mul_le_mul_right _ (by omega)
        _ = (n + 1) * 64 ^ (missing + 1) := by ring

/-- A character of three octets is none of the halves: behind the one first
octet that would lead to them the second is kept below. -/
private theorem isHalf_of_three (hfirst : 0xE0 ≤ b) (hlast : b < 0xF0)
    (h : continued taken (b.toNat % 16) (secondOctets b) 2 octets = .ok (p, rest)) :
    p.isHalf = false := by
  obtain ⟨c, tail, hleast, hmost, h⟩ := continued_succ_eq_ok h
  obtain ⟨k, rfl, hlower, hupper⟩ := continued_eq_ok h
  simp only [UInt8.le_iff_toNat_le, UInt8.lt_iff_toNat_lt, UInt8.reduceToNat] at hfirst hlast
  refine isHalf_ofCode ?_
  by_cases hb : b = 0xED
  · subst hb
    have hc : 0x80 ≤ c.toNat := UInt8.le_iff_toNat_le.1 hleast
    have hc' : c.toNat ≤ 0x9F := UInt8.le_iff_toNat_le.1 hmost
    simp only [UInt8.reduceToNat] at hupper
    omega
  · have hb' : b.toNat ≠ 0xED := fun heq => hb (UInt8.toNat_inj.1 heq)
    omega

/-- Neither is one of four octets, since the first two put it above them. -/
private theorem isHalf_of_four (hfirst : 0xF0 ≤ b) (hlast : b < 0xF5)
    (h : continued taken (b.toNat % 8) (secondOctets b) 3 octets = .ok (p, rest)) :
    p.isHalf = false := by
  obtain ⟨c, tail, hleast, hmost, h⟩ := continued_succ_eq_ok h
  obtain ⟨k, rfl, hlower, -⟩ := continued_eq_ok h
  simp only [UInt8.le_iff_toNat_le, UInt8.lt_iff_toNat_lt, UInt8.reduceToNat] at hfirst hlast
  refine isHalf_ofCode (.inr ?_)
  by_cases hb : b = 0xF0
  · subst hb
    have hc : 0x90 ≤ c.toNat := UInt8.le_iff_toNat_le.1 hleast
    have hc' : c.toNat ≤ 0xBF := UInt8.le_iff_toNat_le.1 hmost
    omega
  · have hb' : b.toNat ≠ 0xF0 := fun heq => hb (UInt8.toNat_inj.1 heq)
    omega

/-- The first octet tells how many more there are. -/
theorem isHalf_of_stepUtf8 (h : stepUtf8 octets = .ok (p, rest)) : p.isHalf = false := by
  cases octets with
  | nil => cases h
  | cons b octets =>
    rw [stepUtf8] at h
    split at h
    · cases h
      rfl
    split at h
    · cases h
    split at h
    · obtain ⟨k, rfl, -, hmost⟩ := continued_eq_ok h
      exact isHalf_ofCode (.inl (by omega))
    split at h
    · next htwo hthree => exact isHalf_of_three (UInt8.not_lt.1 htwo) hthree h
    split at h
    · next hthree hfour => exact isHalf_of_four (UInt8.not_lt.1 hthree) hfour h
    · cases h

/-- Octets that are decoded strictly give no halves. -/
private theorem noHalf_of_stepThrough {fuel : Nat} {ps : List CodePoint}
    (h : stepThrough stepUtf8 fuel octets = .ok ps) : NoHalf ps := by
  induction fuel generalizing octets ps with
  | zero =>
    cases octets <;> cases h <;> exact fun _ hp => absurd hp List.not_mem_nil
  | succ fuel ih =>
    cases octets with
    | nil =>
      cases h
      exact fun _ hp => absurd hp List.not_mem_nil
    | cons b octets =>
      rw [stepThrough] at h
      split at h
      · cases h
      · next q tail hstep =>
        split at h
        · cases h
        · next qs hrest =>
          cases h
          exact List.forall_mem_cons.2 ⟨isHalf_of_stepUtf8 hstep, ih hrest⟩

/-- UTF-8 proper spells characters only. -/
theorem noHalf_of_decodeUtf8 {t : Text} (h : decodeUtf8 octets = .ok t) : NoHalf t.points := by
  unfold decodeUtf8 decodeBy at h
  split at h
  · next ps hps =>
    cases h
    exact noHalf_of_stepThrough hps
  · cases h

end Collation
