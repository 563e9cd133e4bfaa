/-
Rounding to the nearest binary64 number inverts the rounding interval: a
fraction in the interval of a number rounds to that number
(`nearestUnits_of_holds`). The interval is the one that `holds` asks
about, its ends belonging to it exactly if the significand is even; below
a power of two it is half as wide, and there the fraction has one binary
digit less before it is rounded up.
-/
import Collation.Number.Shortest
import Mathlib.Tactic.Ring
import Mathlib.Tactic.Linarith
import Mathlib.Tactic.NormNum

namespace Collation.Binary64

variable {x : Binary64} {num den q : Nat}

/-- The exponent is kept out of sight, so that nothing computes the power. -/
theorem unitsPerOne_pos : 0 < unitsPerOne := by
  unfold unitsPerOne
  generalize 1074 = n
  exact Nat.two_pow_pos n

-- ============================================================ the word

private theorem fraction_lt (x : Binary64) : x.fraction < 2 ^ 52 := Nat.mod_lt _ (by norm_num)

/-- The exponent field of a finite number is not full. -/
theorem field_lt (h : x.isFinite = true) : x.field < 2047 := by
  have hlt : x.field < 2 ^ 11 := Nat.mod_lt _ (by norm_num)
  simp only [isFinite, bne_iff_ne, ne_eq] at h
  omega

/-- The significand has no more than its bits. -/
theorem significand_lt (x : Binary64) : x.significand < 2 ^ 53 := by
  have h := x.fraction_lt
  rw [significand, Nat.pow_eq]
  split <;> omega

/-- The word of a finite number: significand and scale overlap in the
hidden bit. -/
theorem bits_eq (x : Binary64) :
    x.bits.toNat = x.scale * 2 ^ 52 + x.significand + signBits x.isNegative := by
  have hlt := x.bits.toNat_lt
  unfold scale significand signBits isNegative field fraction
  split <;> split <;> simp only [decide_eq_true_eq, Nat.pow_eq] at * <;> omega

/-- A number of no units is one of the two zeros. -/
theorem eq_zero_of_absUnits (h : x.absUnits = 0) : x = zero x.isNegative := by
  have hsig : x.significand = 0 :=
    (Nat.mul_eq_zero.1 h).resolve_right (Nat.two_pow_pos x.scale).ne'
  have hfield : x.field = 0 := by
    by_contra hne
    rw [significand, if_neg hne, Nat.pow_eq] at hsig
    omega
  have hbits := x.bits_eq
  rw [hsig, scale, hfield, Nat.zero_sub, Nat.zero_mul, Nat.zero_add] at hbits
  rw [zero, ofBits, ← hbits]
  exact congrArg Binary64.mk UInt64.ofNat_toNat.symm

/-- A word with the bits of a finite number is that number. -/
theorem ofBits_eq (h : x.isFinite = true) :
    ofBits (min (x.scale * 2 ^ 52 + x.significand) infinityBits + signBits x.isNegative) = x := by
  have hfield := field_lt h
  have hsig := x.significand_lt
  have hmin : x.scale * 2 ^ 52 + x.significand ≤ infinityBits := by
    rw [infinityBits, scale, Nat.pow_eq]
    omega
  rw [Nat.min_eq_left hmin, ← bits_eq, ofBits]
  exact congrArg Binary64.mk (UInt64.ofNat_toNat)

/-- A word up to that of infinity, with any sign, is a number. -/
theorem isNaN_ofBits {word : Nat} (h : word ≤ infinityBits) (negative : Bool) :
    (ofBits (word + signBits negative)).isNaN = false := by
  have hsign : signBits negative = 0 ∨ signBits negative = 2 ^ 63 := by
    cases negative with
    | true => exact .inr rfl
    | false => exact .inl rfl
  rw [infinityBits, Nat.pow_eq] at h
  have hbits : (ofBits (word + signBits negative)).bits.toNat = word + signBits negative :=
    UInt64.toNat_ofNat_of_lt' (by show _ < 2 ^ 64; omega)
  rw [isNaN, Bool.and_eq_false_iff, beq_eq_false_iff_ne, bne_eq_false_iff_eq, field, fraction,
    hbits, Nat.pow_eq, Nat.pow_eq]
  omega

/-- What is finite is a number. -/
theorem isNaN_of_isFinite (h : x.isFinite = true) : x.isNaN = false := by
  rw [isFinite, bne_iff_ne] at h
  rw [isNaN, beq_false_of_ne h]
  rfl

/-- What is not finite is no number or infinite. -/
theorem kind (x : Binary64) : x.isFinite = true ∨ x.isNaN = true ∨ x.isInfinite = true := by
  rw [isFinite, isNaN, isInfinite]
  by_cases hfield : x.field = 2047
  · rw [hfield]
    by_cases hfraction : x.fraction = 0
    · exact .inr (.inr (by rw [hfraction]; rfl))
    · exact .inr (.inl (by rw [bne_iff_ne.2 hfraction]; rfl))
  · exact .inl (bne_iff_ne.2 hfield)

/-- There is one infinity of either sign. -/
theorem eq_infinity (h : x.isInfinite = true) : x = infinity x.isNegative := by
  rw [isInfinite, Bool.and_eq_true, beq_iff_eq, beq_iff_eq] at h
  have hsignificand : x.significand = 2 ^ 52 := by
    rw [significand, h.1, h.2, if_neg (by decide)]
    rfl
  have hword : x.scale * 2 ^ 52 + x.significand = infinityBits := by
    rw [scale, hsignificand, h.1]
    rfl
  have hbits := x.bits_eq
  rw [hword] at hbits
  rw [infinity, ofBits, ← hbits]
  exact congrArg Binary64.mk UInt64.ofNat_toNat.symm

-- ============================================================ rounding

/-- A quotient that is nearest to a fraction, and even if it shares that
with a neighbour. -/
theorem divideNearest_eq (hlow : 2 * (q * den) ≤ 2 * num + den)
    (hhigh : 2 * num ≤ 2 * (q * den) + den) (hden : 0 < den)
    (htie : 2 * num + den = 2 * (q * den) ∨ 2 * num = 2 * (q * den) + den → q % 2 = 0) :
    divideNearest num den = q := by
  have hnum := Nat.div_add_mod num den
  have hr := Nat.mod_lt num hden
  unfold divideNearest
  dsimp only
  generalize num / den = a at hnum ⊢
  generalize num % den = r at hnum hr ⊢
  rw [Nat.mul_comm] at hnum
  -- the quotient, rounded down, is either the one sought or the one before
  have hle : a ≤ q := by
    by_contra hlt
    have hmul : (q + 1) * den ≤ a * den := Nat.mul_le_mul_right den (by omega)
    rw [Nat.succ_mul] at hmul
    omega
  have hge : q ≤ a + 1 := by
    by_contra hlt
    have hmul : (a + 2) * den ≤ q * den := Nat.mul_le_mul_right den (by omega)
    rw [Nat.add_mul] at hmul
    omega
  rcases Nat.eq_or_lt_of_le hle with rfl | hlt
  · rw [if_neg]
    rintro (hr' | ⟨hr', hodd⟩)
    · omega
    · have := htie (.inr (by omega))
      omega
  · obtain rfl : q = a + 1 := by omega
    rw [Nat.succ_mul a den] at hlow hhigh htie
    rw [if_pos]
    by_cases hr' : den < 2 * r
    · exact .inl hr'
    · refine .inr ⟨by omega, ?_⟩
      have := htie (.inl (by omega))
      omega

/-- What `holds` says of a fraction of units: it lies between the two ends,
and on neither if the significand is odd. -/
theorem holds_iff : x.holds num den = true ↔
    (x.lowerQuarters * den ≤ num ∧ num ≤ x.upperQuarters * den)
      ∧ (x.significand % 2 ≠ 0 → x.lowerQuarters * den ≠ num ∧ num ≠ x.upperQuarters * den) := by
  unfold holds
  dsimp only
  by_cases heven : x.significand % 2 = 0
  · rw [if_pos heven, Bool.and_eq_true, decide_eq_true_eq, decide_eq_true_eq]
    exact (and_iff_left fun h => absurd heven h).symm
  · rw [if_neg heven, Bool.and_eq_true, decide_eq_true_eq, decide_eq_true_eq]
    constructor
    · exact fun h => ⟨⟨h.1.le, h.2.le⟩, fun _ => ⟨h.1.ne, h.2.ne⟩⟩
    · exact fun h => ⟨lt_of_le_of_ne h.1.1 (h.2 heven).1, lt_of_le_of_ne h.1.2 (h.2 heven).2⟩

/-- A number of units is rounded at the scale of its 53 leading bits. -/
theorem log2_div_eq {k : Nat} (hden : 0 < den) (hlow : 2 ^ k * den ≤ num)
    (hhigh : num < 2 ^ (k + 1) * den) : (num / den).log2 = k := by
  have hpos : num / den ≠ 0 := by
    have h := (Nat.le_div_iff_mul_le hden).2 hlow
    have := Nat.two_pow_pos k
    omega
  rw [Nat.log2_eq_iff hpos]
  exact ⟨(Nat.le_div_iff_mul_le hden).2 hlow, (Nat.div_lt_iff_lt_mul hden).2 hhigh⟩

/-- In the interval of a number a fraction is at most half a step of its
scale away, and exactly so only if the significand is even. -/
theorem near_of_holds (h : x.holds (4 * num) den = true) :
    2 * (x.significand * (den * 2 ^ x.scale)) ≤ 2 * num + den * 2 ^ x.scale
      ∧ 2 * num ≤ 2 * (x.significand * (den * 2 ^ x.scale)) + den * 2 ^ x.scale
      ∧ (2 * num + den * 2 ^ x.scale = 2 * (x.significand * (den * 2 ^ x.scale))
          ∨ 2 * num = 2 * (x.significand * (den * 2 ^ x.scale)) + den * 2 ^ x.scale →
        x.significand % 2 = 0) := by
  rw [holds_iff] at h
  obtain ⟨⟨hlow, hhigh⟩, hodd⟩ := h
  -- in quarters of a unit, scaled to the denominator
  have hupper : x.upperQuarters * den
      = 4 * (x.significand * (den * 2 ^ x.scale)) + 2 * (den * 2 ^ x.scale) := by
    rw [upperQuarters, Nat.pow_eq]
    ring
  have hlower : 4 * (x.significand * (den * 2 ^ x.scale))
      ≤ x.lowerQuarters * den + 2 * (den * 2 ^ x.scale) := by
    have hsub : 4 * x.significand ≤ 4 * x.significand - 1 + 2 := by omega
    have hsub' : 4 * x.significand ≤ 4 * x.significand - 2 + 2 := by omega
    rw [lowerQuarters, Nat.pow_eq]
    split
    · have := Nat.mul_le_mul_right (den * 2 ^ x.scale) hsub
      calc 4 * (x.significand * (den * 2 ^ x.scale))
          = 4 * x.significand * (den * 2 ^ x.scale) := by ring
        _ ≤ (4 * x.significand - 1 + 2) * (den * 2 ^ x.scale) := this
        _ = _ := by ring
    · have := Nat.mul_le_mul_right (den * 2 ^ x.scale) hsub'
      calc 4 * (x.significand * (den * 2 ^ x.scale))
          = 4 * x.significand * (den * 2 ^ x.scale) := by ring
        _ ≤ (4 * x.significand - 2 + 2) * (den * 2 ^ x.scale) := this
        _ = _ := by ring
  refine ⟨by omega, by omega, fun htie => ?_⟩
  by_contra hne
  obtain ⟨hne₁, hne₂⟩ := hodd hne
  omega

/-- Below a power of two the interval is half as wide. -/
theorem near_below_power (h : x.holds (4 * num) den = true) (hfraction : x.fraction = 0)
    (hfield : 1 < x.field) :
    4 * (x.significand * (den * 2 ^ x.scale)) ≤ 4 * num + den * 2 ^ x.scale := by
  rw [holds_iff] at h
  obtain ⟨⟨hlow, -⟩, -⟩ := h
  have hsig : 4 * x.significand ≤ 4 * x.significand - 1 + 1 := by omega
  have hmul := Nat.mul_le_mul_right (den * 2 ^ x.scale) hsig
  unfold lowerQuarters at hlow
  rw [if_pos ⟨hfraction, hfield⟩] at hlow
  calc 4 * (x.significand * (den * 2 ^ x.scale))
      = 4 * x.significand * (den * 2 ^ x.scale) := by ring
    _ ≤ (4 * x.significand - 1 + 1) * (den * 2 ^ x.scale) := hmul
    _ = (4 * x.significand - 1) * 2 ^ x.scale * den + den * 2 ^ x.scale := by ring
    _ ≤ 4 * num + den * 2 ^ x.scale := Nat.add_le_add_right hlow _

/-- Rounding gives a number. -/
theorem isNaN_nearestUnits (negative : Bool) (num den : Nat) :
    (nearestUnits negative num den).isNaN = false :=
  isNaN_ofBits (Nat.min_le_right _ _) negative

/-- A fraction rounds to the number whose fields its shift and its rounded
digits spell. -/
theorem nearestUnits_eq (hfinite : x.isFinite = true) (shift : Nat)
    (hshift : (num / den).log2 - 52 = shift)
    (hword : shift * 2 ^ 52 + divideNearest num (den * 2 ^ shift)
      = x.scale * 2 ^ 52 + x.significand) : nearestUnits x.isNegative num den = x := by
  unfold nearestUnits
  dsimp only
  rw [hshift, Nat.pow_eq, Nat.pow_eq, hword, ofBits_eq hfinite]

/-- Below a power of two the digits reach one place further, and what rounds
up to the power fills all of them. -/
theorem nearestUnits_below_power (hfinite : x.isFinite = true) (hden : 0 < den)
    (h : x.holds (4 * num) den = true) (hfraction : x.fraction = 0) (hfield : 1 < x.field)
    (hbelow : num < 2 ^ 52 * (den * 2 ^ x.scale)) : nearestUnits x.isNegative num den = x := by
  have hsig : x.significand = 2 ^ 52 := by
    refine (if_neg (by omega)).trans ?_
    rw [hfraction, Nat.add_zero, Nat.pow_eq]
  -- below a power of two the neighbours are half as far, so one scale less
  obtain ⟨s, hs⟩ : ∃ s, x.scale = s + 1 := by
    refine ⟨x.scale - 1, ?_⟩
    unfold scale
    omega
  have hnear := near_below_power h hfraction hfield
  have hdouble : den * 2 ^ x.scale = 2 * (den * 2 ^ s) := by
    rw [hs]
    ring
  rw [hsig, hdouble] at hnear
  rw [hdouble] at hbelow
  refine nearestUnits_eq hfinite s ?_ ?_
  · rw [log2_div_eq (k := 52 + s) hden]
    · omega
    · calc 2 ^ (52 + s) * den = 2 ^ 52 * (den * 2 ^ s) := by ring
        _ ≤ num := by omega
    · calc num < 2 ^ 52 * (2 * (den * 2 ^ s)) := hbelow
        _ = 2 ^ (52 + s + 1) * den := by ring
  · rw [divideNearest_eq (q := 2 ^ 53) (by omega) (by omega)
      (Nat.mul_pos hden (Nat.two_pow_pos s)) fun _ => by norm_num, hs, hsig]
    ring

/-- A fraction in the rounding interval of a number rounds to it. -/
theorem nearestUnits_of_holds (hfinite : x.isFinite = true) (hden : 0 < den)
    (h : x.holds (4 * num) den = true) : nearestUnits x.isNegative num den = x := by
  obtain ⟨hlow, hhigh, htie⟩ := near_of_holds h
  have hstep : 0 < den * 2 ^ x.scale := Nat.mul_pos hden (Nat.two_pow_pos _)
  have hsame := divideNearest_eq hlow hhigh hstep htie
  have hword : x.scale * 2 ^ 52 + divideNearest num (den * 2 ^ x.scale)
      = x.scale * 2 ^ 52 + x.significand := by rw [hsame]
  have hsig := x.significand_lt
  -- the fraction has at most 53 binary digits before the point of its scale
  have hbelow : num < 2 ^ 53 * (den * 2 ^ x.scale) := by
    have hmul : x.significand * (den * 2 ^ x.scale) ≤ (2 ^ 53 - 1) * (den * 2 ^ x.scale) :=
      Nat.mul_le_mul_right _ (by omega)
    omega
  rcases Nat.eq_zero_or_pos x.scale with hzero | hpos
  · refine nearestUnits_eq hfinite _ ?_ hword
    have hlt : num / den < 2 ^ 53 := by
      rw [hzero, Nat.pow_zero, Nat.mul_one] at hbelow
      exact (Nat.div_lt_iff_lt_mul hden).2 hbelow
    rw [hzero]
    by_cases hdiv : num / den = 0
    · rw [hdiv]
      rfl
    · have := (Nat.log2_lt hdiv).2 hlt
      omega
  have hfield : 1 < x.field := by
    unfold scale at hpos
    omega
  by_cases hreach : 2 ^ 52 * (den * 2 ^ x.scale) ≤ num
  · refine nearestUnits_eq hfinite _ ?_ hword
    rw [log2_div_eq (k := 52 + x.scale) hden]
    · omega
    · calc 2 ^ (52 + x.scale) * den = 2 ^ 52 * (den * 2 ^ x.scale) := by ring
        _ ≤ num := hreach
    · calc num < 2 ^ 53 * (den * 2 ^ x.scale) := hbelow
        _ = 2 ^ (52 + x.scale + 1) * den := by ring
  · -- only a power of two rounds up from below, and it has one digit less there
    have hfraction : x.fraction = 0 := by
      have hsigeq : x.significand = 2 ^ 52 + x.fraction := if_neg (by omega)
      by_contra hne
      have hmul : (2 ^ 52 + 1) * (den * 2 ^ x.scale) ≤ x.significand * (den * 2 ^ x.scale) :=
        Nat.mul_le_mul_right _ (by omega)
      omega
    exact nearestUnits_below_power hfinite hden h hfraction hfield (Nat.lt_of_not_le hreach)

end Collation.Binary64
