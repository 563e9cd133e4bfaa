/-
The shortest decimal of a binary64 number reads back as that number: it
lies in the number's interval (`shortest_around`), and whatever lies there
is read as the number (`ofDecimal_of_around`).

What is said of decimals is said of rationals, since one decimal has many
spellings: a number lies in the rounding interval (`Around`) or does not,
whatever its digits. The search finds a decimal there, for a grid whose
step is less than the width of the interval cannot miss it, and the step
is at the latest with 17 digits, 2^53 being less than 10^16. That the
reader cuts exponents off beyond its range does no harm, since nothing in
the interval of a finite number is so large or so small.
-/
import Collation.Number.Reading
import Collation.Proofs.Number.Rounding
import Mathlib.Algebra.Order.Field.Power
import Mathlib.Tactic.FieldSimp

namespace Collation.Binary64

variable {x : Binary64} {num den : Nat} {e : Int} {q : ℚ}

-- ======================================================= the interval

/-- A number of quarter units that rounds to `x`. -/
def Around (x : Binary64) (q : ℚ) : Prop :=
  (x.lowerQuarters ≤ q ∧ q ≤ x.upperQuarters)
    ∧ (x.significand % 2 ≠ 0 → x.lowerQuarters ≠ q ∧ q ≠ x.upperQuarters)

private theorem holds_iff_around (hden : 0 < den) :
    x.holds num den = true ↔ x.Around ((num : ℚ) / den) := by
  have hpos : (0 : ℚ) < den := by exact_mod_cast hden
  simp only [holds_iff, Around, le_div_iff₀ hpos, div_le_iff₀ hpos, ne_eq, eq_div_iff hpos.ne',
    div_eq_iff hpos.ne']
  norm_cast

private theorem around_of_lt (hlow : x.lowerQuarters < q) (hhigh : q < x.upperQuarters) :
    x.Around q :=
  ⟨⟨hlow.le, hhigh.le⟩, fun _ => ⟨hlow.ne, hhigh.ne⟩⟩

private theorem significand_pos (h : 0 < x.absUnits) : 0 < x.significand :=
  Nat.pos_of_mul_pos_right h

/-- The interval of a positive number starts above zero and is narrower
than the number itself. -/
theorem lowerQuarters_pos (h : 0 < x.absUnits) : 0 < x.lowerQuarters := by
  have hsig := significand_pos h
  unfold lowerQuarters
  split
  · exact Nat.mul_pos (by omega) (Nat.two_pow_pos _)
  · exact Nat.mul_pos (by omega) (Nat.two_pow_pos _)

private theorem lowerQuarters_lt (h : 0 < x.absUnits) : x.lowerQuarters < 4 * x.absUnits := by
  have hsig := significand_pos h
  have hpow := Nat.two_pow_pos x.scale
  unfold lowerQuarters absUnits
  rw [← Nat.mul_assoc]
  split
  · exact Nat.mul_lt_mul_of_pos_right (by omega) hpow
  · exact Nat.mul_lt_mul_of_pos_right (by omega) hpow

private theorem lt_upperQuarters (x : Binary64) : 4 * x.absUnits < x.upperQuarters := by
  unfold upperQuarters absUnits
  rw [← Nat.mul_assoc]
  exact Nat.mul_lt_mul_of_pos_right (by omega) (Nat.two_pow_pos x.scale)

/-- The interval is wider than a part in 10^16 of the number. -/
theorem width (x : Binary64) :
    4 * x.absUnits < 10 ^ 16 * (x.upperQuarters - x.lowerQuarters) := by
  have hpow := Nat.two_pow_pos x.scale
  have hsig := x.significand_lt
  unfold upperQuarters lowerQuarters absUnits
  split
  · next h =>
    have hsigeq : x.significand = 2 ^ 52 := by
      have hfield := h.2
      rw [significand, if_neg (by omega), h.1, Nat.add_zero, Nat.pow_eq]
    rw [← Nat.sub_mul, ← Nat.mul_assoc, ← Nat.mul_assoc]
    refine Nat.mul_lt_mul_of_pos_right ?_ hpow
    omega
  · rw [← Nat.sub_mul, ← Nat.mul_assoc, ← Nat.mul_assoc]
    refine Nat.mul_lt_mul_of_pos_right ?_ hpow
    omega

-- ======================================================= powers of ten

private theorem powerOfTen_pos (e : Int) : 0 < (powerOfTen e).2 := by
  unfold powerOfTen
  split
  · exact Nat.one_pos
  · exact Nat.pow_pos (by norm_num)

private theorem powerOfTen_eq (e : Int) : ((powerOfTen e).1 : ℚ) / (powerOfTen e).2 = 10 ^ e := by
  unfold powerOfTen
  split
  · next h =>
    obtain ⟨n, rfl⟩ := Int.eq_ofNat_of_zero_le h
    simp
  · next h =>
    obtain ⟨n, rfl⟩ : ∃ n : Nat, e = -n := ⟨(-e).toNat, by omega⟩
    simp

/-- The value of a decimal, in quarter units. -/
def quarters (digits : Nat) (e : Int) : ℚ := digits * 10 ^ e * quartersPerOne

private theorem holds_iff_quarters (x : Binary64) (digits : Nat) (e : Int) :
    x.holds (digits * (powerOfTen e).1 * quartersPerOne) (powerOfTen e).2 = true
      ↔ x.Around (quarters digits e) := by
  rw [holds_iff_around (powerOfTen_pos e), quarters, ← powerOfTen_eq]
  push_cast
  rw [mul_right_comm, mul_div_assoc, mul_right_comm]

private theorem quartersPerOne_pos : (0 : ℚ) < quartersPerOne := by
  have h : 0 < quartersPerOne := Nat.mul_pos (by norm_num) unitsPerOne_pos
  exact_mod_cast h

-- Large powers are taken apart by these two, so that nothing computes them.

private theorem two_pow_le (n : Nat) : 2 ^ (93 * n) ≤ 10 ^ (28 * n) := by
  rw [pow_mul, pow_mul]
  exact Nat.pow_le_pow_left (by norm_num) n

private theorem unitsPerOne_eq : ∃ n, n = 93 * 11 + 51 ∧ unitsPerOne = 2 ^ n := by
  refine ⟨1074, rfl, ?_⟩
  unfold unitsPerOne
  generalize 1074 = n
  exact Nat.pow_eq

private theorem unitsPerOne_le {n : Nat} (hn : n = 28 * 11 + 16) : unitsPerOne ≤ 10 ^ n := by
  subst hn
  obtain ⟨n, rfl, hunits⟩ := unitsPerOne_eq
  rw [hunits, pow_add, pow_add]
  exact Nat.mul_le_mul (two_pow_le 11) (by norm_num)

/-- No finite number reaches the 310th power of ten. -/
theorem upperQuarters_lt {m : Nat} (hm : m = 28 * 10 + 30) (h : x.isFinite = true) :
    x.upperQuarters < 10 ^ m * quartersPerOne := by
  subst hm
  obtain ⟨n, hn, hunits⟩ := unitsPerOne_eq
  have hfield := field_lt h
  have hsig := x.significand_lt
  have hscale : x.scale ≤ n + (93 * 10 + 41) := by
    unfold scale
    omega
  have htwo : 2 ^ 55 * 2 ^ (93 * 10 + 41) < 10 ^ (28 * 10 + 30) * 4 := by
    have hle := two_pow_le 10
    have hpos := (Nat.two_pow_pos (93 * 10)).trans_le hle
    rw [pow_add, pow_add]
    generalize 2 ^ (93 * 10) = a at hle ⊢
    generalize 10 ^ (28 * 10) = b at hle hpos ⊢
    omega
  calc x.upperQuarters ≤ 2 ^ 55 * 2 ^ x.scale := Nat.mul_le_mul_right _ (by omega)
    _ ≤ 2 ^ 55 * 2 ^ (n + (93 * 10 + 41)) :=
      Nat.mul_le_mul_left _ (Nat.pow_le_pow_right (by norm_num) hscale)
    _ = 2 ^ 55 * 2 ^ (93 * 10 + 41) * 2 ^ n := by
      rw [pow_add 2 n, Nat.mul_comm (2 ^ n), Nat.mul_assoc]
    _ < 10 ^ (28 * 10 + 30) * 4 * 2 ^ n := Nat.mul_lt_mul_of_pos_right htwo (Nat.two_pow_pos n)
    _ = 10 ^ (28 * 10 + 30) * quartersPerOne := by rw [quartersPerOne, hunits, Nat.mul_assoc]

private theorem pow_length_le {n : Nat} (h : 0 < n) :
    10 ^ ((Nat.toDigits 10 n).length - 1) ≤ n := by
  rcases Nat.eq_zero_or_pos ((Nat.toDigits 10 n).length - 1) with hzero | hpos
  · rw [hzero]
    exact h
  · refine Nat.le_of_not_lt fun hlt => ?_
    have := (Nat.length_toDigits_le_iff (by norm_num) hpos).2 hlt
    omega

private theorem lt_pow_length (n : Nat) : n < 10 ^ (Nat.toDigits 10 n).length :=
  (Nat.length_toDigits_le_iff (by norm_num) Nat.length_toDigits_pos).1 (Nat.le_refl _)

-- ========================================================== the search

/-- A decimal of the grid that is taken lies around the float. -/
private theorem gridPoint_around {d : Decimal} (h : x.gridPoint e = some d) :
    x.Around (quarters d.digits d.exponent) := by
  have hhit := holds_iff_quarters x
  unfold gridPoint at h
  simp only at h
  specialize hhit
  split at h
  · next hboth =>
    rw [Bool.and_eq_true] at hboth
    split at h
    · obtain rfl := Option.some.inj h
      exact (hhit _ _).1 hboth.1
    · obtain rfl := Option.some.inj h
      exact (hhit _ _).1 hboth.2
  · split at h
    · next hlow =>
      obtain rfl := Option.some.inj h
      exact (hhit _ _).1 hlow
    · split at h
      · next hhigh =>
        obtain rfl := Option.some.inj h
        exact (hhit _ _).1 hhigh
      · cases h

/-- The two neighbours on a grid, of which the lower one has `below` steps. -/
theorem neighbours (hbelow : 4 * x.absUnits * (powerOfTen e).2
      / (quartersPerOne * (powerOfTen e).1) = num) :
    quarters num e ≤ 4 * x.absUnits ∧ (4 * x.absUnits : ℚ) < quarters (num + 1) e := by
  have hden : (0 : ℚ) < (powerOfTen e).2 := by exact_mod_cast powerOfTen_pos e
  have hstep : 0 < quartersPerOne * (powerOfTen e).1 := by
    have hten : 0 < (powerOfTen e).1 := by
      unfold powerOfTen
      split
      · exact Nat.pow_pos (by norm_num)
      · exact Nat.one_pos
    exact Nat.mul_pos (by exact_mod_cast quartersPerOne_pos) hten
  have hle := Nat.div_mul_le_self (4 * x.absUnits * (powerOfTen e).2)
    (quartersPerOne * (powerOfTen e).1)
  have hlt := Nat.lt_div_mul_add (a := 4 * x.absUnits * (powerOfTen e).2) hstep
  rw [hbelow] at hle hlt
  have hvalue : ∀ n : Nat, quarters n e
      = (n * (quartersPerOne * (powerOfTen e).1) : Nat) / ((powerOfTen e).2 : ℚ) := by
    intro n
    rw [quarters, ← powerOfTen_eq]
    push_cast
    ring
  rw [hvalue, hvalue, div_le_iff₀ hden, lt_div_iff₀ hden]
  rw [Nat.succ_mul]
  exact ⟨by exact_mod_cast hle, by exact_mod_cast hlt⟩

/-- A grid that is finer than the interval is wide has a point in it. -/
theorem gridPoint_isSome (hpos : 0 < x.absUnits)
    (hfine : 10 ^ e * (quartersPerOne : ℚ) < x.upperQuarters - x.lowerQuarters) :
    ∃ d, x.gridPoint e = some d := by
  unfold gridPoint
  simp only
  generalize hbelow : 4 * x.absUnits * (powerOfTen e).2
    / (quartersPerOne * (powerOfTen e).1) = below
  by_cases hlow : x.holds (below * (powerOfTen e).1 * quartersPerOne) (powerOfTen e).2 = true
  · rw [hlow]
    split
    · split
      · exact ⟨_, rfl⟩
      · exact ⟨_, rfl⟩
    · exact ⟨_, if_pos rfl⟩
  by_cases hhigh : x.holds ((below + 1) * (powerOfTen e).1 * quartersPerOne) (powerOfTen e).2 = true
  · rw [hhigh, eq_false_of_ne_true hlow]
    exact ⟨_, rfl⟩
  -- both neighbours on the grid would lie outside the interval
  exfalso
  rw [holds_iff_quarters] at hlow hhigh
  obtain ⟨hle, hlt⟩ := neighbours hbelow
  have hlower : (x.lowerQuarters : ℚ) < 4 * x.absUnits := by exact_mod_cast lowerQuarters_lt hpos
  have hupper : (4 * x.absUnits : ℚ) < x.upperQuarters := by exact_mod_cast lt_upperQuarters x
  have hbelow' : quarters below e ≤ x.lowerQuarters :=
    le_of_not_gt fun h => hlow (around_of_lt h (hle.trans_lt hupper))
  have habove : (x.upperQuarters : ℚ) ≤ quarters (below + 1) e :=
    le_of_not_gt fun h => hhigh (around_of_lt (hlower.trans hlt) h)
  have hstep : quarters (below + 1) e = quarters below e + 10 ^ e * quartersPerOne := by
    rw [quarters, quarters]
    push_cast
    ring
  linarith

/-- The point stands behind the first digit of a number at the latest. -/
theorem pointPosition_le (hpos : 0 < x.absUnits) :
    10 ^ (x.pointPosition - 1) * (unitsPerOne : ℚ) ≤ x.absUnits := by
  unfold pointPosition integerDigits
  rw [show (324 : Int) = (324 : Nat) from rfl]
  generalize hn : 324 = n
  rw [Nat.pow_eq]
  have hten := unitsPerOne_le hn.symm
  have hwhole : 0 < x.absUnits * 10 ^ n / unitsPerOne := by
    refine Nat.div_pos ?_ unitsPerOne_pos
    exact hten.trans (Nat.le_mul_of_pos_left _ hpos)
  have hlength := Nat.length_toDigits_pos (b := 10) (n := x.absUnits * 10 ^ n / unitsPerOne)
  have hle := (Nat.le_div_iff_mul_le unitsPerOne_pos).1 (pow_length_le hwhole)
  have hcast : (10 : ℚ) ^ ((Nat.toDigits 10 (x.absUnits * 10 ^ n / unitsPerOne)).length - 1)
      * unitsPerOne ≤ x.absUnits * 10 ^ n := by exact_mod_cast hle
  rw [if_neg hwhole.ne', sub_right_comm, ← Nat.cast_one, ← Nat.cast_sub hlength,
    zpow_sub₀ (by norm_num), zpow_natCast, zpow_natCast, div_mul_eq_mul_div,
    div_le_iff₀ (pow_pos (by norm_num) n)]
  exact hcast

/-- The search finds a decimal, with 17 digits at the latest. -/
theorem shortest_around (hpos : 0 < x.absUnits) :
    x.Around (quarters x.shortest.digits x.shortest.exponent) := by
  have hpoint := pointPosition_le hpos
  -- on the finest grid the steps are smaller than the interval
  have hfine : 10 ^ (x.pointPosition - ((16 : Nat) + 1)) * (quartersPerOne : ℚ)
      < x.upperQuarters - x.lowerQuarters := by
    have hwidth : (4 * x.absUnits : ℚ) < 10 ^ 16 * (x.upperQuarters - x.lowerQuarters) := by
      have hle : x.lowerQuarters ≤ x.upperQuarters :=
        (lowerQuarters_lt hpos).le.trans (lt_upperQuarters x).le
      have h := x.width
      rw [← Nat.cast_sub hle]
      exact_mod_cast h
    have hsplit : (10 : ℚ) ^ (x.pointPosition - 1)
        = 10 ^ (x.pointPosition - ((16 : Nat) + 1)) * 10 ^ 16 := by
      rw [← zpow_natCast, ← zpow_add₀ (by norm_num)]
      congr 1
      push_cast
      ring
    have hquarters : (quartersPerOne : ℚ) = 4 * unitsPerOne := by
      rw [quartersPerOne]
      push_cast
      ring
    rw [hsplit] at hpoint
    rw [hquarters]
    linarith
  obtain ⟨d, hd⟩ := gridPoint_isSome hpos hfine
  have hshortest : x.shortest = ((List.range 17).findSome? fun (k : Nat) =>
      x.gridPoint (x.pointPosition - (k + 1))).getD ⟨0, 0⟩ := rfl
  rw [hshortest]
  cases htried : (List.range 17).findSome? fun (k : Nat) =>
      x.gridPoint (x.pointPosition - (k + 1)) with
  | none =>
    rw [List.findSome?_eq_none_iff] at htried
    have hnone := htried 16 (List.mem_range.2 (by norm_num))
    rw [hd] at hnone
    cases hnone
  | some d' =>
    obtain ⟨k, -, hk⟩ := List.exists_of_findSome?_eq_some htried
    rw [Option.getD_some]
    exact gridPoint_around hk

-- ========================================================= reading back

/-- Nothing in the interval of a positive number is zero. -/
theorem digits_pos (hpos : 0 < x.absUnits) {digits : Nat} (h : x.Around (quarters digits e)) :
    0 < digits := by
  refine Nat.pos_of_ne_zero fun hzero => ?_
  have hlower : (1 : ℚ) ≤ x.lowerQuarters := by exact_mod_cast lowerQuarters_pos hpos
  have hle := hlower.trans h.1.1
  rw [quarters, hzero, Nat.cast_zero, zero_mul, zero_mul] at hle
  linarith

/-- The first digit of a decimal says its size within a factor of ten. -/
theorem digits_around {digits : Nat} (hdigits : 0 < digits) (e : Int) :
    (10 : ℚ) ^ (((Nat.toDigits 10 digits).length + e : Int) - 1) ≤ digits * 10 ^ e
      ∧ digits * (10 : ℚ) ^ e < 10 ^ ((Nat.toDigits 10 digits).length + e : Int) := by
  have hten : (0 : ℚ) < 10 ^ e := zpow_pos (by norm_num) e
  have hlength := Nat.length_toDigits_pos (b := 10) (n := digits)
  have hleast : (10 : ℚ) ^ ((Nat.toDigits 10 digits).length - 1 : Int) ≤ digits := by
    have hle := pow_length_le hdigits
    rw [← Nat.cast_one, ← Nat.cast_sub hlength, zpow_natCast]
    exact_mod_cast hle
  have hmost : (digits : ℚ) < 10 ^ ((Nat.toDigits 10 digits).length : Int) := by
    rw [zpow_natCast]
    exact_mod_cast lt_pow_length digits
  constructor
  · rw [add_sub_right_comm, zpow_add₀ (by norm_num)]
    exact mul_le_mul_of_nonneg_right hleast hten.le
  · rw [zpow_add₀ (by norm_num)]
    exact mul_lt_mul_of_pos_right hmost hten

/-- So small a decimal lies below the interval of any positive number. -/
theorem point_ge (hpos : 0 < x.absUnits) {digits : Nat} (h : x.Around (quarters digits e)) :
    -330 ≤ ((Nat.toDigits 10 digits).length + e : Int) := by
  by_contra hpoint
  have hQ := quartersPerOne_pos
  have hlower : (1 : ℚ) ≤ x.lowerQuarters := by exact_mod_cast lowerQuarters_pos hpos
  obtain ⟨n, hn⟩ : ∃ n, n = 28 * 11 + 16 := ⟨_, rfl⟩
  have hquarters : (quartersPerOne : ℚ) ≤ 4 * 10 ^ n := by
    exact_mod_cast Nat.mul_le_mul_left 4 (unitsPerOne_le hn)
  have hpow : digits * (10 : ℚ) ^ e ≤ 10 ^ (-1 - n : Int) :=
    (digits_around (digits_pos hpos h) e).2.le.trans
      (zpow_le_zpow_right₀ (by norm_num) (by omega))
  have hsmall : quarters digits e ≤ 10 ^ (-1 - n : Int) * (4 * 10 ^ n) :=
    mul_le_mul hpow hquarters hQ.le (zpow_pos (by norm_num) _).le
  rw [zpow_sub₀ (by norm_num), zpow_natCast, div_mul_eq_mul_div, mul_left_comm,
    ← mul_assoc, mul_div_assoc, div_self (pow_pos (by norm_num) n).ne'] at hsmall
  have hone := hlower.trans (h.1.1.trans hsmall)
  norm_num at hone

/-- So large a decimal lies above the interval of any finite number. -/
theorem point_le (hfinite : x.isFinite = true) (hpos : 0 < x.absUnits) {digits : Nat}
    (h : x.Around (quarters digits e)) : ((Nat.toDigits 10 digits).length + e : Int) ≤ 310 := by
  by_contra hpoint
  have hQ := quartersPerOne_pos
  obtain ⟨n, hn⟩ : ∃ n, n = 28 * 10 + 30 := ⟨_, rfl⟩
  have hupper : (x.upperQuarters : ℚ) < 10 ^ n * quartersPerOne := by
    exact_mod_cast upperQuarters_lt hn hfinite
  have hpow : (10 : ℚ) ^ n ≤ digits * 10 ^ e :=
    calc (10 : ℚ) ^ n = 10 ^ (n : Int) := (zpow_natCast _ _).symm
      _ ≤ 10 ^ (((Nat.toDigits 10 digits).length + e : Int) - 1) :=
          zpow_le_zpow_right₀ (by norm_num) (by omega)
      _ ≤ digits * 10 ^ e := (digits_around (digits_pos hpos h) e).1
  have hmul := mul_le_mul_of_nonneg_right hpow hQ.le
  exact absurd (h.1.2.trans_lt (hupper.trans_le hmul)) (lt_irrefl _)

/-- Whatever lies in the interval of a number is read as that number. -/
theorem ofDecimal_of_around (hfinite : x.isFinite = true) (hpos : 0 < x.absUnits) {digits : Nat}
    (h : x.Around (quarters digits e)) : ofDecimal x.isNegative digits e = x := by
  have hsmall := point_ge hpos h
  have hlarge := point_le hfinite hpos h
  have heq : 4 * (digits * (powerOfTen e).1 * unitsPerOne)
      = digits * (powerOfTen e).1 * quartersPerOne := by
    rw [quartersPerOne, Nat.mul_left_comm]
  unfold ofDecimal
  rw [if_neg (digits_pos hpos h).ne']
  dsimp only
  rw [if_neg (by omega), if_neg (by omega)]
  refine nearestUnits_of_holds hfinite (powerOfTen_pos e) ?_
  rw [heq]
  exact (holds_iff_quarters x digits e).2 h

/-- A decimal is read as a number. -/
theorem isNaN_ofDecimal (negative : Bool) (digits : Nat) (e : Int) :
    (ofDecimal negative digits e).isNaN = false := by
  have hzero : (zero negative).isNaN = false := by
    have h := isNaN_ofBits (Nat.zero_le infinityBits) negative
    rwa [Nat.zero_add] at h
  unfold ofDecimal
  split
  · exact hzero
  · dsimp only
    split
    · exact isNaN_ofBits (Nat.le_refl _) negative
    · split
      · exact hzero
      · exact isNaN_nearestUnits negative _ _

end Collation.Binary64
