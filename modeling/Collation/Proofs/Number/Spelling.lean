/-
The text of a float is a decimal in one of two forms, with a fraction or
with an exponent, and stands for the shortest decimal of the float
(`Decimal.spell_form`). Final zeros that are dropped, zeros that are put
in to reach the point, and the place of the point are all accounted for by
the power of ten.
-/
import Collation.Proofs.Number.Digits
import Collation.Proofs.Number.Shortest

namespace Collation

open Binary64 (quarters)

variable {digits cs ds : List Char} {c : Char} {n : Nat} {e : Int}

private theorem quarters_mul_pow (n k : Nat) (e : Int) :
    quarters (n * 10 ^ k) e = quarters n (e + k) := by
  rw [quarters, quarters, zpow_add₀ (by norm_num), zpow_natCast]
  push_cast
  ring

namespace Decimal

/-- A text in decimal, and the digits and the exponent of what it is
worth. -/
inductive Form : List Char → Nat → Int → Prop where
  | fraction {whole part : List Char} : WholePart whole → AllDigits part → part ≠ [] →
      Form (whole ++ '.' :: part) (natOfDigits (whole ++ part)) (-part.length)
  | exponent {whole part ds : List Char} (negative : Bool) : WholePart whole → AllDigits part →
      AllDigits ds → ds ≠ [] →
      Form (whole ++ (if part = [] then [] else '.' :: part)
          ++ 'e' :: (if negative then '-' else '+') :: ds)
        (natOfDigits (whole ++ part))
        ((if negative then -(natOfDigits ds : Int) else natOfDigits ds) - part.length)

/-- The digits that are written, without the zeros that end them. -/
theorem dropFinalZeros_eq (hn : 0 < n) :
    ∃ k, Nat.toDigits 10 n = dropFinalZeros (Nat.toDigits 10 n) ++ List.replicate k '0'
      ∧ AllDigits (dropFinalZeros (Nat.toDigits 10 n))
      ∧ ∃ c, (dropFinalZeros (Nat.toDigits 10 n)).head? = some c ∧ c ≠ '0' := by
  have hall := allDigits_toDigits n
  obtain ⟨c, hc, hne⟩ := head_toDigits hn
  generalize Nat.toDigits 10 n = ds at hall hc ⊢
  have hparts : ds = dropFinalZeros ds ++ (ds.reverse.takeWhile (· == '0')).reverse := by
    unfold dropFinalZeros
    rw [← List.reverse_append, List.takeWhile_append_dropWhile, List.reverse_reverse]
  have hzeros : (ds.reverse.takeWhile (· == '0')).reverse
      = List.replicate (ds.reverse.takeWhile (· == '0')).length '0' := by
    rw [List.reverse_eq_iff, List.reverse_replicate, List.eq_replicate_iff]
    exact ⟨rfl, fun d hd => beq_iff_eq.1 (List.all_eq_true.1 List.all_takeWhile d hd)⟩
  rw [hzeros] at hparts
  refine ⟨_, hparts, fun d hd => hall d ?_, c, ?_, hne⟩
  · rw [hparts]
    exact List.mem_append_left _ hd
  · rw [hparts] at hc
    cases hdrop : dropFinalZeros ds with
    | nil =>
      rw [hdrop, List.nil_append] at hc
      exact absurd (List.eq_of_mem_replicate (List.mem_of_head? hc)) hne
    | cons d ds' =>
      rw [hdrop] at hc
      exact hc

private theorem paddedNat_allDigits (width n : Nat) : AllDigits (paddedNat width n) :=
  (allDigits_zeros _).append (allDigits_toDigits n)

private theorem natOfDigits_paddedNat (width n : Nat) : natOfDigits (paddedNat width n) = n :=
  (natOfDigits_zeros_append _ _).trans (natOfDigits_toDigits n)

private theorem paddedNat_ne_nil (width n : Nat) : paddedNat width n ≠ [] :=
  List.append_ne_nil_of_right_ne_nil _ Nat.toDigits_ne_nil

/-- A zero, a point, more zeros and the digits. -/
theorem small_form (hall : AllDigits digits) (hhead : ∃ c, digits.head? = some c ∧ c ≠ '0')
    (zeros : Nat) :
    ∃ m e, Form (['0'] ++ '.' :: (List.replicate zeros '0' ++ digits)) m e
      ∧ quarters m e = quarters (natOfDigits digits) (-(zeros + digits.length : Nat)) := by
  have hne : digits ≠ [] := by
    obtain ⟨c, hc, -⟩ := hhead
    exact List.ne_nil_of_mem (List.mem_of_head? hc)
  refine ⟨_, _, .fraction (.inl rfl) ((allDigits_zeros zeros).append hall)
    (List.append_ne_nil_of_right_ne_nil _ hne), ?_⟩
  rw [← List.replicate_one, natOfDigits_zeros_append, natOfDigits_zeros_append,
    List.length_append, List.length_replicate]

/-- Digits with the point among or around them. -/
theorem positional_form (hall : AllDigits digits) (hhead : ∃ c, digits.head? = some c ∧ c ≠ '0')
    (point : Nat) (hpoint : 0 < point) :
    ∃ m e, Form ((digits.take point ++ List.replicate (point - (digits.take point).length) '0')
        ++ '.' :: (if (digits.drop point).isEmpty then ['0'] else digits.drop point)) m e
      ∧ quarters m e = quarters (natOfDigits digits) (point - digits.length) := by
  obtain ⟨c, hc, hne⟩ := hhead
  have htake : AllDigits (digits.take point) := fun d hd => hall d (List.mem_of_mem_take hd)
  have hdrop : AllDigits (digits.drop point) := fun d hd => hall d (List.mem_of_mem_drop hd)
  have hwhole : WholePart (digits.take point
      ++ List.replicate (point - (digits.take point).length) '0') := by
    refine .inr ⟨htake.append (allDigits_zeros _), c, ?_, hne⟩
    rw [List.head?_append, List.head?_take, if_neg hpoint.ne', hc]
    rfl
  -- the digits end before the point, or go on behind it
  by_cases hshort : digits.length ≤ point
  · rw [List.drop_eq_nil_of_le hshort, if_pos List.isEmpty_nil, ← List.replicate_one]
    refine ⟨_, _, .fraction hwhole (allDigits_zeros 1) (List.cons_ne_nil _ _), ?_⟩
    rw [List.take_of_length_le hshort, List.append_assoc, List.replicate_append_replicate,
      natOfDigits_append_zeros, quarters_mul_pow]
    congr 1
    simp only [List.length_replicate]
    omega
  · have hrest : digits.drop point ≠ [] := by
      rw [ne_eq, List.drop_eq_nil_iff]
      exact hshort
    rw [if_neg (mt List.isEmpty_iff.1 hrest)]
    refine ⟨_, _, .fraction hwhole hdrop hrest, ?_⟩
    rw [List.length_take_of_le (by omega), Nat.sub_self, List.replicate_zero, List.append_nil,
      List.take_append_drop, List.length_drop]
    congr 1
    omega

/-- One digit, a point and the others, and an exponent. -/
theorem scientific_form {c : Char} {ds : List Char} (hall : AllDigits (c :: ds)) (hne : c ≠ '0')
    (width : Nat) (e : Int) :
    ∃ m e', Form (c :: (if ds = [] then [] else '.' :: ds)
        ++ 'e' :: (if e < 0 then '-' else '+') :: paddedNat width e.natAbs) m e'
      ∧ quarters m e' = quarters (natOfDigits (c :: ds)) (e - ds.length) := by
  have hall' := List.forall_mem_cons.1 hall
  have hwhole : WholePart [c] :=
    .inr ⟨List.forall_mem_singleton.2 hall'.1, c, rfl, hne⟩
  have hform := @Form.exponent [c] ds _ (decide (e < 0)) hwhole hall'.2
    (paddedNat_allDigits width e.natAbs) (paddedNat_ne_nil width e.natAbs)
  rw [natOfDigits_paddedNat] at hform
  simp only [decide_eq_true_eq] at hform
  refine ⟨_, _, hform, ?_⟩
  congr 2
  split
  · omega
  · omega

/-- The text of a positive decimal is a form of what it is worth. -/
theorem spell_form (d : Decimal) (hd : 0 < d.digits) (layout : DecimalLayout) :
    ∃ m e, Form (d.spell layout) m e ∧ quarters m e = quarters d.digits d.exponent := by
  obtain ⟨k, hparts, hall, hhead⟩ := dropFinalZeros_eq hd
  have hlength := congrArg List.length hparts
  -- noughts at the end of the digits are worth their places
  have hworth : quarters d.digits d.exponent
      = quarters (natOfDigits (dropFinalZeros (Nat.toDigits 10 d.digits))) (d.exponent + k) := by
    have hvalue := congrArg natOfDigits hparts
    rw [natOfDigits_toDigits, natOfDigits_append_zeros] at hvalue
    rw [← quarters_mul_pow, ← hvalue]
  rw [List.length_append, List.length_replicate] at hlength
  unfold spell
  dsimp only
  rw [hworth, hlength]
  generalize dropFinalZeros (Nat.toDigits 10 d.digits) = digits at hall hhead ⊢
  split
  · split
    · next hpoint =>
      obtain ⟨m, e, hform, heq⟩ := small_form hall hhead
        (-(((digits.length + k : Nat) : Int) + d.exponent)).toNat
      refine ⟨m, e, hform, heq.trans ?_⟩
      congr 1
      omega
    · next hpoint =>
      obtain ⟨m, e, hform, heq⟩ := positional_form hall hhead
        (((digits.length + k : Nat) : Int) + d.exponent).toNat (by omega)
      refine ⟨m, e, hform, heq.trans ?_⟩
      congr 1
      omega
  · obtain ⟨c, hc, hne⟩ := hhead
    obtain ⟨ds, rfl⟩ := List.head?_eq_some_iff.1 hc
    obtain ⟨m, e, hform, heq⟩ := scientific_form hall hne layout.exponentDigits
      ((((c :: ds).length + k : Nat) : Int) + d.exponent - 1)
    refine ⟨m, e, ?_, heq.trans ?_⟩
    · cases ds with
      | nil => exact hform
      | cons d ds => exact hform
    · congr 1
      simp only [List.length_cons]
      omega

/-- What is no digit ends the digits that a text starts with. -/
theorem length_leading_le (h : c.isDigit = false) :
    ((cs ++ c :: ds).takeWhile Char.isDigit).length ≤ cs.length := by
  induction cs with
  | nil =>
    rw [List.nil_append, List.takeWhile_cons_of_neg (by rw [h]; exact Bool.false_ne_true)]
  | cons d cs ih =>
    rw [List.cons_append, List.takeWhile_cons]
    split
    · exact Nat.succ_le_succ ih
    · exact Nat.zero_le _

/-- Before its point or its exponent a decimal has no more digits than fit
before the point. -/
theorem length_leading_spell (d : Decimal) (layout : DecimalLayout) :
    ((d.spell layout).takeWhile Char.isDigit).length ≤ max 1 layout.greatestPoint.toNat := by
  unfold spell
  dsimp only
  generalize dropFinalZeros (Nat.toDigits 10 d.digits) = digits
  generalize ((Nat.toDigits 10 d.digits).length : Int) + d.exponent = point
  split
  · next hpoint =>
    split
    · exact (@length_leading_le ['0'] _ _ rfl).trans (Nat.le_max_left _ _)
    · refine (length_leading_le rfl).trans ?_
      rw [List.length_append, List.length_replicate, List.length_take]
      omega
  · split
    · exact (@length_leading_le [] _ _ rfl).trans (Nat.zero_le _)
    · next c => exact (@length_leading_le [c] _ _ rfl).trans (Nat.le_max_left _ _)
    · next c rest _ => exact (@length_leading_le [c] _ _ rfl).trans (Nat.le_max_left _ _)

end Decimal

end Collation
