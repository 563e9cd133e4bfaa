/-
Decimal digits: what a run of them is worth, joined to others, and where
it ends in a text.
-/
import Collation.Number.Reading
import Mathlib.Tactic.Ring

namespace Collation

variable {cs ds : List Char} {ps rest : List CodePoint} {n : Nat} {c : Char}

/-- The library reads digits alike. -/
theorem natOfDigits_eq (cs : List Char) : natOfDigits cs = Nat.ofDigitChars 10 cs 0 := rfl

/-- Digits behind others count as often as their places say. -/
theorem natOfDigits_append (cs ds : List Char) :
    natOfDigits (cs ++ ds) = natOfDigits cs * 10 ^ ds.length + natOfDigits ds := by
  rw [natOfDigits_eq, Nat.ofDigitChars_append, Nat.ofDigitChars_eq_ofDigitChars_zero,
    Nat.mul_comm]
  rfl

/-- A number is the one of its digits. -/
theorem natOfDigits_toDigits (n : Nat) : natOfDigits (Nat.toDigits 10 n) = n :=
  Nat.ofDigitChars_ten_toDigits

private theorem natOfDigits_zeros (n : Nat) : natOfDigits (List.replicate n '0') = 0 := by
  rw [natOfDigits_eq, Nat.ofDigitChars_replicate_zero, Nat.mul_zero]

/-- Zeros in front are worth nothing, zeros at the end a power of ten. -/
theorem natOfDigits_zeros_append (n : Nat) (ds : List Char) :
    natOfDigits (List.replicate n '0' ++ ds) = natOfDigits ds := by
  rw [natOfDigits_append, natOfDigits_zeros, Nat.zero_mul, Nat.zero_add]

/-- Each nought behind a number makes it ten times as large. -/
theorem natOfDigits_append_zeros (ds : List Char) (n : Nat) :
    natOfDigits (ds ++ List.replicate n '0') = natOfDigits ds * 10 ^ n := by
  rw [natOfDigits_append, natOfDigits_zeros, List.length_replicate, Nat.add_zero]

-- ============================================================ in a text

def AllDigits (ds : List Char) : Prop := ∀ c ∈ ds, c.isDigit = true

/-- Digits behind digits. -/
theorem AllDigits.append (h : AllDigits ds) (h' : AllDigits cs) : AllDigits (ds ++ cs) :=
  List.forall_mem_append.2 ⟨h, h'⟩

/-- Noughts are digits. -/
theorem allDigits_zeros (n : Nat) : AllDigits (List.replicate n '0') := by
  intro c hc
  rw [List.eq_of_mem_replicate hc]
  rfl

/-- A number is written in digits. -/
theorem allDigits_toDigits (n : Nat) : AllDigits (Nat.toDigits 10 n) :=
  fun _ hc => Nat.isDigit_of_mem_toDigits (by norm_num) (Nat.le_refl 10) hc

/-- No digit stands at the head of a text. -/
def NoDigit (rest : List CodePoint) : Prop := ∀ c, rest.head? = some (.char c) → c.isDigit = false

/-- What does not start with a digit. -/
theorem NoDigit.cons (h : c.isDigit = false) : NoDigit (.char c :: ps) := by
  intro d hd
  obtain rfl := CodePoint.char.inj (Option.some.inj hd)
  exact h

/-- Where no digit stands at the head no digits are read. -/
theorem NoDigit.spanDigits (h : NoDigit rest) : Binary64.spanDigits rest = ([], rest) := by
  unfold Binary64.spanDigits
  split
  · next c ps => rw [if_neg (by rw [h c rfl]; exact Bool.false_ne_true)]
  · rfl

/-- A run of digits ends where something else begins. -/
theorem spanDigits_append (hds : AllDigits ds) (hrest : NoDigit rest) :
    Binary64.spanDigits (codePoints ds ++ rest) = (ds, rest) := by
  induction ds with
  | nil => exact hrest.spanDigits
  | cons d ds ih =>
    obtain ⟨hd, hds⟩ := List.forall_mem_cons.1 hds
    rw [codePoints_cons, List.cons_append, Binary64.spanDigits, if_pos hd, ih hds]

-- ========================================================= leading digit

/-- The integer part of a number: a single zero, or digits that another one
leads. -/
def WholePart (ds : List Char) : Prop :=
  ds = ['0'] ∨ AllDigits ds ∧ ∃ c, ds.head? = some c ∧ c ≠ '0'

/-- A whole part is made of digits. -/
theorem WholePart.allDigits (h : WholePart ds) : AllDigits ds := by
  rcases h with rfl | ⟨h, -⟩
  · exact allDigits_zeros 1
  · exact h

/-- The digits of a positive number do not start with a nought. -/
theorem head_toDigits (hn : 0 < n) : ∃ c, (Nat.toDigits 10 n).head? = some c ∧ c ≠ '0' := by
  induction n using Nat.strong_induction_on with
  | _ n ih =>
    rw [Nat.toDigits_eq_if (by norm_num)]
    split
    · next hlt =>
      refine ⟨Nat.digitChar n, rfl, fun hzero => ?_⟩
      have h := congrArg (fun c => c.toNat - 48) hzero
      rw [Nat.toNat_digitChar_sub_48_of_lt_ten hlt] at h
      exact hn.ne' h
    · obtain ⟨c, hc, hne⟩ := ih (n / 10) (by omega) (by omega)
      exact ⟨c, by rw [List.head?_append, hc]; rfl, hne⟩

/-- The digits of a number are a whole part. -/
theorem wholePart_toDigits (n : Nat) : WholePart (Nat.toDigits 10 n) := by
  rcases Nat.eq_zero_or_pos n with rfl | hn
  · exact .inl (Nat.toDigits_zero 10)
  · exact .inr ⟨allDigits_toDigits n, head_toDigits hn⟩

end Collation
