/-
How two sequences stand. The first two elements that disagree decide, or
the lengths do, and it does not matter by what it is then told how the two
stand (`σ`): what holds of elements is carried to sequences of them, as
long as agreeing is what it should be (`Agreeing`). Turned round they
stand the opposite way, sequences that agree stand alike, and below is
transitive. Each is an induction over the first sequence.
-/
import Collation.Proofs.Value.Agreement

namespace Collation.Value

variable {a b c x y : Value} {xs ys zs : List Value} {o : Ordering}

-- ======================================================== what decides

/-- Items that agree decide nothing. -/
theorem decisionItems_agree (h : agree x y = true) :
    decisionItems (x :: xs) (y :: ys) = decisionItems xs ys := by
  rw [decisionItems, if_pos h]

/-- The first that do not agree decide. -/
theorem decisionItems_differ (h : ¬agree x y = true) :
    decisionItems (x :: xs) (y :: ys) = decision x y := by
  rw [decisionItems, if_neg h]

private theorem decisionItems_nil : decisionItems [] ys = .lengths 0 ys.length := by
  cases ys <;> rfl

private theorem decisionItems_nil_right : decisionItems xs [] = .lengths xs.length 0 := by
  cases xs <;> rfl

/-- Lists that agree are of a length. -/
private theorem agreeItems_length (h : agreeItems xs ys = true) : xs.length = ys.length := by
  induction xs generalizing ys with
  | nil =>
    cases ys with
    | nil => rfl
    | cons y ys => cases h
  | cons x xs ih =>
    cases ys with
    | nil => cases h
    | cons y ys => exact congrArg (· + 1) (ih (Bool.and_eq_true_iff.1 h).2)

-- ============================================================== standings

variable {D : Value → Prop} {σ : Decision → Option Ordering}

section

variable (hσ : ∀ m n, σ (.lengths m n) = some (Ord.compare m n)) (hD : Agreeing D)

include hσ hD

/-- Turned round, sequences stand the opposite way. -/
theorem items_swap
    (h : ∀ x ∈ xs, ∀ y o, D y → σ (decision x y) = some o → σ (decision y x) = some o.swap)
    (hxs : ∀ x ∈ xs, D x) (hys : ∀ y ∈ ys, D y) (ho : σ (decisionItems xs ys) = some o) :
    σ (decisionItems ys xs) = some o.swap := by
  induction xs generalizing ys with
  | nil =>
    rw [decisionItems_nil, hσ] at ho
    rw [decisionItems_nil_right, hσ, ← Option.some.inj ho, Nat.compare_swap]
  | cons x xs ih =>
    obtain ⟨hx, hxs⟩ := List.forall_mem_cons.1 hxs
    obtain ⟨hhead, htail⟩ := List.forall_mem_cons.1 h
    cases ys with
    | nil =>
      rw [decisionItems_nil_right, hσ] at ho
      rw [decisionItems_nil, hσ, ← Option.some.inj ho, Nat.compare_swap]
    | cons y ys =>
      obtain ⟨hy, hys⟩ := List.forall_mem_cons.1 hys
      by_cases hxy : agree x y = true
      · rw [decisionItems_agree hxy] at ho
        rw [decisionItems_agree (hD.comm x y hx hy ▸ hxy)]
        exact ih htail hxs hys ho
      · rw [decisionItems_differ hxy] at ho
        rw [decisionItems_differ (hD.comm x y hx hy ▸ hxy)]
        exact hhead y o hy ho

/-- Sequences that agree stand alike to any other. -/
theorem items_congr
    (h : ∀ x ∈ xs, ∀ y z o, D y → D z → agree x y = true → σ (decision x z) = some o →
      σ (decision y z) = some o)
    (hxs : ∀ x ∈ xs, D x) (hys : ∀ y ∈ ys, D y) (hzs : ∀ z ∈ zs, D z)
    (hxy : agreeItems xs ys = true) (ho : σ (decisionItems xs zs) = some o) :
    σ (decisionItems ys zs) = some o := by
  induction xs generalizing ys zs with
  | nil =>
    cases ys with
    | nil => exact ho
    | cons y ys => cases hxy
  | cons x xs ih =>
    obtain ⟨hx, hxs⟩ := List.forall_mem_cons.1 hxs
    obtain ⟨hhead, htail⟩ := List.forall_mem_cons.1 h
    cases ys with
    | nil => cases hxy
    | cons y ys =>
      obtain ⟨hy, hys⟩ := List.forall_mem_cons.1 hys
      cases zs with
      | nil =>
        rw [decisionItems_nil_right, hσ] at ho ⊢
        rw [← agreeItems_length hxy, ho]
      | cons z zs =>
        obtain ⟨hz, hzs⟩ := List.forall_mem_cons.1 hzs
        obtain ⟨hagree, hrest⟩ := Bool.and_eq_true_iff.1 hxy
        have hsame := hD.congr x y z hx hy hz hagree
        -- the first items decide, or agree and leave it to the others
        by_cases hxz : agree x z = true
        · rw [decisionItems_agree hxz] at ho
          rw [decisionItems_agree (hsame ▸ hxz)]
          exact ih htail hxs hys hzs hrest ho
        · rw [decisionItems_differ hxz] at ho
          rw [decisionItems_differ (hsame ▸ hxz)]
          exact hhead y z o hy hz hagree ho

/-- Below is transitive among sequences, if it is among their elements, and
these stand as they should. -/
theorem items_trans
    (hswap : ∀ x y o, D x → D y → σ (decision x y) = some o → σ (decision y x) = some o.swap)
    (hcongr : ∀ x y z o, D x → D y → D z → agree x y = true → σ (decision x z) = some o →
      σ (decision y z) = some o)
    (h : ∀ x ∈ xs, ∀ y z, D y → D z → σ (decision x y) = some .lt → σ (decision y z) = some .lt →
      σ (decision x z) = some .lt)
    (hxs : ∀ x ∈ xs, D x) (hys : ∀ y ∈ ys, D y) (hzs : ∀ z ∈ zs, D z)
    (hxy : σ (decisionItems xs ys) = some .lt) (hyz : σ (decisionItems ys zs) = some .lt) :
    σ (decisionItems xs zs) = some .lt := by
  induction xs generalizing ys zs with
  | nil =>
    rw [decisionItems_nil, hσ] at hxy ⊢
    have hys := Nat.compare_eq_lt.1 (Option.some.inj hxy)
    cases zs with
    | nil =>
      rw [decisionItems_nil_right, hσ] at hyz
      exact absurd (Nat.compare_eq_lt.1 (Option.some.inj hyz)) (Nat.not_lt_zero _)
    | cons z zs => rfl
  | cons x xs ih =>
    obtain ⟨hx, hxs⟩ := List.forall_mem_cons.1 hxs
    obtain ⟨hhead, htail⟩ := List.forall_mem_cons.1 h
    cases ys with
    | nil =>
      rw [decisionItems_nil_right, hσ] at hxy
      exact absurd (Nat.compare_eq_lt.1 (Option.some.inj hxy)) (Nat.not_lt_zero _)
    | cons y ys =>
      obtain ⟨hy, hys⟩ := List.forall_mem_cons.1 hys
      cases zs with
      | nil =>
        rw [decisionItems_nil_right, hσ] at hyz
        exact absurd (Nat.compare_eq_lt.1 (Option.some.inj hyz)) (Nat.not_lt_zero _)
      | cons z zs =>
        obtain ⟨hz, hzs⟩ := List.forall_mem_cons.1 hzs
        -- The earlier of the two places that decide decides about the outer lists.
        by_cases hagree : agree x y = true
        · have hsame := hD.congr x y z hx hy hz hagree
          rw [decisionItems_agree hagree] at hxy
          by_cases hagree' : agree y z = true
          · rw [decisionItems_agree hagree'] at hyz
            rw [decisionItems_agree (hsame.trans hagree')]
            exact ih htail hxs hys hzs hxy hyz
          · rw [decisionItems_differ hagree'] at hyz
            rw [decisionItems_differ (hsame ▸ hagree')]
            exact hcongr y x z _ hy hx hz (hD.comm x y hx hy ▸ hagree) hyz
        · rw [decisionItems_differ hagree] at hxy
          by_cases hagree' : agree y z = true
          · rw [decisionItems_differ (hD.congr_right hx hy hz hagree' ▸ hagree)]
            have hyx := hcongr y z x _ hy hz hx hagree' (hswap x y _ hx hy hxy)
            exact hswap z x _ hz hx hyx
          · rw [decisionItems_differ hagree'] at hyz
            have hxz := hhead y z hy hz hxy hyz
            by_cases hback : agree x z = true
            · -- Then z would be below y, and y was below z.
              have hzy := hcongr x z y _ hx hz hy hback hxy
              rw [hswap y z _ hy hz hyz] at hzy
              cases hzy
            · rw [decisionItems_differ hback]
              exact hxz

end

end Collation.Value
