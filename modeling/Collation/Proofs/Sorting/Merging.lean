/-
The merging of two ascending runs. The result is the one that the
library's merge gives, whatever the leaps skip and whichever end the merge
starts from.

A merge from the end is a merge from the start in the order from the other
end, of two runs read backwards and in exchanged roles: on a tie the lower
run goes first at the start, the upper one at the end. So what is proved
of a merge under way is said of its closing run, which ends with the
element that comes last of all, and its joining run (`Merge.Valid`). Every
step takes elements that go before everything left of the other run, and
leaves what the merge will come to (`Merge.whole`) as it was.
-/
import Collation.Proofs.Sorting.Runs

namespace Collation.Sorting

variable {α ε : Type} {below : α → α → Except ε Bool} {lt : α → α → Bool} {P : α → Prop}
  {x y : α} {xs ys zs lower upper : List α}

-- =============================================================== leaps

/-- A number parts a list into elements that pass a test and elements that
fail it. -/
structure Parts (t : α → Bool) (xs : List α) (n : Nat) : Prop where
  le_length : n ≤ xs.length
  passing : ∀ x ∈ xs.take n, t x = true
  failing : ∀ x ∈ xs.drop n, t x = false

section Leaps

variable {test : α → Except ε Bool} {t : α → Bool} (htest : ∀ x ∈ xs, test x = .ok (t x))
  (hmono : xs.Pairwise fun x y => t y = true → t x = true)

include hmono

/-- If an element passes, so do all before it. -/
private theorem passing_take {i : Nat} (hi : i < xs.length) (h : t xs[i] = true) :
    ∀ x ∈ xs.take (i + 1), t x = true := by
  intro x hx
  obtain ⟨j, hj, rfl⟩ := List.mem_take_iff_getElem.1 hx
  by_cases hji : j = i
  · subst hji
    exact h
  · exact List.pairwise_iff_getElem.1 hmono j i (by omega) hi (by omega) h

/-- If an element fails, so do all behind it. -/
private theorem failing_drop {i : Nat} (hi : i < xs.length) (h : t xs[i] = false) :
    ∀ x ∈ xs.drop i, t x = false := by
  intro x hx
  obtain ⟨j, hj, rfl⟩ := List.mem_drop_iff_getElem.1 hx
  rcases Nat.eq_zero_or_pos j with rfl | hpos
  · exact h
  · cases hx : t xs[i + j] with
    | false => rfl
    | true =>
      rw [List.pairwise_iff_getElem.1 hmono i (i + j) hi (by omega) (by omega) hx] at h
      cases h

include htest

/-- The search closes in on the first element that fails. -/
private theorem firstFailing_parts (late : Bool) :
    ∀ fuel low high : Nat, high - low ≤ fuel → low ≤ high → high ≤ xs.length →
      (∀ x ∈ xs.take low, t x = true) → (∀ x ∈ xs.drop high, t x = false) →
      ∃ n, firstFailing late test xs fuel low high = .ok n ∧ Parts t xs n := by
  intro fuel
  induction fuel with
  | zero =>
    intro low high hfuel hle hhigh hpass hfail
    obtain rfl : low = high := by omega
    exact ⟨low, rfl, hhigh, hpass, hfail⟩
  | succ fuel ih =>
    intro low high hfuel hle hhigh hpass hfail
    rw [firstFailing]
    by_cases hlt : low < high
    · rw [if_pos hlt]
      dsimp only
      generalize hmiddle : (if late = true then low + (high - low) / 2
        else high - 1 - (high - low) / 2) = middle
      -- whichever way it is rounded, the middle is within the bounds
      have hbounds : low ≤ middle ∧ middle < high := by
        split at hmiddle
        · omega
        · omega
      have hm : middle < xs.length := by omega
      rw [List.getElem?_eq_getElem hm]
      dsimp only
      rw [htest _ (List.getElem_mem hm)]
      cases ht : t xs[middle] with
      | true =>
        exact ih (middle + 1) high (by omega) (by omega) hhigh (passing_take hmono hm ht) hfail
      | false =>
        exact ih low middle (by omega) (by omega) (by omega) hpass (failing_drop hmono hm ht)
    · rw [if_neg hlt]
      obtain rfl : low = high := by omega
      exact ⟨low, rfl, hhigh, hpass, hfail⟩

/-- Leaping passes one element more at every leap at least, so that the
fuel is used up only when all have been passed. -/
theorem leapFrom_parts (late : Bool) :
    ∀ fuel passed next : Nat, xs.length ≤ fuel + passed + 1 → passed < xs.length → passed < next →
      (∀ x ∈ xs.take (passed + 1), t x = true) →
      ∃ n, leapFrom late test xs fuel passed next = .ok n ∧ Parts t xs n := by
  intro fuel
  induction fuel with
  | zero =>
    intro passed next hfuel hlt hnext hpass
    refine ⟨passed + 1, rfl, hlt, hpass, fun x hx => ?_⟩
    rw [List.drop_eq_nil_of_le (by omega)] at hx
    cases hx
  | succ fuel ih =>
    intro passed next hfuel hlt hnext hpass
    rw [leapFrom]
    by_cases hn : next < xs.length
    · rw [List.getElem?_eq_getElem hn]
      dsimp only
      rw [htest _ (List.getElem_mem hn)]
      -- while they pass, the leaps double; the first that fails bounds the search
      cases ht : t xs[next] with
      | true =>
        exact ih next (2 * next + 1) (by omega) hn (by omega) (passing_take hmono hn ht)
      | false =>
        exact firstFailing_parts htest hmono late _ _ _ (by omega) (by omega) (by omega) hpass
          (failing_drop hmono hn ht)
    · rw [List.getElem?_eq_none (by omega)]
      refine firstFailing_parts htest hmono late _ _ _ (by omega) (by omega) (Nat.le_refl _) hpass
        fun x hx => ?_
      rw [List.drop_length] at hx
      cases hx

/-- A leap finds where a test begins to fail. -/
theorem leap_parts (late : Bool) : ∃ n, leap late test xs = .ok n ∧ Parts t xs n := by
  cases xs with
  | nil => exact ⟨0, rfl, Nat.le_refl 0, by simp, by simp⟩
  | cons x xs =>
    have hlt : 0 < (x :: xs).length := Nat.succ_pos _
    rw [leap, htest x List.mem_cons_self]
    cases ht : t x with
    | true =>
      exact leapFrom_parts htest hmono late _ _ _ (by simp) hlt (Nat.zero_lt_one)
        (passing_take hmono hlt ht)
    | false =>
      exact ⟨0, rfl, Nat.zero_le _, by simp, failing_drop hmono hlt ht⟩

end Leaps

-- ================================================== the library's merge

/-- What goes before all of the second run is left out of the merge. -/
theorem append_merge {le : α → α → Bool} (h : ∀ x ∈ xs, ∀ y ∈ ys, le x y = true) (zs : List α) :
    List.merge (xs ++ zs) ys le = xs ++ List.merge zs ys le := by
  induction xs with
  | nil => rfl
  | cons x xs ih =>
    rw [List.forall_mem_cons] at h
    cases ys with
    | nil => rw [List.merge_right, List.merge_right]
    | cons y ys =>
      rw [List.cons_append, List.cons_merge_cons_pos le _ _ (h.1 y List.mem_cons_self), ih h.2]
      rfl

/-- What goes before all of the first run is left out of the merge. -/
theorem merge_append {le : α → α → Bool} (h : ∀ y ∈ ys, ∀ x ∈ xs, le x y = false) (zs : List α) :
    List.merge xs (ys ++ zs) le = ys ++ List.merge xs zs le := by
  induction ys with
  | nil => rfl
  | cons y ys ih =>
    rw [List.forall_mem_cons] at h
    cases xs with
    | nil => rw [List.nil_merge, List.nil_merge]
    | cons x xs =>
      rw [List.cons_append, List.cons_merge_cons_neg le _ _
        (by rw [h.1 x List.mem_cons_self]; exact Bool.false_ne_true), ih h.2]
      rfl

/-- Merging ascending lists gives one. -/
theorem merge_ascending (hlt : StrictWeak lt) (hxs : Ascending lt xs) (hys : Ascending lt ys) :
    Ascending lt (List.merge xs ys (upTo lt)) :=
  ascending_iff_upTo.2 <| List.pairwise_merge hlt.upTo_trans hlt.upTo_total _ _
    (ascending_iff_upTo.1 hxs) (ascending_iff_upTo.1 hys)

/-- Merging keeps equivalents in their order. -/
theorem merge_stably (hlt : StrictWeak lt) (hxs : Ascending lt xs) (ys : List α) :
    Stably lt (List.merge xs ys (upTo lt)) (xs ++ ys) := by
  induction xs generalizing ys with
  | nil =>
    rw [List.nil_merge]
    exact .refl ys
  | cons x xs ihx =>
    have hx := List.pairwise_cons.1 hxs
    induction ys with
    | nil =>
      rw [List.merge_right, List.append_nil]
      exact .refl _
    | cons y ys ihy =>
      rw [List.cons_merge_cons]
      cases hyx : lt y x with
      | false =>
        rw [if_pos (by rw [upTo, hyx]; rfl)]
        exact (ihx hx.2 (y :: ys)).cons x
      | true =>
        rw [if_neg (by rw [upTo, hyx]; exact Bool.false_ne_true)]
        -- the upper head is below the lower head, hence below all of its run
        have hall : ∀ z ∈ x :: xs, ∀ w ∈ [y], lt w z = true := by
          intro z hz w hw
          obtain rfl := List.mem_singleton.1 hw
          rcases List.mem_cons.1 hz with rfl | hz
          · exact hyx
          · exact hlt.lt_of_lt_of_le hyx (hx.1 z hz)
        refine (ihy.cons y).trans ?_
        have h := (Stably.exchange hlt hall).symm.append_right ys
        rwa [List.append_assoc, List.append_assoc] at h

-- ====================================================== a merge under way

/-- The order as a merge meets it that starts from either end. -/
def towards (fromStart : Bool) (lt : α → α → Bool) (x y : α) : Bool :=
  if fromStart then lt x y else lt y x

/-- The order seen from the end is one too. -/
theorem StrictWeak.towards (h : StrictWeak lt) (fromStart : Bool) :
    StrictWeak (towards fromStart lt) := by
  cases fromStart with
  | true => exact h
  | false => exact h.flip

/-- Whether the element of the upper run goes first. -/
def upperWins (fromStart : Bool) (lt : α → α → Bool) (x y : α) : Bool := lt y x == fromStart

private theorem upperFirst_eq (ha : Answers below lt P) (fromStart : Bool) (hx : P x) (hy : P y) :
    Merge.upperFirst below fromStart x y = .ok (upperWins fromStart lt x y) := by
  rw [Merge.upperFirst, ha y x hy hx]
  rfl

/-- An upper element that goes before one of the lower run goes before
those that follow there. -/
theorem upperWins_of_lower {fromStart : Bool} (hlt : StrictWeak lt) {x' : α}
    (hx : towards fromStart lt x' x = false) (h : upperWins fromStart lt x y = true) :
    upperWins fromStart lt x' y = true := by
  rw [upperWins, beq_iff_eq] at h ⊢
  cases fromStart with
  | true => exact hlt.lt_of_lt_of_le h hx
  | false => exact hlt.not_below_trans y x x' h hx

/-- Whoever goes before an upper element goes after none that precedes it. -/
theorem upperWins_of_upper {fromStart : Bool} (hlt : StrictWeak lt) {y' : α}
    (hy : towards fromStart lt y' y = false) (h : upperWins fromStart lt x y' = true) :
    upperWins fromStart lt x y = true := by
  rw [upperWins, beq_iff_eq] at h ⊢
  cases fromStart with
  | true => exact hlt.lt_of_le_of_lt hy h
  | false => exact hlt.not_below_trans y y' x hy h

namespace Merge

/-- The run whose last element comes last. -/
def closing (fromStart : Bool) (m : Merge α) : List α := if fromStart then m.lower else m.upper

def joining (fromStart : Bool) (m : Merge α) : List α := if fromStart then m.upper else m.lower

/-- What a merge will come to, as seen from the end where it started. -/
def whole (fromStart : Bool) (lt : α → α → Bool) (m : Merge α) : List α :=
  m.taken.reverse
    ++ List.merge (m.closing fromStart) (m.joining fromStart) (upTo (towards fromStart lt))

/-- A merge under way. -/
structure Valid (fromStart : Bool) (lt : α → α → Bool) (P : α → Prop) (m : Merge α) : Prop where
  lower_mem : ∀ x ∈ m.lower, P x
  upper_mem : ∀ y ∈ m.upper, P y
  lower_ascending : Ascending (towards fromStart lt) m.lower
  upper_ascending : Ascending (towards fromStart lt) m.upper
  last : ∀ x, (m.closing fromStart).getLast? = some x →
    ∀ y ∈ m.joining fromStart, towards fromStart lt y x = true

variable {fromStart : Bool} {m : Merge α} {n : Nat}

private theorem getLast?_of_drop {xs : List α} (h : (xs.drop n).getLast? = some x) :
    xs.getLast? = some x := by
  rw [List.getLast?_drop] at h
  split at h
  · cases h
  · exact h

namespace Valid

/-- Taking from the lower run leaves a merge that can go on. -/
private theorem takeLower (h : Valid fromStart lt P m) (n : Nat) :
    Valid fromStart lt P (m.takeLower n) where
  lower_mem x hx := h.lower_mem x (List.mem_of_mem_drop hx)
  upper_mem := h.upper_mem
  lower_ascending := h.lower_ascending.drop n
  upper_ascending := h.upper_ascending
  last := by
    have hlast := h.last
    cases fromStart with
    | true => exact fun x hx => hlast x (getLast?_of_drop hx)
    | false => exact fun x hx y hy => hlast x hx y (List.mem_of_mem_drop hy)

/-- So does taking from the upper run. -/
private theorem takeUpper (h : Valid fromStart lt P m) (n : Nat) :
    Valid fromStart lt P (m.takeUpper n) where
  lower_mem := h.lower_mem
  upper_mem y hy := h.upper_mem y (List.mem_of_mem_drop hy)
  lower_ascending := h.lower_ascending
  upper_ascending := h.upper_ascending.drop n
  last := by
    have hlast := h.last
    cases fromStart with
    | true => exact fun x hx y hy => hlast x hx y (List.mem_of_mem_drop hy)
    | false => exact fun x hx => hlast x (getLast?_of_drop hx)

end Valid

/-- Taking from the lower run what goes before all of the upper one. -/
theorem whole_takeLower
    (h : ∀ x ∈ m.lower.take n, ∀ y ∈ m.upper, upperWins fromStart lt x y = false) :
    (m.takeLower n).whole fromStart lt = m.whole fromStart lt := by
  have hparts := List.take_append_drop n m.lower
  simp only [upperWins, beq_eq_false_iff_ne] at h
  simp only [whole, takeLower, List.reverse_append, List.reverse_reverse, List.append_assoc]
  congr 1
  cases fromStart with
  | true =>
    refine (append_merge (fun x hx y hy => ?_) (m.lower.drop n)).symm.trans ?_
    · rw [upTo, Bool.not_eq_true']
      exact eq_false_of_ne_true (h x hx y hy)
    · rw [hparts]
      rfl
  | false =>
    refine (merge_append (fun x hx y hy => ?_) (m.lower.drop n)).symm.trans ?_
    · rw [upTo, Bool.not_eq_false']
      exact eq_true_of_ne_false (h x hx y hy)
    · rw [hparts]
      rfl

/-- Taking from the upper run what goes before all of the lower one. -/
theorem whole_takeUpper
    (h : ∀ y ∈ m.upper.take n, ∀ x ∈ m.lower, upperWins fromStart lt x y = true) :
    (m.takeUpper n).whole fromStart lt = m.whole fromStart lt := by
  have hparts := List.take_append_drop n m.upper
  simp only [upperWins, beq_iff_eq] at h
  simp only [whole, takeUpper, List.reverse_append, List.reverse_reverse, List.append_assoc]
  congr 1
  cases fromStart with
  | true =>
    refine (merge_append (fun y hy x hx => ?_) (m.upper.drop n)).symm.trans ?_
    · rw [upTo, Bool.not_eq_false']
      exact h y hy x hx
    · rw [hparts]
      rfl
  | false =>
    refine (append_merge (fun y hy x hx => ?_) (m.upper.drop n)).symm.trans ?_
    · rw [upTo, Bool.not_eq_true']
      exact h y hy x hx
    · rw [hparts]
      rfl

/-- What a merge comes to, read from the start. -/
def outcome (fromStart : Bool) (lt : α → α → Bool) (m : Merge α) : List α :=
  if fromStart then m.whole fromStart lt else (m.whole fromStart lt).reverse

/-- A settled merge is as good as done. -/
theorem finished_eq (h : Valid fromStart lt P m) (hsettled : m.isSettled fromStart = true) :
    m.finished fromStart = m.outcome fromStart lt := by
  have hmerge : List.merge (m.closing fromStart) (m.joining fromStart) (upTo (towards fromStart lt))
      = m.joining fromStart ++ m.closing fromStart := by
    have hcases : m.closing fromStart = [] ∨ m.joining fromStart = []
        ∨ (m.closing fromStart).length = 1 := by
      simp only [isSettled, Bool.or_eq_true, List.isEmpty_iff, beq_iff_eq] at hsettled
      cases fromStart with
      | true => exact (or_assoc.1 hsettled)
      | false => exact or_left_comm.1 (or_assoc.1 hsettled)
    rcases hcases with hnil | hnil | hone
    · rw [hnil, List.nil_merge, List.append_nil]
    · rw [hnil, List.merge_right, List.nil_append]
    · obtain ⟨x, hx⟩ := List.length_eq_one_iff.1 hone
      have hlast := h.last x (by rw [hx]; rfl)
      have hbefore : ∀ y ∈ m.joining fromStart, ∀ z ∈ [x],
          upTo (towards fromStart lt) z y = false := by
        intro y hy z hz
        obtain rfl := List.mem_singleton.1 hz
        rw [upTo, hlast y hy]
        rfl
      have hmerge := merge_append hbefore []
      rwa [List.append_nil, List.merge_right, ← hx] at hmerge
  unfold finished outcome whole
  rw [hmerge]
  cases fromStart with
  | true => rfl
  | false => rfl

/-- A merge that is not settled has something left of both runs. -/
theorem runs_of_not_settled (h : ¬m.isSettled fromStart = true) :
    ∃ x xs y ys, m.lower = x :: xs ∧ m.upper = y :: ys := by
  simp only [isSettled, Bool.or_eq_true, List.isEmpty_iff, not_or] at h
  obtain ⟨x, xs, hl⟩ := List.exists_cons_of_ne_nil h.1.1
  obtain ⟨y, ys, hu⟩ := List.exists_cons_of_ne_nil h.1.2
  exact ⟨x, xs, y, ys, hl, hu⟩

section Steps

variable (hlt : StrictWeak lt) (ha : Answers below lt P) (h : Valid fromStart lt P m)

include hlt h

/-- What goes before the head of the lower run goes before all of it. -/
theorem upperWins_lower (hl : m.lower.head? = some x) (hwins : upperWins fromStart lt x y = true) :
    ∀ z ∈ m.lower, upperWins fromStart lt z y = true := by
  have hasc := h.lower_ascending
  obtain ⟨xs, hxs⟩ := List.head?_eq_some_iff.1 hl
  rw [hxs] at hasc ⊢
  intro z hz
  rcases List.mem_cons.1 hz with rfl | hz
  · exact hwins
  · exact upperWins_of_lower hlt ((List.pairwise_cons.1 hasc).1 z hz) hwins

/-- What goes before the head of the upper run goes before all of it. -/
theorem lowerWins_upper (hu : m.upper.head? = some y)
    (hloses : upperWins fromStart lt x y = false) :
    ∀ z ∈ m.upper, upperWins fromStart lt x z = false := by
  have hasc := h.upper_ascending
  obtain ⟨ys, hys⟩ := List.head?_eq_some_iff.1 hu
  rw [hys] at hasc ⊢
  intro z hz
  rcases List.mem_cons.1 hz with rfl | hz
  · exact hloses
  · cases hz' : upperWins fromStart lt x z with
    | false => rfl
    | true =>
      rw [upperWins_of_upper hlt ((List.pairwise_cons.1 hasc).1 z hz) hz'] at hloses
      cases hloses

include ha

/-- A leap through the lower run stops where the upper head goes first. -/
theorem leap_lower (hu : m.upper.head? = some y) :
    ∃ n, leap fromStart (fun z => (upperFirst below fromStart z y).map (!·)) m.lower = .ok n
      ∧ (∀ x ∈ m.lower.take n, ∀ z ∈ m.upper, upperWins fromStart lt x z = false)
      ∧ ∀ x ∈ m.lower.drop n, upperWins fromStart lt x y = true := by
  have hy : P y := h.upper_mem y (List.mem_of_head? hu)
  have htest : ∀ x ∈ m.lower,
      (upperFirst below fromStart x y).map (!·) = .ok (!upperWins fromStart lt x y) := by
    intro x hx
    rw [upperFirst_eq ha fromStart (h.lower_mem x hx) hy]
    rfl
  have hmono : m.lower.Pairwise fun x x' =>
      (!upperWins fromStart lt x' y) = true → (!upperWins fromStart lt x y) = true := by
    refine h.lower_ascending.imp fun {x x'} hxx' => ?_
    simp only [Bool.not_eq_true']
    intro hx'
    by_contra hx
    rw [Bool.not_eq_false] at hx
    rw [upperWins_of_lower hlt hxx' hx] at hx'
    cases hx'
  obtain ⟨n, hn, hparts⟩ := leap_parts htest hmono fromStart
  refine ⟨n, hn, fun x hx => ?_, fun x hx => ?_⟩
  · exact lowerWins_upper hlt h hu ((Bool.not_eq_true' _).mp (hparts.passing x hx))
  · exact (Bool.not_eq_false' _).mp (hparts.failing x hx)

/-- A leap through the upper run stops where the lower head goes first. -/
theorem leap_upper (hl : m.lower.head? = some x) :
    ∃ n, leap fromStart (fun z => upperFirst below fromStart x z) m.upper = .ok n
      ∧ (∀ y ∈ m.upper.take n, ∀ z ∈ m.lower, upperWins fromStart lt z y = true)
      ∧ ∀ y ∈ m.upper.drop n, upperWins fromStart lt x y = false := by
  have hx : P x := h.lower_mem x (List.mem_of_head? hl)
  have htest : ∀ y ∈ m.upper,
      upperFirst below fromStart x y = .ok (upperWins fromStart lt x y) :=
    fun y hy => upperFirst_eq ha fromStart hx (h.upper_mem y hy)
  obtain ⟨n, hn, hparts⟩ := leap_parts htest
    (h.upper_ascending.imp fun hyy' => upperWins_of_upper hlt hyy') fromStart
  exact ⟨n, hn, fun y hy => upperWins_lower hlt h hl (hparts.passing y hy), hparts.failing⟩

end Steps

/-- A merge further on, which will come to the same. -/
structure Leaves (fromStart : Bool) (lt : α → α → Bool) (P : α → Prop) (m m' : Merge α) : Prop where
  valid : Valid fromStart lt P m'
  outcome_eq : m'.outcome fromStart lt = m.outcome fromStart lt

namespace Leaves

variable {m' : Merge α}

/-- What the lower run may give next, it gives without changing the outcome. -/
theorem takeLower (h : Leaves fromStart lt P m m')
    (hfirst : ∀ x ∈ m'.lower.take n, ∀ y ∈ m'.upper, upperWins fromStart lt x y = false) :
    Leaves fromStart lt P m (m'.takeLower n) := by
  refine ⟨h.valid.takeLower n, Eq.trans ?_ h.outcome_eq⟩
  unfold outcome
  rw [whole_takeLower hfirst]

/-- So with the upper run. -/
theorem takeUpper (h : Leaves fromStart lt P m m')
    (hfirst : ∀ y ∈ m'.upper.take n, ∀ x ∈ m'.lower, upperWins fromStart lt x y = true) :
    Leaves fromStart lt P m (m'.takeUpper n) := by
  refine ⟨h.valid.takeUpper n, Eq.trans ?_ h.outcome_eq⟩
  unfold outcome
  rw [whole_takeUpper hfirst]

private theorem finished_eq (h : Leaves fromStart lt P m m')
    (hsettled : m'.isSettled fromStart = true) :
    m'.finished fromStart = m.outcome fromStart lt :=
  (Merge.finished_eq h.valid hsettled).trans h.outcome_eq

end Leaves

/-- The one that is taken is the head. -/
theorem mem_take_one {xs : List α} (hhead : xs.head? = some x) (hy : y ∈ xs.take 1) : y = x := by
  obtain ⟨ys, rfl⟩ := List.head?_eq_some_iff.1 hhead
  exact List.mem_singleton.1 hy

/-- The number of elements that a merge still has to take. -/
def left (m : Merge α) : Nat := m.lower.length + m.upper.length

/-- What one step of a merge gives: the outcome, or what a merge further on
gives with a bound on its steps that is smaller by one. -/
inductive Progress (below : α → α → Except ε Bool) (fromStart : Bool) (lt : α → α → Bool)
    (P : α → Prop) (fuel : Nat) (m : Merge α) (r : Except ε (List α × Nat)) : Prop where
  | ended (threshold : Nat) : r = .ok (m.outcome fromStart lt, threshold) →
    Progress below fromStart lt P fuel m r
  | further {m' : Merge α} (pace : Pace) (threshold : Nat) : Leaves fromStart lt P m m' →
    m'.left < m.left → r = run below fromStart fuel pace threshold m' →
    Progress below fromStart lt P fuel m r

section Steps

variable (hlt : StrictWeak lt) (ha : Answers below lt P) (h : Valid fromStart lt P m)
  (hsettled : ¬m.isSettled fromStart = true) (fuel threshold : Nat)

include hlt ha h hsettled

/-- One element is taken, of the run whose head goes first. -/
theorem run_single (lowerWins upperWins : Nat) :
    Progress below fromStart lt P fuel m
      (run below fromStart (fuel + 1) (.single lowerWins upperWins) threshold m) := by
  obtain ⟨x, xs, y, ys, hl, hu⟩ := runs_of_not_settled hsettled
  have hlhead : m.lower.head? = some x := by rw [hl]; rfl
  have huhead : m.upper.head? = some y := by rw [hu]; rfl
  have hstart : Leaves fromStart lt P m m := ⟨h, rfl⟩
  have hupperFirst := upperFirst_eq ha fromStart (h.lower_mem x (List.mem_of_head? hlhead))
    (h.upper_mem y (List.mem_of_head? huhead))
  rw [run, if_neg hsettled, hl, hu]
  dsimp only
  rw [hupperFirst]
  simp only [bind, Except.bind]
  -- one element is taken, from the run that wins
  cases hw : Sorting.upperWins fromStart lt x y with
  | true =>
    have hnext := hstart.takeUpper (n := 1) fun z hz =>
      mem_take_one huhead hz ▸ upperWins_lower hlt h hlhead hw
    have hless : (m.takeUpper 1).left < m.left := by
      simp only [left, Merge.takeUpper, hu, List.length_drop, List.length_cons]
      omega
    simp only [if_true]
    split
    · exact .further _ _ hnext hless rfl
    · exact .further _ _ hnext hless rfl
  | false =>
    have hnext := hstart.takeLower (n := 1) fun z hz =>
      mem_take_one hlhead hz ▸ lowerWins_upper hlt h huhead hw
    have hless : (m.takeLower 1).left < m.left := by
      simp only [left, Merge.takeLower, hl, List.length_drop, List.length_cons]
      omega
    simp only [Bool.false_eq_true, if_false]
    split
    · exact .further _ _ hnext hless rfl
    · exact .further _ _ hnext hless rfl

/-- What goes first is taken of the lower run, the upper head, what goes
first of the upper run, and the lower head. -/
theorem run_leaping :
    Progress below fromStart lt P fuel m
      (run below fromStart (fuel + 1) .leaping threshold m) := by
  obtain ⟨x, xs, y, ys, hl, hu⟩ := runs_of_not_settled hsettled
  have huhead : m.upper.head? = some y := by rw [hu]; rfl
  have hstart : Leaves fromStart lt P m m := ⟨h, rfl⟩
  -- some of the lower run, one of the upper; then the other way round
  obtain ⟨n, hn, htaken, hleft⟩ := leap_lower hlt ha h huhead
  have h₁ := hstart.takeLower htaken
  have h₂ := h₁.takeUpper (n := 1) fun z hz => mem_take_one huhead hz ▸ hleft
  rw [run, if_neg hsettled, hl, hu]
  dsimp only
  rw [← hl]
  simp only [hn, bind, Except.bind, pure, Except.pure]
  by_cases hs₁ : n ≠ 0 ∧ (m.takeLower n).isSettled fromStart = true
  · rw [if_pos hs₁, h₁.finished_eq hs₁.2]
    exact .ended _ rfl
  rw [if_neg hs₁]
  by_cases hs₂ : ((m.takeLower n).takeUpper 1).isSettled fromStart = true
  · rw [if_pos hs₂, h₂.finished_eq hs₂]
    exact .ended _ rfl
  rw [if_neg hs₂]
  obtain ⟨x', xs', -, -, hl', -⟩ := runs_of_not_settled hs₂
  have hlhead' : ((m.takeLower n).takeUpper 1).lower.head? = some x' := by rw [hl']; rfl
  obtain ⟨k, hk, htaken', hleft'⟩ := leap_upper hlt ha h₂.valid hlhead'
  have h₃ := h₂.takeUpper htaken'
  have h₄ := h₃.takeLower (n := 1) fun z hz => mem_take_one hlhead' hz ▸ hleft'
  rw [hl']
  simp only [hk]
  by_cases hs₃ : k ≠ 0 ∧ (((m.takeLower n).takeUpper 1).takeUpper k).isSettled fromStart = true
  · rw [if_pos hs₃, h₃.finished_eq hs₃.2]
    exact .ended _ rfl
  rw [if_neg hs₃]
  by_cases hs₄ :
      ((((m.takeLower n).takeUpper 1).takeUpper k).takeLower 1).isSettled fromStart = true
  · rw [if_pos hs₄, h₄.finished_eq hs₄]
    exact .ended _ rfl
  rw [if_neg hs₄]
  -- two were taken at least, so less is left
  have hless : ((((m.takeLower n).takeUpper 1).takeUpper k).takeLower 1).left < m.left := by
    simp only [left, Merge.takeLower, Merge.takeUpper, hl, hu, List.length_drop, List.length_cons]
    omega
  split
  · exact .further _ _ h₄ hless rfl
  · exact .further _ _ h₄ hless rfl

end Steps

/-- However it paces, a merge comes to what it is bound to come to. -/
theorem run_eq (hlt : StrictWeak lt) (ha : Answers below lt P) :
    ∀ (fuel : Nat) (pace : Pace) (threshold : Nat) (m : Merge α), Valid fromStart lt P m →
      m.left ≤ fuel →
      ∃ threshold', run below fromStart fuel pace threshold m
        = .ok (m.outcome fromStart lt, threshold') := by
  intro fuel
  induction fuel with
  | zero =>
    intro pace threshold m h hfuel
    unfold left at hfuel
    have hlower : m.lower = [] := List.eq_nil_of_length_eq_zero (by omega)
    refine ⟨threshold, ?_⟩
    rw [run, finished_eq h]
    rw [isSettled, hlower]
    rfl
  | succ fuel ih =>
    intro pace threshold m h hfuel
    by_cases hsettled : m.isSettled fromStart = true
    · rw [run, if_pos hsettled, finished_eq h hsettled]
      exact ⟨threshold, rfl⟩
    have hstep : Progress below fromStart lt P fuel m
        (run below fromStart (fuel + 1) pace threshold m) := by
      cases pace with
      | single lowerWins upperWins => exact run_single hlt ha h hsettled fuel threshold _ _
      | leaping => exact run_leaping hlt ha h hsettled fuel threshold
    -- a step ends the merge, or leaves less with the same outcome
    cases hstep with
    | ended threshold' hended => exact ⟨threshold', hended⟩
    | @further m' pace' threshold' hleaves hless hfurther =>
      rw [hfurther, ← hleaves.outcome_eq]
      exact ih pace' threshold' m' hleaves.valid (by omega)

end Merge

end Collation.Sorting
