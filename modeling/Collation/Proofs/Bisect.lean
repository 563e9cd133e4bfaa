/-
What a search by halving finds, and what it takes for that to mean
something.

A search that answers has asked its question of the two elements on either
side of the place it gives (`search_decided`); this holds of any question
and any list, for it is all that the halving itself guarantees. A question
that splits the list into a part of which it holds and a part of which it
does not is answered by the size of the first part (`search_of_split`).

Between the two stands the order of the list. On an ascending list and
under a consistent comparator the two neighbours speak for everything on
their side, by transitivity alone: no other element need be comparable
with the probe (`find_none_split`). So the place where a look-up found
nothing is also the place where an insertion ends, although the two
searches put the operands the other way round (`bounds_of_absent`),
and the list stays ascending (`Ascends.insert`).
-/
import Collation.Bisect
import Collation.Proofs.Comparison
import Collation.Proofs.Fallible

namespace Collation.Bisect

variable {α : Type}

-- ============================================================ the halving

/-- A question was asked of the elements beside a place: yes before it, no
at it. -/
structure Decided (before : α → Except Fault Bool) (xs : List α) (i : Nat) : Prop where
  le_length : i ≤ xs.length
  yes : ∀ j y, j + 1 = i → xs[j]? = some y → before y = .ok true
  no : ∀ y, xs[i]? = some y → before y = .ok false

/-- Halving an interval decides the place that it gives, as far as that
place is not an end of the interval. -/
theorem narrow_decided {before : α → Except Fault Bool} {xs : List α} :
    ∀ {steps low high i : Nat}, narrow before xs steps low high = .ok i →
      low ≤ high → high ≤ xs.length → high - low ≤ steps →
      low ≤ i ∧ i ≤ high
        ∧ (∀ j y, low ≤ j → j + 1 = i → xs[j]? = some y → before y = .ok true)
        ∧ (∀ y, i < high → xs[i]? = some y → before y = .ok false) := by
  intro steps
  induction steps with
  | zero =>
    intro low high i h hle _ hsteps
    injection h with h
    exact ⟨by omega, by omega, fun j _ hj hi _ => by omega, fun _ hi _ => by omega⟩
  | succ steps ih =>
    intro low high i h hle hlen hsteps
    rw [narrow] at h
    by_cases hlt : low < high
    · have hmid : (low + high) / 2 < xs.length := by omega
      rw [if_pos hlt, List.getElem?_eq_getElem hmid] at h
      dsimp only at h
      cases hb : before xs[(low + high) / 2] with
      | error e => rw [hb] at h; cases h
      | ok b =>
        rw [hb] at h
        -- the probed element is on one side or the other, and the search goes on there
        cases b with
        | true =>
          obtain ⟨hl, hh, hyes, hno⟩ := ih h (by omega) hlen (by omega)
          refine ⟨by omega, hh, fun j y hj hi hy => ?_, hno⟩
          by_cases hjm : j = (low + high) / 2
          · subst hjm
            rw [List.getElem?_eq_getElem hmid] at hy
            injection hy with hy
            exact hy ▸ hb
          · exact hyes j y (by omega) hi hy
        | false =>
          obtain ⟨hl, hh, hyes, hno⟩ := ih h (by omega) (by omega) (by omega)
          refine ⟨hl, by omega, hyes, fun y hi hy => ?_⟩
          by_cases him : i = (low + high) / 2
          · subst him
            rw [List.getElem?_eq_getElem hmid] at hy
            injection hy with hy
            exact hy ▸ hb
          · exact hno y (by omega) hy
    · rw [if_neg hlt] at h
      injection h with h
      exact ⟨by omega, by omega, fun j _ hj hi _ => by omega, fun _ hi _ => by omega⟩

/-- What a search arrives at is decided by the elements on both sides of it. -/
theorem search_decided {before : α → Except Fault Bool} {xs : List α} {i : Nat}
    (h : search before xs = .ok i) : Decided before xs i := by
  unfold search at h
  cases hlast : xs.getLast? with
  | none =>
    rw [hlast] at h
    injection h with h
    rw [List.getLast?_eq_none_iff] at hlast
    subst hlast h
    exact ⟨Nat.le_refl _, fun j _ hj _ => by omega, fun y hy => by simp at hy⟩
  | some last =>
    rw [hlast] at h
    dsimp only at h
    rw [List.getLast?_eq_getElem?] at hlast
    cases hb : before last with
    | error e => rw [hb] at h; cases h
    | ok b =>
      rw [hb] at h
      -- the last element is asked about first, and may settle it
      cases b with
      | true =>
        injection h with h
        subst h
        refine ⟨Nat.le_refl _, fun j y hj hy => ?_, fun y hy => by simp at hy⟩
        rw [show xs.length - 1 = j by omega, hy] at hlast
        injection hlast with hlast
        exact hlast ▸ hb
      | false =>
        obtain ⟨-, hle, hyes, hno⟩ :=
          narrow_decided h (Nat.zero_le _) (Nat.le_refl _) (by omega)
        refine ⟨hle, fun j y hj hy => hyes j y (Nat.zero_le _) hj hy, fun y hy => ?_⟩
        exact hno y (List.getElem?_eq_some_iff.1 hy).1 hy

/-- A question that is answered of every element finds a place. -/
theorem narrow_total {before : α → Except Fault Bool} {xs : List α}
    (h : ∀ y ∈ xs, ∃ b, before y = .ok b) :
    ∀ (steps low high : Nat), ∃ i, narrow before xs steps low high = .ok i := by
  intro steps
  induction steps with
  | zero => exact fun low _ => ⟨low, rfl⟩
  | succ steps ih =>
    intro low high
    rw [narrow]
    split
    · split
      · exact ⟨low, rfl⟩
      · next y hy =>
        obtain ⟨b, hb⟩ := h y (List.mem_of_getElem? hy)
        rw [hb]
        cases b with
        | true => exact ih _ _
        | false => exact ih _ _
    · exact ⟨low, rfl⟩

/-- A search that gets an answer about every element arrives somewhere. -/
theorem search_total {before : α → Except Fault Bool} {xs : List α}
    (h : ∀ y ∈ xs, ∃ b, before y = .ok b) : ∃ i, search before xs = .ok i := by
  unfold search
  split
  · exact ⟨0, rfl⟩
  · next last hlast =>
    obtain ⟨b, hb⟩ := h last (List.mem_of_getLast? hlast)
    rw [hb]
    cases b with
    | true => exact ⟨_, rfl⟩
    | false => exact narrow_total h _ _ _

/-- A search fails only as its question does, of some element. -/
theorem narrow_error {before : α → Except Fault Bool} {xs : List α} {e : Fault} :
    ∀ {steps low high : Nat}, narrow before xs steps low high = .error e →
      ∃ y ∈ xs, before y = .error e := by
  intro steps
  induction steps with
  | zero => exact fun h => nomatch h
  | succ steps ih =>
    intro low high h
    rw [narrow] at h
    split at h
    · split at h
      · cases h
      · next y hy =>
        split at h
        · next f hf =>
          cases h
          exact ⟨y, List.mem_of_getElem? hy, hf⟩
        · exact ih h
        · exact ih h
    · cases h

/-- What a search fails with is the error about some element. -/
private theorem search_error {before : α → Except Fault Bool} {xs : List α} {e : Fault}
    (h : search before xs = .error e) : ∃ y ∈ xs, before y = .error e := by
  unfold search at h
  split at h
  · cases h
  · next last hlast =>
    split at h
    · next f hf =>
      cases h
      exact ⟨last, List.mem_of_getLast? hlast, hf⟩
    · cases h
    · exact narrow_error h

/-- The place that is decided parts the elements of which the question may
hold from those of which it may not. -/
theorem Decided.eq_of_split {before : α → Except Fault Bool} {xs : List α} {i k : Nat}
    (hd : Decided before xs i) (hk : k ≤ xs.length)
    (hyes : ∀ y ∈ xs.take k, before y ≠ .ok false)
    (hno : ∀ y ∈ xs.drop k, before y ≠ .ok true) : i = k := by
  rcases Nat.lt_trichotomy i k with hlt | rfl | hgt
  · have hil : i < xs.length := by omega
    have hmem : xs[i] ∈ xs.take k := List.mem_take_iff_getElem.2 ⟨i, by omega, rfl⟩
    exact absurd (hd.no _ (List.getElem?_eq_getElem hil)) (hyes _ hmem)
  · rfl
  · have hle := hd.le_length
    have hil : i - 1 < xs.length := by omega
    have hmem : xs[i - 1] ∈ xs.drop k :=
      List.mem_drop_iff_getElem.2 ⟨i - 1 - k, by omega, by congr 1; omega⟩
    exact absurd (hd.yes (i - 1) _ (by omega) (List.getElem?_eq_getElem hil)) (hno _ hmem)

/-- A question that holds of the first `k` elements and of no other is
answered by `k`. -/
theorem search_of_split {before : α → Except Fault Bool} {xs : List α} {k : Nat}
    (hk : k ≤ xs.length) (hyes : ∀ y ∈ xs.take k, before y = .ok true)
    (hno : ∀ y ∈ xs.drop k, before y = .ok false) : search before xs = .ok k := by
  have htotal : ∀ y ∈ xs, ∃ b, before y = .ok b := by
    intro y hy
    rw [← List.take_append_drop k xs, List.mem_append] at hy
    rcases hy with hy | hy
    · exact ⟨true, hyes y hy⟩
    · exact ⟨false, hno y hy⟩
  obtain ⟨i, hi⟩ := search_total htotal
  obtain rfl := (search_decided hi).eq_of_split hk
    (fun y hy => by rw [hyes y hy]; exact fun h => nomatch h)
    (fun y hy => by rw [hno y hy]; exact fun h => nomatch h)
  exact hi

-- ============================================================ looking up

variable {c : Comparison} {key : α → Value} {xs : List α} {x : Value} {a : α}

/-- What is found compares zero with the probe. -/
theorem find_some {i : Nat} (h : find c key xs x = .ok (some i)) :
    ∃ y, xs[i]? = some y ∧ c.Gives (key y) x .eq := by
  unfold find at h
  split at h
  · cases h
  · next k hk =>
    split at h
    · cases h
    · next y hy =>
      cases hr : c (key y) x with
      | error e => rw [hr] at h; cases h
      | ok r =>
        rw [hr, Except.map] at h
        injection h with h
        split at h
        · next hz =>
          injection h with h
          subst h
          exact ⟨y, hy, r, hr, (Answer.isZero_iff r).1 hz⟩
        · cases h

/-- What is found is at a place of the list. -/
theorem find_some_lt {i : Nat} (h : find c key xs x = .ok (some i)) : i < xs.length := by
  obtain ⟨y, hy, -⟩ := find_some h
  exact (List.getElem?_eq_some_iff.1 hy).1

/-- A look-up that finds nothing has a place at which nothing compares zero
with the probe. -/
theorem find_none (h : find c key xs x = .ok none) :
    ∃ i, lowerBound c key xs x = .ok i
      ∧ ∀ y, xs[i]? = some y → (c (key y) x).map Answer.isZero = .ok false := by
  unfold find at h
  split at h
  · cases h
  · next k hk =>
    refine ⟨k, hk, fun y hy => ?_⟩
    rw [hy] at h
    dsimp only at h
    cases hr : c (key y) x with
    | error e => rw [hr] at h; cases h
    | ok r =>
      rw [hr, Except.map] at h
      injection h with h
      cases hz : r.isZero with
      | false => exact congrArg Except.ok hz
      | true => rw [hz] at h; cases h

-- ============================================================ keys alone

private theorem narrow_map {β : Type} (f : α → β) (before : β → Except Fault Bool) (xs : List α) :
    ∀ steps low high : Nat, narrow before (xs.map f) steps low high
      = narrow (before ∘ f) xs steps low high := by
  intro steps
  induction steps with
  | zero => exact fun _ _ => rfl
  | succ steps ih =>
    intro low high
    simp only [narrow, List.getElem?_map, ih]
    cases xs[(low + high) / 2]? <;> rfl

/-- Searching images is searching by the images. -/
theorem search_map {β : Type} (f : α → β) (before : β → Except Fault Bool) (xs : List α) :
    search before (xs.map f) = search (before ∘ f) xs := by
  simp only [search, List.getLast?_map, List.length_map, narrow_map]
  cases xs.getLast? <;> rfl

/-- A look-up asks about keys alone. -/
theorem find_map (c : Comparison) (key : α → Value) (xs : List α) (x : Value) :
    find c id (xs.map key) x = find c key xs x := by
  unfold find lowerBound
  rw [search_map]
  dsimp only [id, Function.comp_def]
  cases search (fun y => (c (key y) x).map Answer.isNegative) xs with
  | error e => rfl
  | ok i =>
    simp only [List.getElem?_map]
    cases xs[i]? <;> rfl

/-- Only the keys of the elements matter. -/
theorem find_congr {β : Type} {key' : β → Value} {ys : List β}
    (h : xs.map key = ys.map key') : find c key xs x = find c key' ys x := by
  rw [← find_map c key, ← find_map c key', h]

-- ====================================================== what is told alone

/-- Halving goes by the answers to the question, whatever the errors are. -/
theorem narrow_congr {before before' : α → Except Fault Bool} {xs : List α}
    (h : ∀ y ∈ xs, (before y).toOption = (before' y).toOption) :
    ∀ steps low high : Nat,
      (narrow before xs steps low high).toOption = (narrow before' xs steps low high).toOption := by
  intro steps
  induction steps with
  | zero => exact fun _ _ => rfl
  | succ steps ih =>
    intro low high
    rw [narrow, narrow]
    split
    · split
      · rfl
      · next y hy =>
        rcases cases_of_toOption_eq (h y (List.mem_of_getElem? hy)) with
          ⟨e, f, he, hf⟩ | ⟨b, hb, hb'⟩
        · rw [he, hf]
          rfl
        · rw [hb, hb']
          cases b with
          | true => exact ih _ _
          | false => exact ih _ _
    · rfl

/-- A search does not tell apart two tests that fail on the same elements. -/
private theorem search_congr {before before' : α → Except Fault Bool} {xs : List α}
    (h : ∀ y ∈ xs, (before y).toOption = (before' y).toOption) :
    (search before xs).toOption = (search before' xs).toOption := by
  unfold search
  split
  · rfl
  · next last hlast =>
    rcases cases_of_toOption_eq (h last (List.mem_of_getLast? hlast)) with
      ⟨e, f, he, hf⟩ | ⟨b, hb, hb'⟩
    · rw [he, hf]
      rfl
    · rw [hb, hb']
      cases b with
      | true => rfl
      | false => exact narrow_congr h _ _ _

section Told

variable {key' : α → Value} {x' : Value}

private theorem lowerBound_told (h : ∀ y ∈ xs, c.told (key y) x = c.told (key' y) x') :
    (lowerBound c key xs x).toOption = (lowerBound c key' xs x').toOption :=
  search_congr fun y hy =>
    Comparison.map_congr_of_told (· == some .lt) Answer.isNegative_eq (h y hy)

theorem upperBound_told (h : ∀ y ∈ xs, c.told x (key y) = c.told x' (key' y)) :
    (upperBound c key xs x).toOption = (upperBound c key' xs x').toOption :=
  search_congr fun y hy =>
    Comparison.map_congr_of_told (fun side => !(side == some .lt))
      (fun r => congrArg not r.isNegative_eq) (h y hy)

/-- A look-up goes by what the comparator tells. -/
theorem find_told (h : ∀ y ∈ xs, c.told (key y) x = c.told (key' y) x') :
    (find c key xs x).toOption = (find c key' xs x').toOption := by
  unfold find
  rcases cases_of_toOption_eq (lowerBound_told h) with ⟨e, f, he, hf⟩ | ⟨i, hi, hi'⟩
  · rw [he, hf]
    rfl
  · rw [hi, hi']
    dsimp only
    split
    · rfl
    · next y hy =>
      refine Comparison.map_congr_of_told (fun side => if side == some .eq then some i else none)
        (fun r => ?_) (h y (List.mem_of_getElem? hy))
      rw [r.isZero_eq]

end Told

-- ======================================================== ascending lists

/-- Each element is below every later one, not only below the next. -/
def Ascends (c : Comparison) (key : α → Value) (xs : List α) : Prop :=
  xs.Pairwise fun a b => c.Gives (key a) (key b) .lt

/-- Elements of an ascending list about which the bounds of a search speak
for all: what is before an element below the probe is below the probe. -/
theorem lowerBound_split {D : Value → Prop} (hc : c.ConsistentOn D) (hxs : ∀ y ∈ xs, D (key y))
    (hx : D x) (hasc : Ascends c key xs) {i : Nat} (h : lowerBound c key xs x = .ok i) :
    ∀ y ∈ xs.take i, c.Gives (key y) x .lt := by
  have hd := search_decided h
  intro y hy
  obtain ⟨j, hj, rfl⟩ := List.mem_take_iff_getElem.1 hy
  have hi : i - 1 < xs.length := by have := hd.le_length; omega
  have hlast : c.Gives (key xs[i - 1]) x .lt :=
    Comparison.gives_lt_of_isNegative (hd.yes (i - 1) _ (by omega) (List.getElem?_eq_getElem hi))
  by_cases hji : j = i - 1
  · subst hji
    exact hlast
  · have hlt : c.Gives (key xs[j]) (key xs[i - 1]) .lt :=
      List.pairwise_iff_getElem.1 hasc j (i - 1) (by omega) hi (by omega)
    exact hc.trans _ _ _ (hxs _ (List.getElem_mem _)) (hxs _ (List.getElem_mem _)) hx hlt hlast

/-- Where a look-up finds nothing, its place parts what is below the probe
from what the probe is below. -/
theorem find_none_split {D : Value → Prop} (hc : c.ConsistentOn D) (hxs : ∀ y ∈ xs, D (key y))
    (hx : D x) (hasc : Ascends c key xs) (h : find c key xs x = .ok none) :
    ∃ i ≤ xs.length, lowerBound c key xs x = .ok i
      ∧ (∀ y ∈ xs.take i, c.Gives (key y) x .lt) ∧ ∀ y ∈ xs.drop i, c.Gives x (key y) .lt := by
  obtain ⟨i, hi, hzero⟩ := find_none h
  have hd := search_decided hi
  refine ⟨i, hd.le_length, hi, lowerBound_split hc hxs hx hasc hi, fun y hy => ?_⟩
  obtain ⟨j, hj, rfl⟩ := List.mem_drop_iff_getElem.1 hy
  have hil : i < xs.length := by omega
  have hfirst : c.Gives x (key xs[i]) .lt :=
    hc.gives_lt_swap (hxs _ (List.getElem_mem _)) hx (hd.no _ (List.getElem?_eq_getElem hil))
      (hzero _ (List.getElem?_eq_getElem hil))
  cases j with
  | zero => exact hfirst
  | succ j =>
    have hlt : c.Gives (key xs[i]) (key xs[i + (j + 1)]) .lt :=
      List.pairwise_iff_getElem.1 hasc i (i + (j + 1)) hil (by omega) (by omega)
    exact hc.trans _ _ _ hx (hxs _ (List.getElem_mem _)) (hxs _ (List.getElem_mem _)) hfirst hlt

/-- After a look-up that found nothing an insertion does not fail: its search
ends where the other one did, and parts what is below the probe from what
the probe is below. -/
theorem bounds_of_absent {D : Value → Prop} (hc : c.ConsistentOn D) (hxs : ∀ y ∈ xs, D (key y))
    (hx : D x) (hasc : Ascends c key xs) (h : find c key xs x = .ok none) :
    ∃ i ≤ xs.length, lowerBound c key xs x = .ok i ∧ upperBound c key xs x = .ok i
      ∧ (∀ y ∈ xs.take i, c.Gives (key y) x .lt) ∧ ∀ y ∈ xs.drop i, c.Gives x (key y) .lt := by
  obtain ⟨i, hi, hlower, hbelow, habove⟩ := find_none_split hc hxs hx hasc h
  refine ⟨i, hi, hlower, search_of_split hi (fun y hy => ?_) (fun y hy => ?_), hbelow, habove⟩
  · exact (hc.swap (hxs _ (List.mem_of_mem_take hy)) hx (hbelow y hy)).isNotNegative
  · exact (habove y hy).isNotNegative

/-- The place that an insertion finds parts the list. -/
theorem upperBound_of_absent {D : Value → Prop} (hc : c.ConsistentOn D) (hxs : ∀ y ∈ xs, D (key y))
    (hx : D x) (hasc : Ascends c key xs) (h : find c key xs x = .ok none) :
    ∃ low high, xs = low ++ high ∧ upperBound c key xs x = .ok low.length
      ∧ (∀ y ∈ low, c.Gives (key y) x .lt) ∧ ∀ y ∈ high, c.Gives x (key y) .lt := by
  obtain ⟨i, hi, -, hupper, hbelow, habove⟩ := bounds_of_absent hc hxs hx hasc h
  refine ⟨xs.take i, xs.drop i, (List.take_append_drop i xs).symm, ?_, hbelow, habove⟩
  rw [List.length_take_of_le hi]
  exact hupper

/-- The parts of a list around the place where an absent element goes. -/
theorem absent_parted {D : Value → Prop} {low high : List α} (hc : c.ConsistentOn D)
    (hxs : ∀ y ∈ xs, D (key y)) (hx : D x) (hasc : Ascends c key xs)
    (h : find c key xs x = .ok none) (hparts : xs = low ++ high)
    (hu : upperBound c key xs x = .ok low.length) :
    (∀ y ∈ low, c.Gives (key y) x .lt) ∧ ∀ y ∈ high, c.Gives x (key y) .lt := by
  obtain ⟨low', high', hparts', hu', hbelow, habove⟩ := upperBound_of_absent hc hxs hx hasc h
  rw [hu] at hu'
  injection hu' with hlen
  rw [hparts'] at hparts
  obtain ⟨rfl, rfl⟩ := List.append_inj hparts hlen.symm
  exact ⟨hbelow, habove⟩

/-- A list with an element put in between is the two parts around it. -/
theorem insertIdx_eq {xs : List α} {i : Nat} (hi : i ≤ xs.length) (a : α) :
    xs.insertIdx i a = xs.take i ++ a :: xs.drop i := by
  obtain ⟨low, high, hparts, rfl, hins⟩ := List.exists_of_modifyTailIdx (a :: ·) hi
  refine hins.trans ?_
  rw [hparts, List.take_left, List.drop_left]

/-- An insertion puts the element between the parts that its search finds. -/
theorem insert_of_upperBound {low high : List α} (hparts : xs = low ++ high)
    (hu : upperBound c key xs (key a) = .ok low.length) :
    insert c key xs a = .ok (low ++ a :: high) := by
  rw [insert, hu, hparts]
  dsimp only [Except.map]
  rw [insertIdx_eq (by simp), List.take_left, List.drop_left]

/-- An ascending list stays so with an element put in where it belongs. -/
theorem Ascends.insert {low high : List α} (hasc : Ascends c key (low ++ high))
    (hbelow : ∀ y ∈ low, c.Gives (key y) (key a) .lt)
    (habove : ∀ y ∈ high, c.Gives (key a) (key y) .lt) :
    Ascends c key (low ++ a :: high) := by
  unfold Ascends at hasc ⊢
  rw [List.pairwise_append] at hasc ⊢
  obtain ⟨hlow, hhigh, hcross⟩ := hasc
  refine ⟨hlow, List.pairwise_cons.2 ⟨habove, hhigh⟩, fun y hy z hz => ?_⟩
  rcases List.mem_cons.1 hz with rfl | hz
  · exact hbelow y hy
  · exact hcross y hy z hz

/-- What is left of an ascending list ascends. -/
theorem Ascends.sublist {ys : List α} (hasc : Ascends c key xs) (h : ys.Sublist xs) :
    Ascends c key ys :=
  List.Pairwise.sublist h hasc

-- ================================================== known relations

/-- Among elements below and above the probe the one equivalent to it is
found. -/
theorem find_of_parted {before after : List α} {y : α}
    (hbefore : ∀ z ∈ before, c.Gives (key z) x .lt) (hy : c.Gives (key y) x .eq)
    (hafter : ∀ z ∈ after, c.Gives (key z) x .gt) :
    find c key (before ++ y :: after) x = .ok (some before.length) := by
  have hbound : lowerBound c key (before ++ y :: after) x = .ok before.length := by
    refine search_of_split (by simp) ?_ ?_
    · rw [List.take_left]
      exact fun z hz => (hbefore z hz).isNegative
    · rw [List.drop_left, List.forall_mem_cons]
      exact ⟨hy.isNegative, fun z hz => (hafter z hz).isNegative⟩
  have helement : (before ++ y :: after)[before.length]? = some y := by simp
  rw [find, hbound]
  dsimp only
  rw [helement]
  obtain ⟨r, hr, hside⟩ := hy
  dsimp only
  rw [hr, Except.map, (Answer.isZero_iff r).2 hside]
  rfl

/-- Among elements below and above the probe the one that cannot be compared
with it is come upon. -/
theorem find_of_refused {before after : List α} {y : α} {e : Fault}
    (hbefore : ∀ z ∈ before, c.Gives (key z) x .lt) (hy : c (key y) x = .error e)
    (hafter : ∀ z ∈ after, c.Gives (key z) x .gt) :
    find c key (before ++ y :: after) x = .error e := by
  have hmap : (c (key y) x).map Answer.isNegative = .error e := by
    rw [hy]
    rfl
  rw [find]
  cases hbound : lowerBound c key (before ++ y :: after) x with
  | error f =>
    obtain ⟨z, hz, hf⟩ := search_error hbound
    rw [List.mem_append, List.mem_cons] at hz
    rcases hz with hz | rfl | hz
    · rw [(hbefore z hz).isNegative] at hf
      cases hf
    · rw [hmap] at hf
      cases hf
      rfl
    · rw [(hafter z hz).isNegative] at hf
      cases hf
  | ok i =>
    -- No place is decided but the one of `y`, which would have been asked about.
    have hd := search_decided hbound
    obtain rfl := hd.eq_of_split (k := before.length) (by simp)
      (by
        rw [List.take_left]
        intro z hz
        rw [(hbefore z hz).isNegative]
        exact fun h => nomatch h)
      (by
        rw [List.drop_left, List.forall_mem_cons, hmap]
        refine ⟨(fun h => nomatch h), fun z hz => ?_⟩
        rw [(hafter z hz).isNegative]
        exact fun h => nomatch h)
    have hno := hd.no y (by simp)
    rw [hmap] at hno
    cases hno

/-- Where all elements are below the probe it is not found. -/
theorem find_of_below (h : ∀ z ∈ xs, c.Gives (key z) x .lt) : find c key xs x = .ok none := by
  have hbound : lowerBound c key xs x = .ok xs.length := by
    refine search_of_split (Nat.le_refl _) ?_ ?_
    · rw [List.take_length]
      exact fun z hz => (h z hz).isNegative
    · rw [List.drop_length]
      exact fun z hz => absurd hz List.not_mem_nil
  rw [find, hbound]
  dsimp only
  rw [List.getElem?_eq_none (Nat.le_refl _)]

/-- An element above all others goes to the end. -/
theorem insert_of_below {a : α} (h : ∀ z ∈ xs, c.Gives (key a) (key z) .gt) :
    insert c key xs a = .ok (xs ++ [a]) := by
  have hbound : upperBound c key xs (key a) = .ok xs.length := by
    refine search_of_split (Nat.le_refl _) ?_ ?_
    · rw [List.take_length]
      exact fun z hz => (h z hz).isNotNegative
    · rw [List.drop_length]
      exact fun z hz => absurd hz List.not_mem_nil
  exact insert_of_upperBound (List.append_nil xs).symm hbound

end Collation.Bisect
