/-
What it is for a list to be sorted, when equivalent elements may differ
and their order counts.

The order is given by what is strictly below what, as a sort asks for it.
Two things are said of a result: it ascends (`Ascending`), and it is a
stable rearrangement of what there was (`Stably`), which is to have the
same elements, and of each class of equivalents the same ones in the same
order. The second is an equivalence that joining lists respects, so it is
carried through a sort piece by piece; the only thing that ever has to be
shown is that two pieces may change places (`Stably.exchange`). Together
the two leave one list (`eq_of_stably`), the one that the library's
merge sort gives (`eq_mergeSort`).
-/
import Collation.Sorting
import Mathlib.Data.List.Basic

namespace Collation.Sorting

variable {α : Type} {lt : α → α → Bool} {x y z : α} {xs ys zs xs' ys' : List α}

/-- Being below, for an order that tells some elements apart and leaves the
others equivalent. -/
structure StrictWeak (lt : α → α → Bool) : Prop where
  asymm : ∀ x y, lt x y = true → lt y x = false
  not_below_trans : ∀ x y z, lt x y = false → lt y z = false → lt x z = false

namespace StrictWeak

/-- Nothing is below itself. -/
theorem irrefl (h : StrictWeak lt) (x : α) : lt x x = false := by
  cases hx : lt x x with
  | false => rfl
  | true => exact hx.symm.trans (h.asymm x x hx)

/-- Below what is not above. -/
theorem lt_of_lt_of_le (h : StrictWeak lt) (hxy : lt x y = true) (hyz : lt z y = false) :
    lt x z = true := by
  cases hxz : lt x z with
  | true => rfl
  | false => exact (h.not_below_trans x z y hxz hyz).symm.trans hxy

/-- Not above what is below. -/
theorem lt_of_le_of_lt (h : StrictWeak lt) (hxy : lt y x = false) (hyz : lt y z = true) :
    lt x z = true := by
  cases hxz : lt x z with
  | true => rfl
  | false => exact (h.not_below_trans y x z hxy hxz).symm.trans hyz

/-- Below what is below. -/
theorem trans (h : StrictWeak lt) (hxy : lt x y = true) (hyz : lt y z = true) : lt x z = true :=
  h.lt_of_lt_of_le hxy (h.asymm y z hyz)

/-- The same order from the other end. -/
theorem flip (h : StrictWeak lt) : StrictWeak fun x y => lt y x where
  asymm x y := h.asymm y x
  not_below_trans x y z hxy hyz := h.not_below_trans z y x hyz hxy

end StrictWeak

-- =========================================================== ascending

/-- No element is below an earlier one. -/
def Ascending (lt : α → α → Bool) (xs : List α) : Prop := xs.Pairwise fun x y => lt y x = false

theorem Ascending.nil : Ascending lt ([] : List α) := List.Pairwise.nil

theorem Ascending.singleton (x : α) : Ascending lt [x] := List.pairwise_singleton _ _

/-- Two ascending lists, nothing of the second below the first. -/
theorem ascending_append :
    Ascending lt (xs ++ ys)
      ↔ Ascending lt xs ∧ Ascending lt ys ∧ ∀ x ∈ xs, ∀ y ∈ ys, lt y x = false :=
  List.pairwise_append

/-- The beginning of an ascending list ascends. -/
theorem Ascending.take (h : Ascending lt xs) (n : Nat) : Ascending lt (xs.take n) :=
  h.sublist (List.take_sublist n xs)

/-- So does the rest. -/
theorem Ascending.drop (h : Ascending lt xs) (n : Nat) : Ascending lt (xs.drop n) :=
  h.sublist (List.drop_sublist n xs)

/-- Nothing is below the head. -/
theorem Ascending.head_least (hlt : StrictWeak lt) (h : Ascending lt xs) (hx : xs.head? = some x) :
    ∀ y ∈ xs, lt y x = false := by
  obtain ⟨ys, rfl⟩ := List.head?_eq_some_iff.1 hx
  intro y hy
  rcases List.mem_cons.1 hy with rfl | hy
  · exact hlt.irrefl y
  · exact (List.pairwise_cons.1 h).1 y hy

/-- The last element is below nothing. -/
theorem Ascending.last_greatest (hlt : StrictWeak lt) (h : Ascending lt xs)
    (hx : xs.getLast? = some x) : ∀ y ∈ xs, lt x y = false := by
  obtain ⟨ys, rfl⟩ := List.getLast?_eq_some_iff.1 hx
  intro y hy
  rcases List.mem_append.1 hy with hy | hy
  · exact (ascending_append.1 h).2.2 y hy x (List.mem_singleton_self x)
  · rw [List.mem_singleton.1 hy]
    exact hlt.irrefl x

/-- Read backwards, an ascending list ascends in the order from the other
end. -/
theorem ascending_reverse :
    Ascending (fun x y => lt y x) xs.reverse ↔ Ascending lt xs :=
  List.pairwise_reverse

-- ================================================== stable rearrangement

/-- Neither element is below the other. -/
def alike (lt : α → α → Bool) (x y : α) : Bool := !lt x y && !lt y x

private theorem alike_flip : alike (fun x y => lt y x) = alike lt := by
  funext x y
  exact Bool.and_comm _ _

/-- The same elements, equivalent ones in the same order. -/
structure Stably (lt : α → α → Bool) (xs ys : List α) : Prop where
  perm : xs.Perm ys
  class_eq : ∀ x, xs.filter (alike lt x) = ys.filter (alike lt x)

namespace Stably

theorem refl (xs : List α) : Stably lt xs xs := ⟨.refl xs, fun _ => rfl⟩

theorem symm (h : Stably lt xs ys) : Stably lt ys xs :=
  ⟨h.perm.symm, fun x => (h.class_eq x).symm⟩

theorem trans (h : Stably lt xs ys) (h' : Stably lt ys zs) : Stably lt xs zs :=
  ⟨h.perm.trans h'.perm, fun x => (h.class_eq x).trans (h'.class_eq x)⟩

private theorem append (h : Stably lt xs ys) (h' : Stably lt xs' ys') :
    Stably lt (xs ++ xs') (ys ++ ys') := by
  refine ⟨h.perm.append h'.perm, fun x => ?_⟩
  rw [List.filter_append, List.filter_append, h.class_eq, h'.class_eq]

/-- What stands before is left alone. -/
theorem append_left (zs : List α) (h : Stably lt xs ys) : Stably lt (zs ++ xs) (zs ++ ys) :=
  (refl zs).append h

/-- So is what stands behind. -/
theorem append_right (h : Stably lt xs ys) (zs : List α) : Stably lt (xs ++ zs) (ys ++ zs) :=
  h.append (refl zs)

theorem cons (x : α) (h : Stably lt xs ys) : Stably lt (x :: xs) (x :: ys) := h.append_left [x]

/-- Rearranged lists are rearranged seen from the end. -/
theorem reverse (h : Stably lt xs ys) : Stably lt xs.reverse ys.reverse := by
  refine ⟨(List.reverse_perm xs).trans (h.perm.trans (List.reverse_perm ys).symm), fun x => ?_⟩
  rw [List.filter_reverse, List.filter_reverse, h.class_eq]

/-- So they are by the order turned round. -/
theorem flip (h : Stably (fun x y => lt y x) xs ys) : Stably lt xs ys := by
  refine ⟨h.perm, fun x => ?_⟩
  have hclass := h.class_eq x
  rwa [alike_flip] at hclass

/-- Two parts may change places if each element of the one is below each
of the other: no class has elements in both. -/
theorem exchange (hlt : StrictWeak lt) (h : ∀ x ∈ xs, ∀ y ∈ ys, lt y x = true) :
    Stably lt (xs ++ ys) (ys ++ xs) := by
  refine ⟨List.perm_append_comm, fun z => ?_⟩
  rw [List.filter_append, List.filter_append]
  have hempty : xs.filter (alike lt z) = [] ∨ ys.filter (alike lt z) = [] := by
    by_contra hboth
    rw [not_or] at hboth
    obtain ⟨x, hx⟩ := List.exists_mem_of_ne_nil _ hboth.1
    obtain ⟨y, hy⟩ := List.exists_mem_of_ne_nil _ hboth.2
    simp only [List.mem_filter, alike, Bool.and_eq_true, Bool.not_eq_true'] at hx hy
    have hxy := h x hx.1 y hy.1
    rw [hlt.not_below_trans y z x hy.2.2 hx.2.1] at hxy
    cases hxy
  rcases hempty with hnil | hnil
  · rw [hnil, List.nil_append, List.append_nil]
  · rw [hnil, List.nil_append, List.append_nil]

end Stably

/-- Where a list that ascends strictly from the other end is turned round,
nothing has equivalents. -/
theorem stably_reverse (hlt : StrictWeak lt) (h : xs.Pairwise fun x y => lt y x = true) :
    Stably lt xs.reverse xs := by
  induction xs with
  | nil => exact .refl []
  | cons x xs ih =>
    rw [List.pairwise_cons] at h
    rw [List.reverse_cons]
    refine ((ih h.2).append_right [x]).trans ?_
    refine (Stably.exchange hlt fun y hy z hz => ?_).symm
    rw [List.mem_singleton] at hy
    subst hy
    exact h.1 z hz

/-- Of two ascending lists that are stable rearrangements of one another
there is only one. -/
theorem eq_of_stably (hlt : StrictWeak lt) (hxs : Ascending lt xs) (hys : Ascending lt ys)
    (h : Stably lt xs ys) : xs = ys := by
  induction xs generalizing ys with
  | nil => exact (List.nil_perm.1 h.perm).symm
  | cons x xs ih =>
    cases ys with
    | nil => exact List.perm_nil.1 h.perm
    | cons y ys =>
      obtain ⟨hx, hxs'⟩ := List.pairwise_cons.1 hxs
      obtain ⟨hy, hys'⟩ := List.pairwise_cons.1 hys
      -- both heads are least, hence equivalent, hence the first of one class
      have hxy : lt x y = false := by
        rcases List.mem_cons.1 (h.perm.mem_iff.1 List.mem_cons_self) with rfl | hmem
        · exact hlt.irrefl x
        · exact hy x hmem
      have hyx : lt y x = false := by
        rcases List.mem_cons.1 (h.perm.mem_iff.2 List.mem_cons_self) with rfl | hmem
        · exact hlt.irrefl y
        · exact hx y hmem
      have hclass := h.class_eq x
      have halike : ∀ z, lt x z = false → lt z x = false → alike lt x z = true := by
        intro z h1 h2
        rw [alike, h1, h2]
        rfl
      rw [List.filter_cons_of_pos (halike x (hlt.irrefl x) (hlt.irrefl x)),
        List.filter_cons_of_pos (halike y hxy hyx)] at hclass
      obtain rfl : x = y := (List.cons.inj hclass).1
      refine congrArg _ (ih hxs' hys' ⟨h.perm.cons_inv, fun z => ?_⟩)
      have hz := h.class_eq z
      by_cases hzx : alike lt z x = true
      · rw [List.filter_cons_of_pos hzx, List.filter_cons_of_pos hzx] at hz
        exact (List.cons.inj hz).2
      · rwa [List.filter_cons_of_neg hzx, List.filter_cons_of_neg hzx] at hz

-- ================================================== the library's sort

/-- The question that the library's sort asks. -/
def upTo (lt : α → α → Bool) (x y : α) : Bool := !lt y x

/-- Not above, in two steps. -/
theorem StrictWeak.upTo_trans (h : StrictWeak lt) (x y z : α) (hxy : upTo lt x y = true)
    (hyz : upTo lt y z = true) : upTo lt x z = true := by
  rw [upTo, Bool.not_eq_true'] at hxy hyz ⊢
  exact h.not_below_trans z y x hyz hxy

/-- Of two elements one is not above the other. -/
theorem StrictWeak.upTo_total (h : StrictWeak lt) (x y : α) :
    (upTo lt x y || upTo lt y x) = true := by
  unfold upTo
  cases hyx : lt y x with
  | false => rfl
  | true =>
    rw [h.asymm y x hyx]
    rfl

/-- To ascend, as the library sorts. -/
theorem ascending_iff_upTo : Ascending lt xs ↔ xs.Pairwise fun x y => upTo lt x y = true := by
  simp only [Ascending, upTo, Bool.not_eq_true']

private theorem ascending_mergeSort (hlt : StrictWeak lt) (xs : List α) :
    Ascending lt (xs.mergeSort (upTo lt)) :=
  ascending_iff_upTo.2 (List.pairwise_mergeSort hlt.upTo_trans hlt.upTo_total xs)

/-- It keeps equivalents in their order. -/
private theorem stably_mergeSort (hlt : StrictWeak lt) (xs : List α) :
    Stably lt (xs.mergeSort (upTo lt)) xs := by
  have hperm := List.mergeSort_perm xs (upTo lt)
  refine ⟨hperm, fun x => ?_⟩
  have hpair : (xs.filter (alike lt x)).Pairwise fun y z => upTo lt y z = true := by
    refine List.pairwise_of_forall_mem_list fun y hy z hz => ?_
    simp only [List.mem_filter, alike, Bool.and_eq_true, Bool.not_eq_true'] at hy hz
    rw [upTo, hlt.not_below_trans z x y hz.2.2 hy.2.1]
    rfl
  have hsub := (List.sublist_mergeSort hlt.upTo_trans hlt.upTo_total hpair
    List.filter_sublist).filter (alike lt x)
  simp only [List.filter_filter, Bool.and_self] at hsub
  exact (hsub.eq_of_length (hperm.filter _).length_eq.symm).symm

/-- An ascending stable rearrangement is what the library's sort gives. -/
theorem eq_mergeSort (hlt : StrictWeak lt) (hys : Ascending lt ys) (h : Stably lt ys xs) :
    ys = xs.mergeSort (upTo lt) :=
  eq_of_stably hlt hys (ascending_mergeSort hlt xs) (h.trans (stably_mergeSort hlt xs).symm)

end Collation.Sorting
