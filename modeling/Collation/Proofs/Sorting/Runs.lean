/-
The runs that a sort starts from. A list is cut into a run at its head and
the rest; the run ascends, and run and rest together are a stable
rearrangement of the list (`Cut`): turning a run round that descends keeps
classes in order because it descends strictly, and inserting an element
after its equals does because it jumps over greater ones only.

A question may be answered of some elements only. The lemmas are about
lists of elements of which every question is answered, by an order
(`Answers`); such a sort asks no other ones.
-/
import Collation.Proofs.Sorting.Order

namespace Collation.Sorting

variable {α ε : Type} {below : α → α → Except ε Bool} {lt : α → α → Bool} {P : α → Prop}
  {x : α} {xs ys : List α}

/-- Of elements with a property, a question is answered by an order. -/
def Answers (below : α → α → Except ε Bool) (lt : α → α → Bool) (P : α → Prop) : Prop :=
  ∀ x y, P x → P y → below x y = .ok (lt x y)

/-- A run at the head of a list, and what follows. -/
structure Cut (lt : α → α → Bool) (xs run rest : List α) : Prop where
  ascending : Ascending lt run
  stably : Stably lt (run ++ rest) xs
  nonempty : xs ≠ [] → run ≠ []

-- =============================================================== chains

/-- The length of a run is that of a chain, each element being below the
one before it or each being not. -/
theorem runLength_eq (ha : Answers below lt P) (descending : Bool) :
    ∀ (xs : List α) (previous : α), P previous → (∀ x ∈ xs, P x) →
      ∃ n, runLength below descending previous xs = .ok n ∧
        (previous :: xs.take n).IsChain fun x y => lt y x = descending := by
  intro xs
  induction xs with
  | nil => exact fun _ _ _ => ⟨0, rfl, List.IsChain.singleton _⟩
  | cons x xs ih =>
    intro previous hprevious hxs
    rw [List.forall_mem_cons] at hxs
    rw [runLength, ha x previous hxs.1 hprevious]
    by_cases hd : lt x previous = descending
    · obtain ⟨n, hn, hchain⟩ := ih x hxs.1 hxs.2
      refine ⟨n + 1, ?_, ?_⟩
      · simp only [bind, Except.bind, hd, BEq.rfl, if_true, hn, pure, Except.pure]
      · rw [List.take_succ_cons, List.isChain_cons_cons]
        exact ⟨hd, hchain⟩
    · refine ⟨0, ?_, List.IsChain.singleton _⟩
      simp only [bind, Except.bind, beq_eq_false_iff_ne.2 hd, pure, Except.pure]
      rfl

/-- The run at the head of a list. -/
theorem firstRun_cut (hlt : StrictWeak lt) (ha : Answers below lt P) (hxs : ∀ x ∈ xs, P x) :
    ∃ run rest, firstRun below xs = .ok (run, rest) ∧ Cut lt xs run rest := by
  match xs, hxs with
  | [], _ => exact ⟨[], [], rfl, .nil, .refl [], fun h => absurd rfl h⟩
  | [x], _ => exact ⟨[x], [], rfl, .singleton x, .refl [x], fun _ => List.cons_ne_nil x []⟩
  | x :: y :: rest, hxs =>
    rw [List.forall_mem_cons, List.forall_mem_cons] at hxs
    obtain ⟨hx, hy, hrest⟩ := hxs
    obtain ⟨n, hn, hchain⟩ := runLength_eq ha (lt y x) rest y hy hrest
    have hchain : (x :: y :: rest.take n).IsChain fun a b => lt b a = lt y x :=
      List.isChain_cons_cons.2 ⟨rfl, hchain⟩
    have heq : firstRun below (x :: y :: rest)
        = .ok (if lt y x then (x :: y :: rest.take n).reverse else x :: y :: rest.take n,
          rest.drop n) := by
      simp only [firstRun, ha y x hy hx, hn, bind, Except.bind, pure, Except.pure]
    refine ⟨_, _, heq, ?_⟩
    have hwhole : (x :: y :: rest.take n) ++ rest.drop n = x :: y :: rest := by
      rw [List.cons_append, List.cons_append, List.take_append_drop]
    -- ascending as it stands, or strictly descending and turned round
    cases hd : lt y x with
    | false =>
      rw [hd] at hchain
      have : Trans (fun a b => lt b a = false) (fun a b => lt b a = false)
          (fun a b => lt b a = false) := ⟨fun hab hbc => hlt.not_below_trans _ _ _ hbc hab⟩
      refine ⟨hchain.pairwise, ?_, fun _ => List.cons_ne_nil _ _⟩
      rw [if_neg Bool.false_ne_true, hwhole]
      exact .refl _
    | true =>
      rw [hd] at hchain
      have : Trans (fun a b => lt b a = true) (fun a b => lt b a = true)
          (fun a b => lt b a = true) := ⟨fun hab hbc => hlt.trans hbc hab⟩
      have hpair := hchain.pairwise
      refine ⟨?_, ?_, fun _ => ?_⟩
      · exact List.pairwise_reverse.2 (hpair.imp fun h => hlt.asymm _ _ h)
      · rw [if_pos rfl]
        refine ((stably_reverse hlt hpair).append_right _).trans ?_
        rw [hwhole]
        exact .refl _
      · rw [if_pos rfl]
        exact List.reverse_ne_nil_iff.2 (List.cons_ne_nil _ _)

-- ============================================================ insertion

/-- The place for an element: after its equals, so that it is below all
that follow and none that precedes is above it. -/
theorem insertionPoint_eq (hlt : StrictWeak lt) (ha : Answers below lt P) (sorted : Array α)
    (hx : P x) (hsorted : ∀ y ∈ sorted.toList, P y) (hasc : Ascending lt sorted.toList)
    (low high : Nat) (hle : low ≤ high) (hhigh : high ≤ sorted.size)
    (hbefore : ∀ y ∈ sorted.toList.take low, lt x y = false)
    (hafter : ∀ y ∈ sorted.toList.drop high, lt x y = true) :
    ∃ i ≤ sorted.size, insertionPoint below sorted x low high = .ok i
      ∧ (∀ y ∈ sorted.toList.take i, lt x y = false)
      ∧ ∀ y ∈ sorted.toList.drop i, lt x y = true := by
  induction low, high using insertionPoint.induct sorted with
  | case1 low high h hmid ihlow ihhigh =>
    rw [insertionPoint, dif_pos h]
    have hP : P sorted[(low + high) / 2] := hsorted _ (Array.getElem_mem_toList hmid)
    dsimp only
    rw [ha x _ hx hP]
    have hmid' : (low + high) / 2 < sorted.toList.length := by simpa using hmid
    have hpairs := List.pairwise_iff_getElem.1 hasc
    -- all on the far side of the middle are on its side of the new element
    cases hd : lt x sorted[(low + high) / 2] with
    | true =>
      refine ihlow (by omega) (by omega) hbefore fun y hy => ?_
      obtain ⟨j, hj, rfl⟩ := List.mem_drop_iff_getElem.1 hy
      refine hlt.lt_of_lt_of_le hd ?_
      rcases Nat.eq_zero_or_pos j with rfl | hpos
      · exact hlt.irrefl _
      · exact hpairs ((low + high) / 2) ((low + high) / 2 + j) hmid' (by omega) (by omega)
    | false =>
      refine ihhigh (by omega) (by omega) (fun y hy => ?_) hafter
      obtain ⟨j, hj, rfl⟩ := List.mem_take_iff_getElem.1 hy
      refine hlt.not_below_trans _ _ _ hd ?_
      by_cases hjm : j = (low + high) / 2
      · subst hjm
        exact hlt.irrefl _
      · exact hpairs j ((low + high) / 2) (by omega) hmid' (by omega)
  | case2 low high h =>
    rw [insertionPoint, dif_neg h]
    obtain rfl : low = high := by omega
    exact ⟨low, hhigh, rfl, hbefore, hafter⟩

/-- An element put in at its place keeps an array sorted and comes after all
that was there and is not above it. -/
theorem insertIdx_eq (hlt : StrictWeak lt) {sorted : Array α} (hasc : Ascending lt sorted.toList)
    {i : Nat} (hi : i ≤ sorted.size) (hbefore : ∀ y ∈ sorted.toList.take i, lt x y = false)
    (hafter : ∀ y ∈ sorted.toList.drop i, lt x y = true) :
    Ascending lt (sorted.insertIdxIfInBounds i x).toList
      ∧ Stably lt (sorted.insertIdxIfInBounds i x).toList (sorted.toList ++ [x]) := by
  have hlist : (sorted.insertIdxIfInBounds i x).toList
      = sorted.toList.take i ++ x :: sorted.toList.drop i := by
    obtain ⟨low, high, hparts, rfl, hins⟩ := List.exists_of_modifyTailIdx (x :: ·) hi
    rw [Array.insertIdxIfInBounds, dif_pos hi, Array.toList_insertIdx]
    refine hins.trans ?_
    rw [hparts, List.take_left, List.drop_left]
  have hparts := List.take_append_drop i sorted.toList
  rw [hlist]
  constructor
  · rw [ascending_append]
    refine ⟨hasc.take i, List.pairwise_cons.2 ⟨fun y hy => ?_, hasc.drop i⟩, fun y hy z hz => ?_⟩
    · exact hlt.asymm x y (hafter y hy)
    · rcases List.mem_cons.1 hz with rfl | hz
      · exact hbefore y hy
      · rw [← hparts, ascending_append] at hasc
        exact hasc.2.2 y hy z hz
  · have hall : ∀ y ∈ sorted.toList.drop i, ∀ z ∈ [x], lt z y = true := by
      intro y hy z hz
      rw [List.mem_singleton] at hz
      subst hz
      exact hafter y hy
    have hjump := (Stably.exchange hlt hall).symm.append_left (sorted.toList.take i)
    rw [← List.append_assoc, ← List.append_assoc, hparts, List.append_assoc] at hjump
    exact hjump

/-- Inserting elements one by one keeps an array sorted and puts each after
all that came before it and is not above it. -/
theorem insertEach_eq (hlt : StrictWeak lt) (ha : Answers below lt P) :
    ∀ (xs : List α) (sorted : Array α), (∀ x ∈ xs, P x) → (∀ y ∈ sorted.toList, P y) →
      Ascending lt sorted.toList →
      ∃ filled : Array α, insertEach below sorted xs = .ok filled ∧ Ascending lt filled.toList
        ∧ Stably lt filled.toList (sorted.toList ++ xs) := by
  intro xs
  induction xs with
  | nil =>
    intro sorted _ _ hasc
    refine ⟨sorted, rfl, hasc, ?_⟩
    rw [List.append_nil]
    exact .refl _
  | cons x xs ih =>
    intro sorted hxs hsorted hasc
    rw [List.forall_mem_cons] at hxs
    obtain ⟨i, hi, hpoint, hbefore, hafter⟩ :=
      insertionPoint_eq hlt ha sorted hxs.1 hsorted hasc 0 sorted.size (Nat.zero_le _)
        (Nat.le_refl _) (fun y hy => absurd hy List.not_mem_nil)
        (fun y hy => by rw [← Array.length_toList, List.drop_length] at hy; cases hy)
    -- behind its equivalents, so what is filled in stays stable
    obtain ⟨hasc', hstably⟩ := insertIdx_eq hlt hasc hi hbefore hafter
    have hP : ∀ y ∈ (sorted.insertIdxIfInBounds i x).toList, P y := by
      intro y hy
      rcases List.mem_append.1 (hstably.perm.mem_iff.1 hy) with hy | hy
      · exact hsorted y hy
      · exact List.mem_singleton.1 hy ▸ hxs.1
    obtain ⟨filled, hfilled, hasc'', hstably'⟩ := ih _ hxs.2 hP hasc'
    rw [insertEach, hpoint]
    refine ⟨filled, hfilled, hasc'', hstably'.trans ?_⟩
    rw [List.append_cons]
    exact hstably.append_right xs

/-- The next run, filled up where it is short. -/
theorem nextRun_cut (hlt : StrictWeak lt) (ha : Answers below lt P) (least : Nat)
    (hxs : ∀ x ∈ xs, P x) :
    ∃ run rest, nextRun below least xs = .ok (run, rest) ∧ Cut lt xs run rest := by
  obtain ⟨run, rest, hrun, hcut⟩ := firstRun_cut hlt ha hxs
  rw [nextRun, hrun]
  simp only [bind, Except.bind, pure, Except.pure]
  by_cases hshort : run.length < least
  · have hmem : ∀ x ∈ run ++ rest, P x := fun x hx => hxs x (hcut.stably.perm.mem_iff.1 hx)
    rw [List.forall_mem_append] at hmem
    have htaken : ∀ x ∈ rest.take (least - run.length), P x :=
      fun x hx => hmem.2 x (List.mem_of_mem_take hx)
    obtain ⟨filled, hfilled, hasc, hstably⟩ :=
      insertEach_eq hlt ha (rest.take (least - run.length)) run.toArray htaken hmem.1 hcut.ascending
    rw [if_pos hshort, hfilled]
    have hwhole : Stably lt (filled.toList ++ rest.drop (least - run.length)) (run ++ rest) := by
      have h := hstably.append_right (rest.drop (least - run.length))
      rwa [List.append_assoc, List.take_append_drop] at h
    refine ⟨_, _, rfl, hasc, hwhole.trans hcut.stably, fun hne hnil => ?_⟩
    rw [hnil] at hstably
    exact hcut.nonempty hne (List.append_eq_nil_iff.1 (List.nil_perm.1 hstably.perm)).1
  · rw [if_neg hshort]
    exact ⟨run, rest, rfl, hcut⟩

end Collation.Sorting
