/-
The sort as a whole: of elements that an order can answer about it never
fails, and it gives what the library's stable sort gives
(`sorted_eq_mergeSort`).

The order in which runs are merged is of no account here, only that it is
always two neighbours that are merged: the waiting runs, read from the
oldest on, stay a stable rearrangement of what has been cut off
(`Waits`), and with every merge there is one of them less.
-/
import Collation.Proofs.Sorting.Merging

namespace Collation.Sorting

variable {α ε : Type} {below : α → α → Except ε Bool} {lt : α → α → Bool} {P : α → Prop}
  {x y : α} {xs ys lower upper : List α}

-- ====================================================== two neighbours

/-- The merge from the start, of what is left after the first step. -/
theorem run_fromStart (hlt : StrictWeak lt) (ha : Answers below lt P) (threshold : Nat)
    (hl : ∀ x ∈ lower, P x) (hu : ∀ y ∈ upper, P y) (hlower : Ascending lt lower)
    (hupper : Ascending lt upper) (hhead : upper.head? = some y)
    (hfirst : ∀ x ∈ lower, lt y x = true)
    (hlast : ∀ x, lower.getLast? = some x → ∀ y ∈ upper, lt y x = true) :
    ∃ merged threshold', Merge.run below true (lower.length + upper.length) (.single 0 0) threshold
        (Merge.takeUpper 1 ⟨lower, upper, []⟩) = .ok (merged, threshold')
      ∧ Ascending lt merged ∧ Stably lt merged (lower ++ upper) := by
  have hvalid : Merge.Valid true lt P ⟨lower, upper, []⟩ := ⟨hl, hu, hlower, hupper, hlast⟩
  have hstep := Merge.Leaves.takeUpper (n := 1) ⟨hvalid, rfl⟩ fun z hz x hx => by
    rw [Merge.mem_take_one hhead hz, upperWins, hfirst x hx]
    rfl
  obtain ⟨threshold', hrun⟩ := Merge.run_eq hlt ha (lower.length + upper.length) (.single 0 0)
    threshold _ hstep.valid (by simp [Merge.left, Merge.takeUpper])
  rw [hstep.outcome_eq] at hrun
  exact ⟨_, threshold', hrun, merge_ascending hlt hlower hupper, merge_stably hlt hlower upper⟩

/-- The merge from the end, of what is left after the first step. -/
theorem run_fromEnd (hlt : StrictWeak lt) (ha : Answers below lt P) (threshold : Nat)
    (hl : ∀ x ∈ lower, P x) (hu : ∀ y ∈ upper, P y) (hlower : Ascending lt lower)
    (hupper : Ascending lt upper) (hlast : lower.getLast? = some x)
    (hfirst : ∀ y ∈ upper, lt y x = true)
    (hhead : ∀ y, upper.head? = some y → ∀ x ∈ lower, lt y x = true) :
    ∃ merged threshold', Merge.run below false (lower.length + upper.length) (.single 0 0) threshold
        (Merge.takeLower 1 ⟨lower.reverse, upper.reverse, []⟩) = .ok (merged, threshold')
      ∧ Ascending lt merged ∧ Stably lt merged (lower ++ upper) := by
  have hlower' : Ascending (towards false lt) lower.reverse := ascending_reverse.2 hlower
  have hupper' : Ascending (towards false lt) upper.reverse := ascending_reverse.2 hupper
  have hvalid : Merge.Valid false lt P ⟨lower.reverse, upper.reverse, []⟩ := by
    refine ⟨fun x hx => hl x (List.mem_reverse.1 hx), fun y hy => hu y (List.mem_reverse.1 hy),
      hlower', hupper', fun y hy x hx => ?_⟩
    exact hhead y (List.getLast?_reverse.symm.trans hy) x (List.mem_reverse.1 hx)
  have hx : lower.reverse.head? = some x := List.head?_reverse.trans hlast
  have hstep := Merge.Leaves.takeLower (n := 1) ⟨hvalid, rfl⟩ fun z hz y hy => by
    rw [Merge.mem_take_one hx hz, upperWins, hfirst y (List.mem_reverse.1 hy)]
    rfl
  obtain ⟨threshold', hrun⟩ := Merge.run_eq hlt ha (lower.length + upper.length) (.single 0 0)
    threshold _ hstep.valid (by simp [Merge.left, Merge.takeLower])
  rw [hstep.outcome_eq] at hrun
  have hasc := merge_ascending (hlt.towards false) hupper' hlower'
  have hstably := (merge_stably (hlt.towards false) hupper' lower.reverse).reverse
  rw [List.reverse_append, List.reverse_reverse, List.reverse_reverse] at hstably
  refine ⟨_, threshold', hrun, ?_, hstably.flip⟩
  exact List.pairwise_reverse.2 hasc

/-- The merge of what is left after the first step, from either end: every
element left of the lower run is above the head of the upper one, and
every element left of the upper run is below the last of the lower one. -/
theorem run_crossing (hlt : StrictWeak lt) (ha : Answers below lt P) (threshold : Nat)
    (hl : ∀ x ∈ lower, P x) (hu : ∀ y ∈ upper, P y) (hlower : Ascending lt lower)
    (hupper : Ascending lt upper) (hhead : upper.head? = some y) (hlast : lower.getLast? = some x)
    (hfirst : ∀ z ∈ lower, lt y z = true) (hend : ∀ z ∈ upper, lt z x = true) :
    ∃ merged threshold',
      (lower.length ≤ upper.length →
        Merge.run below true (lower.length + upper.length) (.single 0 0) threshold
          (Merge.takeUpper 1 ⟨lower, upper, []⟩) = .ok (merged, threshold'))
      ∧ (¬lower.length ≤ upper.length →
        Merge.run below false (lower.length + upper.length) (.single 0 0) threshold
          (Merge.takeLower 1 ⟨lower.reverse, upper.reverse, []⟩) = .ok (merged, threshold'))
      ∧ Ascending lt merged ∧ Stably lt merged (lower ++ upper) := by
  have hlast' : ∀ z, lower.getLast? = some z → ∀ w ∈ upper, lt w z = true := by
    intro z hz
    rw [hlast] at hz
    injection hz with hz
    exact hz ▸ hend
  have hhead' : ∀ z, upper.head? = some z → ∀ w ∈ lower, lt z w = true := by
    intro z hz
    rw [hhead] at hz
    injection hz with hz
    exact hz ▸ hfirst
  -- the merge starts from the side of the shorter run
  by_cases hshorter : lower.length ≤ upper.length
  · obtain ⟨merged, threshold', hrun, hmerged⟩ :=
      run_fromStart hlt ha threshold hl hu hlower hupper hhead hfirst hlast'
    exact ⟨merged, threshold', fun _ => hrun, fun h => absurd hshorter h, hmerged⟩
  · obtain ⟨merged, threshold', hrun, hmerged⟩ :=
      run_fromEnd hlt ha threshold hl hu hlower hupper hlast hend hhead'
    exact ⟨merged, threshold', fun h => absurd h hshorter, fun _ => hrun, hmerged⟩

/-- The start of one run and the end of the next stay where they are, around
the rest that is merged. -/
theorem framed {merged : List α} (n k : Nat) (hlower : Ascending lt lower)
    (hupper : Ascending lt upper) (hhead : ∀ x ∈ lower.take n, ∀ y ∈ upper, lt y x = false)
    (htail : ∀ x ∈ lower.drop n, ∀ y ∈ upper.drop k, lt y x = false)
    (hmerged : Ascending lt merged) (hstably : Stably lt merged (lower.drop n ++ upper.take k)) :
    Ascending lt (lower.take n ++ merged ++ upper.drop k)
      ∧ Stably lt (lower.take n ++ merged ++ upper.drop k) (lower ++ upper) := by
  rw [← List.take_append_drop n lower, ascending_append] at hlower
  have hupperparts := List.take_append_drop k upper
  rw [← hupperparts, ascending_append] at hupper
  have hmem : ∀ z ∈ merged, z ∈ lower.drop n ∨ z ∈ upper.take k :=
    fun z hz => List.mem_append.1 (hstably.perm.mem_iff.1 hz)
  constructor
  · rw [ascending_append, ascending_append]
    refine ⟨⟨hlower.1, hmerged, fun x hx z hz => ?_⟩, hupper.2.1, fun z hz y hy => ?_⟩
    · rcases hmem z hz with hz | hz
      · exact hlower.2.2 x hx z hz
      · exact hhead x hx z (List.mem_of_mem_take hz)
    · rcases List.mem_append.1 hz with hz | hz
      · exact hhead z hz y (List.mem_of_mem_drop hy)
      · rcases hmem z hz with hz | hz
        · exact htail z hz y hy
        · exact hupper.2.2 z hz y hy
  · have h := (hstably.append_left (lower.take n)).append_right (upper.drop k)
    rw [← List.append_assoc, List.take_append_drop, List.append_assoc lower, hupperparts] at h
    exact h

/-- What a run keeps of its start: the elements that `y` is not below. -/
theorem leap_staying (hlt : StrictWeak lt) (ha : Answers below lt P) (late : Bool) (hy : P y)
    (hxs : ∀ x ∈ xs, P x) (hasc : Ascending lt xs) :
    ∃ n, leap late (fun x => (below y x).map (!·)) xs = .ok n
      ∧ (∀ x ∈ xs.take n, lt y x = false) ∧ ∀ x ∈ xs.drop n, lt y x = true := by
  have htest : ∀ x ∈ xs, (below y x).map (!·) = .ok (!lt y x) := by
    intro x hx
    rw [ha y x hy (hxs x hx)]
    rfl
  have hmono : xs.Pairwise fun x x' => (!lt y x') = true → (!lt y x) = true := by
    refine hasc.imp fun {x x'} hxx' hx' => ?_
    rw [Bool.not_eq_true'] at hx' ⊢
    exact hlt.not_below_trans y x' x hx' hxx'
  obtain ⟨n, hn, hparts⟩ := leap_parts htest hmono late
  exact ⟨n, hn, fun x hx => (Bool.not_eq_true' _).mp (hparts.passing x hx),
    fun x hx => (Bool.not_eq_false' _).mp (hparts.failing x hx)⟩

/-- What a run keeps of its end: the elements that are not below `x`. -/
theorem leap_staying_end (hlt : StrictWeak lt) (ha : Answers below lt P) (late : Bool) (hx : P x)
    (hys : ∀ y ∈ ys, P y) (hasc : Ascending lt ys) :
    ∃ n, leap late (fun y => (below y x).map (!·)) ys.reverse = .ok n
      ∧ (∀ y ∈ ys.drop (ys.length - n), lt y x = false)
      ∧ ∀ y ∈ ys.take (ys.length - n), lt y x = true := by
  have ha' : Answers (fun x y => below y x) (fun x y => lt y x) P :=
    fun x y hx hy => ha y x hy hx
  obtain ⟨n, hn, hstay, hgo⟩ := leap_staying hlt.flip ha' late hx
    (fun y hy => hys y (List.mem_reverse.1 hy)) (ascending_reverse.2 hasc)
  rw [List.take_reverse] at hstay
  rw [List.drop_reverse] at hgo
  exact ⟨n, hn, fun y hy => hstay y (List.mem_reverse.2 hy),
    fun y hy => hgo y (List.mem_reverse.2 hy)⟩

/-- A start of a run that has elements has the head of the run. -/
theorem head?_take_of_ne_nil {k : Nat} (h : xs.take k ≠ []) : (xs.take k).head? = xs.head? := by
  rw [List.head?_take, if_neg]
  rintro rfl
  exact h List.take_zero

/-- Two neighbouring runs become one. -/
theorem mergeRuns_eq (hlt : StrictWeak lt) (ha : Answers below lt P) (threshold : Nat)
    (hl : ∀ x ∈ lower, P x) (hu : ∀ y ∈ upper, P y) (hlower : Ascending lt lower)
    (hupper : Ascending lt upper) :
    ∃ merged threshold', mergeRuns below threshold lower upper = .ok (merged, threshold')
      ∧ Ascending lt merged ∧ Stably lt merged (lower ++ upper) := by
  unfold mergeRuns
  cases hupper' : upper with
  | nil =>
    refine ⟨lower, threshold, rfl, hlower, ?_⟩
    rw [List.append_nil]
    exact .refl lower
  | cons y ys =>
    dsimp only
    rw [← hupper']
    have hhead : upper.head? = some y := by rw [hupper']; rfl
    have hy : P y := hu y (List.mem_of_head? hhead)
    obtain ⟨n, hn, hstay, hgo⟩ := leap_staying hlt ha true hy hl hlower
    have hlowerparts := List.take_append_drop n lower
    -- what the lower run starts with stays in front
    have hstays : ∀ x ∈ lower.take n, ∀ z ∈ upper, lt z x = false :=
      fun x hx z hz => hlt.not_below_trans z y x (hupper.head_least hlt hhead z hz) (hstay x hx)
    have hl' : ∀ x ∈ lower.drop n, P x := fun x hx => hl x (List.mem_of_mem_drop hx)
    simp only [hn, bind, Except.bind, pure, Except.pure]
    cases hlast : (lower.drop n).getLast? with
    | none =>
      rw [List.getLast?_eq_none_iff] at hlast
      rw [hlast, List.append_nil] at hlowerparts
      refine ⟨_, _, rfl, ?_, ?_⟩
      · rw [ascending_append]
        exact ⟨hlower.take n, hupper, hstays⟩
      · rw [hlowerparts]
        exact .refl _
    | some x =>
      have hx : P x := hl' x (List.mem_of_getLast? hlast)
      have hgreatest := (hlower.drop n).last_greatest hlt hlast
      -- what the upper run ends with stays behind, and only the rest is merged
      obtain ⟨k, hk, hstayend, hgoend⟩ := leap_staying_end hlt ha false hx hu hupper
      have hstaysend : ∀ z ∈ lower.drop n, ∀ w ∈ upper.drop (upper.length - k), lt w z = false :=
        fun z hz w hw => hlt.not_below_trans w x z (hstayend w hw) (hgreatest z hz)
      simp only [hk]
      by_cases hempty : (upper.take (upper.length - k)).isEmpty = true
      · rw [if_pos hempty]
        rw [List.isEmpty_iff] at hempty
        refine ⟨_, _, rfl, framed n _ hlower hupper hstays hstaysend (hlower.drop n) ?_⟩
        rw [hempty, List.append_nil]
        exact .refl _
      · have hhead' : (upper.take (upper.length - k)).head? = some y :=
          (head?_take_of_ne_nil fun hnil => hempty (List.isEmpty_iff.2 hnil)).trans hhead
        obtain ⟨merged, threshold', hfromStart, hfromEnd, hmerged, hstably⟩ :=
          run_crossing hlt ha threshold hl' (fun y hy => hu y (List.mem_of_mem_take hy))
            (hlower.drop n) (hupper.take _) hhead' hlast hgo hgoend
        have hframed := framed n _ hlower hupper hstays hstaysend hmerged hstably
        rw [if_neg hempty]
        split
        · next hshorter =>
          rw [hfromStart hshorter]
          exact ⟨_, threshold', rfl, hframed⟩
        · next hshorter =>
          rw [hfromEnd hshorter]
          exact ⟨_, threshold', rfl, hframed⟩

-- ======================================================== waiting runs

/-- Ascending runs that wait, the latest first, for a list that they make
up when read from the oldest on. -/
structure Waits (lt : α → α → Bool) (P : α → Prop) (xs : List α) (waiting : List (Waiting α)) :
    Prop where
  ascending : ∀ w ∈ waiting, Ascending lt w.run
  stably : Stably lt (waiting.reverse.flatMap Waiting.run) xs
  mem : ∀ x ∈ xs, P x

namespace Waits

variable {front rest waiting : List (Waiting α)} {top second : Waiting α}

private theorem run_mem (h : Waits lt P xs waiting) {w : Waiting α} (hw : w ∈ waiting) :
    ∀ x ∈ w.run, P x := by
  intro x hx
  refine h.mem x (h.stably.perm.mem_iff.1 (List.mem_flatMap.2 ⟨w, ?_, hx⟩))
  exact List.mem_reverse.2 hw

/-- Any two neighbours can be merged. -/
theorem merge (front : List (Waiting α)) (hlt : StrictWeak lt) (ha : Answers below lt P)
    (threshold : Nat) (h : Waits lt P xs (front ++ top :: second :: rest)) :
    ∃ merged threshold', mergeRuns below threshold second.run top.run = .ok (merged, threshold')
      ∧ ∀ depth, Waits lt P xs (front ++ ⟨merged, depth⟩ :: rest) := by
  have htop : top ∈ front ++ top :: second :: rest := by simp
  have hsecond : second ∈ front ++ top :: second :: rest := by simp
  obtain ⟨merged, threshold', hmerge, hasc, hstably⟩ :=
    mergeRuns_eq hlt ha threshold (h.run_mem hsecond) (h.run_mem htop) (h.ascending _ hsecond)
      (h.ascending _ htop)
  refine ⟨merged, threshold', hmerge, fun depth => ⟨?_, Stably.trans ?_ h.stably, h.mem⟩⟩
  · have hall := h.ascending
    simp only [List.forall_mem_append, List.forall_mem_cons] at hall ⊢
    exact ⟨hall.1, hasc, hall.2.2.2⟩
  · simp only [List.reverse_append, List.reverse_cons, List.flatMap_append, List.flatMap_cons,
      List.flatMap_nil, List.append_nil, List.append_assoc]
    have hmiddle := (hstably.append_left (rest.reverse.flatMap Waiting.run)).append_right
      (front.reverse.flatMap Waiting.run)
    simpa only [List.append_assoc] using hmiddle

/-- How deep two runs would meet is no matter for what they hold. -/
theorem top_depth (h : Waits lt P xs (top :: rest)) (depth : Nat) :
    Waits lt P xs ({ top with depth } :: rest) := by
  refine ⟨?_, ?_, h.mem⟩
  · exact List.forall_mem_cons.2 (List.forall_mem_cons.1 h.ascending)
  · have hstably := h.stably
    simp only [List.reverse_cons, List.flatMap_append] at hstably ⊢
    exact hstably

private theorem push {run : List α} (h : Waits lt P xs waiting) (hrun : Ascending lt run)
    (hmem : ∀ x ∈ run, P x) (depth : Nat) : Waits lt P (xs ++ run) (⟨run, depth⟩ :: waiting) := by
  refine ⟨List.forall_mem_cons.2 ⟨hrun, h.ascending⟩, ?_, List.forall_mem_append.2 ⟨h.mem, hmem⟩⟩
  simp only [List.reverse_cons, List.flatMap_append, List.flatMap_cons, List.flatMap_nil,
    List.append_nil]
  exact h.stably.append_right run

end Waits

/-- Runs that are deep enough are merged, and the others wait. -/
private theorem mergeDeeper_eq (hlt : StrictWeak lt) (ha : Answers below lt P) (depth : Nat) :
    ∀ (fuel threshold : Nat) (waiting : List (Waiting α)), Waits lt P xs waiting →
      ∃ waiting' threshold', mergeDeeper below depth threshold fuel waiting
        = .ok (waiting', threshold') ∧ Waits lt P xs waiting' := by
  intro fuel
  induction fuel with
  | zero => exact fun threshold waiting h => ⟨waiting, threshold, rfl, h⟩
  | succ fuel ih =>
    intro threshold waiting h
    match waiting, h with
    | [], h => exact ⟨[], threshold, rfl, h⟩
    | [top], h => exact ⟨[top], threshold, rfl, h⟩
    | top :: second :: rest, h =>
      rw [mergeDeeper]
      by_cases hdeeper : depth < second.depth
      · obtain ⟨merged, threshold', hmerge, hwaits⟩ := Waits.merge [] hlt ha threshold h
        rw [if_pos hdeeper, hmerge]
        exact ih threshold' _ (hwaits second.depth)
      · rw [if_neg hdeeper]
        exact ⟨_, threshold, rfl, h⟩

/-- A new run is put with those that wait, once the deeper ones are merged. -/
private theorem addRun_eq (hlt : StrictWeak lt) (ha : Answers below lt P)
    (size start threshold : Nat)
    {run : List α} {waiting : List (Waiting α)} (h : Waits lt P xs waiting)
    (hrun : Ascending lt run) (hmem : ∀ x ∈ run, P x) :
    ∃ waiting' threshold', addRun below size start threshold run waiting
      = .ok (waiting', threshold') ∧ Waits lt P (xs ++ run) waiting' := by
  unfold addRun
  cases waiting with
  | nil => exact ⟨_, threshold, rfl, h.push hrun hmem 0⟩
  | cons top rest =>
    dsimp only
    obtain ⟨merged, threshold', hmerged, hwaits⟩ := mergeDeeper_eq hlt ha
      (partingDepth (2 * size) size (2 * (start - top.run.length) + top.run.length)
        (2 * (start - top.run.length) + top.run.length + top.run.length + run.length))
      (top :: rest).length threshold _ h
    rw [hmerged]
    refine ⟨_, threshold', rfl, Waits.push ?_ hrun hmem 0⟩
    cases merged with
    | nil => exact hwaits
    | cons top rest => exact hwaits.top_depth _

/-- Every run takes something off the list, so that the fuel is used up
only when nothing is left. -/
theorem cutRuns_eq (hlt : StrictWeak lt) (ha : Answers below lt P) (size least : Nat) :
    ∀ (fuel start threshold : Nat) (waiting : List (Waiting α)) (ys xs : List α),
      Waits lt P ys waiting → (∀ x ∈ xs, P x) → xs.length ≤ fuel →
      ∃ waiting' threshold', cutRuns below size least fuel start threshold waiting xs
        = .ok (waiting', threshold') ∧ Waits lt P (ys ++ xs) waiting' := by
  intro fuel
  induction fuel with
  | zero =>
    intro start threshold waiting ys xs h _ hlen
    obtain rfl : xs = [] := List.eq_nil_of_length_eq_zero (by omega)
    rw [List.append_nil]
    exact ⟨waiting, threshold, rfl, h⟩
  | succ fuel ih =>
    intro start threshold waiting ys xs h hxs hlen
    by_cases hnil : xs = []
    · subst hnil
      rw [List.append_nil]
      exact ⟨waiting, threshold, rfl, h⟩
    -- one run is cut off and waits; the rest is shorter
    obtain ⟨run, rest, hnext, hcut⟩ := nextRun_cut hlt ha least hxs
    have hmem : ∀ x ∈ run ++ rest, P x := fun x hx => hxs x (hcut.stably.perm.mem_iff.1 hx)
    rw [List.forall_mem_append] at hmem
    have hshorter : rest.length ≤ fuel := by
      have hlength := hcut.stably.perm.length_eq
      have hpos := List.length_pos_iff.2 (hcut.nonempty hnil)
      rw [List.length_append] at hlength
      omega
    obtain ⟨waiting₁, threshold₁, hadd, hwaits₁⟩ :=
      addRun_eq hlt ha size start threshold h hcut.ascending hmem.1
    obtain ⟨waiting₂, threshold₂, hcuts, hwaits₂⟩ :=
      ih (start + run.length) threshold₁ waiting₁ (ys ++ run) rest hwaits₁ hmem.2 hshorter
    refine ⟨waiting₂, threshold₂, ?_, hwaits₂.ascending, ?_, ?_⟩
    · rw [cutRuns]
      · rw [hnext]
        simp only [bind, Except.bind]
        rw [hadd]
        exact hcuts
      · exact hnil
    · refine hwaits₂.stably.trans ?_
      rw [List.append_assoc]
      exact hcut.stably.append_left ys
    · exact List.forall_mem_append.2 ⟨h.mem, hxs⟩

/-- The waiting runs become one. -/
theorem mergeAll_eq (hlt : StrictWeak lt) (ha : Answers below lt P) :
    ∀ (fuel threshold : Nat) (waiting : List (Waiting α)), Waits lt P xs waiting →
      waiting.length ≤ fuel →
      ∃ ys, mergeAll below threshold fuel waiting = .ok ys ∧ Ascending lt ys ∧ Stably lt ys xs := by
  intro fuel
  induction fuel with
  | zero =>
    intro threshold waiting h hlen
    obtain rfl : waiting = [] := List.eq_nil_of_length_eq_zero (by omega)
    exact ⟨[], rfl, .nil, h.stably⟩
  | succ fuel ih =>
    intro threshold waiting h hlen
    -- the shorter neighbour of the second run is merged with it
    match waiting, h, hlen with
    | [], h, _ => exact ⟨[], rfl, .nil, h.stably⟩
    | [top], h, _ =>
      refine ⟨top.run, rfl, h.ascending top List.mem_cons_self, ?_⟩
      simpa using h.stably
    | [top, second], h, _ =>
      obtain ⟨merged, threshold', hmerge, hwaits⟩ := Waits.merge [] hlt ha threshold h
      have hone := hwaits 0
      refine ⟨merged, ?_, hone.ascending _ List.mem_cons_self, ?_⟩
      · rw [mergeAll, hmerge]
        rfl
      · simpa using hone.stably
    | top :: second :: third :: rest, h, hlen =>
      rw [mergeAll]
      have hlen' : rest.length + 2 ≤ fuel := Nat.le_of_succ_le_succ hlen
      by_cases hshorter : third.run.length < top.run.length
      · obtain ⟨merged, threshold', hmerge, hwaits⟩ := Waits.merge [top] hlt ha threshold h
        rw [if_pos hshorter, hmerge]
        exact ih threshold' _ (hwaits third.depth) hlen'
      · obtain ⟨merged, threshold', hmerge, hwaits⟩ := Waits.merge [] hlt ha threshold h
        rw [if_neg hshorter, hmerge]
        exact ih threshold' _ (hwaits second.depth) hlen'

/-- Where an order answers all questions about the elements of a list, the
list is sorted by it, equivalent elements staying in the order given. -/
theorem sorted_eq_mergeSort (hlt : StrictWeak lt) (ha : Answers below lt P) (hxs : ∀ x ∈ xs, P x) :
    sorted below xs = .ok (xs.mergeSort (upTo lt)) := by
  have hnone : Waits lt P ([] : List α) [] :=
    ⟨fun _ h => absurd h List.not_mem_nil, .refl [], fun _ h => absurd h List.not_mem_nil⟩
  obtain ⟨waiting, threshold, hcut, hwaits⟩ := cutRuns_eq hlt ha xs.length
    (leastRun false xs.length xs.length) xs.length 0 Merge.worthLeaping [] [] xs hnone hxs
    (Nat.le_refl _)
  obtain ⟨ys, hmerge, hasc, hstably⟩ :=
    mergeAll_eq hlt ha waiting.length threshold waiting hwaits (Nat.le_refl _)
  rw [sorted]
  simp only [hcut, bind, Except.bind]
  rw [hmerge, eq_mergeSort hlt hasc hstably]
  rfl

end Collation.Sorting
