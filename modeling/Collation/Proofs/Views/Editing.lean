/-
Set operators in place on the values under a key. In place an operator is a
run of puts and removals, one for each element of the other side or, for an
intersection, for each value that the other side lacks; a slot may go and
come again on the way. After every part of the run the values under the key
are those that the operator keeps of the former ones and of the elements
gone through (`Multimap.Midway`). One element more is there by then just if
its equivalent was there at the start, since the elements differ among
themselves (`SetOperator.among_union`, `SetOperator.among_symmDiff`); so a
put, a removal or a toggle does to the values what the element does to what
is kept (`SetOperator.union_snoc` and its like). At the end that is what the
operator gives elsewhere, up to equivalence and up to which side's objects
are kept (`in_place_agrees`).

No step touches the slots of other keys (`Multimap.ChangedAt`), so the
number of entries changes with the values under the key alone.
-/
import Collation.Proofs.Sets.Inclusion
import Collation.Proofs.Views.Writing

namespace Collation

open Bisect (Ascends)
open Operand (Lists SortedSet Editable)
open Session (SetOperator)

-- ================================================================ a run

/-- What holds of the elements gone through before a step, and with its
element after it, holds of all elements in the end. -/
theorem Operand.Editable.each_yields {σ : Type} {step : σ → Value → Outcome σ Unit}
    {P : σ → List Value → Prop} {ys : List Value}
    (hstep : ∀ s seen y rest, ys = seen ++ y :: rest → P s seen →
      ∃ s', (step s y).Yields s' () ∧ P s' (seen ++ [y]))
    {s : σ} (h : P s []) : ∃ s', (each step s (ys.map .ok)).Yields s' () ∧ P s' ys := by
  have hrun : ∀ (rest seen : List Value) (s : σ), ys = seen ++ rest → P s seen →
      ∃ s', (each step s (rest.map .ok)).Yields s' () ∧ P s' ys := by
    intro rest
    induction rest with
    | nil =>
      intro seen s hys h
      rw [List.append_nil] at hys
      exact ⟨s, ⟨rfl, rfl⟩, hys ▸ h⟩
    | cons y rest ih =>
      intro seen s hys h
      obtain ⟨s', hyields, h'⟩ := hstep s seen y rest hys h
      obtain ⟨s'', hyields', hall⟩ := ih (seen ++ [y]) s' (by rw [hys]; simp) h'
      refine ⟨s'', ?_, hall⟩
      rw [List.map_cons, each]
      unfold Outcome.andThen
      rw [hyields.2, hyields.1]
      exact hyields'
  exact hrun ys [] s rfl h

namespace Session.SetOperator

variable {c : Comparator} {D : Value → Prop} {xs ys seen rest : List Value} {y : Value}

/-- The values that an operator in place leaves: those of its own side that
it keeps, and those of the other side that it takes over. -/
def keptInPlace (c : Comparison) : SetOperator → List Value → List Value → List Value
  | inter, xs, ys => xs.filter fun x => c.among ys x
  | operator, xs, ys => operator.kept c xs ys

/-- Elements that come after others, from which all differ, are not among
them. -/
theorem among_before (hys : ys = seen ++ y :: rest)
    (hdiffer : ys.Pairwise fun v w => c.compare.same v w = false) :
    c.compare.among seen y = false := by
  rw [hys, List.pairwise_append] at hdiffer
  exact List.any_eq_false.2 fun w hw => by simp [hdiffer.2.2 w hw y List.mem_cons_self]

/-- What is among no values is not among those of them that pass a test. -/
theorem filter_without {zs : List Value} (hnone : c.compare.among zs y = false)
    (p : Value → Bool) : ((zs.filter p).filter fun w => !c.compare.same w y) = zs.filter p := by
  refine List.filter_eq_self.2 fun w hw => ?_
  simpa using List.any_eq_false.1 hnone w (List.mem_filter.1 hw).1

-- How what is kept changes with one element more of the other side.

section

variable (hc : c.compare.TotalOn D) (hxs : ∀ v ∈ xs, D v) (hseen : ∀ v ∈ seen, D v) (hy : D y)

include hc hxs hy

/-- A difference loses what is equivalent to the new element. -/
theorem diff_snoc : diff.kept c.compare xs (seen ++ [y])
    = (diff.kept c.compare xs seen).filter fun w => !c.compare.same w y := by
  rw [kept, kept, List.filter_filter]
  refine List.filter_congr fun x hx => ?_
  rw [hc.same_comm (hxs x hx) hy]
  simp [Comparison.among, Bool.and_comm]

include hseen

variable (hnew : c.compare.among seen y = false)

include hnew

/-- The new element is kept already just if its equivalent was there at the
start. -/
theorem among_union : c.compare.among (union.kept c.compare xs seen) y = c.compare.among xs y := by
  rw [Bool.eq_iff_iff, among_kept hc hxs hseen hy, asks, hnew]
  simp

private theorem among_symmDiff :
    c.compare.among (symmDiff.kept c.compare xs seen) y = c.compare.among xs y := by
  rw [Bool.eq_iff_iff, among_kept hc hxs hseen hy, asks, hnew]
  simp

/-- A union gains the new element, if it has no equivalent yet. -/
theorem union_snoc : union.kept c.compare xs (seen ++ [y])
    = if c.compare.among (union.kept c.compare xs seen) y then union.kept c.compare xs seen
      else union.kept c.compare xs seen ++ [y] := by
  rw [among_union hc hxs hseen hy hnew, kept, kept, List.filter_append]
  cases hheld : c.compare.among xs y with
  | true => simp [hheld]
  | false => simp [hheld]

/-- A symmetric difference loses the equivalent of the new element, or gains
it. -/
theorem symmDiff_snoc : symmDiff.kept c.compare xs (seen ++ [y])
    = if c.compare.among (symmDiff.kept c.compare xs seen) y
      then (symmDiff.kept c.compare xs seen).filter fun w => !c.compare.same w y
      else symmDiff.kept c.compare xs seen ++ [y] := by
  have hown : (xs.filter fun x => !c.compare.among (seen ++ [y]) x)
      = (xs.filter fun x => !c.compare.among seen x).filter fun w => !c.compare.same w y :=
    diff_snoc hc hxs hy
  rw [among_symmDiff hc hxs hseen hy hnew, kept, kept, List.filter_append, hown]
  cases hheld : c.compare.among xs y with
  | true =>
    -- what was taken over differs from the element
    simp [List.filter_append, filter_without hnew, hheld]
  | false =>
    rw [filter_without hheld]
    simp [hheld]

end

/-- What a difference has emptied stays empty. -/
theorem diff_nil_of_prefix (hinitial : seen <+: ys) (hnil : diff.kept c.compare xs seen = []) :
    diff.kept c.compare xs ys = [] := by
  rw [kept, List.filter_eq_nil_iff] at hnil ⊢
  intro x hx hleft
  refine hnil x hx ?_
  rw [Bool.not_eq_true'] at hleft ⊢
  exact List.any_eq_false.2 fun w hw => List.any_eq_false.1 hleft w (hinitial.subset hw)

/-- To discard what the other side lacks is to keep what it has. -/
theorem diff_diff {lacked : List Value} (hc : c.compare.TotalOn D) (hxs : ∀ v ∈ xs, D v)
    (hys : ∀ v ∈ ys, D v) (hlacked : lacked.Perm (diff.kept c.compare xs ys)) :
    diff.kept c.compare xs lacked = inter.keptInPlace c.compare xs ys := by
  rw [kept, keptInPlace]
  refine List.filter_congr fun x hx => ?_
  have hown : c.compare.among xs x = true :=
    Comparison.among_iff.2 ⟨x, hx, hc.refl (hxs x hx)⟩
  have hsame : ∀ y ∈ xs, c.compare.Gives y x .eq →
      (!c.compare.among ys y) = !c.compare.among ys x :=
    fun y hy heq => congrArg not (among_congr hc hys (hxs x hx) (hxs y hy) heq)
  have hamong : c.compare.among lacked x
      = c.compare.among (xs.filter fun v => !c.compare.among ys v) x := hlacked.any_eq
  rw [hamong, among_filter hsame, hown]
  simp

/-- In place an operator asks the same of an element. -/
theorem among_keptInPlace {x : Value} (hc : c.compare.TotalOn D) (hxs : ∀ v ∈ xs, D v)
    (hys : ∀ v ∈ ys, D v) (hx : D x) (operator : SetOperator) :
    c.compare.among (operator.keptInPlace c.compare xs ys) x
      = c.compare.among (operator.kept c.compare xs ys) x := by
  cases operator with
  | inter =>
    have hsame : ∀ y ∈ xs, c.compare.Gives y x .eq →
        c.compare.among ys y = c.compare.among ys x :=
      fun y hy heq => among_congr hc hys hx (hxs y hy) heq
    rw [Bool.eq_iff_iff, among_kept hc hxs hys hx, keptInPlace, among_filter hsame,
      Bool.and_eq_true]
    rfl
  | union => rfl
  | diff => rfl
  | symmDiff => rfl

end Session.SetOperator

namespace Multimap

variable {keys values : Comparator} {K V : Value → Prop} {m n n' : Multimap} {k v : Value}
  {s : Slot OrderedSet} {f : List Value → List Value}

-- ====================================================== under one key

/-- What a change under a key leaves alone: the slots of other keys, and the
key of the slot that it changes. A slot that is made has the key asked
about. -/
structure ChangedAt (k : Value) (m n : Multimap) : Prop where
  others : (n.map.slots.filter fun s => !n.isFor k s) = m.map.slots.filter fun s => !m.isFor k s
  slot : ∀ s ∈ n.map.slots, n.isFor k s = true →
    m.hasKey k = false ∧ s.key = k ∨ ∃ t ∈ m.map.slots, m.isFor k t = true ∧ s.key = t.key

private theorem ChangedAt.refl (k : Value) (m : Multimap) : ChangedAt k m m :=
  ⟨rfl, fun s hs hfor => .inr ⟨s, hs, hfor, rfl⟩⟩

/-- Revising the values of a key changes them alone. -/
private theorem changedAt_revised : ChangedAt k m (m.revised k f) where
  others := revised_others (m := m)
  slot s hs hfor := by
    obtain ⟨t, ht, hrevised⟩ := List.mem_filterMap.1 hs
    unfold reviseSlot at hrevised
    split at hrevised
    · next ht' =>
      unfold Slot.refilled? at hrevised
      split at hrevised
      · cases hrevised
      · cases hrevised
        exact .inr ⟨t, ht, ht', rfl⟩
    · next ht' =>
      cases hrevised
      exact absurd hfor ht'

/-- So does a put. -/
private theorem Added.changedAt (h : Ordered keys values K V m) (hk : keys.compare.TotalOn K)
    (hK : K k)
    (hadded : Added m k v n) : ChangedAt k m n := by
  cases hadded with
  | grown => exact changedAt_revised
  | @made before after habsent hslots _ _ =>
    have hnone := hasKey_eq_false_iff.1 habsent
    rw [hslots, List.forall_mem_append] at hnone
    have hnew := h.same_self hk hK
    constructor
    · show (before ++ _ :: after).filter (fun s => !m.isFor k s) = _
      rw [hslots, List.filter_append, List.filter_cons_of_neg, List.filter_append]
      simpa [isFor] using hnew
    · intro s hs hfor
      have hs : s ∈ before ++ _ :: after := hs
      have hfor : m.isFor k s = true := hfor
      rcases List.mem_append.1 hs with hs | hs
      · rw [hnone.1 s hs] at hfor
        cases hfor
      rcases List.mem_cons.1 hs with rfl | hs
      · exact .inl ⟨habsent, rfl⟩
      · rw [hnone.2 s hs] at hfor
        cases hfor

/-- Where there is a slot for the key there is a value under it. -/
theorem Ordered.under_ne_nil (h : Ordered keys values K V m) (hk : keys.compare.TotalOn K)
    (hK : K k) (hs : s ∈ m.map.slots) (hfor : m.isFor k s = true) : m.under k ≠ [] := by
  intro hnil
  have hhas := h.hasKey_eq hk hK
  rw [hnil] at hhas
  have hnone := hasKey_eq_false_iff.1 hhas s hs
  rw [hfor] at hnone
  cases hnone

/-- The number of entries is that of the values under a key and of those in
the slots of other keys. -/
theorem Ordered.total_eq (h : Ordered keys values K V m) (hk : keys.compare.TotalOn K)
    (hK : K k) :
    m.total = (m.under k).length + countIn (m.map.slots.filter fun s => !m.isFor k s) := by
  rcases h.located hk hK with ⟨-, hnone⟩ | ⟨before, s, after, hslots, -, hfor, hothers⟩
  · have hall : (m.map.slots.filter fun s => !m.isFor k s) = m.map.slots :=
      List.filter_eq_self.2 fun t ht => by simp [hnone t ht]
    rw [under_absent hnone, hall, h.counted]
    simp
  · obtain ⟨-, -, -, htotal⟩ := h.toIntact.parted hslots
    have hrest : (m.map.slots.filter fun s => !m.isFor k s) = before ++ after := by
      rw [hslots]
      exact filter_once (P := m.isFor k) hfor hothers
    rw [under_parted hslots hfor hothers, hrest, htotal, countIn_append, OrderedSet.size]
    omega

section

variable (h : Ordered keys values K V m) (hk : keys.compare.TotalOn K)
  (hv : values.compare.TotalOn V) (hK : K k) (hV : V v)

include h hk hv hK hV

/-- A put adds the value to those under the key, unless it is there. -/
theorem Ordered.put_changes : ∃ n isNew, (m.put k v).Yields n isNew
    ∧ Ordered keys values K V n ∧ ChangedAt k m n
    ∧ (n.under k).Perm (if m.holds k v then m.under k else m.under k ++ [v]) := by
  have hordered := h.put hk.consistentOn hv.consistentOn hK hV
  rcases h.put_effect hk hv hK hV with ⟨hheld, hyields⟩ | ⟨hnew, n, hadded, hyields⟩
  · rw [hyields.1] at hordered
    refine ⟨m, _, hyields, hordered, .refl k m, ?_⟩
    rw [if_pos hheld]
  · rw [hyields.1] at hordered
    obtain ⟨low, high, hunder, hunder'⟩ := h.under_added hk hK hadded
    refine ⟨n, _, hyields, hordered, hadded.changedAt h hk hK, ?_⟩
    rw [if_neg (by simp [hnew]), hunder, hunder']
    exact List.perm_middle.trans (List.perm_append_singleton v (low ++ high)).symm

/-- A removal takes out what is equivalent to the value. -/
theorem Ordered.remove_changes : ∃ n gone, (m.remove k v).Yields n gone
    ∧ Ordered keys values K V n ∧ ChangedAt k m n
    ∧ n.under k = (m.under k).filter fun w => !values.compare.same w v := by
  have hordered := h.remove k v
  have hyields := h.remove_effect hk hv hK hV
  rw [hyields.1] at hordered
  refine ⟨_, _, hyields, hordered, changedAt_revised, ?_⟩
  rw [← h.valueComparator]
  exact (h.under_revised hk hK rfl).1

end

-- ================================================== in the midst of a run

/-- Nothing is kept, at first or after some of the elements. -/
def Emptied (kept : List Value → List Value) (seen : List Value) : Prop :=
  ∃ first, first <+: seen ∧ kept first = []

/-- The values do not run out with an element that leaves some. -/
theorem emptied_snoc {kept : List Value → List Value} {seen : List Value}
    (hne : kept (seen ++ [v]) ≠ []) : Emptied kept (seen ++ [v]) ↔ Emptied kept seen := by
  constructor
  · rintro ⟨first, hinitial, hnil⟩
    rcases List.prefix_concat_iff.1 hinitial with rfl | hinitial
    · exact absurd hnil hne
    · exact ⟨first, hinitial, hnil⟩
  · rintro ⟨first, hinitial, hnil⟩
    exact ⟨first, hinitial.trans (List.prefix_append seen [v]), hnil⟩

/-- A multimap in the midst of a run of changes under a key of `m`: the
values there are those that are `kept` after the elements `seen`, and the
slot has its former key, unless it has gone and come again. -/
structure Midway (keys values : Comparator) (K V : Value → Prop) (m : Multimap) (k : Value)
    (kept : List Value → List Value) (n : Multimap) (seen : List Value) : Prop where
  ordered : Ordered keys values K V n
  under : (n.under k).Perm (kept seen)
  others : (n.map.slots.filter fun s => !n.isFor k s) = m.map.slots.filter fun s => !m.isFor k s
  slot : ∀ s ∈ n.map.slots, n.isFor k s = true → (Emptied kept seen → s.key = k)
    ∧ (¬Emptied kept seen → ∃ t ∈ m.map.slots, m.isFor k t = true ∧ s.key = t.key)

namespace Midway

variable {kept : List Value → List Value} {seen : List Value}

/-- Whether a value is there now is whether it is kept. -/
theorem holds_eq (h : Midway keys values K V m k kept n seen) :
    n.holds k v = values.compare.among (kept seen) v := by
  unfold holds
  rw [h.ordered.valueComparator]
  exact h.under.any_eq

variable (hk : keys.compare.TotalOn K) (hv : values.compare.TotalOn V) (hK : K k)

include hk hK

/-- Nothing was edited yet. -/
private theorem start (h : Ordered keys values K V m) (hkept : kept [] = m.under k) :
    Midway keys values K V m k kept m [] where
  ordered := h
  under := by rw [hkept]
  others := rfl
  slot s hs hfor := by
    have hne := h.under_ne_nil hk hK hs hfor
    refine ⟨?_, fun _ => ⟨s, hs, hfor, rfl⟩⟩
    rintro ⟨first, hinitial, hnil⟩
    rw [List.prefix_nil.1 hinitial, hkept] at hnil
    exact absurd hnil hne

/-- One change more. -/
theorem next (h : Midway keys values K V m k kept n seen) (hordered : Ordered keys values K V n')
    (hchanged : ChangedAt k n n') (hunder : (n'.under k).Perm (kept (seen ++ [v]))) :
    Midway keys values K V m k kept n' (seen ++ [v]) where
  ordered := hordered
  under := hunder
  others := hchanged.others.trans h.others
  slot s hs hfor := by
    have hne : kept (seen ++ [v]) ≠ [] := by
      intro hnil
      rw [hnil] at hunder
      exact hordered.under_ne_nil hk hK hs hfor hunder.eq_nil
    rw [emptied_snoc hne]
    rcases hchanged.slot s hs hfor with ⟨habsent, hkey⟩ | ⟨t, ht, hfor', hkey⟩
    · -- the slot is made anew: before this change there was nothing
      have hnil : kept seen = [] := by
        have hhas := h.ordered.hasKey_eq hk hK
        rw [habsent] at hhas
        have hempty : n.under k = [] := by simpa using hhas.symm
        have hperm := h.under
        rw [hempty] at hperm
        exact hperm.nil_eq.symm
      exact ⟨fun _ => hkey, fun hnot => absurd ⟨seen, List.prefix_rfl, hnil⟩ hnot⟩
    · rw [hkey]
      exact h.slot t ht hfor'

include hv

variable (hV : V v)

include hV

/-- An edit that puts a value goes one step on. -/
private theorem put (h : Midway keys values K V m k kept n seen)
    (hkept : kept (seen ++ [v])
      = if values.compare.among (kept seen) v then kept seen else kept seen ++ [v]) :
    ∃ n', ((n.put k v).mapResult fun _ => ()).Yields n' ()
      ∧ Midway keys values K V m k kept n' (seen ++ [v]) := by
  obtain ⟨n', isNew, hyields, hordered, hchanged, hunder⟩ := h.ordered.put_changes hk hv hK hV
  refine ⟨n', hyields.mapResult _, h.next hk hK hordered hchanged (hunder.trans ?_)⟩
  rw [hkept, h.holds_eq]
  split
  · exact h.under
  · exact h.under.append_right [v]

private theorem remove (h : Midway keys values K V m k kept n seen)
    (hkept : kept (seen ++ [v]) = (kept seen).filter fun w => !values.compare.same w v) :
    ∃ n', ((n.remove k v).mapResult fun _ => ()).Yields n' ()
      ∧ Midway keys values K V m k kept n' (seen ++ [v]) := by
  obtain ⟨n', gone, hyields, hordered, hchanged, hunder⟩ := h.ordered.remove_changes hk hv hK hV
  refine ⟨n', hyields.mapResult _, h.next hk hK hordered hchanged ?_⟩
  rw [hunder, hkept]
  exact h.under.filter _

/-- What is there goes, what is not comes. -/
theorem toggle (h : Midway keys values K V m k kept n seen) {c : Comparator}
    (hkept : kept (seen ++ [v]) = if values.compare.among (kept seen) v
      then (kept seen).filter fun w => !values.compare.same w v else kept seen ++ [v]) :
    ∃ n', ((Operand.editSlot c k).toggle n v).Yields n' ()
      ∧ Midway keys values K V m k kept n' (seen ++ [v]) := by
  have hhas : ((Operand.editSlot c k).operand n).has v = .ok (n.holds k v) :=
    h.ordered.contains_view hk hv hK hV
  rw [h.holds_eq] at hhas
  unfold Editable.toggle
  rw [hhas]
  cases hheld : values.compare.among (kept seen) v with
  | true =>
    rw [hheld] at hkept
    exact h.remove hk hv hK hV hkept
  | false =>
    refine h.put hk hv hK hV ?_
    rw [hkept, hheld]
    rfl

end Midway

-- ================================================ an operator in place

/-- One change for each element of a sorted set, which differs from those
before it. -/
theorem eachOf_yields {P : Multimap → List Value → Prop}
    {step : Multimap → Value → Outcome Multimap Unit} {o : Operand} {ys : List Value}
    (ho : Lists values V o ys)
    (hstep : ∀ n seen y, (∀ w ∈ seen, V w) → V y → values.compare.among seen y = false →
      P n seen → ∃ n', (step n y).Yields n' () ∧ P n' (seen ++ [y])) (h : P m []) :
    ∃ n, (Editable.eachOf step m (.ok o)).Yields n () ∧ P n ys := by
  rw [Editable.eachOf, ho.listing]
  refine Editable.each_yields (fun n seen y rest hys hseen => ?_) h
  have hmem := ho.mem
  rw [hys, List.forall_mem_append, List.forall_mem_cons] at hmem
  exact hstep n seen y hmem.1 hmem.2.1 (SetOperator.among_before hys ho.differing) hseen

/-- Whether an operator in place makes the slot of a key anew: there is no
value under the key, at first or after some of the elements of the other
side, and others may come. -/
def Renews (values : Comparator) (operator : SetOperator) (xs ys : List Value) : Prop :=
  match operator with
  | .union | .symmDiff => Emptied (operator.kept values.compare xs) ys
  | .inter | .diff => False

/-- What an operator in place leaves. -/
structure Edited (keys values : Comparator) (K V : Value → Prop) (m : Multimap) (k : Value)
    (operator : SetOperator) (ys : List Value) (n : Multimap) : Prop where
  ordered : Ordered keys values K V n
  under : (n.under k).Perm (operator.keptInPlace values.compare (m.under k) ys)
  others : (n.map.slots.filter fun s => !n.isFor k s) = m.map.slots.filter fun s => !m.isFor k s
  slot : ∀ s ∈ n.map.slots, n.isFor k s = true →
    (Renews values operator (m.under k) ys → s.key = k)
      ∧ (¬Renews values operator (m.under k) ys →
        ∃ t ∈ m.map.slots, m.isFor k t = true ∧ s.key = t.key)

section

variable (h : Ordered keys values K V m) (hk : keys.compare.TotalOn K)
  (hv : values.compare.TotalOn V) (hK : K k) {o : Operand} {ys : List Value}

include h hk hv hK

/-- Where values are only discarded the slot is the former one, if it is
left. -/
theorem discard_edited (ho : Lists values V o ys) :
    ∃ n, (Editable.eachOf (Operand.editSlot values k).discard m (.ok o)).Yields n ()
      ∧ Ordered keys values K V n
      ∧ (n.under k).Perm (SetOperator.diff.kept values.compare (m.under k) ys)
      ∧ (n.map.slots.filter fun s => !n.isFor k s) = (m.map.slots.filter fun s => !m.isFor k s)
      ∧ ∀ s ∈ n.map.slots, n.isFor k s = true →
        ∃ t ∈ m.map.slots, m.isFor k t = true ∧ s.key = t.key := by
  have hold := (h.under_ascends hk hK).1
  have hstart : SetOperator.diff.kept values.compare (m.under k) [] = m.under k :=
    List.filter_eq_self.2 fun _ _ => rfl
  obtain ⟨n, hyields, hn⟩ := eachOf_yields ho
    (fun n seen y _ hy _ hmid => hmid.remove hk hv hK hy (SetOperator.diff_snoc hv hold hy))
    (Midway.start hk hK h hstart)
  refine ⟨n, hyields, hn.ordered, hn.under, hn.others, fun s hs hfor => ?_⟩
  refine (hn.slot s hs hfor).2 ?_
  rintro ⟨first, hinitial, hnil⟩
  have hunder := hn.under
  rw [SetOperator.diff_nil_of_prefix hinitial hnil] at hunder
  exact hn.ordered.under_ne_nil hk hK hs hfor hunder.eq_nil

/-- The whole edit, from the first step to the last. -/
private theorem edit_yields (hview : Lists values V (.slotView ⟨m, k⟩) (m.under k))
    (ho : Lists values V o ys) (operator : SetOperator) :
    ∃ n, (operator.edit (Operand.editSlot values k) false m o).Yields n ()
      ∧ Edited keys values K V m k operator ys n := by
  have hold := (h.under_ascends hk hK).1
  cases operator with
  | union =>
    have hstart : SetOperator.union.kept values.compare (m.under k) [] = m.under k := by
      simp [SetOperator.kept]
    obtain ⟨n, hyields, hn⟩ := eachOf_yields ho
      (fun n seen y hseen hy hnew hmid => hmid.put hk hv hK hy
        (SetOperator.union_snoc hv hold hseen hy hnew))
      (Midway.start hk hK h hstart)
    exact ⟨n, hyields, hn.ordered, hn.under, hn.others, hn.slot⟩
  | symmDiff =>
    have hstart : SetOperator.symmDiff.kept values.compare (m.under k) [] = m.under k := by
      simp [SetOperator.kept, Comparison.among]
    -- the other side is a set already, so it is not collected
    have hset : (Maker.ordered values).asSet o = .ok o := by
      rw [Maker.asSet, ho.isSet]
      rfl
    obtain ⟨n, hyields, hn⟩ := eachOf_yields ho
      (fun n seen y hseen hy hnew hmid => hmid.toggle (c := values) hk hv hK hy
        (SetOperator.symmDiff_snoc hv hold hseen hy hnew))
      (Midway.start hk hK h hstart)
    refine ⟨n, ?_, hn.ordered, hn.under, hn.others, hn.slot⟩
    show (Editable.eachOf _ m ((Maker.ordered values).asSet o)).Yields n ()
    rw [hset]
    exact hyields
  | diff =>
    obtain ⟨n, hyields, hordered, hunder, hothers, hslot⟩ := discard_edited h hk hv hK ho
    exact ⟨n, hyields, hordered, hunder, hothers,
      fun s hs hfor => ⟨False.elim, fun _ => hslot s hs hfor⟩⟩
  | inter =>
    -- what the other side lacks is collected first, and then discarded
    obtain ⟨lacked, hdiff, hreached, hperm⟩ := hview.diff_eq hv ho "-"
    have hlacked := (hreached.sorted hv.consistentOn).lists hv
    obtain ⟨n, hyields, hordered, hunder, hothers, hslot⟩ := discard_edited h hk hv hK hlacked
    rw [SetOperator.diff_diff hv hold ho.mem hperm] at hunder
    refine ⟨n, ?_, hordered, hunder, hothers,
      fun s hs hfor => ⟨False.elim, fun _ => hslot s hs hfor⟩⟩
    show (Editable.eachOf _ m (Operand.diff (.slotView ⟨m, k⟩) o)).Yields n ()
    rw [hdiff]
    exact hyields

end

/-- What is under a key is what its view is to an operator. -/
theorem Ordered.lists_view (h : Ordered keys values K V m) (hk : keys.compare.TotalOn K)
    (hv : values.compare.TotalOn V) (hK : K k) (hm : ValuesOrdered keys values V m) :
    Lists values V (.slotView ⟨m, k⟩) (m.under k) := by
  have hlists := hm.lists hv (h.valuesAt?_eq hk hK)
  rwa [Option.map_map] at hlists

/-- An operator in place on the values under a key does to them what it
gives elsewhere: they are equivalent, place by place, to the set that the
operator would have given before, though it may keep the other side's
objects where they stay. The key is there just if there is a value, a slot
that is made has the key of the view, the number of entries changes with
that of the values, and the slots of other keys stay. -/
theorem in_place_agrees {t : OrderedSet} (hk : keys.compare.TotalOn K)
    (hv : values.compare.TotalOn V) (hm : Reached keys values K V m) (hK : K k)
    (ht : t.Reached values V) (operator : SetOperator) (mark : String) :
    ∃ n old new zs,
      (operator.edit (Operand.editSlot m.valueComparator k) false m (.orderedSet t)).Yields n ()
      ∧ (SlotView.mk m k).items = .ok old ∧ (SlotView.mk n k).items = .ok new
      ∧ operator.apply (.slotView ⟨m, k⟩) (.orderedSet t) mark = .ok (.orderedSet ⟨values, zs⟩)
      ∧ List.Forall₂ (fun v w => values.compare.Gives v w .eq) new zs
      ∧ new.Perm (operator.keptInPlace values.compare old t.items)
      ∧ n.containsKey k = .ok (!zs.isEmpty)
      ∧ n.total + old.length = m.total + zs.length
      ∧ (n.map.slots.filter fun s => !n.isFor k s) = (m.map.slots.filter fun s => !m.isFor k s)
      ∧ ∀ s ∈ n.map.slots, n.isFor k s = true →
        (Renews values operator old t.items → s.key = k)
          ∧ (¬Renews values operator old t.items →
            ∃ former ∈ m.map.slots, m.isFor k former = true ∧ s.key = former.key) := by
  have h := hm.ordered hk.consistentOn hv.consistentOn
  have hview := h.lists_view hk hv hK (hm.valuesOrdered hv.consistentOn)
  have hother := (ht.sorted hv.consistentOn).lists hv
  obtain ⟨n, hyields, hn⟩ := edit_yields h hk hv hK hview hother operator
  obtain ⟨result, happly, hreached, hperm⟩ := hview.apply_eq hv hother operator mark
  have hsorted := hreached.sorted hv.consistentOn
  have heta : result = ⟨values, result.items⟩ := by rw [← hsorted.comparator]
  obtain ⟨hnew, hasc⟩ := hn.ordered.under_ascends hk hK
  -- both have the elements that the operator asks for
  have hamong : ∀ x, V x →
      values.compare.among (n.under k) x = values.compare.among result.items x := by
    intro x hx
    have hinPlace : values.compare.among (n.under k) x = _ := hn.under.any_eq
    have hgiven : values.compare.among result.items x = _ := hperm.any_eq
    rw [hinPlace, hgiven]
    exact SetOperator.among_keptInPlace hv hview.mem hother.mem hx operator
  have hplaces : List.Forall₂ (fun v w => values.compare.Gives v w .eq) (n.under k)
      result.items := by
    rw [Comparison.forall₂_iff_within hv hnew hsorted.mem hasc hsorted.ascends,
      Comparison.within_iff hv hnew hsorted.mem, Comparison.within_iff hv hsorted.mem hnew]
    constructor
    · intro x hx
      rw [← hamong x (hnew x hx)]
      exact Comparison.among_iff.2 ⟨x, hx, hv.refl (hnew x hx)⟩
    · intro x hx
      rw [hamong x (hsorted.mem x hx)]
      exact Comparison.among_iff.2 ⟨x, hx, hv.refl (hsorted.mem x hx)⟩
  have hlength := hplaces.length_eq
  refine ⟨n, m.under k, n.under k, result.items, ?_, h.items_eq hk hK, hn.ordered.items_eq hk hK,
    heta ▸ happly, hplaces, hn.under, ?_, ?_, hn.others, hn.slot⟩
  · rw [h.valueComparator]
    exact hyields
  · have hempty : (n.under k).isEmpty = result.items.isEmpty := by
      rw [Bool.eq_iff_iff, List.isEmpty_iff_length_eq_zero, List.isEmpty_iff_length_eq_zero,
        hlength]
    rw [hn.ordered.containsKey_eq hk hK, hn.ordered.hasKey_eq hk hK, hempty]
  · rw [hn.ordered.total_eq hk hK, h.total_eq hk hK, hn.others]
    omega

/-- Texts by their case fold, under a key that the view spells otherwise. An
intersection keeps the spellings that were there, and a symmetric difference
takes the slot out with the last of them and makes it anew. -/
theorem in_place_agrees_caseFold :
    let isText : Value → Prop := fun v => ∃ s, v.text? = some s
    let history : List Operation :=
      [.putAll (.text "pear") [.text "b", .text "A"], .put (.text "Fig") (.text "x")]
    let m := (empty .caseFold .caseFold).afterAll history
    let t := SlotChange.afterSet (SlotChange.afterSet (SlotChange.afterSet (.empty .caseFold)
      (.add (.text "C"))) (.add (.text "a"))) (.add (.text "B"))
    let k : Value := .text "PEAR"
    let edited : SetOperator → Multimap := fun operator =>
      (operator.edit (Operand.editSlot m.valueComparator k) false m (.orderedSet t)).state
    let texts : SetOperator → List (Option String × Option String) := fun operator =>
      (edited operator).entries.map fun e => (e.1.text?.map Text.lossy, e.2.text?.map Text.lossy)
    Comparator.caseFold.compare.TotalOn isText ∧ Reached .caseFold .caseFold isText isText m
      ∧ isText k ∧ t.Reached .caseFold isText
      ∧ (∀ operator : SetOperator, ∃ new zs, (SlotView.mk (edited operator) k).items = .ok new
        ∧ operator.apply (.slotView ⟨m, k⟩) (.orderedSet t) "" = .ok (.orderedSet ⟨.caseFold, zs⟩)
        ∧ List.Forall₂ (fun v w => Comparator.caseFold.compare.Gives v w .eq) new zs)
      ∧ texts .union = [(some "Fig", some "x"), (some "pear", some "A"), (some "pear", some "b"),
        (some "pear", some "C")]
      ∧ texts .inter = [(some "Fig", some "x"), (some "pear", some "A"), (some "pear", some "b")]
      ∧ texts .diff = [(some "Fig", some "x")]
      ∧ texts .symmDiff = [(some "Fig", some "x"), (some "PEAR", some "C")] := by
  intro isText history m t k edited texts
  have htotal : Comparator.caseFold.compare.TotalOn isText := Comparator.caseFold_totalOn
  have hputs : ∀ operation ∈ history, operation.Puts isText isText := by
    simp [history, isText, Operation.Puts, Value.text?]
  have hm : Reached .caseFold .caseFold isText isText m := ⟨history, hputs, rfl⟩
  have hk : isText k := ⟨_, rfl⟩
  have ht : t.Reached .caseFold isText :=
    .changed _ (.changed _ (.changed _ .empty ⟨_, rfl⟩) ⟨_, rfl⟩) ⟨_, rfl⟩
  refine ⟨htotal, hm, hk, ht, fun operator => ?_, by decide +kernel, by decide +kernel,
    by decide +kernel, by decide +kernel⟩
  obtain ⟨n, -, new, zs, hyields, -, hnew, happly, hplaces, -⟩ :=
    in_place_agrees htotal htotal hm hk ht operator ""
  have hstate : edited operator = n := hyields.1
  rw [hstate]
  exact ⟨new, zs, hnew, happly, hplaces⟩

end Multimap

end Collation
