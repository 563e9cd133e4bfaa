/-
Set operators on sorted sets: sets of their own, the values under a key and
the keys of a multimap. To the operators such a set is nothing but a listing
in order, in which a search answers as a scan would (`Operand.Lists`): what
it is a view of, and what stands on the other side of that multimap, has no
say.

An operator tests the elements of one side or of both and adds those that
pass to an empty set (`Maker.collectOrdered_eq`). Each side differs in its
elements, so all that pass are there in the end, but those of the second
side of which the first has an equivalent (`Operand.Lists.apply_eq`). That
tells which object is kept; that an equivalent one is there is then a matter
of the two listings alone (`among_kept`).
-/
import Collation.Proofs.Sets.Order

namespace Collation

open Bisect (Ascends)
open Session (SetOperator)

-- ============================================================== listings

namespace Operand

/-- A sorted set of values of a domain: one of its own, the values under a
key that a look-up does not fail on, or the keys. -/
inductive SortedSet (c : Comparator) (D : Value → Prop) : Operand → Prop where
  | set {s : OrderedSet} : s.Reached c D → SortedSet c D (.orderedSet s)
  | values {keys : Comparator} {K : Value → Prop} {m : Multimap} {k : Value}
    {found : Option OrderedSet} :
    m.Reached keys c K D → m.valuesAt? k = .ok found → SortedSet c D (.slotView ⟨m, k⟩)
  | keys {values : Comparator} {V : Value → Prop} {m : Multimap} :
    m.Reached c values D V → SortedSet c D (.keyView ⟨m⟩)

/-- What a sorted set is to an operator: it makes sorted sets by the
comparator, lists elements in order, and finds what is among them. -/
structure Lists (c : Comparator) (D : Value → Prop) (o : Operand) (xs : List Value) : Prop where
  maker : o.maker? = some (.ordered c)
  isSet : o.isSet = true
  isIterable : o.isIterable = true
  elements : o.elements = readings (.ok xs)
  member : ∀ v, D v → member (.value v) o = .ok (c.compare.among xs v)
  mem : ∀ v ∈ xs, D v
  ascends : Ascends c.compare id xs

variable {c : Comparator} {D : Value → Prop} {o a b : Operand} {xs ys : List Value} {x : Value}

/-- What is listed is listed without failure. -/
theorem Lists.listing (h : Lists c D o xs) : o.listing = xs.map .ok := by
  rw [Operand.listing, h.elements, readings, List.map_map]
  rfl

end Operand

open Operand (Lists SortedSet)

variable {c : Comparator} {D : Value → Prop} {o a b : Operand} {s : OrderedSet}
  {xs ys : List Value} {x : Value}

/-- A set in order lists its elements. -/
theorem OrderedSet.Sorted.lists (h : s.Sorted c D) (hc : c.compare.TotalOn D) :
    Lists c D (.orderedSet s) s.items where
  maker := congrArg (some ∘ Maker.ordered) h.comparator
  isSet := rfl
  isIterable := rfl
  elements := rfl
  member _ hv := h.contains_eq hc hv
  mem := h.mem
  ascends := h.ascends

/-- The values that a look-up finds are those of a slot. -/
theorem Multimap.slot_of_valuesAt? {m : Multimap} {k : Value} (h : m.valuesAt? k = .ok (some s)) :
    ∃ t ∈ m.map.slots, t.value = s := by
  obtain ⟨place, hplace, hsecond⟩ := map_eq_ok.1 h
  cases place with
  | none => cases hsecond
  | some found =>
    obtain ⟨before, t, after, hslots, -, hvalue, -⟩ := OrderedMap.locate?_eq_some hplace
    exact ⟨t, mem_of_parted hslots, hvalue.trans (Option.some.inj hsecond).symm⟩

/-- The view of the values of a key lists them, or nothing if the key is
absent. -/
theorem Multimap.ValuesOrdered.lists {keys : Comparator} {m : Multimap} {k : Value}
    {found : Option OrderedSet} (h : m.ValuesOrdered keys c D) (hc : c.compare.TotalOn D)
    (hfound : m.valuesAt? k = .ok found) :
    Lists c D (.slotView ⟨m, k⟩) ((found.map OrderedSet.items).getD []) := by
  have hmaker : (Operand.slotView ⟨m, k⟩).maker? = some (.ordered c) :=
    congrArg (some ∘ Maker.ordered) h.valueComparator
  have helements : (Operand.slotView ⟨m, k⟩).elements
      = Operand.readings (.ok ((found.map OrderedSet.items).getD [])) := by
    show Operand.readings ((m.valuesAt? k).map _) = _
    rw [hfound]
    rfl
  have hcontains : ∀ v, Operand.member (.value v) (.slotView ⟨m, k⟩)
      = (found.map fun s => s.contains v).getD (.ok false) := by
    intro v
    show (SlotView.mk m k).contains v = _
    unfold SlotView.contains SlotView.values?
    dsimp only
    rw [hfound]
    cases found <;> rfl
  cases found with
  | none =>
    exact ⟨hmaker, rfl, rfl, helements, fun v _ => hcontains v,
      fun _ hv => absurd hv List.not_mem_nil, List.Pairwise.nil⟩
  | some s =>
    obtain ⟨t, ht, rfl⟩ := Multimap.slot_of_valuesAt? hfound
    have hsorted := OrderedSet.sorted_slot h ht
    exact ⟨hmaker, rfl, rfl, helements,
      fun v hv => (hcontains v).trans (hsorted.contains_eq hc hv), hsorted.mem, hsorted.ascends⟩

/-- The view of the keys lists them. -/
theorem Multimap.KeysOrdered.lists {m : Multimap} (h : m.KeysOrdered c D)
    (hc : c.compare.TotalOn D) : Lists c D (.keyView ⟨m⟩) m.keys where
  maker := congrArg (some ∘ Maker.ordered) h.keyComparator
  isSet := rfl
  isIterable := rfl
  elements := rfl
  member v hv := by
    have hfind : m.map.find v = Bisect.find c.compare Slot.key m.map.slots v := by
      rw [← h.keyComparator]
      rfl
    show (m.map.find v).map Option.isSome = _
    rw [hfind, isSome_find hc h.key_mem hv h.ascends, Comparison.among, Multimap.keys,
      OrderedMap.keys, List.any_map]
    rfl
  mem := List.forall_mem_map.2 h.key_mem
  ascends := List.pairwise_map.2 h.ascends

/-- Whatever kind of sorted set it is, its listing is all that matters. -/
theorem Operand.SortedSet.lists (h : SortedSet c D o) (hc : c.compare.TotalOn D) :
    ∃ xs, Lists c D o xs := by
  cases h with
  | set hs => exact ⟨_, (hs.sorted hc.consistentOn).lists hc⟩
  | values hm hfound => exact ⟨_, (hm.valuesOrdered hc.consistentOn).lists hc hfound⟩
  | keys hm => exact ⟨_, (hm.keysOrdered hc.consistentOn).lists hc⟩

/-- A look-up does not fail on a key that the comparator of the keys is
total on. -/
theorem Operand.SortedSet.under {keys : Comparator} {K : Value → Prop} {m : Multimap} {k : Value}
    (hm : m.Reached keys c K D) (hk : keys.compare.TotalOn K) (hc : c.compare.ConsistentOn D)
    (hK : K k) : SortedSet c D (.slotView ⟨m, k⟩) :=
  .values hm ((hm.ordered hk.consistentOn hc).valuesAt?_eq hk hK)

-- ============================================================ collecting

/-- Collecting what passes a test is adding it, where the test does not fail. -/
theorem Maker.collectOrdered_eq {test : Operand → Except Fault Bool} {p : Value → Bool}
    {s : OrderedSet} (h : ∀ x ∈ xs, test (.value x) = .ok (p x)) :
    collectOrdered test s (Operand.readings (.ok xs)) = s.addAll (xs.filter p) := by
  induction xs generalizing s with
  | nil => rfl
  | cons x xs ih =>
    obtain ⟨hx, hxs⟩ := List.forall_mem_cons.1 h
    have hreadings : Operand.readings (.ok (x :: xs))
        = .ok (.value x) :: Operand.readings (.ok xs) := rfl
    rw [hreadings, collectOrdered]
    cases hp : p x with
    | false =>
      rw [List.filter_cons_of_neg (by simp [hp]), ← ih hxs]
      simp [hx, hp, bind, Except.bind]
    | true =>
      rw [List.filter_cons_of_pos hp, OrderedSet.addAll]
      cases hadd : s.add x with
      | error e => simp [hx, hp, hadd, Operand.toValue, bind, Except.bind]
      | ok added => simp [hx, hp, hadd, Operand.toValue, bind, Except.bind, ih hxs]

/-- Asking for none that passes a test finds out whether any would be
collected. -/
theorem Operand.noneHolds_eq {test : Operand → Except Fault Bool} {p : Value → Bool}
    (h : ∀ x ∈ xs, test (.value x) = .ok (p x)) :
    noneHolds (fun reading => do test (← reading)) (readings (.ok xs))
      = .ok (xs.filter p).isEmpty := by
  induction xs with
  | nil => rfl
  | cons x xs ih =>
    obtain ⟨hx, hxs⟩ := List.forall_mem_cons.1 h
    have hreadings : readings (.ok (x :: xs)) = .ok (.value x) :: readings (.ok xs) := rfl
    rw [hreadings, noneHolds]
    cases hp : p x with
    | false =>
      rw [List.filter_cons_of_neg (by simp [hp]), ← ih hxs]
      simp [hx, hp, bind, Except.bind]
    | true =>
      rw [List.filter_cons_of_pos hp]
      simp [hx, hp, bind, Except.bind, pure, Except.pure]

namespace Session.SetOperator

/-- The elements of two sets that an operator keeps. -/
def kept (c : Comparison) : SetOperator → List Value → List Value → List Value
  | union, xs, ys => xs ++ ys.filter fun y => !c.among xs y
  | inter, xs, ys => ys.filter fun y => c.among xs y
  | diff, xs, ys => xs.filter fun x => !c.among ys x
  | symmDiff, xs, ys => (xs.filter fun x => !c.among ys x) ++ ys.filter fun y => !c.among xs y

/-- What an operator asks of an element: to be in the one set, in the other. -/
def asks : SetOperator → Prop → Prop → Prop
  | union, p, q => p ∨ q
  | inter, p, q => p ∧ q
  | diff, p, q => p ∧ ¬q
  | symmDiff, p, q => p ∧ ¬q ∨ q ∧ ¬p

end Session.SetOperator

/-- A value is among others if the comparator gives one as its equivalent. -/
theorem Comparison.among_iff {c : Comparison} :
    c.among xs x = true ↔ ∃ w ∈ xs, c.Gives w x .eq := by
  rw [among, List.any_eq_true]
  simp only [same_iff]

section

variable (hc : c.compare.TotalOn D) (hxs : ∀ v ∈ xs, D v) (hys : ∀ v ∈ ys, D v) (hx : D x)

include hc hxs hx

/-- Equivalent values are among the same ones. -/
theorem among_congr {y : Value} (hy : D y) (heq : c.compare.Gives y x .eq) :
    c.compare.among xs y = c.compare.among xs x := by
  rw [Bool.eq_iff_iff, Comparison.among_iff, Comparison.among_iff]
  constructor
  · rintro ⟨w, hw, hwy⟩
    exact ⟨w, hw, hc.eq_trans (hxs w hw) hy hx hwy heq⟩
  · rintro ⟨w, hw, hwx⟩
    exact ⟨w, hw, hc.eq_trans (hxs w hw) hx hy hwx (hc.swap hy hx heq)⟩

omit hc hxs hx in
/-- Of the elements that pass a test that equivalent ones pass together. -/
theorem among_filter {p : Value → Bool}
    (hp : ∀ y ∈ ys, c.compare.Gives y x .eq → p y = p x) :
    c.compare.among (ys.filter p) x = (c.compare.among ys x && p x) := by
  rw [Bool.eq_iff_iff, Bool.and_eq_true, Comparison.among_iff, Comparison.among_iff]
  constructor
  · rintro ⟨y, hy, heq⟩
    obtain ⟨hmem, hpass⟩ := List.mem_filter.1 hy
    exact ⟨⟨y, hmem, heq⟩, hp y hmem heq ▸ hpass⟩
  · rintro ⟨⟨y, hy, heq⟩, hpass⟩
    exact ⟨y, List.mem_filter.2 ⟨hy, hp y hy heq ▸ hpass⟩, heq⟩

include hys

/-- What an operator keeps is what it asks for. -/
theorem among_kept (operator : SetOperator) :
    c.compare.among (operator.kept c.compare xs ys) x = true
      ↔ operator.asks (c.compare.among xs x = true) (c.compare.among ys x = true) := by
  -- an equivalent of the probe is among the one side just if the probe is
  have hleft : ∀ y ∈ ys, c.compare.Gives y x .eq →
      c.compare.among xs y = c.compare.among xs x :=
    fun y hy heq => among_congr hc hxs hx (hys y hy) heq
  have hright : ∀ y ∈ xs, c.compare.Gives y x .eq →
      c.compare.among ys y = c.compare.among ys x :=
    fun y hy heq => among_congr hc hys hx (hxs y hy) heq
  have hnew := among_filter (p := fun y => !c.compare.among xs y)
    fun y hy heq => congrArg not (hleft y hy heq)
  have hown := among_filter (p := fun y => !c.compare.among ys y)
    fun y hy heq => congrArg not (hright y hy heq)
  have happend : ∀ us vs, c.compare.among (us ++ vs) x
      = (c.compare.among us x || c.compare.among vs x) := fun us vs => List.any_append
  cases operator with
  | union =>
    rw [SetOperator.kept, happend, hnew, SetOperator.asks]
    cases c.compare.among xs x <;> simp
  | inter =>
    rw [SetOperator.kept, among_filter hleft, SetOperator.asks, Bool.and_eq_true, and_comm]
  | diff =>
    rw [SetOperator.kept, hown, SetOperator.asks]
    simp
  | symmDiff =>
    rw [SetOperator.kept, happend, hnew, hown, SetOperator.asks]
    simp

end

-- ======================================================== each operator

/-- What an operator gives: a sorted set of some values, in whatever order
they were added. -/
def Operand.Sorts (c : Comparator) (D : Value → Prop) (zs : List Value)
    (result : Except Fault Operand) : Prop :=
  ∃ s, result = .ok (.orderedSet s) ∧ s.Reached c D ∧ s.items.Perm zs

namespace Operand.Lists

/-- The elements differ among themselves. -/
theorem differing (h : Lists c D o xs) : xs.Pairwise fun v w => c.compare.same v w = false :=
  h.ascends.imp fun hlt => hlt.same

/-- The set in front makes the result. -/
theorem operate_eq (ha : Lists c D a xs) (hb : Lists c D b ys) {operator : String}
    {apply : Maker → Operand → Operand → Bool → Except Fault Operand}
    {plain : Value → Value → Option (Except Fault Value)} :
    operate operator a b apply plain = apply (.ordered c) a b false := by
  unfold operate
  simp [ha.maker, hb.isIterable]

variable (hc : c.compare.TotalOn D)

include hc

/-- Elements of one listing that are added to an empty set. -/
theorem collect (h : Lists c D o xs) {p : Value → Bool}
    {test : Operand → Except Fault Bool} (htest : ∀ x ∈ xs, test (.value x) = .ok (p x)) :
    Sorts c D (xs.filter p) ((Maker.ordered c).collect test o.elements) := by
  have hmem : ∀ x ∈ xs.filter p, D x := fun x hx => h.mem x (List.mem_filter.1 hx).1
  obtain ⟨s, hadd, -, hperm⟩ := (OrderedSet.Sorted.empty c D).addAll_differing hc hmem
    (h.differing.filter p)
  refine ⟨s, ?_, OrderedSet.reached_addAll hmem .empty hadd, hperm.trans ?_⟩
  · rw [Maker.collect, h.elements, Maker.collectOrdered_eq htest, hadd]
    rfl
  · have hall : ((xs.filter p).filter fun v => !c.compare.among (OrderedSet.empty c).items v)
        = xs.filter p := List.filter_eq_self.2 fun _ _ => rfl
    rw [hall]
    exact .refl _

private theorem inter_eq (ha : Lists c D a xs) (hb : Lists c D b ys) (operator : String) :
    Sorts c D (SetOperator.inter.kept c.compare xs ys) (a.inter b operator) := by
  rw [Operand.inter, ha.operate_eq hb]
  exact hb.collect hc fun y hy => ha.member y (hb.mem y hy)

/-- A difference sorts the elements that the other side lacks. -/
theorem diff_eq (ha : Lists c D a xs) (hb : Lists c D b ys) (operator : String) :
    Sorts c D (SetOperator.diff.kept c.compare xs ys) (a.diff b operator) := by
  have hset : (Maker.ordered c).asSet b = .ok b := by
    rw [Maker.asSet, hb.isSet]
    rfl
  rw [Operand.diff, ha.operate_eq hb, hset]
  refine ha.collect hc fun x hx => ?_
  rw [hb.member x (ha.mem x hx)]
  rfl

/-- The elements of both sides are added. -/
theorem union_eq (ha : Lists c D a xs) (hb : Lists c D b ys) (operator : String) :
    Sorts c D (SetOperator.union.kept c.compare xs ys) (a.union b operator) := by
  obtain ⟨first, hfirst, hsorted, hperm⟩ :=
    (OrderedSet.Sorted.empty c D).addAll_differing hc ha.mem ha.differing
  obtain ⟨s, hadd, -, hperm'⟩ := hsorted.addAll_differing hc hb.mem hb.differing
  have hnone : (xs.filter fun v => !c.compare.among (OrderedSet.empty c).items v) = xs :=
    List.filter_eq_self.2 fun _ _ => rfl
  rw [hnone] at hperm
  have hall : (OrderedSet.empty c).addAll (xs ++ ys) = .ok s := by
    rw [OrderedSet.addAll_append, hfirst]
    exact hadd
  refine ⟨s, ?_, OrderedSet.reached_addAll (List.forall_mem_append.2 ⟨ha.mem, hb.mem⟩) .empty hall,
    hperm'.trans ?_⟩
  · have helements : a.elements ++ b.elements = readings (.ok (xs ++ ys)) := by
      rw [ha.elements, hb.elements, readings, readings, readings, List.map_append]
    rw [Operand.union, ha.operate_eq hb, Maker.union, helements, Maker.ofList, Maker.collect,
      Maker.collectOrdered_eq (p := fun _ => true) fun _ _ => rfl, List.filter_true, hall]
    rfl
  · have hsame : (fun y => !c.compare.among first.items y) = fun y => !c.compare.among xs y := by
      funext y
      exact congrArg not hperm.any_eq
    rw [hsame]
    exact hperm.append_right _

/-- What is in one side only is not among what is in the other only. -/
theorem symmDiff_eq (ha : Lists c D a xs) (hb : Lists c D b ys) (operator : String) :
    Sorts c D (SetOperator.symmDiff.kept c.compare xs ys) (a.symmDiff b operator) := by
  have hset : (Maker.ordered c).asSet b = .ok b := by
    rw [Maker.asSet, hb.isSet]
    rfl
  obtain ⟨own, hown, hreached, hperm⟩ := ha.diff_eq hc hb "-"
  obtain ⟨other, hother, hreached', hperm'⟩ := hb.diff_eq hc ha "-"
  obtain ⟨s, hs, hresult, hitems⟩ := ((hreached.sorted hc.consistentOn).lists hc).union_eq hc
    ((hreached'.sorted hc.consistentOn).lists hc) "|"
  refine ⟨s, ?_, hresult, hitems.trans ?_⟩
  · rw [Operand.symmDiff, ha.operate_eq hb, hset]
    simp only [bind, Except.bind, hown, hother]
    exact hs
  · have hapart : ∀ y ∈ other.items, c.compare.among own.items y = false := by
      intro y hy
      obtain ⟨-, hnot⟩ := List.mem_filter.1 (hperm'.mem_iff.1 hy)
      rw [Bool.not_eq_true'] at hnot
      rw [Bool.eq_false_iff] at hnot ⊢
      intro hmem
      obtain ⟨w, hw, heq⟩ := Comparison.among_iff.1 hmem
      exact hnot (Comparison.among_iff.2 ⟨w, (List.mem_filter.1 (hperm.mem_iff.1 hw)).1, heq⟩)
    rw [SetOperator.kept,
      List.filter_eq_self.2 fun y hy => by rw [hapart y hy]; rfl]
    exact hperm.append hperm'

/-- Each operator sorts what it is said to keep. -/
theorem apply_eq (ha : Lists c D a xs) (hb : Lists c D b ys) (operator : SetOperator)
    (mark : String) :
    Sorts c D (operator.kept c.compare xs ys) (operator.apply a b mark) := by
  cases operator with
  | union => exact ha.union_eq hc hb _
  | inter => exact ha.inter_eq hc hb _
  | diff => exact ha.diff_eq hc hb _
  | symmDiff => exact ha.symmDiff_eq hc hb _

omit hc in
/-- Two sets are disjoint if no element of the second is in the first. -/
theorem isDisjoint_eq (ha : Lists c D a xs) (hb : Lists c D b ys) :
    a.isDisjoint b = .ok (SetOperator.inter.kept c.compare xs ys).isEmpty := by
  rw [isDisjoint, hb.elements, noneHolds_eq fun y hy => ha.member y (hb.mem y hy)]
  rfl

end Operand.Lists

-- ======================================================== all operators

/-- The operators on sorted sets are those on sets, up to equivalence: what
they give is such a set again, and an element is there as the operator asks
of the two sides. Of equivalent elements one stays, which one depends on
the operator. Two sets are disjoint if they have nothing in common. -/
theorem set_operators (hc : c.compare.TotalOn D) (ha : SortedSet c D a) (hb : SortedSet c D b)
    (operator : SetOperator) (mark : String) :
    ∃ xs ys zs, a.listing = xs.map .ok ∧ b.listing = ys.map .ok
      ∧ operator.apply a b mark = .ok (.orderedSet ⟨c, zs⟩)
      ∧ SortedSet c D (.orderedSet ⟨c, zs⟩) ∧ Ascends c.compare id zs
      ∧ zs.Perm (operator.kept c.compare xs ys)
      ∧ (∀ x, D x → ((∃ z ∈ zs, c.compare.Gives z x .eq)
        ↔ operator.asks (∃ y ∈ xs, c.compare.Gives y x .eq) (∃ y ∈ ys, c.compare.Gives y x .eq)))
      ∧ ∃ disjoint, a.isDisjoint b = .ok disjoint
        ∧ (disjoint = true
          ↔ SetOperator.inter.apply a b mark = .ok (.orderedSet (.empty c))) := by
  obtain ⟨xs, hxs⟩ := ha.lists hc
  obtain ⟨ys, hys⟩ := hb.lists hc
  obtain ⟨s, hs, hreached, hperm⟩ := hxs.apply_eq hc hys operator mark
  have hsorted := hreached.sorted hc.consistentOn
  have heta : s = ⟨c, s.items⟩ := by rw [← hsorted.comparator]
  refine ⟨xs, ys, s.items, hxs.listing, hys.listing, heta ▸ hs, heta ▸ .set hreached,
    hsorted.ascends, hperm, fun x hx => ?_, _, hxs.isDisjoint_eq hys, ?_⟩
  · -- the result is the sorted kept elements, so it has the same ones
    have hamong : c.compare.among s.items x = c.compare.among (operator.kept c.compare xs ys) x :=
      hperm.any_eq
    rw [← Comparison.among_iff, ← Comparison.among_iff, ← Comparison.among_iff, hamong]
    exact among_kept hc hxs.mem hys.mem hx operator
  · obtain ⟨common, hcommon, hreached', hperm'⟩ := hxs.apply_eq hc hys .inter mark
    rw [hcommon, List.isEmpty_iff]
    constructor
    · intro hnil
      rw [hnil] at hperm'
      have hitems := hperm'.eq_nil
      have hcomparator := (hreached'.sorted hc.consistentOn).comparator
      cases common
      cases hitems
      cases hcomparator
      rfl
    · intro heq
      cases heq
      exact hperm'.nil_eq.symm

/-- Texts by their case fold: a set of its own and the values under a key.
The side that keeps its spelling is the first for a union, and the second
for what both have. -/
theorem set_operators_caseFold :
    let isText : Value → Prop := fun v => ∃ s, v.text? = some s
    let own := SlotChange.afterSet (SlotChange.afterSet (.empty .caseFold) (.add (.text "b")))
      (.add (.text "A"))
    let history : List Operation := [.putAll (.text "k") [.text "c", .text "B"]]
    let m := (Multimap.empty .caseFold .caseFold).afterAll history
    let a : Operand := .orderedSet own
    let b : Operand := .slotView ⟨m, .text "K"⟩
    let texts : SetOperator → Option (List (Option String)) := fun operator =>
      (operator.apply a b "").toOption.bind fun
        | .orderedSet s => some (s.items.map fun v => v.text?.map Text.lossy)
        | _ => none
    Comparator.caseFold.compare.TotalOn isText
      ∧ SortedSet .caseFold isText a ∧ SortedSet .caseFold isText b
      ∧ (∀ operator : SetOperator, ∃ zs, operator.apply a b "" = .ok (.orderedSet ⟨.caseFold, zs⟩)
        ∧ Ascends Comparator.caseFold.compare id zs)
      ∧ texts .union = some [some "A", some "b", some "c"]
      ∧ texts .inter = some [some "B"]
      ∧ texts .diff = some [some "A"]
      ∧ texts .symmDiff = some [some "A", some "c"]
      ∧ a.isDisjoint b = .ok false := by
  intro isText own history m a b texts
  have htotal : Comparator.caseFold.compare.TotalOn isText := Comparator.caseFold_totalOn
  have ha : SortedSet .caseFold isText a :=
    .set (.changed _ (.changed _ .empty ⟨_, rfl⟩) ⟨_, rfl⟩)
  have hputs : ∀ operation ∈ history, operation.Puts isText isText := by
    simp [history, isText, Operation.Puts, Value.text?]
  have hb : SortedSet .caseFold isText b :=
    .under ⟨history, hputs, rfl⟩ htotal htotal.consistentOn ⟨_, rfl⟩
  refine ⟨htotal, ha, hb, fun operator => ?_, by decide +kernel, by decide +kernel,
    by decide +kernel, by decide +kernel, eq_ok_of_toOption (by decide +kernel)⟩
  obtain ⟨-, -, zs, -, -, hzs, -, hasc, -⟩ := set_operators htotal ha hb operator ""
  exact ⟨zs, hzs, hasc⟩

end Collation
