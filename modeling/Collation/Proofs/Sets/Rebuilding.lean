/-
Adding the elements of a sorted set in order to an empty one, as a copy
does, the operators for what they collect, and the replay of a slot.

The comparisons made are not those by which the set came about: there an
element was compared with a few of those that were in at the time, some of
which may be gone, and here each is compared with the last one before it.
Some of these pairs were never compared before, and the comparator may
refuse pairs. But the elements of a set in order are below one another, all
pairs of them (`OrderedSet.Sorted.below`), so each addition finds its element
above all that are in and puts it at the end (`OrderedSet.add_last`), and
nothing is compared with itself. So the set is made anew
(`OrderedSet.Rebuilt`), wherever it comes from: a set with a history of its
own, the result of an operator (`SetOperator.apply_reached`), or the values
of a slot.
-/
import Collation.Proofs.Sets.Operators
import Collation.Proofs.Wire.Replay

namespace Collation

open Bisect (Ascends)
open Session (SetOperator)

variable {c : Comparator} {D : Value → Prop} {s s' : OrderedSet} {o : Operand}

-- ===================================================== adding in order

namespace OrderedSet

/-- In a set in order each element is below every later one, whichever of
the two is asked about first. -/
theorem Sorted.below (h : Sorted c D s) (hc : c.compare.ConsistentOn D) :
    s.items.Pairwise c.compare.Below :=
  h.ascends.imp_of_mem fun hv hw hlt => ⟨hlt, hc.swap (h.mem _ hv) (h.mem _ hw) hlt⟩

/-- Values each of which is below every later one are added at the end. -/
theorem addAll_below (vs : List Value) :
    ∀ low : List Value, (low ++ vs).Pairwise c.compare.Below →
      addAll ⟨c, low⟩ vs = .ok ⟨c, low ++ vs⟩ := by
  induction vs with
  | nil =>
    intro low _
    rw [List.append_nil]
    rfl
  | cons v vs ih =>
    intro low hbelow
    have hlast : ∀ w ∈ low, c.compare.Below w v :=
      fun w hw => (List.pairwise_append.1 hbelow).2.2 w hw v List.mem_cons_self
    rw [List.append_cons] at hbelow ⊢
    rw [addAll, add_last hlast]
    exact ih (low ++ [v]) hbelow

end OrderedSet

/-- A key that a multimap has no slot for, and that can be compared with
itself. -/
structure Multimap.NewKey (keys : Comparator) (K : Value → Prop) (m : Multimap) (k : Value) :
    Prop where
  ordered : m.KeysOrdered keys K
  mem : K k
  itself : keys.compare.Gives k k .eq
  absent : m.map.find k = .ok none

/-- A new key has its place between those below it and those above it. -/
theorem Multimap.NewKey.place {keys : Comparator} {K : Value → Prop} {m : Multimap} {k : Value}
    (h : m.NewKey keys K k) (hk : keys.compare.ConsistentOn K) :
    ∃ before after, m.map.slots = before ++ after
      ∧ (∀ set, Bisect.insert m.keyComparator.compare Slot.key m.map.slots ⟨k, set⟩
        = .ok (before ++ ⟨k, set⟩ :: after))
      ∧ (∀ t ∈ before, m.keyComparator.compare.Gives t.key k .lt)
      ∧ ∀ t ∈ after, m.keyComparator.compare.Gives t.key k .gt := by
  obtain ⟨⟨rfl, hmem, hasc⟩, hK, -, hnone⟩ := h
  obtain ⟨before, after, hslots, hu, hbelow, habove⟩ :=
    Bisect.upperBound_of_absent hk hmem hK hasc hnone
  refine ⟨before, after, hslots, fun _ => Bisect.insert_of_upperBound hslots hu, hbelow, ?_⟩
  exact fun t ht => hk.swap hK (hmem t (hslots ▸ List.mem_append_right before ht)) (habove t ht)

-- ============================================================== rebuilt

/-- A set that is made anew by adding its elements in order to an empty one:
each is a new one and goes to the end. -/
structure OrderedSet.Rebuilt (s : OrderedSet) : Prop where
  grows : ∀ low v high, s.items = low ++ v :: high →
    OrderedSet.add ⟨s.comparator, low⟩ v = .ok (⟨s.comparator, low ++ [v]⟩, true)
  copied : s.copy = .ok s
  /-- This is how operators make their results. -/
  collected :
    (Maker.ordered s.comparator).ofList (Operand.orderedSet s).elements = .ok (.orderedSet s)
  /-- The replay of a slot counts every value as a new one. A null must be
  accepted, for this is asked before a value is put. -/
  replayed : ∀ {keys : Comparator} {K : Value → Prop} {m : Multimap} {k : Value},
    keys.compare.ConsistentOn K → m.NewKey keys K k → m.valueComparator = s.comparator →
    s.items ≠ [] → (.null ∈ s.items → s.comparator.AcceptsNull) →
    ∃ before after, m.map.slots = before ++ after
      ∧ Wire.putCounting m k s.items
        = .done (m.holding (before ++ ⟨k, s⟩ :: after) (m.total + s.items.length)) s.items.length
          [.slotCreated k]

namespace OrderedSet

/-- A set in order is rebuilt by adding its items one by one. -/
private theorem Sorted.rebuilt (h : Sorted c D s) (hc : c.compare.ConsistentOn D) : s.Rebuilt := by
  have hbelow := h.below hc
  obtain rfl : s.comparator = c := h.comparator
  have hadded : addAll (.empty s.comparator) s.items = .ok s := addAll_below s.items [] hbelow
  refine ⟨fun low v high hitems => ?_, hadded, ?_, ?_⟩
  · rw [hitems] at hbelow
    exact add_last fun w hw => (List.pairwise_append.1 hbelow).2.2 w hw v List.mem_cons_self
  · show (Maker.collectOrdered _ _ (Operand.readings (.ok s.items))).map Operand.orderedSet = _
    rw [Maker.collectOrdered_eq (p := fun _ => true) fun _ _ => rfl, List.filter_true, hadded]
    rfl
  · intro keys K m k hk hnew hvalues hne hnull
    obtain ⟨before, after, hslots, hinsert, hbefore, hafter⟩ := hnew.place hk
    have hitself : m.keyComparator.compare.Gives k k .eq := hnew.ordered.keyComparator ▸ hnew.itself
    rw [← hvalues] at hbelow hnull
    refine ⟨before, after, hslots, ?_⟩
    rw [Wire.putCounting_new hbefore hitself hafter hne hbelow hnull hnew.absent hinsert,
      Multimap.withSlot, hvalues]

end OrderedSet

-- ================================================== results of operators

namespace Operand

/-- A set of operands that passed a test, or a plain value: all that an
operator can give. -/
def Collected (o : Operand) : Prop :=
  (∃ (mk : Maker) (test : Operand → Except Fault Bool) (xs : List (Except Fault Operand)),
    mk.collect test xs = .ok o) ∨ ∃ v, o = .value v

variable {a b : Operand} {operator : String}

/-- What an operator makes was collected, whichever side made it. -/
private theorem operate_collected {apply : Maker → Operand → Operand → Bool → Except Fault Operand}
    {plain : Value → Value → Option (Except Fault Value)}
    (happly : ∀ mk own other swapped, apply mk own other swapped = .ok o → o.Collected)
    (h : operate operator a b apply plain = .ok o) : o.Collected := by
  unfold operate at h
  dsimp only at h
  split at h
  · split at h
    · exact happly _ _ _ _ h
    · cases h
  · split at h
    · exact happly _ _ _ _ h
    · cases h
  · split at h
    · obtain ⟨v, -, rfl⟩ := map_eq_ok.1 h
      exact .inr ⟨v, rfl⟩
    · cases h
  · cases h

private theorem union_collected (h : a.union b operator = .ok o) : o.Collected :=
  operate_collected (fun _ _ _ _ h => .inl ⟨_, _, _, h⟩) h

end Operand

/-- Whatever an operator gives was collected in one go. -/
theorem Session.SetOperator.apply_collected {operator : SetOperator} {a b : Operand}
    {mark : String} (h : operator.apply a b mark = .ok o) : o.Collected := by
  cases operator with
  | union => exact Operand.union_collected h
  | inter =>
    change a.inter b _ = .ok o at h
    unfold Operand.inter at h
    exact Operand.operate_collected (fun _ _ _ _ h => .inl ⟨_, _, _, h⟩) h
  | diff =>
    change a.diff b _ = .ok o at h
    unfold Operand.diff at h
    refine Operand.operate_collected (fun mk own other swapped h => ?_) h
    obtain ⟨set, -, h⟩ := bind_eq_ok.1 h
    cases swapped with
    | true => exact .inl ⟨_, _, _, h⟩
    | false => exact .inl ⟨_, _, _, h⟩
  | symmDiff =>
    change a.symmDiff b _ = .ok o at h
    unfold Operand.symmDiff at h
    refine Operand.operate_collected (fun mk own other swapped h => ?_) h
    obtain ⟨set, -, h⟩ := bind_eq_ok.1 h
    obtain ⟨onlyOwn, -, h⟩ := bind_eq_ok.1 h
    obtain ⟨onlyOther, -, h⟩ := bind_eq_ok.1 h
    exact Operand.union_collected h

namespace Maker

variable {test : Operand → Except Fault Bool} {xs : List (Except Fault Operand)}

/-- Collecting takes nothing out. -/
theorem collectOrdered_keeps (h : collectOrdered test s xs = .ok s') :
    s'.comparator = s.comparator ∧ ∀ v ∈ s.items, v ∈ s'.items := by
  induction xs generalizing s with
  | nil =>
    cases h
    exact ⟨rfl, fun _ hv => hv⟩
  | cons reading xs ih =>
    obtain ⟨x, -, h⟩ := bind_eq_ok.1 h
    obtain ⟨passes, -, h⟩ := bind_eq_ok.1 h
    cases passes with
    | false => exact ih h
    | true =>
      obtain ⟨⟨grown, grew⟩, hadd, h⟩ := bind_eq_ok.1 h
      obtain ⟨hcomparator, hmem⟩ := ih h
      rcases OrderedSet.add_eq_ok hadd with ⟨-, -, rfl, -⟩ | ⟨low, high, -, hitems, -, rfl, -⟩
      · exact ⟨hcomparator, hmem⟩
      · refine ⟨hcomparator, fun v hv => hmem v ?_⟩
        rw [hitems, List.mem_append] at hv
        exact List.mem_append.2 (hv.imp_right (List.mem_cons_of_mem _))

/-- What is collected is reached by adding; what was not added, because an
equivalent was there, need not be of the domain. -/
theorem collectOrdered_reached (hs : s.Reached c D) (hD : ∀ v ∈ s'.items, D v)
    (h : collectOrdered test s xs = .ok s') : s'.Reached c D := by
  induction xs generalizing s with
  | nil =>
    cases h
    exact hs
  | cons reading xs ih =>
    obtain ⟨x, -, h⟩ := bind_eq_ok.1 h
    obtain ⟨passes, -, h⟩ := bind_eq_ok.1 h
    cases passes with
    | false => exact ih hs h
    | true =>
      obtain ⟨⟨grown, grew⟩, hadd, h⟩ := bind_eq_ok.1 h
      refine ih ?_ h
      rcases OrderedSet.add_eq_ok hadd with ⟨-, -, rfl, -⟩ | ⟨low, high, -, -, -, rfl, -⟩
      · exact hs
      · have hnew : D (x.toValue none) :=
          hD _ ((collectOrdered_keeps h).2 _ (List.mem_append_right low List.mem_cons_self))
        have hstep := hs.changed (.add (x.toValue none)) hnew
        rw [SlotChange.afterSet, hadd] at hstep
        exact hstep

end Maker

/-- A sorted set that an operator gives is reached by adding its elements. -/
theorem Session.SetOperator.apply_reached {operator : SetOperator} {a b : Operand} {mark : String}
    (h : operator.apply a b mark = .ok (.orderedSet s)) (hD : ∀ v ∈ s.items, D v) :
    s.Reached s.comparator D := by
  rcases apply_collected h with ⟨mk, test, xs, hcollect⟩ | ⟨v, hv⟩
  · cases mk with
    | ordered c =>
      obtain ⟨set, hset, hs⟩ := map_eq_ok.1 hcollect
      cases hs
      have hcomparator : s.comparator = c := (Maker.collectOrdered_keeps hset).1
      rw [hcomparator]
      exact Maker.collectOrdered_reached .empty hD hset
    | hashed =>
      obtain ⟨_, -, hs⟩ := map_eq_ok.1 hcollect
      cases hs
  · cases hv

-- ============================================================ any set

/-- Any changes of an empty set, failed ones included, are a history, if
nothing is asked of what they add. -/
theorem OrderedSet.reached_of_changes (c : Comparator) (changes : List SlotChange) :
    (changes.foldl SlotChange.afterSet (.empty c)).Reached c fun _ => True := by
  refine List.foldlRecOn changes _ .empty fun s hs change _ => hs.changed change ?_
  cases change with
  | edit operator itself o => cases operator <;> simp [SlotChange.Adds]
  | _ => trivial

/-- Under a comparator that is consistent but may refuse pairs, every set is
made anew by adding its elements in order: one that any changes, failed ones
included, made of an empty set, the result of an operator, and the values of
a slot of a multimap, whatever its keys are. -/
theorem rebuilt_in_order (hc : c.compare.ConsistentOn D) :
    (∀ s : OrderedSet, s.Reached c D → s.Rebuilt)
      ∧ (∀ (operator : SetOperator) (a b : Operand) (mark : String) (s : OrderedSet),
        operator.apply a b mark = .ok (.orderedSet s) → s.comparator = c → (∀ v ∈ s.items, D v) →
        s.Reached c D ∧ s.Rebuilt)
      ∧ ∀ (keys : Comparator) (K : Value → Prop) (m : Multimap), m.Reached keys c K D →
        ∀ t ∈ m.map.slots, t.value.Rebuilt ∧ t.value.items ≠ []
          ∧ (.null ∈ t.value.items → c.AcceptsNull) := by
  refine ⟨fun s hs => (hs.sorted hc).rebuilt hc, ?_, fun keys K m hm t ht => ?_⟩
  · rintro operator a b mark s hresult rfl hD
    have hs := SetOperator.apply_reached hresult hD
    exact ⟨hs, (hs.sorted hc).rebuilt hc⟩
  · have hvalues := hm.valuesOrdered hc
    have hslot := hvalues.slots t ht
    exact ⟨(OrderedSet.sorted_slot hvalues ht).rebuilt hc, hslot.filled, hslot.nullValue⟩

/-- Texts by their case fold, after a removal and an addition that failed; a
number, which cannot even be compared with itself, after a removal that
failed; and the texts of a slot, replayed under a key of their own. -/
theorem rebuilt_in_order_caseFold :
    let after : List SlotChange → OrderedSet := List.foldl SlotChange.afterSet (.empty .caseFold)
    let texts := after
      [.add (.text "b"), .add (.text "A"), .add (.text "c"), .discard (.text "B"), .add (.int 7)]
    let number := after [.add (.int 7), .add (.text "b"), .remove (.int 7)]
    let m := (Multimap.empty .natural .caseFold).afterAll
      [.put (.int 1) (.text "b"), .put (.bool true) (.text "A"), .put (.int 1) .null]
    let n := Multimap.empty .caseFold .caseFold
    Comparator.caseFold.compare.Consistent
      ∧ texts.items.map (fun v => v.text?.map Text.lossy) = [some "A", some "c"]
      ∧ texts.copy = .ok texts
      ∧ number.items.map (fun v => v.text?.map Text.lossy) = [none] ∧ number.copy = .ok number
      ∧ m.total = 2 ∧ ∀ t ∈ m.map.slots, t.value.copy = .ok t.value
        ∧ (Wire.putCounting n (.text "k") t.value.items).result = .ok t.value.size := by
  intro after texts number m n
  obtain ⟨hsets, -, hslots⟩ := rebuilt_in_order Comparator.caseFold_consistent
  have htexts : texts.Reached .caseFold fun _ => True := OrderedSet.reached_of_changes ..
  have hnumber : number.Reached .caseFold fun _ => True := OrderedSet.reached_of_changes ..
  have hm : m.Reached .natural .caseFold (fun _ => True) fun _ => True :=
    ⟨_, fun operation _ => operation.puts_any, rfl⟩
  refine ⟨Comparator.caseFold_consistent, by decide +kernel, (hsets _ htexts).copied,
    by decide +kernel, (hsets _ hnumber).copied, by decide +kernel, fun t ht => ?_⟩
  have hnew : n.NewKey .caseFold (fun _ => True) (.text "k") :=
    ⟨.empty _ _ _, trivial, by decide +kernel, rfl⟩
  obtain ⟨hrebuilt, hne, hnull⟩ := hslots _ _ m hm t ht
  have hcomparator : t.value.comparator = .caseFold :=
    ((hm.valuesOrdered Comparator.caseFold_consistent).slots t ht).comparator
  rw [← hcomparator] at hnull
  obtain ⟨_, _, -, hput⟩ :=
    hrebuilt.replayed Comparator.caseFold_consistent hnew hcomparator.symm hne hnull
  refine ⟨hrebuilt.copied, ?_⟩
  rw [hput]
  rfl

end Collation
