/-
Comparisons of sorted sets. A comparison counts the elements of both sides
and then asks, in one direction only, whether the one side has each element
of the other. That this is inclusion up to equivalence in either direction
comes from the order: elements that are included have their equivalents in
the same order (`sublist_of_matched`), so the set that is included has no
more elements, and if it has as many the two listings are equivalent place
by place (`Within.converse_iff`). What a count alone answers is answered
rightly.
-/
import Collation.Proofs.Sets.Operators
import Collation.Proofs.Views.Equality

namespace Collation

open Bisect (Ascends)
open Operand (Lists SortedSet)

-- ============================================================ inclusion

namespace Comparison

/-- Each of some values has an equivalent one among others. -/
def Within (c : Comparison) (xs ys : List Value) : Prop := ∀ x ∈ xs, ∃ y ∈ ys, c.Gives x y .eq

variable {c : Comparison} {D : Value → Prop} {xs ys zs : List Value}

section

variable (hc : c.TotalOn D) (hxs : ∀ x ∈ xs, D x) (hys : ∀ y ∈ ys, D y)

include hc hxs hys

/-- It is what a membership test asks. -/
theorem within_iff : c.Within xs ys ↔ ∀ x ∈ xs, c.among ys x = true := by
  have hasked : ∀ x ∈ xs, (∃ y ∈ ys, c.Gives x y .eq) ↔ c.among ys x = true := by
    intro x hx
    rw [among_iff]
    constructor
    · rintro ⟨y, hy, heq⟩
      exact ⟨y, hy, hc.swap (hxs x hx) (hys y hy) heq⟩
    · rintro ⟨y, hy, heq⟩
      exact ⟨y, hy, hc.swap (hys y hy) (hxs x hx) heq⟩
  exact ⟨fun h x hx => (hasked x hx).1 (h x hx), fun h x hx => (hasked x hx).2 (h x hx)⟩

private theorem Within.trans (h : c.Within xs ys) (h' : c.Within ys zs) (hzs : ∀ z ∈ zs, D z) :
    c.Within xs zs := by
  intro x hx
  obtain ⟨y, hy, hxy⟩ := h x hx
  obtain ⟨z, hz, hyz⟩ := h' y hy
  exact ⟨z, hz, hc.eq_trans (hxs x hx) (hys y hy) (hzs z hz) hxy hyz⟩

variable (hascx : Ascends c id xs) (hascy : Ascends c id ys)

include hascx hascy

private theorem Within.length_le (h : c.Within xs ys) : xs.length ≤ ys.length := by
  obtain ⟨zs, hsub, hzs⟩ := sublist_of_matched hc hxs hys hascx hascy (fun _ _ _ _ h => h) h
  exact hzs.length_eq.trans_le hsub.length_le

/-- What is included and as many is equivalent place by place. -/
theorem Within.forall₂ (h : c.Within xs ys) (hlength : xs.length = ys.length) :
    List.Forall₂ (fun x y => c.Gives x y .eq) xs ys :=
  forall₂_of_matched_left hc hxs hys hascx hascy (fun _ _ _ _ h => h) h hlength

omit hascx hascy in
private theorem within_of_forall₂ (h : List.Forall₂ (fun x y => c.Gives x y .eq) xs ys) :
    c.Within xs ys ∧ c.Within ys xs := by
  refine ⟨fun x hx => exists_of_mem_right h.flip x hx, fun y hy => ?_⟩
  obtain ⟨x, hx, heq⟩ := exists_of_mem_right h y hy
  exact ⟨x, hx, hc.swap (hxs x hx) (hys y hy) heq⟩

/-- Of sets of which one includes the other, counting tells whether they are
the same. -/
theorem Within.converse_iff (h : c.Within xs ys) : c.Within ys xs ↔ xs.length = ys.length := by
  constructor
  · intro h'
    have hle := h.length_le hc hxs hys hascx hascy
    have hle' := h'.length_le hc hys hxs hascy hascx
    omega
  · intro hlength
    exact (within_of_forall₂ hc hxs hys (h.forall₂ hc hxs hys hascx hascy hlength)).2

/-- Equivalence by position is inclusion both ways. -/
theorem forall₂_iff_within : List.Forall₂ (fun x y => c.Gives x y .eq) xs ys
    ↔ c.Within xs ys ∧ c.Within ys xs := by
  constructor
  · exact within_of_forall₂ hc hxs hys
  · intro ⟨h, h'⟩
    exact h.forall₂ hc hxs hys hascx hascy
      ((h.converse_iff hc hxs hys hascx hascy).1 h')

end

end Comparison

-- ======================================================== comparisons

namespace Operand

/-- A comparison has an answer, which is whether something holds. -/
def Decides (result : Except Fault Bool) (p : Prop) : Prop := ∃ b, result = .ok b ∧ (b = true ↔ p)

private theorem Decides.iff_true {result : Except Fault Bool} {p : Prop} (h : Decides result p) :
    result = .ok true ↔ p := by
  obtain ⟨b, rfl, hiff⟩ := h
  rw [← hiff]
  exact ⟨Except.ok.inj, congrArg Except.ok⟩

private theorem Decides.iff_false {result : Except Fault Bool} {p : Prop} (h : Decides result p) :
    result = .ok false ↔ ¬p := by
  obtain ⟨b, rfl, hiff⟩ := h
  rw [← hiff, Bool.not_eq_true]
  exact ⟨Except.ok.inj, congrArg Except.ok⟩

private theorem Decides.congr {result : Except Fault Bool} {p q : Prop} (h : Decides result p)
    (hpq : p ↔ q) : Decides result q := by
  obtain ⟨b, hb, hiff⟩ := h
  exact ⟨b, hb, hiff.trans hpq⟩

/-- What a sorted set is to a comparison: it compares sets, and it knows how
many elements it lists. -/
structure Counts (c : Comparator) (D : Value → Prop) (o : Operand) (xs : List Value) : Prop
    extends Lists c D o xs where
  comparesSets : o.comparesSets = true
  size : o.size = .ok xs.length

variable {c : Comparator} {D : Value → Prop} {o a b : Operand} {xs ys : List Value}

/-- What is read without a failure was listed without one. -/
theorem listed_of_readings {found : Except Fault (List Value)}
    (h : readings found = readings (.ok xs)) : found = .ok xs := by
  cases found with
  | error e =>
    cases xs with
    | nil => cases h
    | cons x xs => cases h
  | ok ys =>
    have hinjective : Function.Injective fun v => (.ok (value v) : Except Fault Operand) := by
      intro v w hvw
      cases hvw
      rfl
    exact congrArg Except.ok (hinjective.list_map h)

/-- A set in order is counted by its elements. -/
private theorem SortedSet.counts (h : SortedSet c D o) (hc : c.compare.TotalOn D) :
    ∃ xs, Counts c D o xs := by
  obtain ⟨xs, hxs⟩ := h.lists hc
  refine ⟨xs, hxs, ?_, ?_⟩
  · cases h with
    | set => rfl
    | values => rfl
    | keys => rfl
  · cases h with
    | @set s =>
      have hlisted : (.ok s.items : Except Fault _) = .ok xs := listed_of_readings hxs.elements
      cases hlisted
      rfl
    | @values _ _ m k =>
      show (SlotView.mk m k).items.map List.length = _
      rw [listed_of_readings hxs.elements]
      rfl
    | @keys _ _ m =>
      have hlisted : (.ok m.keys : Except Fault _) = .ok xs := listed_of_readings hxs.elements
      cases hlisted
      exact congrArg Except.ok (List.length_map Slot.key).symm

namespace Counts

variable (ha : Counts c D a xs) (hb : Counts c D b ys)

include ha hb

private theorem related_eq (r : Relation) : related r a b = included r a b := by
  unfold related
  split
  · exact absurd ha.comparesSets (by simp [Operand.comparesSets])
  · rw [ha.comparesSets, hb.isSet]
    rfl

/-- Equality of sets asks for the same elements. -/
private theorem equal_eq (same : Bool) : equal same a b = sameSet a b := by
  unfold equal
  split
  case h_8 =>
    rw [ha.comparesSets, hb.isSet]
    rfl
  all_goals exact absurd ha.comparesSets (by simp [Operand.comparesSets, Operand.isSet])

/-- The one side is asked about the other as the other about it. -/
theorem ge_eq : a.ge b = b.le a := by
  rw [ge, le, related_eq ha hb, related_eq hb ha, included, included, superset, subset, ha.size,
    hb.size]
  rfl

private theorem gt_eq : a.gt b = b.lt a := by
  have hasked : a.superset b = b.subset a := by
    rw [superset, subset, ha.size, hb.size]
    rfl
  rw [gt, lt, related_eq ha hb, related_eq hb ha, included, included, properSuperset, properSubset,
    hasked, ha.size, hb.size]
  rfl

/-- Each element of the one side is asked for on the other. -/
theorem asked_eq : allHold (fun reading => do member (← reading) b) a.elements
    = .ok (xs.all (c.compare.among ys)) := by
  have hasked : ∀ reading ∈ readings (.ok xs), (do member (← reading) b)
      = .ok (reading.toOption.any fun x => c.compare.among ys (x.toValue none)) := by
    intro reading hreading
    obtain ⟨x, hx, rfl⟩ := List.mem_map.1 hreading
    exact hb.member x (ha.mem x hx)
  rw [ha.elements, allHold_eq hasked, readings, List.all_map]
  rfl

variable (hc : c.compare.TotalOn D)

include hc

/-- Inclusion is decided, by counting or by asking. -/
theorem subset_decides : Decides (a.subset b) (c.compare.Within xs ys) := by
  rw [subset, ha.size, hb.size, asked_eq ha hb]
  by_cases hlt : ys.length < xs.length
  · refine ⟨false, by simp [hlt, bind, Except.bind, pure, Except.pure], ?_⟩
    refine iff_of_false Bool.false_ne_true fun h => ?_
    have hle := h.length_le hc ha.mem hb.mem ha.ascends hb.ascends
    omega
  · refine ⟨xs.all (c.compare.among ys), by simp [hlt, bind, Except.bind], ?_⟩
    rw [List.all_eq_true, Comparison.within_iff hc ha.mem hb.mem]

private theorem le_decides : Decides (a.le b) (c.compare.Within xs ys) := by
  rw [le, related_eq ha hb]
  exact subset_decides ha hb hc

/-- A set that is included is a proper part of the other if it has fewer
elements. -/
theorem lt_decides : Decides (a.lt b) (c.compare.Within xs ys ∧ ¬c.compare.Within ys xs) := by
  have hconverse : c.compare.Within xs ys → (c.compare.Within ys xs ↔ xs.length = ys.length) :=
    fun h => h.converse_iff hc ha.mem hb.mem ha.ascends hb.ascends
  rw [lt, related_eq ha hb, included, properSubset, ha.size, hb.size]
  by_cases hlt : xs.length < ys.length
  · have hsubset : Decides (a.subset b) _ := subset_decides ha hb hc
    simp only [bind, Except.bind, if_pos hlt]
    refine hsubset.congr ⟨fun h => ⟨h, fun h' => ?_⟩, And.left⟩
    have hlength := (hconverse h).1 h'
    omega
  · refine ⟨false, by simp [hlt, bind, Except.bind, pure, Except.pure], ?_⟩
    refine iff_of_false Bool.false_ne_true fun ⟨h, hnot⟩ => ?_
    have hle := h.length_le hc ha.mem hb.mem ha.ascends hb.ascends
    exact hnot ((hconverse h).2 (by omega))

/-- It is the other one if it has as many. -/
theorem equal_decides (same : Bool) : Decides (equal same a b)
    (c.compare.Within xs ys ∧ c.compare.Within ys xs) := by
  have hconverse : c.compare.Within xs ys → (c.compare.Within ys xs ↔ xs.length = ys.length) :=
    fun h => h.converse_iff hc ha.mem hb.mem ha.ascends hb.ascends
  rw [equal_eq ha hb, sameSet, ha.size, hb.size]
  by_cases heq : xs.length = ys.length
  · have hsubset : Decides (a.subset b) _ := subset_decides ha hb hc
    simp only [bind, Except.bind, beq_iff_eq, if_pos heq]
    exact hsubset.congr ⟨fun h => ⟨h, (hconverse h).2 heq⟩, And.left⟩
  · refine ⟨false, by simp [heq, bind, Except.bind, pure, Except.pure], ?_⟩
    exact iff_of_false Bool.false_ne_true fun ⟨h, h'⟩ => heq ((hconverse h).1 h')

end Counts

end Operand

open Operand (Decides)

variable {c : Comparator} {D : Value → Prop} {a b d : Operand}

/-- Comparing sorted sets is inclusion up to equivalence, and always has an
answer: a set is at most another if each of its elements has an equivalent
one there, below it if the converse fails, equal to it if the converse holds
too, which is when the listings are equivalent place by place. The other two
comparisons are these the other way round, and being at most is transitive. -/
theorem comparisons_include (hc : c.compare.TotalOn D) (ha : SortedSet c D a)
    (hb : SortedSet c D b) (hd : SortedSet c D d) :
    ∃ xs ys, a.listing = xs.map .ok ∧ b.listing = ys.map .ok
      ∧ Decides (a.le b) (c.compare.Within xs ys)
      ∧ Decides (a.lt b) (a.le b = .ok true ∧ b.le a = .ok false)
      ∧ a.ge b = b.le a ∧ a.gt b = b.lt a
      ∧ (∀ same, Decides (Operand.equal same a b) (a.le b = .ok true ∧ b.le a = .ok true)
        ∧ Decides (Operand.equal same a b)
          (List.Forall₂ (fun x y => c.compare.Gives x y .eq) xs ys))
      ∧ (a.le b = .ok true → b.le d = .ok true → a.le d = .ok true) := by
  obtain ⟨xs, hxs⟩ := ha.counts hc
  obtain ⟨ys, hys⟩ := hb.counts hc
  obtain ⟨zs, hzs⟩ := hd.counts hc
  have hle := hxs.le_decides hys hc
  have hle' := hys.le_decides hxs hc
  refine ⟨xs, ys, hxs.listing, hys.listing, hle, ?_, hxs.ge_eq hys, hxs.gt_eq hys,
    fun same => ⟨?_, ?_⟩, ?_⟩
  · rw [hle.iff_true, hle'.iff_false]
    exact hxs.lt_decides hys hc
  · rw [hle.iff_true, hle'.iff_true]
    exact hxs.equal_decides hys hc same
  · rw [Comparison.forall₂_iff_within hc hxs.mem hys.mem hxs.ascends hys.ascends]
    exact hxs.equal_decides hys hc same
  · rw [hle.iff_true, (hys.le_decides hzs hc).iff_true, (hxs.le_decides hzs hc).iff_true]
    exact fun h h' => h.trans hc hxs.mem hys.mem h' hzs.mem

/-- Texts by their case fold: a set of its own, the values under a key of a
multimap and the keys of another, of which the last two are equal. -/
theorem comparisons_include_caseFold :
    let isText : Value → Prop := fun v => ∃ s, v.text? = some s
    let own := SlotChange.afterSet (SlotChange.afterSet (.empty .caseFold) (.add (.text "b")))
      (.add (.text "A"))
    let history : List Operation := [.putAll (.text "k") [.text "c", .text "B", .text "a"]]
    let history' : List Operation := [.put (.text "C") (.text "x"), .put (.text "A") (.text "y"),
      .put (.text "b") (.text "z"), .put (.text "a") (.text "x")]
    let m := (Multimap.empty .caseFold .caseFold).afterAll history
    let n := (Multimap.empty .caseFold .caseFold).afterAll history'
    let a : Operand := .orderedSet own
    let b : Operand := .slotView ⟨m, .text "K"⟩
    let d : Operand := .keyView ⟨n⟩
    Comparator.caseFold.compare.TotalOn isText
      ∧ SortedSet .caseFold isText a ∧ SortedSet .caseFold isText b ∧ SortedSet .caseFold isText d
      ∧ a.lt b = .ok true ∧ b.lt a = .ok false ∧ b.gt a = .ok true
      ∧ Operand.equal false b d = .ok true ∧ b.lt d = .ok false ∧ a.le d = .ok true
      ∧ ∃ xs ys, b.listing = xs.map .ok ∧ d.listing = ys.map .ok
        ∧ List.Forall₂ (fun x y => Comparator.caseFold.compare.Gives x y .eq) xs ys := by
  intro isText own history history' m n a b d
  have htotal : Comparator.caseFold.compare.TotalOn isText := Comparator.caseFold_totalOn
  have hputs : ∀ operation ∈ history ++ history', operation.Puts isText isText := by
    simp [history, history', isText, Operation.Puts, Value.text?]
  obtain ⟨hfirst, hsecond⟩ := List.forall_mem_append.1 hputs
  have ha : SortedSet .caseFold isText a :=
    .set (.changed _ (.changed _ .empty ⟨_, rfl⟩) ⟨_, rfl⟩)
  have hb : SortedSet .caseFold isText b :=
    .under ⟨history, hfirst, rfl⟩ htotal htotal.consistentOn ⟨_, rfl⟩
  have hd : SortedSet .caseFold isText d := .keys ⟨history', hsecond, rfl⟩
  have hbelow : a.lt b = .ok true := eq_ok_of_toOption (by decide +kernel)
  have hequal : Operand.equal false b d = .ok true := eq_ok_of_toOption (by decide +kernel)
  obtain ⟨-, -, -, -, -, habove, -, hgreater, -⟩ := comparisons_include htotal hb ha hd
  obtain ⟨-, -, -, -, hle, hlt, -, -, -, htrans⟩ := comparisons_include htotal ha hb hd
  obtain ⟨xs, ys, hxs, hys, -, hproper, -, -, hsame, -⟩ := comparisons_include htotal hb hd ha
  obtain ⟨hboth, hplaces⟩ := hsame false
  obtain ⟨hbd, hdb⟩ := hboth.iff_true.1 hequal
  obtain ⟨hab, hnot⟩ := hlt.iff_true.1 hbelow
  refine ⟨htotal, ha, hb, hd, hbelow, habove.iff_false.2 fun h => ?_, hgreater.trans hbelow, hequal,
    hproper.iff_false.2 fun h => ?_, htrans hab hbd, xs, ys, hxs, hys, hplaces.iff_true.1 hequal⟩
  · cases hnot.symm.trans h.1
  · cases hdb.symm.trans h.2

end Collation
