/-
Searching by halving against going through all elements, when the
comparator is a total preorder on what is compared.

Around an element that the search finds in an ascending list no other is
equivalent to the probe (`differ_of_parted`); where it finds none, none is
(`none_same`). A strictly ascending list is the only ascending arrangement
of its elements, so sorting a rearrangement gives it back
(`mergeSort_eq_of_ascends`). And nothing that a multimap searches for can
fail (`Ordered.not_putFailure`, `Ordered.not_removeFailure`).
-/
import Collation.Proofs.Multimap.Ledger
import Collation.Proofs.Multimap.Order

namespace Collation

open Bisect (Ascends)

-- ===================================================== scans and sorting

namespace Comparison

variable {c : Comparison} {D : Value → Prop} {a b d : Value} {s : Ordering}

/-- An answer tells whether two values are equivalent. -/
theorem Gives.same (h : c.Gives a b s) : c.same a b = (s == .eq) := by
  have hzero := h.isZero
  obtain ⟨r, hr, -⟩ := h
  rw [hr] at hzero
  unfold Comparison.same
  rw [hr]
  injection hzero

/-- Values are the same if the comparator says so, not if it fails. -/
theorem same_iff : c.same a b = true ↔ c.Gives a b .eq := by
  constructor
  · intro h
    unfold same at h
    split at h
    · next r hr => exact ⟨r, hr, (Answer.isZero_iff r).1 h⟩
    · cases h
  · exact fun h => h.same

/-- An answer tells whether a value is not above another. -/
private theorem Gives.upTo (h : c.Gives a b s) : c.upTo a b = (s != .gt) := by
  have hzero := h.isZero
  have hneg := h.isNegative
  obtain ⟨r, hr, -⟩ := h
  rw [hr] at hzero hneg
  unfold Comparison.upTo
  rw [hr]
  injection hzero with hzero
  injection hneg with hneg
  dsimp only
  rw [hzero, hneg]
  cases s <;> rfl

namespace TotalOn

/-- Equivalence does not depend on which value is asked about first. -/
theorem same_comm (hc : c.TotalOn D) (ha : D a) (hb : D b) : c.same a b = c.same b a := by
  obtain ⟨s, hab, hba⟩ := hc.converse a b ha hb
  rw [hab.same, hba.same]
  cases s <;> rfl

/-- Not above, as a test and as an answer. -/
private theorem upTo_iff (hc : c.TotalOn D) (ha : D a) (hb : D b) :
    c.upTo a b = true ↔ c.AtMost a b := by
  obtain ⟨s, h, -⟩ := hc.converse a b ha hb
  rw [h.upTo]
  constructor
  · intro hs
    cases s with
    | lt => exact .inl h
    | eq => exact .inr h
    | gt => cases hs
  · rintro (h' | h')
    · rw [h.unique h']; rfl
    · rw [h.unique h']; rfl

/-- What is not above what is not above. -/
private theorem upTo_trans (hc : c.TotalOn D) (ha : D a) (hb : D b) (hd : D d)
    (hab : c.upTo a b = true)
    (hbd : c.upTo b d = true) : c.upTo a d = true := by
  rw [hc.upTo_iff ha hb] at hab
  rw [hc.upTo_iff hb hd] at hbd
  rw [hc.upTo_iff ha hd]
  exact hc.trans a b d ha hb hd hab hbd

private theorem upTo_total (hc : c.TotalOn D) (ha : D a) (hb : D b) :
    (c.upTo a b || c.upTo b a) = true := by
  obtain ⟨s, hab, hba⟩ := hc.converse a b ha hb
  rw [hab.upTo, hba.upTo]
  cases s <;> rfl

end TotalOn

end Comparison

variable {α : Type} {c : Comparison} {D : Value → Prop} {key : α → Value} {x : Value}
  {xs : List α}

/-- Sorting by a total preorder on the keys in use. The order is taken to
the elements with their membership, on which it is one. -/
theorem pairwise_mergeSort_keys (hc : c.TotalOn D) (hxs : ∀ a ∈ xs, D (key a)) :
    (xs.mergeSort fun a b => c.upTo (key a) (key b)).Pairwise fun a b =>
      c.AtMost (key a) (key b) := by
  let le (a b : {a // D (key a)}) : Bool := c.upTo (key a.1) (key b.1)
  have hmap : (xs.mergeSort fun a b => c.upTo (key a) (key b))
      = ((xs.attachWith _ hxs).mergeSort le).map Subtype.val := by
    rw [List.map_mergeSort (s := fun a b => c.upTo (key a) (key b)) fun _ _ _ _ => rfl,
      List.attachWith_map_subtype_val]
  rw [hmap, List.pairwise_map]
  have htrans : ∀ a b d, le a b = true → le b d = true → le a d = true :=
    fun a b d => hc.upTo_trans a.2 b.2 d.2
  have htotal : ∀ a b, (le a b || le b a) = true := fun a b => hc.upTo_total a.2 b.2
  exact (List.pairwise_mergeSort htrans htotal _).imp fun {a b} h => (hc.upTo_iff a.2 b.2).1 h

/-- Equivalent members of an ascending list are one member. -/
theorem eq_of_gives_eq {a b : α} (hc : c.ConsistentOn D) (hxs : ∀ a ∈ xs, D (key a))
    (hasc : Ascends c key xs) (ha : a ∈ xs) (hb : b ∈ xs) (h : c.Gives (key a) (key b) .eq) :
    a = b := by
  obtain ⟨i, hi, rfl⟩ := List.mem_iff_getElem.1 ha
  obtain ⟨j, hj, rfl⟩ := List.mem_iff_getElem.1 hb
  rcases Nat.lt_trichotomy i j with hij | rfl | hji
  · cases h.unique (List.pairwise_iff_getElem.1 hasc i j hi hj hij)
  · rfl
  · have h' := hc.swap (hxs _ ha) (hxs _ hb) h
    cases h'.unique (List.pairwise_iff_getElem.1 hasc j i hj hi hji)

/-- An ascending list is what sorting makes of any rearrangement of it. -/
theorem mergeSort_eq_of_ascends {ys : List α} (hc : c.TotalOn D) (hxs : ∀ a ∈ xs, D (key a))
    (hasc : Ascends c key xs) (hperm : xs.Perm ys) :
    (ys.mergeSort fun a b => c.upTo (key a) (key b)) = xs := by
  have hys : ∀ a ∈ ys, D (key a) := fun a ha => hxs a (hperm.mem_iff.2 ha)
  have hle : xs.Pairwise fun a b => c.AtMost (key a) (key b) := hasc.imp .inl
  refine List.Perm.eq_of_pairwise ?_ (pairwise_mergeSort_keys hc hys) hle
    ((List.mergeSort_perm ys _).trans hperm.symm)
  intro a b ha hb hab hba
  have hax : a ∈ xs := hperm.mem_iff.2 (List.mem_mergeSort.1 ha)
  have heq := hc.eq_of_atMost (hxs a hax) (hxs b hb) hab hba
  exact eq_of_gives_eq hc.consistentOn hxs hasc hax hb heq

-- =============================================== searching and scanning

/-- A search of an ascending list answers. -/
theorem find_total (hc : c.TotalOn D) (hxs : ∀ a ∈ xs, D (key a)) (hx : D x) :
    ∃ place, Bisect.find c key xs x = .ok place := by
  have hbefore : ∀ y ∈ xs, ∃ b, (c (key y) x).map Answer.isNegative = .ok b := by
    intro y hy
    obtain ⟨s, h, -⟩ := hc.converse (key y) x (hxs y hy) hx
    exact ⟨_, h.isNegative⟩
  obtain ⟨i, hi⟩ := Bisect.search_total hbefore
  unfold Bisect.find Bisect.lowerBound
  rw [hi]
  dsimp only
  cases hy : xs[i]? with
  | none => exact ⟨none, rfl⟩
  | some y =>
    obtain ⟨s, ⟨r, hr, -⟩, -⟩ := hc.converse (key y) x (hxs y (List.mem_of_getElem? hy)) hx
    dsimp only
    rw [hr]
    exact ⟨_, rfl⟩

/-- Where the search finds nothing, no element is equivalent to the probe. -/
theorem none_same (hc : c.TotalOn D) (hxs : ∀ a ∈ xs, D (key a)) (hx : D x)
    (hasc : Ascends c key xs) (hfind : Bisect.find c key xs x = .ok none) :
    ∀ a ∈ xs, c.same (key a) x = false := by
  intro a ha
  obtain ⟨i, -, -, hbelow, habove⟩ := Bisect.find_none_split hc.consistentOn hxs hx hasc hfind
  have hside := ha
  rw [← List.take_append_drop i xs, List.mem_append] at hside
  rcases hside with hlow | hhigh
  · rw [(hbelow a hlow).same]
    rfl
  · rw [(hc.swap hx (hxs a ha) (habove a hhigh)).same]
    rfl

/-- Around an element that is equivalent to the probe an ascending list has
no other one. -/
theorem differ_of_parted {before after : List α} {a : α} (hc : c.TotalOn D)
    (hxs : ∀ a ∈ xs, D (key a)) (hx : D x) (hasc : Ascends c key xs)
    (hparts : xs = before ++ a :: after) (heq : c.Gives (key a) x .eq) :
    ∀ z ∈ before ++ after, c.same (key z) x = false := by
  intro z hz
  have hzx : z ∈ xs := by
    rw [hparts]
    exact ((List.sublist_cons_self a after).append_left before).mem hz
  have hax : a ∈ xs := mem_of_parted hparts
  have hz' := hxs z hzx
  have ha := hxs a hax
  have hne : c.Gives (key z) (key a) .lt ∨ c.Gives (key a) (key z) .lt := by
    unfold Ascends at hasc
    rw [hparts, List.pairwise_append, List.pairwise_cons] at hasc
    rcases List.mem_append.1 hz with hz | hz
    · exact .inl (hasc.2.2 z hz a List.mem_cons_self)
    · exact .inr (hasc.2.1.1 z hz)
  rcases hne with hlt | hlt
  · rw [(hc.lt_of_lt_of_atMost hz' ha hx hlt (.inr heq)).same]
    rfl
  · have hgt : c.Gives (key z) (key a) .gt := hc.swap ha hz' hlt
    rw [(hc.swap hx hz' (hc.congr hx ha hz' (hc.swap ha hx heq) hlt)).same]
    rfl

section Once

variable {P : α → Bool} {low high : List α} {y : α} (hy : P y = true)
  (hothers : ∀ z ∈ low ++ high, P z = false)

include hy hothers

/-- A scan for a property that one element has finds that element. -/
theorem find?_once : (low ++ y :: high).find? P = some y := by
  rw [List.find?_append, List.find?_eq_none.2, List.find?_cons_of_pos hy, Option.none_or]
  intro z hz
  rw [hothers z (List.mem_append_left _ hz)]
  exact Bool.false_ne_true

/-- Only one element is left out. -/
theorem filter_once : (low ++ y :: high).filter (fun z => !P z) = low ++ high := by
  have hkept : (low ++ high).filter (fun z => !P z) = low ++ high :=
    List.filter_eq_self.2 fun z hz => by rw [hothers z hz]; rfl
  rw [List.filter_append] at hkept ⊢
  rw [List.filter_cons_of_neg (by simp [hy]), hkept]

end Once

-- ====================================================== nothing fails

namespace Multimap

variable {keys values : Comparator} {K V : Value → Prop} {m : Multimap} {k v : Value} {e : Fault}
  {s : Slot OrderedSet} {before after : List (Slot OrderedSet)}

/-- A null among the operands is one that the comparator compares. -/
theorem checkEntry_total (hk : m.keyComparator.compare.TotalOn K)
    (hv : m.valueComparator.compare.TotalOn V) (hK : K k) (hV : V v) :
    m.checkEntry k v = .ok () := by
  have haccepts : ∀ {c : Comparator} {D : Value → Prop}, c.compare.TotalOn D → D .null →
      c.AcceptsNull := by
    intro c D hc hnull
    obtain ⟨r, hr, -⟩ := hc.refl hnull
    exact ⟨r, hr⟩
  exact checkEntry_eq_ok (fun hnull => haccepts hk (hnull ▸ hK))
    fun hnull => haccepts hv (hnull ▸ hV)

namespace Ordered

variable (h : Ordered keys values K V m)

include h

/-- Finding a key is bisecting the slots. -/
theorem find_eq : m.map.find k = Bisect.find keys.compare Slot.key m.map.slots k := by
  rw [← h.keyComparator]
  rfl

/-- A search for a key that can be compared succeeds. -/
theorem find_total (hk : keys.compare.TotalOn K) (hK : K k) :
    ∃ place, m.map.find k = .ok place := by
  rw [h.find_eq]
  exact Collation.find_total hk h.key_mem hK

/-- A key that no slot is for is not found. -/
theorem find_of_lacks (hk : keys.compare.TotalOn K) (hK : K k) (hlacks : m.map.Lacks k) :
    m.map.find k = .ok none := by
  obtain ⟨place, hplace⟩ := h.find_total hk hK
  rcases hlacks with hnone | ⟨e, he, -⟩
  · exact hnone
  · rw [hplace] at he
    cases he

/-- The values of a slot, as the multimap's comparator orders them. -/
theorem slot (hslots : m.map.slots = before ++ s :: after) :
    (∀ w, s.value.find w = Bisect.find values.compare id s.value.items w)
      ∧ (∀ w ∈ s.value.items, V (id w)) ∧ Ascends values.compare id s.value.items := by
  have hs := (h.parted_ordered hslots).1
  have hcomparator := (h.toIntact.parted hslots).1.comparator
  refine ⟨fun w => ?_, hs.value_mem, hs.ascends⟩
  rw [← hcomparator]
  rfl

/-- A put of what can be compared does not fail. -/
theorem not_putFailure (hk : keys.compare.TotalOn K) (hv : values.compare.TotalOn V) (hK : K k)
    (hV : V v) : ¬PutFailure m k v e := by
  intro hfail
  cases hfail with
  | refused he =>
    rw [checkEntry_total (h.keyComparator ▸ hk) (h.valueComparator ▸ hv) hK hV] at he
    cases he
  | search he =>
    obtain ⟨place, hplace⟩ := h.find_total hk hK
    rw [hplace] at he
    cases he
  | place hnone he =>
    rw [h.find_eq] at hnone
    obtain ⟨low, high, -, hu, -⟩ :=
      Bisect.upperBound_of_absent hk.consistentOn h.key_mem hK h.ascends hnone
    rw [h.keyComparator, hu] at he
    cases he
  | valueSearch hslots _ he =>
    obtain ⟨hfind, hmem, -⟩ := h.slot hslots
    obtain ⟨place, hplace⟩ := Collation.find_total hv hmem hV
    rw [hfind, hplace] at he
    cases he
  | valuePlace hslots _ hnone he =>
    obtain ⟨hfind, hmem, hasc⟩ := h.slot hslots
    rw [hfind] at hnone
    obtain ⟨low, high, -, hu, -⟩ :=
      Bisect.upperBound_of_absent hv.consistentOn hmem hV hasc hnone
    rw [(h.toIntact.parted hslots).1.comparator, hu] at he
    cases he

/-- Neither does a removal. -/
theorem not_removeFailure (hk : keys.compare.TotalOn K) (hv : values.compare.TotalOn V)
    (hK : K k) (hV : V v) : ¬RemoveFailure m k v e := by
  intro hfail
  cases hfail with
  | search he _ =>
    obtain ⟨place, hplace⟩ := h.find_total hk hK
    rw [hplace] at he
    cases he
  | valueSearch hslots _ he =>
    obtain ⟨hfind, hmem, -⟩ := h.slot hslots
    obtain ⟨place, hplace⟩ := Collation.find_total hv hmem hV
    rw [hfind, hplace] at he
    cases he

end Ordered

end Multimap

end Collation
