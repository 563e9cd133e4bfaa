/-
The neighbours of a probe. A collection that is in order is navigated as
the list of its elements is (`Navigation.Over`): a set of its own, the
values under a key, which may be absent, and the keys of a map or of a
multimap. In that list the searches find the last element below the probe,
the last one not above it, the first one not below it and the first one
above it (`neighbours_found`). What is below a probe and what is not are the
two parts of the listing, and so are what is not above and what is; so the
answers of the two searches meet at one place.
-/
import Collation.Proofs.Maps.Order
import Collation.Proofs.Sets.Operators

namespace Collation

open Bisect (Ascends Parted)

-- ======================================================== kept by a test

/-- A test that goes by how an element stands to the probe keeps parts of
the list as wholes. -/
theorem Bisect.Parted.filter_eq {α : Type} {c : Comparison} {key : α → Value}
    {xs below level above : List α} {x : Value} (h : Parted c key xs x below level above)
    {p : α → Bool} {q : Ordering → Bool} (hp : ∀ y s, c.Stands (key y) x s → p y = q s) :
    xs.filter p = (if q .lt then below else [])
      ++ ((if q .eq then level else []) ++ if q .gt then above else []) := by
  have hpart : ∀ {ys : List α} {s : Ordering}, (∀ y ∈ ys, c.Stands (key y) x s) →
      ys.filter p = if q s then ys else [] := by
    intro ys s hys
    by_cases hq : q s = true
    · rw [if_pos hq, List.filter_eq_self]
      exact fun y hy => (hp y s (hys y hy)).trans hq
    · rw [if_neg hq, List.filter_eq_nil_iff]
      exact fun y hy hkept => hq ((hp y s (hys y hy)).symm.trans hkept)
  rw [h.parts, List.filter_append, List.filter_append, hpart h.below, hpart h.level,
    hpart h.above]

-- ====================================================== navigated listings

namespace Navigation

/-- What the navigation of a list of values answers. -/
structure Over (c : Comparison) (xs : List Value) (nav : Navigation) : Prop where
  lower : ∀ x, nav.lower x = Bisect.lower c id xs x
  floor : ∀ x, nav.floor x = Bisect.floor c id xs x
  ceiling : ∀ x, nav.ceiling x = Bisect.ceiling c id xs x
  higher : ∀ x, nav.higher x = Bisect.higher c id xs x
  range : ∀ r, nav.range r = r.select c id xs

private theorem over_orderedSet (s : OrderedSet) : s.navigation.Over s.comparator.compare s.items :=
  ⟨fun _ => rfl, fun _ => rfl, fun _ => rfl, fun _ => rfl, fun _ => rfl⟩

/-- A map is navigated over its keys. -/
private theorem over_orderedMap {β : Type} (m : OrderedMap β) :
    m.navigation.Over m.comparator.compare m.keys where
  lower _ := OrderedMap.lowerKey_eq
  floor _ := OrderedMap.floorKey_eq
  ceiling _ := OrderedMap.ceilingKey_eq
  higher _ := OrderedMap.higherKey_eq
  range r := OrderedMap.keyRange_eq r

/-- Where there are no values the view is navigated as the empty list is. -/
theorem over_slotView_none {v : SlotView} (h : v.values? = .ok none) (c : Comparison) :
    v.navigation.Over c [] where
  lower _ := SlotView.navigate_none h _
  floor _ := SlotView.navigate_none h _
  ceiling _ := SlotView.navigate_none h _
  higher _ := SlotView.navigate_none h _
  range r := by
    show v.range r = .ok []
    unfold SlotView.range
    rw [h]
    rfl

/-- What there is around a probe: the last one listed of what is below it
and of what is not above it, the first one listed of what is not below it
and of what is above it. -/
structure Neighbours (c : Comparison) (listed : List Value) (nav : Navigation) (x : Value) :
    Prop where
  lower : nav.lower x = .ok (listed.filter fun e => c.Gives e x .lt).getLast?
  floor : nav.floor x = .ok (listed.filter fun e => c.AtMost e x).getLast?
  ceiling : nav.ceiling x = .ok (listed.filter fun e => c.Gives e x .eq ∨ c.Gives e x .gt).head?
  higher : nav.higher x = .ok (listed.filter fun e => c.Gives e x .gt).head?
  /-- The answers stand side by side; where there is none the listing ends. -/
  lowerCeiling : ∃ low high, listed = low ++ high
    ∧ nav.lower x = .ok low.getLast? ∧ nav.ceiling x = .ok high.head?
  floorHigher : ∃ low high, listed = low ++ high
    ∧ nav.floor x = .ok low.getLast? ∧ nav.higher x = .ok high.head?

variable {c : Comparison} {D : Value → Prop} {xs : List Value} {nav : Navigation} {x : Value}

/-- In a list in order the searches find the neighbours. -/
theorem Over.neighbours (h : nav.Over c xs) (hc : c.TotalOn D) (hxs : ∀ v ∈ xs, D v)
    (hasc : Ascends c id xs) (hx : D x) : nav.Neighbours c xs x := by
  obtain ⟨below, level, above, hparted⟩ := hasc.parted hc hxs hx
  have hlower := (h.lower x).trans hparted.lower
  have hfloor := (h.floor x).trans hparted.floor
  have hceiling := (h.ceiling x).trans hparted.ceiling
  have hhigher := (h.higher x).trans hparted.higher
  -- each of the tests is one of the side on which an element stands
  have hkept : ∀ {p : Value → Bool} (q : Ordering → Bool),
      (∀ e s, c.Gives e x s → p e = q s) →
      xs.filter p = (if q .lt then below else [])
        ++ ((if q .eq then level else []) ++ if q .gt then above else []) :=
    fun q hp => hparted.filter_eq fun e s hs => hp e s hs.1
  have hbelow : (xs.filter fun e => c.Gives e x .lt) = below := by
    rw [hkept (· == .lt) fun e s hs => by cases s <;> simp [hs.iff]]
    simp
  have hupTo : (xs.filter fun e => c.AtMost e x) = below ++ level := by
    rw [hkept (· != .gt) fun e s hs => by cases s <;> simp [Comparison.AtMost, hs.iff]]
    simp
  have hfrom : (xs.filter fun e => c.Gives e x .eq ∨ c.Gives e x .gt) = level ++ above := by
    rw [hkept (· != .lt) fun e s hs => by cases s <;> simp [hs.iff]]
    simp
  have habove : (xs.filter fun e => c.Gives e x .gt) = above := by
    rw [hkept (· == .gt) fun e s hs => by cases s <;> simp [hs.iff]]
    simp
  refine ⟨?_, ?_, ?_, ?_, ⟨below, level ++ above, hparted.parts, hlower, hceiling⟩,
    ⟨below ++ level, above, ?_, hfloor, hhigher⟩⟩
  · rw [hbelow]
    exact hlower
  · rw [hupTo]
    exact hfloor
  · rw [hfrom]
    exact hceiling
  · rw [habove]
    exact hhigher
  · rw [List.append_assoc]
    exact hparted.parts

end Navigation

private theorem Multimap.KeysOrdered.navigation_over {c : Comparator} {D : Value → Prop}
    {m : Multimap}
    (h : m.KeysOrdered c D) : m.map.navigation.Over c.compare m.keys := by
  rw [← h.keyComparator]
  exact Navigation.over_orderedMap m.map

-- ======================================================= in whatever form

namespace Operand

/-- What has its elements in order: a sorted set, the map that a multimap is
seen as, or an ordered map. -/
inductive Navigable (c : Comparator) (D : Value → Prop) : Operand → Prop where
  | set {o : Operand} : SortedSet c D o → Navigable c D o
  | mapView {values : Comparator} {V : Value → Prop} {m : Multimap} :
    m.Reached c values D V → Navigable c D (.mapView m.asMap)
  | map {m : OrderedMap Value} : m.Reached c D → Navigable c D (.orderedMap m)

/-- An operand with its navigation, which is that of its listing. -/
structure Navigated (c : Comparator) (D : Value → Prop) (o : Operand) (nav : Navigation)
    (xs : List Value) : Prop where
  navigation : o.navigation? = some nav
  listing : o.listing = xs.map .ok
  answers : nav.Over c.compare xs
  mem : ∀ v ∈ xs, D v
  ascends : Ascends c.compare id xs

variable {c : Comparator} {D : Value → Prop} {o : Operand}

private theorem Lists.navigated {xs : List Value} {nav : Navigation} (h : Lists c D o xs)
    (hnav : o.navigation? = some nav) (hover : nav.Over c.compare xs) : Navigated c D o nav xs :=
  ⟨hnav, h.listing, hover, h.mem, h.ascends⟩

/-- A set in order is navigated over what it lists. -/
private theorem SortedSet.navigated (h : SortedSet c D o) (hc : c.compare.TotalOn D) :
    ∃ nav xs, Navigated c D o nav xs := by
  cases h with
  | @set s hs =>
    have hsorted := hs.sorted hc.consistentOn
    have hover := Navigation.over_orderedSet s
    rw [hsorted.comparator] at hover
    exact ⟨_, _, (hsorted.lists hc).navigated rfl hover⟩
  | @values keys K m k found hm hfound =>
    have hvalues := hm.valuesOrdered hc.consistentOn
    have hlists := hvalues.lists hc hfound
    have hread : (SlotView.mk m k).values? = .ok found := hfound
    cases found with
    | none => exact ⟨_, _, hlists.navigated rfl (Navigation.over_slotView_none hread c.compare)⟩
    | some s =>
      obtain ⟨t, ht, rfl⟩ := Multimap.slot_of_valuesAt? hfound
      have hover := Navigation.over_orderedSet t.value
      rw [(hvalues.slots t ht).comparator, ← SlotView.navigation_eq hread] at hover
      exact ⟨_, _, hlists.navigated rfl hover⟩
  | keys hm =>
    have hkeys := hm.keysOrdered hc.consistentOn
    exact ⟨_, _, (hkeys.lists hc).navigated rfl hkeys.navigation_over⟩

/-- So is a map or a view. -/
theorem Navigable.navigated (h : Navigable c D o) (hc : c.compare.TotalOn D) :
    ∃ nav xs, Navigated c D o nav xs := by
  cases h with
  | set h => exact h.navigated hc
  | @mapView values V m hm =>
    have hkeys := hm.keysOrdered hc.consistentOn
    have hlists := hkeys.lists hc
    exact ⟨_, _, rfl, hlists.listing, hkeys.navigation_over, hlists.mem, hlists.ascends⟩
  | @map m hm =>
    have hsorted := hm.sorted hc.consistentOn
    have hlists := OrderedSet.Sorted.lists hsorted hc
    have hcomparator : m.comparator = c := hsorted.comparator
    have hover := Navigation.over_orderedMap m
    rw [hcomparator] at hover
    exact ⟨_, _, rfl, hlists.listing, hover, hlists.mem, hlists.ascends⟩

private theorem listing_absent {v : SlotView} (h : v.values? = .ok none) :
    (Operand.slotView v).listing = [] := by
  have hitems : v.items = .ok [] := by
    rw [SlotView.items, h]
    rfl
  show (readings v.items).map _ = []
  rw [hitems]
  rfl

end Operand

open Operand (Navigable)

variable {c : Comparator} {D : Value → Prop} {o : Operand}

/-- Whatever has its elements in order answers about every probe with its
neighbours in the listing, and never fails. Under an absent key the listing
is empty. -/
theorem neighbours_found (hc : c.compare.TotalOn D) (h : Navigable c D o) :
    ∃ nav xs, o.navigation? = some nav ∧ o.listing = xs.map .ok
      ∧ (∀ v, o = .slotView v → v.values? = .ok none → xs = [])
      ∧ ∀ x, D x → nav.Neighbours c.compare xs x := by
  obtain ⟨nav, xs, hnav⟩ := h.navigated hc
  refine ⟨nav, xs, hnav.navigation, hnav.listing, fun v hv hnone => ?_, fun x hx => ?_⟩
  · have hlisting := hnav.listing
    rw [hv, Operand.listing_absent hnone] at hlisting
    exact List.map_eq_nil_iff.1 hlisting.symm
  · exact hnav.answers.neighbours hc hnav.mem hnav.ascends hx

/-- Texts by their case fold, in a set and a map of their own, under a key
and as the keys of a multimap. The probe is spelled otherwise than what is
stored, and under an absent key there is nothing around it. -/
theorem neighbours_found_caseFold :
    let isText : Value → Prop := fun v => ∃ s, v.text? = some s
    let own := SlotChange.afterSet (SlotChange.afterSet (.empty .caseFold) (.add (.text "d")))
      (.add (.text "b"))
    let map := OrderedMap.Change.after (OrderedMap.Change.after (.empty .caseFold)
      (.set (.text "a") .null)) (.setDefault (.text "C") .null)
    let history : List Operation := [.putAll (.text "k") [.text "A", .text "B", .text "c"]]
    let m := (Multimap.empty .caseFold .caseFold).afterAll history
    let operands : List Operand := [.orderedSet own, .orderedMap map, .slotView ⟨m, .text "K"⟩,
      .slotView ⟨m, .text "absent"⟩, .keyView ⟨m⟩, .mapView m.asMap]
    let around : Value → Operand → Option (List (Option String)) := fun x o =>
      o.navigation?.bind fun nav =>
        ([nav.lower x, nav.floor x, nav.ceiling x, nav.higher x].mapM id).toOption.map
          (List.map fun found => (found.bind Value.text?).map Text.lossy)
    Comparator.caseFold.compare.TotalOn isText
      ∧ (∀ o ∈ operands, Navigable .caseFold isText o ∧ ∃ nav xs, o.navigation? = some nav
        ∧ o.listing = xs.map .ok
        ∧ nav.Neighbours Comparator.caseFold.compare xs (.text "B"))
      ∧ operands.map (around (.text "B"))
        = [some [none, some "b", some "b", some "d"], some [some "a", some "a", some "C", some "C"],
          some [some "A", some "B", some "B", some "c"], some [none, none, none, none],
          some [none, none, some "k", some "k"], some [none, none, some "k", some "k"]] := by
  intro isText own map history m operands around
  have htotal : Comparator.caseFold.compare.TotalOn isText := Comparator.caseFold_totalOn
  have hputs : ∀ operation ∈ history, operation.Puts isText isText := by
    simp [history, isText, Operation.Puts, Value.text?]
  have hm : m.Reached .caseFold .caseFold isText isText := ⟨history, hputs, rfl⟩
  have hown : own.Reached .caseFold isText := .changed _ (.changed _ .empty ⟨_, rfl⟩) ⟨_, rfl⟩
  have hmap : map.Reached .caseFold isText := .changed _ (.changed _ .empty ⟨_, rfl⟩) ⟨_, rfl⟩
  have hunder : ∀ k, isText k → Navigable .caseFold isText (.slotView ⟨m, k⟩) :=
    fun k hk => .set (.under hm htotal htotal.consistentOn hk)
  have hnavigable : ∀ o ∈ operands, Navigable .caseFold isText o := by
    intro o ho
    simp only [operands, List.mem_cons, List.not_mem_nil, or_false] at ho
    rcases ho with rfl | rfl | rfl | rfl | rfl | rfl
    · exact .set (.set hown)
    · exact .map hmap
    · exact hunder _ ⟨_, rfl⟩
    · exact hunder _ ⟨_, rfl⟩
    · exact .set (.keys hm)
    · exact .mapView hm
  refine ⟨htotal, fun o ho => ⟨hnavigable o ho, ?_⟩, by decide +kernel⟩
  obtain ⟨nav, xs, hnav, hlisting, -, hall⟩ := neighbours_found htotal (hnavigable o ho)
  exact ⟨nav, xs, hnav, hlisting, hall _ ⟨_, rfl⟩⟩

end Collation
