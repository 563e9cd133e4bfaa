/-
What replacing the values under a key comes to, when it succeeds. The slots
of other keys stay as they are and in their order; among them stands one
slot with the new values, gathered in value order, each equivalent kept
once (`Gathered`); without new values there is none.

The keys may be such that some pairs cannot be compared. What is needed is
that equivalent keys stand alike to every other (`CongruentOn`): then a key
has one slot or none, and the slot that the first put makes is the one that
the later puts find. A key that cannot be compared with itself makes a slot
all the same, but no second value finds it, so there the replacement fails
unless one value is all.
-/
import Collation.Proofs.Multimap.Lookup
import Collation.Proofs.Multimap.Turns

namespace Collation

open Bisect (Ascends)

variable {keys values : Comparator} {K V : Value → Prop} {m n : Multimap} {k v : Value}
  {vs seen : List Value} {before after : List (Slot OrderedSet)} {s : Slot OrderedSet}

-- ============================================================ gathering

/-- Values gathered in order: each of them is one of those given, and each
one given is there or has an equivalent there. -/
structure Gathered (values : Comparator) (vs items : List Value) : Prop where
  ascends : Ascends values.compare id items
  given : ∀ w ∈ items, w ∈ vs
  covers : ∀ v ∈ vs, ∃ w ∈ items, w = v ∨ values.compare.Gives w v .eq

private theorem Gathered.nil (values : Comparator) : Gathered values [] [] where
  ascends := List.Pairwise.nil
  given _ hw := hw
  covers _ hv := absurd hv List.not_mem_nil

namespace OrderedSet

variable {set set' : OrderedSet}

/-- A value more is gathered, unless one like it is there. -/
private theorem add_gathers (hv : values.compare.ConsistentOn V) (hset : set.comparator = values)
    (hseen : ∀ w ∈ seen, V w) (hV : V v) (h : Gathered values seen set.items) {grew : Bool}
    (hadd : set.add v = .ok (set', grew)) :
    set'.comparator = values ∧ Gathered values (seen ++ [v]) set'.items := by
  have hitems : ∀ w ∈ set.items, V w := fun w hw => hseen w (h.given w hw)
  rcases add_eq_ok hadd with ⟨i, hfind, rfl, -⟩ | ⟨low, high, hfind, hparts, hu, rfl, -⟩
  · obtain ⟨low, w, high, hparts, -, heq⟩ := Bisect.find_parted hfind
    rw [hset] at heq
    refine ⟨hset, h.ascends, fun x hx => List.mem_append_left _ (h.given x hx), ?_⟩
    intro x hx
    rcases List.mem_append.1 hx with hx | hx
    · exact h.covers x hx
    · exact ⟨w, mem_of_parted hparts, .inr (List.mem_singleton.1 hx ▸ heq)⟩
  · unfold OrderedSet.find at hfind
    rw [hset] at hfind hu
    obtain ⟨hbelow, habove⟩ :=
      Bisect.absent_parted hv hitems hV h.ascends hfind hparts hu
    have hasc := h.ascends
    rw [hparts] at hasc
    -- the elements are those there were, and the new one
    have hmem : ∀ x, x ∈ low ++ v :: high ↔ x = v ∨ x ∈ set.items := by
      intro x
      rw [hparts, List.mem_append, List.mem_append, List.mem_cons]
      exact or_left_comm
    refine ⟨hset, hasc.insert hbelow habove, fun x hx => ?_, fun x hx => ?_⟩
    · rcases (hmem x).1 hx with rfl | hx
      · exact List.mem_append_right _ List.mem_cons_self
      · exact List.mem_append_left _ (h.given x hx)
    · rcases List.mem_append.1 hx with hx | hx
      · obtain ⟨w, hw, hsame⟩ := h.covers x hx
        exact ⟨w, (hmem w).2 (.inr hw), hsame⟩
      · obtain rfl := List.mem_singleton.1 hx
        exact ⟨x, (hmem x).2 (.inl rfl), .inl rfl⟩

/-- So are any number of values, in their turn. -/
private theorem addAll_gathers (hv : values.compare.ConsistentOn V) (hset : set.comparator = values)
    (hseen : ∀ w ∈ seen, V w) (hvs : ∀ v ∈ vs, V v) (h : Gathered values seen set.items)
    (hadd : set.addAll vs = .ok set') :
    set'.comparator = values ∧ Gathered values (seen ++ vs) set'.items := by
  induction vs generalizing set seen with
  | nil =>
    cases hadd
    rw [List.append_nil]
    exact ⟨hset, h⟩
  | cons v vs ih =>
    obtain ⟨hV, hvs⟩ := List.forall_mem_cons.1 hvs
    rw [addAll] at hadd
    cases hfirst : set.add v with
    | error e =>
      rw [hfirst] at hadd
      cases hadd
    | ok added =>
      rw [hfirst] at hadd
      obtain ⟨hset', h'⟩ := add_gathers hv hset hseen hV h hfirst
      have hseen' : ∀ w ∈ seen ++ [v], V w :=
        List.forall_mem_append.2 ⟨hseen, fun w hw => List.mem_singleton.1 hw ▸ hV⟩
      rw [List.append_cons]
      exact ih hset' hseen' hvs h' hadd

/-- The set of some values has them gathered. -/
theorem ofList_gathers (hv : values.compare.ConsistentOn V) (hvs : ∀ v ∈ vs, V v)
    (h : ofList values vs = .ok set) :
    set = ⟨values, set.items⟩ ∧ Gathered values vs set.items := by
  obtain ⟨hset, hgathered⟩ :=
    addAll_gathers hv rfl (fun _ hw => absurd hw List.not_mem_nil) hvs (.nil values) h
  exact ⟨by rw [← hset], hgathered⟩

end OrderedSet

-- ================================================= the slot of a key

/-- Around an element equivalent to the probe all others are below it or
above it. -/
theorem Comparison.CongruentOn.parted {α : Type} {c : Comparison} {D : Value → Prop}
    {key : α → Value} {low high : List α} {a : α} {x : Value} (hc : c.CongruentOn D)
    (hxs : ∀ b ∈ low ++ a :: high, D (key b)) (hx : D x)
    (hasc : Ascends c key (low ++ a :: high)) (heq : c.Gives (key a) x .eq) :
    (∀ b ∈ low, c.Gives (key b) x .lt) ∧ ∀ b ∈ high, c.Gives (key b) x .gt := by
  simp only [List.forall_mem_append, List.forall_mem_cons] at hxs
  obtain ⟨hlow, ha, hhigh⟩ := hxs
  unfold Ascends at hasc
  rw [List.pairwise_append, List.pairwise_cons] at hasc
  refine ⟨fun b hb => ?_, fun b hb => ?_⟩
  · exact hc.congr ha hx (hlow b hb) heq (hasc.2.2 b hb a List.mem_cons_self)
  · exact hc.congr ha hx (hhigh b hb) heq (hc.swap ha (hhigh b hb) (hasc.2.1.1 b hb))

namespace Multimap

private theorem isFor_iff : m.isFor k s = true ↔ m.keyComparator.compare.Gives s.key k .eq :=
  Comparison.same_iff

/-- A key of which one slot is has no other, and the search finds it. -/
theorem Ordered.alone (h : Ordered keys values K V m) (hk : keys.compare.CongruentOn K) (hK : K k)
    (hslots : m.map.slots = before ++ s :: after) (hfor : m.isFor k s = true) :
    m.map.find k = .ok (some before.length) ∧ ∀ t ∈ before ++ after, m.isFor k t = false := by
  have hmem := h.key_mem
  have hasc := h.ascends
  rw [isFor_iff, h.keyComparator] at hfor
  rw [hslots] at hmem hasc
  obtain ⟨hbelow, habove⟩ := hk.parted hmem hK hasc hfor
  constructor
  · rw [h.find_eq, hslots]
    exact Bisect.find_of_parted hbelow hfor habove
  · rw [h.isFor_eq, List.forall_mem_append]
    exact ⟨fun t ht => (hbelow t ht).same, fun t ht => (habove t ht).same⟩

/-- A key that was taken out had the slot for it, if there was one, and left
all others. -/
theorem Ordered.removeAll_others (h : Ordered keys values K V m)
    (hk : keys.compare.CongruentOn K) (hK : K k) {former : OrderedSet}
    (hok : (m.removeAll k).result = .ok former) :
    former = ⟨values, m.under k⟩
      ∧ (m.removeAll k).state.map.slots = m.map.slots.filter fun s => !m.isFor k s := by
  have hstep := removeAll_step m k
  generalize m.removeAll k = o at hstep hok ⊢
  -- the comparator finds the one slot that is for the key, if there is one
  by_cases hsome : ∃ s ∈ m.map.slots, m.isFor k s = true
  · obtain ⟨s, hs, hfor⟩ := hsome
    obtain ⟨before, after, hslots⟩ := List.append_of_mem hs
    obtain ⟨hfind, hothers⟩ := h.alone hk hK hslots hfor
    cases hstep with
    | failed _ _ => cases hok
    | keyless hlacks => exact absurd hfind (hlacks.find_ne _)
    | removed hslots' hfind' =>
      rw [hfind, Except.ok.injEq, Option.some.injEq] at hfind'
      rw [hslots] at hslots'
      obtain ⟨rfl, htail⟩ := List.append_inj hslots' hfind'
      cases htail
      cases hok
      refine ⟨?_, ?_⟩
      · rw [under_parted hslots hfor hothers, ← (h.toIntact.parted hslots).1.comparator]
      · show before ++ after = _
        rw [hslots, filter_once hfor hothers]
  · have hnone : ∀ s ∈ m.map.slots, m.isFor k s = false := fun s hs =>
      Bool.eq_false_iff.2 fun hfor => hsome ⟨s, hs, hfor⟩
    have hall : (m.map.slots.filter fun s => !m.isFor k s) = m.map.slots :=
      List.filter_eq_self.2 fun s hs => by rw [hnone s hs]; rfl
    cases hstep with
    | failed _ _ => cases hok
    | keyless _ =>
      cases hok
      rw [under_absent hnone, hall, h.valueComparator]
      exact ⟨rfl, rfl⟩
    | removed hslots hfind =>
      have heq := isFor_iff.2 (Bisect.gives_of_find hslots hfind)
      rw [hnone _ (mem_of_parted hslots)] at heq
      cases heq

-- ======================================================= putting in turn

/-- A put that succeeds has found the place of its key. -/
private theorem searched_of_put {isNew : Bool} (h : (m.put k v).result = .ok isNew) :
    m.checkEntry k v = .ok () ∧ ∃ place, m.map.find k = .ok place := by
  have hstep := put_step m k v
  generalize m.put k v = o at hstep h
  cases hstep with
  | failed _ => cases h
  | present hcheck _ hfind _ => exact ⟨hcheck, _, hfind⟩
  | grown hcheck _ hfind _ _ _ => exact ⟨hcheck, _, hfind⟩
  | made hcheck _ hfind _ => exact ⟨hcheck, _, hfind⟩

/-- The first value under a key of which there is no slot makes one, between
those of lesser and of greater keys. -/
theorem Ordered.put_first (h : Ordered keys values K V n) (hk : keys.compare.ConsistentOn K)
    (hK : K k) (hnone : ∀ s ∈ n.map.slots, ¬n.isFor k s = true) {isNew : Bool}
    (hput : (n.put k v).result = .ok isNew) :
    ∃ before after, n.map.slots = before ++ after
      ∧ (n.put k v).state.map.slots = before ++ ⟨k, ⟨values, [v]⟩⟩ :: after
      ∧ (∀ t ∈ before, keys.compare.Gives t.key k .lt)
      ∧ ∀ t ∈ after, keys.compare.Gives t.key k .gt := by
  have hstep := put_step n k v
  generalize n.put k v = o at hstep hput ⊢
  -- no slot is for the key, so the search cannot have found one
  have hfound : ∀ {before after : List (Slot OrderedSet)} {s : Slot OrderedSet},
      n.map.slots = before ++ s :: after → n.map.find k ≠ .ok (some before.length) :=
    fun hslots hfind =>
      hnone _ (mem_of_parted hslots) (isFor_iff.2 (Bisect.gives_of_find hslots hfind))
  cases hstep with
  | failed _ => cases hput
  | present _ hslots hfind _ => exact absurd hfind (hfound hslots)
  | grown _ hslots hfind _ _ _ => exact absurd hfind (hfound hslots)
  | @made before after _ hslots hfind hu =>
    rw [h.find_eq] at hfind
    rw [h.keyComparator] at hu
    obtain ⟨hbelow, habove⟩ := Bisect.absent_parted hk h.key_mem hK h.ascends hfind hslots hu
    refine ⟨before, after, hslots, ?_, hbelow, fun t ht => ?_⟩
    · rw [← h.valueComparator]
      rfl
    · have htmem : t ∈ n.map.slots := hslots ▸ List.mem_append_right before ht
      exact hk.swap hK (h.key_mem t htmem) (habove t ht)

/-- Values put under a key of which there is a slot, between those of lesser
and of greater keys, go into that slot. -/
theorem Puts.into_slot {n' : Multimap} {set : OrderedSet}
    (hkeys : n.keyComparator = keys) (hslots : n.map.slots = before ++ ⟨k, set⟩ :: after)
    (hbelow : ∀ t ∈ before, keys.compare.Gives t.key k .lt)
    (habove : ∀ t ∈ after, keys.compare.Gives t.key k .gt)
    (hitself : keys.compare.Gives k k .eq ∨ ∃ e, keys.compare k k = .error e)
    (hputs : Puts n (entriesUnder k vs) n') :
    ∃ set', set.addAll vs = .ok set' ∧ n'.map.slots = before ++ ⟨k, set'⟩ :: after := by
  induction vs generalizing n set with
  | nil =>
    cases hputs
    exact ⟨set, rfl, hslots⟩
  | cons v vs ih =>
    cases hputs with
    | cons hput hrest =>
      obtain ⟨hcheck, place, hplace⟩ := searched_of_put hput
      have hfindeq : n.map.find k
          = Bisect.find keys.compare Slot.key (before ++ ⟨k, set⟩ :: after) k := by
        rw [← hkeys, ← hslots]
        rfl
      -- a key that cannot be compared with itself would not have been found
      have heq : keys.compare.Gives k k .eq := by
        apply hitself.resolve_right
        intro ⟨e, he⟩
        rw [hfindeq, Bisect.find_of_refused hbelow he habove] at hplace
        cases hplace
      have hfind : n.map.find k = .ok (some before.length) := by
        rw [hfindeq]
        exact Bisect.find_of_parted hbelow heq habove
      have hstate := put_of_find_some hcheck hslots hfind
      rw [OrderedSet.addAll]
      cases hadd : set.add v with
      | error e =>
        rw [hadd] at hstate
        rw [hstate] at hput
        cases hput
      | ok added =>
        obtain ⟨grown, grew⟩ := added
        rw [hadd] at hstate
        have hslots' : (n.put k v).state.map.slots = before ++ ⟨k, grown⟩ :: after := by
          rw [hstate]
          cases grew with
          | true => rfl
          | false =>
            obtain ⟨_, -, rfl, -⟩ | ⟨_, _, _, _, _, _, hgrew⟩ := OrderedSet.add_eq_ok hadd
            · exact hslots
            · cases hgrew
        have hkeys' : (n.put k v).state.keyComparator = keys := by
          rw [hstate]
          cases grew <;> exact hkeys
        exact ih hkeys' hslots' hrest

-- ============================================================= replacing

/-- The slot with some values; there is none without any. -/
def slotOf (values : Comparator) (k : Value) (items : List Value) : List (Slot OrderedSet) :=
  if items.isEmpty then [] else [⟨k, ⟨values, items⟩⟩]

/-- The values under the key are those given, gathered in order, and the
slots of other keys are left. -/
def Replaced (values : Comparator) (k : Value) (vs : List Value) (m m' : Multimap) : Prop :=
  ∃ before after items, (m.map.slots.filter fun s => !m.isFor k s) = before ++ after
    ∧ OrderedSet.ofList values vs = .ok ⟨values, items⟩ ∧ Gathered values vs items
    ∧ m'.map.slots = before ++ slotOf values k items ++ after

/-- Values put after a removal replace those removed, which are the former
values in order. -/
theorem Ordered.replaced (h : Ordered keys values K V m) (hk : keys.compare.CongruentOn K)
    (hv : values.compare.ConsistentOn V) (hK : K k) (hvs : ∀ v ∈ vs, V v) {former : OrderedSet}
    {m' : Multimap} (hremoved : (m.removeAll k).result = .ok former)
    (hputs : Puts (m.removeAll k).state (entriesUnder k vs) m') :
    former = ⟨values, m.under k⟩ ∧ Replaced values k vs m m' := by
  obtain ⟨hformer, hslots⟩ := h.removeAll_others hk hK hremoved
  have hn := h.removeAll k
  have hnone : ∀ s ∈ (m.removeAll k).state.map.slots, ¬(m.removeAll k).state.isFor k s = true := by
    intro s hs
    rw [hslots, List.mem_filter, h.isFor_eq] at hs
    rw [hn.isFor_eq]
    simpa using hs.2
  refine ⟨hformer, ?_⟩
  -- only what is left without the key matters from here
  generalize (m.removeAll k).state = n at hn hputs hslots hnone
  cases vs with
  | nil =>
    cases hputs
    refine ⟨_, [], [], (List.append_nil _).symm, rfl, .nil values, ?_⟩
    rw [hslots]
    simp [slotOf]
  | cons v vs =>
    cases hputs with
    | cons hput hrest =>
      -- the first value makes the slot, and the others go into it
      obtain ⟨before, after, hparts, hmade, hbelow, habove⟩ :=
        hn.put_first hk.toConsistentOn hK hnone hput
      have hkeys := (hn.toIntact.put k v).keyComparator
      obtain ⟨set, hadd, hset⟩ :=
        hrest.into_slot hkeys hmade hbelow habove (hk.itself hK)
      have hlist : OrderedSet.ofList values (v :: vs) = .ok set := by
        rw [OrderedSet.ofList, OrderedSet.addAll, OrderedSet.add_empty]
        exact hadd
      obtain ⟨heta, hgathered⟩ := OrderedSet.ofList_gathers hv hvs hlist
      have hfilled : set.items.isEmpty = false := by
        obtain ⟨w, hw, -⟩ := hgathered.covers v List.mem_cons_self
        simpa using List.ne_nil_of_mem hw
      refine ⟨before, after, set.items, hslots.symm.trans hparts, hlist.trans (by rw [← heta]),
        hgathered, ?_⟩
      rw [hset, slotOf, if_neg (by simp [hfilled]), ← heta]
      simp

/-- The former values are the answer, and the new ones stand in their place;
or replacing failed, and nothing is changed or the new values up to one of
them stand in the place of the former. -/
def ReplacedInTurn (values : Comparator) (k : Value) (vs : List Value) (m m' : Multimap) :
    Except Fault OrderedSet → Prop
  | .ok former => former = ⟨values, m.under k⟩ ∧ Replaced values k vs m m'
  | .error e => m' = m
    ∨ ∃ done v left, vs = done ++ v :: left ∧ Replaced values k done m m'
      ∧ (m'.put k v).result = .error e

/-- Whatever comes of replacing, it is the outcome of putting in turn. -/
theorem Ordered.replacing (h : Ordered keys values K V m) (hk : keys.compare.CongruentOn K)
    (hv : values.compare.ConsistentOn V) (hK : K k) (hvs : ∀ v ∈ vs, V v) {m' : Multimap}
    {result : Except Fault OrderedSet} (hreplacing : Replacing m k vs m' result) :
    ReplacedInTurn values k vs m m' result := by
  cases hreplacing with
  | unfound _ => exact .inl rfl
  | @halted former done left v _ _ hremoved hsplit hputs hput =>
    subst hsplit
    have hdone : ∀ v ∈ done, V v := fun v hv => hvs v (List.mem_append_left _ hv)
    exact .inr ⟨done, v, left, rfl, (h.replaced hk hv hK hdone hremoved hputs).2, hput⟩
  | replaced hremoved hputs => exact h.replaced hk hv hK hvs hremoved hputs

end Multimap

end Collation
