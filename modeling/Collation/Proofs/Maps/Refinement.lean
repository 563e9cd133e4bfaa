/-
The ordered map is the naive one (`Roster`), as far as anyone can tell from
the replies, when its comparator is a total preorder on the keys in use.

What relates the two (`Lists`) is that the ordered map is in order and its
slots are those of the naive one in another order. A search by halving then
comes to what going through all slots comes to (`Sorted.located`), and at
most one slot is for a key, so it does not matter in which order they are
gone through (`find?_eq_of_perm`). From there on each operation is compared
with the naive one slot by slot, and a run request by request
(`Lists.exchange`).
-/
import Collation.Proofs.Maps.Roster

namespace Collation

open Bisect (Ascends)
open Roster (isFor)

/-- Where a test singles out one element at most, a scan finds the same one
in any order. -/
theorem find?_eq_of_perm {α : Type} {P : α → Bool} {xs ys : List α} (hperm : xs.Perm ys)
    (hunique : ∀ a ∈ xs, ∀ b ∈ xs, P a = true → P b = true → a = b) :
    xs.find? P = ys.find? P := by
  cases hx : xs.find? P with
  | none =>
    refine (List.find?_eq_none.2 fun y hy => ?_).symm
    exact List.find?_eq_none.1 hx y (hperm.mem_iff.2 hy)
  | some a =>
    have ha : a ∈ xs := List.mem_of_find?_eq_some hx
    cases hy : ys.find? P with
    | none => exact absurd (List.find?_some hx) (List.find?_eq_none.1 hy a (hperm.mem_iff.1 ha))
    | some b =>
      have hb : b ∈ xs := hperm.mem_iff.2 (List.mem_of_find?_eq_some hy)
      rw [hunique a ha b hb (List.find?_some hx) (List.find?_some hy)]

namespace OrderedMap

variable {β : Type} {c : Comparator} {D : Value → Prop} {m m' : OrderedMap β} {k : Value} {v : β}
  {s : Slot β} {before after : List (Slot β)}

-- ================================================== searches of a map

namespace Sorted

variable (h : Sorted c D m)

include h

/-- The keys are of the kind that the comparator orders. -/
theorem slot_mem : ∀ s ∈ m.slots, D s.key := fun _ hs => h.mem _ (List.mem_map_of_mem hs)

/-- The slots ascend by their keys. -/
theorem slots_ascend : Ascends c.compare Slot.key m.slots := List.pairwise_map.1 h.ascends

private theorem find_eq_bisect : m.find k = Bisect.find c.compare Slot.key m.slots k := by
  have hcomparator : m.comparator = c := h.comparator
  unfold find
  rw [hcomparator]

variable (hc : c.compare.TotalOn D) (hk : D k)

include hc hk

/-- Two slots for one key are one slot. -/
theorem isFor_unique : ∀ s ∈ m.slots, ∀ t ∈ m.slots, isFor c k s = true → isFor c k t = true →
    s = t := by
  intro s hs t ht hsfor htfor
  have hsk := Comparison.same_iff.1 hsfor
  have htk := Comparison.same_iff.1 htfor
  have hkt := hc.swap (h.slot_mem t ht) hk htk
  exact eq_of_gives_eq hc.consistentOn h.slot_mem h.slots_ascend hs ht
    (hc.eq_trans (h.slot_mem s hs) hk (h.slot_mem t ht) hsk hkt)

/-- A key has one slot or none, and the search comes to just that. -/
theorem located :
    (m.find k = .ok none ∧ ∀ t ∈ m.slots, isFor c k t = false)
      ∨ ∃ before s after, m.slots = before ++ s :: after
        ∧ m.find k = .ok (some before.length) ∧ isFor c k s = true
        ∧ ∀ t ∈ before ++ after, isFor c k t = false := by
  obtain ⟨place, hplace⟩ := find_total hc h.slot_mem hk
  rw [← h.find_eq_bisect] at hplace
  cases place with
  | none =>
    rw [h.find_eq_bisect] at hplace
    exact .inl ⟨h.find_eq_bisect.trans hplace, none_same hc h.slot_mem hk h.slots_ascend hplace⟩
  | some i =>
    obtain ⟨before, s, after, hslots, rfl, heq⟩ := Bisect.find_parted hplace
    have hcomparator : m.comparator = c := h.comparator
    rw [hcomparator] at heq
    exact .inr ⟨before, s, after, hslots, hplace, heq.same,
      differ_of_parted hc h.slot_mem hk h.slots_ascend hslots heq⟩

end Sorted

-- ======================================== the two maps side by side

/-- The map is in order, and the slots of a naive one are its slots. -/
structure Lists (D : Value → Prop) (m : OrderedMap β) (l : Roster c β) : Prop where
  sorted : Sorted c D m
  slots : m.slots.Perm l.slots

namespace Lists

variable {l : Roster c β} (h : Lists D m l)

/-- An empty map is listed by an empty roster. -/
theorem empty : Lists D (.empty c) (.empty : Roster c β) := ⟨.empty c D, .nil⟩

include h

variable (hc : c.compare.TotalOn D)

include hc

private theorem listed_eq : l.listed = m.slots :=
  mergeSort_eq_of_ascends hc h.sorted.slot_mem h.sorted.slots_ascend h.slots

variable (hk : D k)

include hk

/-- The search and the scan come to the same. -/
theorem located :
    (m.find k = .ok none ∧ l.slot? k = none)
      ∨ ∃ before s after, m.slots = before ++ s :: after
        ∧ m.find k = .ok (some before.length) ∧ l.slot? k = some s ∧ isFor c k s = true
        ∧ ∀ t ∈ before ++ after, isFor c k t = false := by
  have hscan : m.slots.find? (isFor c k) = l.slot? k :=
    find?_eq_of_perm h.slots (h.sorted.isFor_unique hc hk)
  rw [← hscan]
  rcases h.sorted.located hc hk with ⟨hfind, hnone⟩ | ⟨before, s, after, hslots, hfind, hs, hothers⟩
  · exact .inl ⟨hfind, List.find?_eq_none.2 fun t ht => by simp [hnone t ht]⟩
  · refine .inr ⟨before, s, after, hslots, hfind, ?_, hs, hothers⟩
    rw [hslots, find?_once hs hothers]

-- ============================================================= reading

/-- A slot is found in the roster just if the bisection finds it. -/
private theorem slot_eq : m.slot k = l.slot k := by
  unfold OrderedMap.slot Roster.slot
  rcases h.located hc hk with ⟨hfind, hnone⟩ | ⟨before, s, after, hslots, hfind, hsome, -⟩
  · rw [hfind, hnone]
    rfl
  · rw [hfind, hsome, hslots]
    simp

private theorem get?_eq : m.get? k = .ok ((l.slot? k).map Slot.value) := by
  unfold OrderedMap.get? OrderedMap.locate?
  rcases h.located hc hk with ⟨hfind, hnone⟩ | ⟨before, s, after, hslots, hfind, hsome, -⟩
  · rw [hfind, hnone]
    rfl
  · rw [hfind, hsome, hslots]
    simp [Except.map]

private theorem contains_eq : m.contains k = .ok (l.contains k) := by
  unfold OrderedMap.contains Roster.contains
  rcases h.located hc hk with ⟨hfind, hnone⟩ | ⟨before, s, after, -, hfind, hsome, -⟩
  · rw [hfind, hnone]
    rfl
  · rw [hfind, hsome]
    rfl

-- ============================================================ changing

/-- An assignment does the same to both, and does not fail. -/
theorem set (v : β) : ∃ m', m.set k v = .ok m' ∧ Lists D m' (l.set k v) := by
  unfold Roster.set
  rcases h.located hc hk with
    ⟨hfind, hnone⟩ | ⟨before, s, after, hslots, hfind, hsome, hfor, hothers⟩
  · rw [h.sorted.find_eq_bisect] at hfind
    obtain ⟨low, high, hparts, hu, -, -⟩ := Bisect.upperBound_of_absent hc.consistentOn
      h.sorted.slot_mem hk h.sorted.slots_ascend hfind
    have hset : m.set k v = .ok { m with slots := low ++ ⟨k, v⟩ :: high } := by
      have hcomparator : m.comparator = c := h.sorted.comparator
      rw [OrderedMap.set, h.sorted.find_eq_bisect, hfind]
      dsimp only
      rw [hcomparator, Bisect.insert_of_upperBound (a := ⟨k, v⟩) hparts hu]
      rfl
    refine ⟨_, hset, h.sorted.set hc.consistentOn hk hset, ?_⟩
    -- the rows are not in the order of the slots, so this is only up to it
    have hperm := h.slots
    rw [hparts] at hperm
    rw [hnone]
    exact List.perm_middle.trans ((hperm.cons _).trans (List.perm_append_singleton _ _).symm)
  · have hset : m.set k v = .ok { m with slots := before ++ { s with value := v } :: after } := by
      unfold OrderedMap.set OrderedMap.setAt
      rw [hfind, hslots]
      dsimp only
      rw [modify_parted]
    refine ⟨_, hset, h.sorted.set hc.consistentOn hk hset, ?_⟩
    -- revising each row that is for the key revises the one slot
    have hkept : ∀ t ∈ before ++ after,
        (if isFor c k t then { t with value := v } else t) = t := by
      intro t ht
      rw [hothers t ht, if_neg Bool.false_ne_true]
    rw [List.forall_mem_append] at hkept
    have hperm := h.slots.map fun t => if isFor c k t then { t with value := v } else t
    rw [hslots, List.map_append, List.map_cons, List.map_congr_left hkept.1,
      List.map_congr_left hkept.2, List.map_id', List.map_id', hfor, if_pos rfl] at hperm
    rw [hsome]
    exact hperm

/-- Erasing takes the slot for the key from both. -/
theorem erase (hsome : l.slot? k = some s) :
    ∃ m', m.erase k = .ok m' ∧ Lists D m' (l.without k) := by
  rcases h.located hc hk with
    ⟨-, hnone⟩ | ⟨before, s, after, hslots, hfind, -, hfor, hothers⟩
  · rw [hnone] at hsome
    cases hsome
  · have herase := erase_parted hslots hfind
    refine ⟨_, herase, h.sorted.erase herase, ?_⟩
    have hperm := h.slots.filter fun t => !isFor c k t
    rw [hslots, filter_once hfor hothers] at hperm
    exact hperm

private theorem erase_absent (hnone : l.slot? k = none) : m.erase k = .error (.absent k) := by
  unfold OrderedMap.erase
  rcases h.located hc hk with ⟨hfind, -⟩ | ⟨before, s, after, -, -, hsome, -⟩
  · rw [hfind]
  · rw [hnone] at hsome
    cases hsome

/-- Taking a key out does the same to both. -/
theorem pop (hsome : l.slot? k = some s) :
    ∃ m', m.pop k = .ok (m', s.value) ∧ Lists D m' (l.without k) := by
  obtain ⟨m', herase, hrest⟩ := h.erase hc hk hsome
  refine ⟨m', ?_, hrest⟩
  unfold OrderedMap.pop OrderedMap.get
  rw [h.slot_eq hc hk, Roster.slot, hsome, herase]
  rfl

private theorem pop_absent (hnone : l.slot? k = none) : m.pop k = .error (.absent k) := by
  unfold OrderedMap.pop OrderedMap.get
  rw [h.slot_eq hc hk, Roster.slot, hnone]
  rfl

private theorem pop? : ∃ m', m.pop? k = .ok (m', (l.slot? k).map Slot.value)
    ∧ Lists D m' (if (l.slot? k).isSome then l.without k else l) := by
  unfold OrderedMap.pop?
  rw [h.get?_eq hc hk]
  cases hslot : l.slot? k with
  | none => exact ⟨m, rfl, h⟩
  | some s =>
    obtain ⟨m', herase, hrest⟩ := h.erase hc hk hslot
    refine ⟨m', ?_, hrest⟩
    dsimp only [Option.map]
    rw [herase]
    rfl

/-- What is set by default is set on both sides, or on neither. -/
theorem setDefault (v : β) :
    ∃ m', m.setDefault k v = .ok (m', ((l.slot? k).map Slot.value).getD v)
      ∧ Lists D m' (if (l.slot? k).isSome then l else l.set k v) := by
  unfold OrderedMap.setDefault
  rw [h.get?_eq hc hk]
  cases hslot : l.slot? k with
  | some s => exact ⟨m, rfl, h⟩
  | none =>
    obtain ⟨m', hset, hrest⟩ := h.set hc hk v
    refine ⟨m', ?_, hrest⟩
    dsimp only [Option.map]
    rw [hset]
    rfl

end Lists

namespace Lists

variable {l : Roster c β} (h : Lists D m l) (hc : c.compare.TotalOn D)

include h hc

/-- Both give the slot of the least key away, or neither has one. -/
theorem popItem :
    (l.listed = [] ∧ m.popItem = .error .nothingToPop)
      ∨ ∃ least rest m', l.listed = least :: rest
        ∧ m.popItem = .ok (m', least.key, least.value) ∧ Lists D m' (l.without least.key) := by
  unfold OrderedMap.popItem
  rw [h.listed_eq hc]
  cases hslots : m.slots with
  | nil => exact .inl ⟨rfl, rfl⟩
  | cons least rest =>
    -- the search for the least key ends at its own slot
    have hleast : least ∈ m.slots := hslots ▸ List.mem_cons_self
    have hk := h.sorted.slot_mem least hleast
    have hfor : isFor c least.key least = true := Comparison.same_iff.2 (hc.refl hk)
    have hslot : l.slot? least.key = some least := by
      unfold Roster.slot?
      rw [← find?_eq_of_perm h.slots (h.sorted.isFor_unique hc hk), hslots,
        List.find?_cons_of_pos hfor]
    obtain ⟨m', hpop, hrest⟩ := h.pop hc hk hslot
    refine .inr ⟨least, rest, m', rfl, ?_, hrest⟩
    dsimp only [List.head?]
    rw [hpop]
    rfl

omit hc in
private theorem clear : Lists D m.clear (Roster.empty : Roster c β) := by
  have hcomparator : m.comparator = c := h.sorted.comparator
  unfold OrderedMap.clear
  rw [hcomparator]
  exact empty

/-- A change does the same to both and is replied to alike. -/
theorem change {change : Change β} (hwithin : change.Within D) :
    Lists D (change.after m) (l.change change).1
      ∧ change.response m = (l.change change).2 := by
  cases change with
  | set k v =>
    obtain ⟨m', hset, hl⟩ := h.set hc hwithin v
    unfold Change.after Change.response
    dsimp only
    rw [hset]
    exact ⟨hl, rfl⟩
  | erase k =>
    unfold Change.after Change.response Roster.change
    dsimp only
    cases hslot : l.slot? k with
    | none =>
      rw [h.erase_absent hc hwithin hslot]
      exact ⟨h, rfl⟩
    | some s =>
      obtain ⟨m', herase, hl⟩ := h.erase hc hwithin hslot
      rw [herase]
      exact ⟨hl, rfl⟩
  | pop k withDefault =>
    unfold Change.after Change.response Roster.change
    cases withDefault with
    | true =>
      obtain ⟨m', hpop, hl⟩ := h.pop? hc hwithin
      dsimp only
      rw [hpop]
      cases hslot : l.slot? k with
      | none =>
        rw [hslot] at hl
        exact ⟨hl, rfl⟩
      | some s =>
        rw [hslot] at hl
        exact ⟨hl, rfl⟩
    | false =>
      dsimp only
      cases hslot : l.slot? k with
      | none =>
        rw [h.pop_absent hc hwithin hslot]
        exact ⟨h, rfl⟩
      | some s =>
        obtain ⟨m', hpop, hl⟩ := h.pop hc hwithin hslot
        rw [hpop]
        exact ⟨hl, rfl⟩
  | popItem =>
    unfold Change.after Change.response Roster.change
    dsimp only
    rcases h.popItem hc with ⟨hlisted, hpop⟩ | ⟨least, rest, m', hlisted, hpop, hl⟩
    · rw [hlisted, hpop]
      exact ⟨h, rfl⟩
    · rw [hlisted, hpop]
      exact ⟨hl, rfl⟩
  | setDefault k v =>
    obtain ⟨m', hset, hl⟩ := h.setDefault hc hwithin v
    unfold Change.after Change.response Roster.change
    dsimp only
    rw [hset]
    cases hslot : l.slot? k with
    | none =>
      rw [hslot] at hl
      exact ⟨hl, rfl⟩
    | some s =>
      rw [hslot] at hl
      exact ⟨hl, rfl⟩
  | clear => exact ⟨h.clear, rfl⟩

omit h in
/-- Taking in entries goes on, and ends, on both sides alike. -/
theorem setEach : ∀ {entries : List (Except Fault (Value × β))},
    (∀ k v, .ok (k, v) ∈ entries → D k) → ∀ {m : OrderedMap β} {l : Roster c β}, Lists D m l →
      Lists D (m.setEach id entries).state (l.setEach entries).1
        ∧ (m.setEach id entries).result = (l.setEach entries).2 := by
  intro entries
  induction entries with
  | nil => exact fun _ _ _ h => ⟨h, rfl⟩
  | cons entry rest ih =>
    intro hentries m l h
    cases entry with
    | error e => exact ⟨h, rfl⟩
    | ok entry =>
      obtain ⟨k, v⟩ := entry
      obtain ⟨m', hset, hl⟩ := h.set hc (hentries k v List.mem_cons_self) v
      unfold OrderedMap.setEach Roster.setEach
      dsimp only [id]
      rw [hset]
      exact ih (fun k v hkv => hentries k v (List.mem_cons_of_mem _ hkv)) hl

/-- One request does the same to both and is replied to alike. -/
theorem answer {request : Request β} (hwithin : request.Within D) :
    Lists D (m.answer request).1 (l.answer request).1
      ∧ (m.answer request).2 = (l.answer request).2 := by
  cases request with
  | change change => exact h.change hc hwithin
  | update entries =>
    obtain ⟨hl, hresult⟩ := setEach hc hwithin h
    exact ⟨hl, congrArg (Response.of _) hresult⟩
  | get k =>
    have hget : m.get k = (l.slot k).map Slot.value :=
      congrArg (Except.map Slot.value) (h.slot_eq hc hwithin)
    exact ⟨h, congrArg (Response.of .value) hget⟩
  | get? k => exact ⟨h, congrArg (Response.of .found) (h.get?_eq hc hwithin)⟩
  | contains k => exact ⟨h, congrArg (Response.of .flag) (h.contains_eq hc hwithin)⟩
  | size => exact ⟨h, congrArg Response.number h.slots.length_eq⟩
  | storedKey k =>
    have hkey : m.storedKey k = (l.slot k).map Slot.key :=
      congrArg (Except.map Slot.key) (h.slot_eq hc hwithin)
    exact ⟨h, congrArg (Response.of .key) hkey⟩
  | items backwards =>
    refine ⟨h, ?_⟩
    unfold OrderedMap.answer Roster.answer
    rw [h.listed_eq hc]

omit h in
/-- Along a run the two go together and all replies agree. -/
theorem exchange : ∀ {requests : List (Request β)}, (∀ request ∈ requests, request.Within D) →
    ∀ {m : OrderedMap β} {l : Roster c β}, Lists D m l →
      Lists D (OrderedMap.exchange OrderedMap.answer m requests).1
          (OrderedMap.exchange Roster.answer l requests).1
        ∧ (OrderedMap.exchange OrderedMap.answer m requests).2
          = (OrderedMap.exchange Roster.answer l requests).2 := by
  intro requests
  induction requests with
  | nil => exact fun _ _ _ h => ⟨h, rfl⟩
  | cons request requests ih =>
    intro hrequests m l h
    rw [List.forall_mem_cons] at hrequests
    obtain ⟨hnext, hreply⟩ := h.answer hc hrequests.1
    obtain ⟨hlast, hreplies⟩ := ih hrequests.2 hnext
    exact ⟨hlast, congrArg₂ List.cons hreply hreplies⟩

end Lists

end OrderedMap

end Collation
