/-
The sorted multimap is the naive one (`Ledger`), as far as anyone can tell
from the replies, when both comparators are total preorders on the
operands.

The relation between the two (`Mirrors`) says no more than that the slots
are the rows in another order, each with its values sorted. What the basic
changes do to the slots is told without a search (module Effects), and by
the same scans that the rows go through; so it is enough to compare the two
slot by row (`Mirrors.revised`, `Mirrors.under_eq`). The replies then agree
call by call (`Mirrors.answer`) and along any run.
-/
import Collation.Proofs.Multimap.Effects

namespace Collation

open Bisect (Ascends)

/-- The slot that a row makes when its values are sorted. -/
def Ledger.slotOf (values : Comparator) (r : Row) : Slot OrderedSet :=
  ⟨r.key, ⟨values, sortValues values r.values⟩⟩

open Ledger (isFor sortValues slotOf)

/-- The slots of an ordered multimap are the rows, in another order and
with their values sorted. -/
structure Mirrors {keys values : Comparator} (K V : Value → Prop) (m : Multimap)
    (l : Ledger keys values) : Prop extends Multimap.Ordered keys values K V m where
  rows : m.map.slots.Perm (l.rows.map (slotOf values))

namespace Mirrors

variable {keys values : Comparator} {K V : Value → Prop} {m : Multimap} {l : Ledger keys values}
  {k v : Value} {r : Row} {f g : List Value → List Value}

-- =================================================== slots and their rows

section

variable (h : Mirrors K V m l)

include h

private theorem isFor_slotOf : m.isFor k (slotOf values r) = isFor keys k r := by
  rw [h.isFor_eq]
  rfl

private theorem slotOf_mem (hr : r ∈ l.rows) : slotOf values r ∈ m.map.slots :=
  h.rows.mem_iff.2 (List.mem_map_of_mem hr)

/-- No row is empty. -/
theorem filled : ∀ r ∈ l.rows, r.values.isEmpty = false := by
  intro r hr
  have hne := (h.slots _ (h.slotOf_mem hr)).filled
  cases hvalues : r.values with
  | nil => simp [Ledger.slotOf, Ledger.sortValues, hvalues] at hne
  | cons w ws => rfl

/-- The values of a row, sorted, are in order. -/
theorem row_ascends (hr : r ∈ l.rows) :
    (∀ w ∈ sortValues values r.values, V w)
      ∧ Ascends values.compare id (sortValues values r.values) := by
  obtain ⟨before, after, hslots⟩ := List.append_of_mem (h.slotOf_mem hr)
  exact (h.slot hslots).2

variable (hk : keys.compare.TotalOn K) (hK : K k)

include hk hK

/-- A row for the key has the values under it, for no other row is. -/
theorem under_row (hr : r ∈ l.rows) (hfor : isFor keys k r = true) :
    m.under k = sortValues values r.values := by
  have hslot := h.slotOf_mem hr
  rw [← h.isFor_slotOf] at hfor
  rcases h.located hk hK with ⟨-, hnone⟩ | ⟨before, s, after, hslots, -, hs, hothers⟩
  · rw [hnone _ hslot] at hfor
    cases hfor
  · rw [hslots, List.perm_middle.mem_iff, List.mem_cons] at hslot
    rcases hslot with rfl | hslot
    · rw [Multimap.under_parted hslots hs hothers]
      rfl
    · rw [hothers _ hslot] at hfor
      cases hfor

/-- Under a key stand the values of its row, in order. -/
private theorem under_eq : m.under k = sortValues values (l.under k) := by
  unfold Ledger.under
  cases hfind : l.rows.find? (isFor keys k) with
  | some r =>
    exact h.under_row hk hK (List.mem_of_find?_eq_some hfind) (List.find?_some hfind)
  | none =>
    have hempty : sortValues values [] = [] := List.mergeSort_nil
    show m.under k = sortValues values []
    rw [hempty]
    refine Multimap.under_absent fun t ht => ?_
    obtain ⟨r, hr, rfl⟩ := List.mem_map.1 (h.rows.mem_iff.1 ht)
    rw [h.isFor_slotOf]
    simpa using List.find?_eq_none.1 hfind r hr

omit hk hK in
private theorem hasKey_eq : m.hasKey k = l.containsKey k := by
  unfold Multimap.hasKey Ledger.containsKey
  rw [h.rows.any_eq, List.any_map, h.isFor_eq]
  rfl

private theorem holds_eq : m.holds k v = l.containsEntry k v := by
  unfold Multimap.holds
  rw [h.under_eq hk hK, h.valueComparator]
  exact (List.mergeSort_perm _ _).any_eq

end

-- ========================================================= changes

/-- Values that ascend are what sorting makes of them in any order. -/
theorem sortValues_eq {xs ys : List Value} (hv : values.compare.TotalOn V)
    (hxs : ∀ w ∈ xs, V w) (hasc : Ascends values.compare id xs) (hperm : xs.Perm ys) :
    sortValues values ys = xs := by
  have hmem : ∀ w ∈ xs, V (id w) := hxs
  exact mergeSort_eq_of_ascends hv hmem hasc hperm

private theorem dropEmpty_filled (hfilled : ∀ r ∈ l.rows, r.values.isEmpty = false) :
    l.dropEmpty = l := by
  have hrows : l.rows.filter (fun r => !r.values.isEmpty) = l.rows :=
    List.filter_eq_self.2 fun r hr => by simp [hfilled r hr]
  unfold Ledger.dropEmpty
  rw [hrows]

section

variable (h : Mirrors K V m l) (hk : keys.compare.TotalOn K) (hv : values.compare.TotalOn V)

include h

/-- The values under a key are changed on both sides, if sorting takes the
one change to the other. The slot and the row go with the last value. -/
theorem revised (hordered : Multimap.Ordered keys values K V (m.revised k f))
    (hfg : ∀ r ∈ l.rows, isFor keys k r = true →
      f (sortValues values r.values) = sortValues values (g r.values)) :
    Mirrors K V (m.revised k f) (l.changeRow k g).dropEmpty := by
  refine ⟨hordered, (h.rows.filterMap (m.reviseSlot k f)).trans (.of_eq ?_)⟩
  unfold Ledger.dropEmpty Ledger.changeRow
  rw [List.filterMap_map, ← List.filterMap_eq_filter, List.filterMap_map, List.map_filterMap]
  refine List.filterMap_congr fun r hr => ?_
  dsimp only [Function.comp_apply, Multimap.reviseSlot]
  rw [h.isFor_slotOf]
  cases hfor : isFor keys k r with
  | false => simp [Option.guard, h.filled r hr]
  | true =>
    have hvalues : f (slotOf values r).value.items = sortValues values (g r.values) :=
      hfg r hr hfor
    rw [if_pos rfl, if_pos rfl, hvalues]
    cases hg : g r.values with
    | nil => simp [Ledger.sortValues, Option.guard]
    | cons w ws =>
      have hne : sortValues values (w :: ws) ≠ [] := by
        rw [← List.length_pos_iff, Ledger.sortValues, List.length_mergeSort]
        exact Nat.zero_lt_succ _
      rw [Slot.refilled?_of_ne hne]
      rfl

include hk hv

/-- A value put between lesser and greater ones stands where sorting puts it
when it comes last in the row. -/
theorem sortValues_grown {low high : List Value} (hK : K k) (hV : V v) (hr : r ∈ l.rows)
    (hfor : isFor keys k r = true) (hunder : m.under k = low ++ high)
    (hbelow : ∀ w ∈ low, values.compare.Gives w v .lt)
    (habove : ∀ w ∈ high, values.compare.Gives v w .lt) :
    low ++ v :: high = sortValues values (r.values ++ [v]) := by
  obtain ⟨hmem, hasc⟩ := h.under_ascends hk hK
  rw [hunder] at hmem hasc
  have hold : (low ++ high).Perm r.values := by
    rw [← hunder, h.under_row hk hK hr hfor]
    exact List.mergeSort_perm _ _
  have hperm : (low ++ v :: high).Perm (r.values ++ [v]) :=
    List.perm_middle.trans ((hold.cons v).trans (List.perm_append_singleton v _).symm)
  refine (sortValues_eq hv (fun w hw => ?_) (hasc.insert hbelow habove) hperm).symm
  rcases List.mem_cons.1 (List.perm_middle.mem_iff.1 hw) with rfl | hw
  · exact hV
  · exact hmem w hw

/-- A put does to the multimap what it does to the ledger. -/
private theorem put (hK : K k) (hV : V v) :
    Mirrors K V (m.put k v).state (l.put k v).1 ∧ (m.put k v).result = .ok (l.put k v).2 := by
  have hordered := h.toOrdered.put hk.consistentOn hv.consistentOn hK hV
  unfold Ledger.put
  rw [← h.holds_eq hk hK, ← h.hasKey_eq]
  rcases h.put_effect hk hv hK hV with
    ⟨hheld, hstate, hresult⟩ | ⟨hnew, m', hadded, hstate, hresult⟩
  · rw [hstate, hresult, if_pos hheld]
    exact ⟨h, rfl⟩
  rw [hstate] at hordered
  rw [hstate, hresult, if_neg (by simp [hnew])]
  cases hadded with
  | @grown low high hthere hunder hbelow habove =>
    rw [if_pos hthere]
    rw [h.valueComparator] at hbelow habove
    have hchanged := h.revised (g := (· ++ [v])) hordered fun r hr hfor =>
      h.sortValues_grown hk hv hK hV hr hfor hunder hbelow habove
    -- a row that takes a value in is not left empty
    rw [dropEmpty_filled] at hchanged
    · exact ⟨hchanged, rfl⟩
    · refine List.forall_mem_map.2 fun r hr => ?_
      cases isFor keys k r with
      | false => exact h.filled r hr
      | true => simp
  | @made before after habsent hslots _ _ =>
    rw [if_neg (by simp [habsent])]
    refine ⟨⟨hordered, ?_⟩, rfl⟩
    have hrows := h.rows
    rw [hslots] at hrows
    -- the row of a new key has its one value sorted
    have hslot : slotOf values ⟨k, [v]⟩ = ⟨k, ⟨m.valueComparator, [v]⟩⟩ := by
      simp [Ledger.slotOf, Ledger.sortValues, h.valueComparator]
    show (before ++ _ :: after).Perm ((l.rows ++ [Row.mk k [v]]).map (slotOf values))
    rw [List.map_append, List.map_singleton, hslot]
    exact List.perm_middle.trans ((hrows.cons _).trans (List.perm_append_singleton _ _).symm)

/-- So does taking out an entry. -/
private theorem remove (hK : K k) (hV : V v) :
    Mirrors K V (m.remove k v).state (l.remove k v).1
      ∧ (m.remove k v).result = .ok (l.remove k v).2 := by
  have hordered := h.toOrdered.remove k v
  obtain ⟨hstate, hresult⟩ := h.remove_effect hk hv hK hV
  unfold Ledger.remove
  rw [hstate] at hordered
  rw [hstate, hresult, ← h.holds_eq hk hK]
  cases hheld : m.holds k v with
  | false =>
    rw [h.withoutEntry_absent hk hK hheld]
    exact ⟨h, rfl⟩
  | true =>
    refine ⟨h.revised hordered fun r hr _ => ?_, rfl⟩
    -- what is left of sorted values is sorted
    obtain ⟨hmem, hasc⟩ := h.row_ascends hr
    rw [h.valueComparator]
    exact (sortValues_eq hv (fun w hw => hmem w (List.mem_of_mem_filter hw))
      (hasc.sublist List.filter_sublist) ((List.mergeSort_perm _ _).filter _)).symm

omit hv in
/-- So does taking out a key. -/
private theorem removeAll (hK : K k) :
    Mirrors K V (m.removeAll k).state (l.removeAll k).1
      ∧ (m.removeAll k).result = .ok (l.removeAll k).2 := by
  have hordered := h.toOrdered.removeAll k
  obtain ⟨hstate, hresult⟩ := h.removeAll_effect hk hK
  rw [hstate] at hordered
  rw [hstate, hresult, h.under_eq hk hK]
  refine ⟨⟨hordered, ?_⟩, rfl⟩
  unfold Ledger.removeAll
  rw [Multimap.without_slots, h.isFor_eq]
  exact (h.rows.filter _).trans (.of_eq List.filter_map)

omit hk hv in
private theorem clear : Mirrors K V m.clear (Ledger.empty keys values) :=
  ⟨h.toOrdered.clear, .nil⟩

end

-- ================================================== several changes

section

variable (hk : keys.compare.TotalOn K) (hv : values.compare.TotalOn V)

include hk hv

private theorem putEach (hK : K k) : ∀ {vs : List Value}, (∀ v ∈ vs, V v) →
    ∀ {m : Multimap} {l : Ledger keys values}, Mirrors K V m l →
      Mirrors K V (m.putEach k vs).state (l.putEach k vs).1
        ∧ (m.putEach k vs).result = .ok (l.putEach k vs).2 := by
  intro vs
  induction vs with
  | nil => exact fun _ _ _ h => ⟨h, rfl⟩
  | cons v vs ih =>
    intro hvs m l h
    obtain ⟨hput, hresult⟩ := h.put hk hv hK (hvs v List.mem_cons_self)
    obtain ⟨hrest, hmore⟩ := ih (fun w hw => hvs w (List.mem_cons_of_mem v hw)) hput
    unfold Multimap.putEach
    obtain ⟨hstate, hanswer⟩ := Outcome.andThen_ok (f := fun m' isNew =>
      (m'.putEach k vs).mapResult (isNew || ·)) hresult
    rw [hstate, hanswer]
    refine ⟨hrest, ?_⟩
    unfold Outcome.mapResult
    rw [hmore]
    rfl

private theorem putItems : ∀ {items : List Value},
    (∀ item ∈ items, ∀ k v, Multimap.entryOf item = .ok (k, v) → K k ∧ V v) →
    ∀ {m : Multimap} {l : Ledger keys values}, Mirrors K V m l →
      Mirrors K V (m.putItems items).state (l.putItems items).1
        ∧ (m.putItems items).result = (l.putItems items).2 := by
  intro items
  induction items with
  | nil => exact fun _ _ _ h => ⟨h, rfl⟩
  | cons item rest ih =>
    intro hitems m l h
    unfold Multimap.putItems Ledger.putItems
    cases hentry : Multimap.entryOf item with
    | error e => exact ⟨h, rfl⟩
    | ok entry =>
      obtain ⟨k, v⟩ := entry
      obtain ⟨hK, hV⟩ := hitems item List.mem_cons_self k v hentry
      obtain ⟨hput, hresult⟩ := h.put hk hv hK hV
      obtain ⟨hrest, hmore⟩ := ih (fun i hi => hitems i (List.mem_cons_of_mem item hi)) hput
      obtain ⟨hstate, hanswer⟩ := Outcome.andThen_ok (f := fun m' isNew =>
        (m'.putItems rest).mapResult (isNew || ·)) hresult
      dsimp only
      rw [hstate, hanswer]
      refine ⟨hrest, ?_⟩
      unfold Outcome.mapResult
      rw [hmore]

private theorem replaceValues (h : Mirrors K V m l) (hK : K k) {vs : List Value}
    (hvs : ∀ v ∈ vs, V v) :
    Mirrors K V (m.replaceValues k vs).state (l.replaceValues k vs).1
      ∧ (m.replaceValues k vs).result = .ok (l.replaceValues k vs).2 := by
  obtain ⟨hgone, hresult⟩ := h.removeAll hk hK
  obtain ⟨hput, hputs⟩ := putEach hk hv hK hvs hgone
  unfold Multimap.replaceValues
  obtain ⟨hstate, hanswer⟩ := Outcome.andThen_ok (f := fun m' previous =>
    (m'.putEach k vs).mapResult fun _ => previous) hresult
  rw [hstate, hanswer]
  refine ⟨hput, ?_⟩
  unfold Outcome.mapResult
  rw [hputs]
  rfl

end

-- ============================================================ queries

section

variable (h : Mirrors K V m l) (hk : keys.compare.TotalOn K) (hv : values.compare.TotalOn V)

include h

private theorem containsKey (hk : keys.compare.TotalOn K) (hK : K k) :
    m.containsKey k = .ok (l.containsKey k) := by
  rw [h.containsKey_eq hk hK, h.hasKey_eq]

private theorem containsEntry (hk : keys.compare.TotalOn K) (hv : values.compare.TotalOn V)
    (hK : K k)
    (hV : V v) : m.containsEntry k v = .ok (l.containsEntry k v) := by
  rw [h.containsEntry_eq hk hK hv hV, h.holds_eq hk hK]

private theorem containsValue (hv : values.compare.TotalOn V) (hV : V v) :
    m.containsValue v = .ok (l.containsValue v) := by
  rw [h.toOrdered.containsValue hv hV, Multimap.values, List.any_flatMap, h.rows.any_eq,
    List.any_map]
  unfold Ledger.containsValue
  congr 2
  funext r
  exact (List.mergeSort_perm r.values _).any_eq

/-- The counter of the multimap counts the values of the rows. -/
private theorem size : m.total = l.size := by
  have hsizes := h.rows.map fun s => s.value.size
  rw [h.counted, Multimap.countIn, hsizes.sum_nat, List.map_map]
  unfold Ledger.size
  congr 2
  funext r
  exact List.length_mergeSort _

private theorem isEmpty : m.isEmpty = l.rows.isEmpty := by
  unfold Multimap.isEmpty
  rw [h.size]
  unfold Ledger.size
  cases hrows : l.rows with
  | nil => rfl
  | cons r rest =>
    have hr := h.filled r (hrows ▸ List.mem_cons_self)
    cases hvalues : r.values with
    | nil => simp [hvalues] at hr
    | cons w ws => simp [hvalues]

/-- The rows listed are the slots. -/
theorem listed (hk : keys.compare.TotalOn K) :
    l.listed.map (fun r => (r.key, r.values))
      = m.map.slots.map fun s => (s.key, s.value.items) := by
  have hsorted := mergeSort_eq_of_ascends hk h.key_mem h.ascends h.rows
  rw [← List.map_mergeSort (r := fun r s => keys.compare.upTo r.key s.key)
    (fun _ _ _ _ => rfl)] at hsorted
  rw [← hsorted, List.map_map]
  unfold Ledger.listed
  rw [List.map_map]
  rfl

private theorem listedKeys (hk : keys.compare.TotalOn K) : m.keys = l.listedKeys := by
  have hlisted := congrArg (List.map Prod.fst) (h.listed hk)
  rw [List.map_map, List.map_map] at hlisted
  exact hlisted.symm

private theorem listedEntries (hk : keys.compare.TotalOn K) : m.entries = l.listedEntries := by
  have hlisted := congrArg (List.flatMap fun e => e.2.map fun v => (e.1, v)) (h.listed hk)
  rw [List.flatMap_map, List.flatMap_map] at hlisted
  exact hlisted.symm

end

-- ============================================================= replies

/-- One call does the same to both and is replied to alike. -/
theorem answer (h : Mirrors K V m l) (hk : keys.compare.TotalOn K) (hv : values.compare.TotalOn V)
    {call : Call} (hcall : call.Within K V) :
    Mirrors K V (m.answer call).1 (l.answer call).1 ∧ (m.answer call).2 = (l.answer call).2 := by
  cases call with
  | put k v =>
    obtain ⟨hstate, hresult⟩ := h.put hk hv hcall.1 hcall.2
    exact ⟨hstate, congrArg (Reply.of .flag) hresult⟩
  | putAll k vs =>
    obtain ⟨hstate, hresult⟩ := putEach hk hv hcall.1 hcall.2 h
    exact ⟨hstate, congrArg (Reply.of .flag) hresult⟩
  | putAllFrom items =>
    obtain ⟨hstate, hresult⟩ := putItems hk hv hcall h
    exact ⟨hstate, congrArg (Reply.of .flag) hresult⟩
  | remove k v =>
    obtain ⟨hstate, hresult⟩ := h.remove hk hv hcall.1 hcall.2
    exact ⟨hstate, congrArg (Reply.of .flag) hresult⟩
  | removeAll k =>
    obtain ⟨hstate, hresult⟩ := h.removeAll hk hcall
    exact ⟨hstate, congrArg (Reply.of .snapshot) hresult⟩
  | replaceValues k vs =>
    obtain ⟨hstate, hresult⟩ := replaceValues hk hv h hcall.1 hcall.2
    exact ⟨hstate, congrArg (Reply.of .snapshot) hresult⟩
  | clear => exact ⟨h.clear, rfl⟩
  | containsKey k => exact ⟨h, congrArg (Reply.of .flag) (h.containsKey hk hcall)⟩
  | containsEntry k v =>
    exact ⟨h, congrArg (Reply.of .flag) (h.containsEntry hk hv hcall.1 hcall.2)⟩
  | containsValue v => exact ⟨h, congrArg (Reply.of .flag) (h.containsValue hv hcall)⟩
  | size => exact ⟨h, congrArg Reply.number h.size⟩
  | isEmpty => exact ⟨h, congrArg Reply.flag h.isEmpty⟩
  | listKeys => exact ⟨h, congrArg Reply.keys (h.listedKeys hk)⟩
  | listEntries => exact ⟨h, congrArg Reply.entries (h.listedEntries hk)⟩

/-- Along a run all replies agree. -/
theorem replies (hk : keys.compare.TotalOn K) (hv : values.compare.TotalOn V) :
    ∀ {calls : List Call}, (∀ call ∈ calls, call.Within K V) →
      ∀ {m : Multimap} {l : Ledger keys values}, Mirrors K V m l →
        repliesTo Multimap.answer m calls = repliesTo Ledger.answer l calls := by
  intro calls
  induction calls with
  | nil => exact fun _ _ _ _ => rfl
  | cons call calls ih =>
    intro hcalls m l h
    rw [List.forall_mem_cons] at hcalls
    obtain ⟨hnext, hreply⟩ := h.answer hk hv hcalls.1
    unfold repliesTo
    rw [hreply, ih hcalls.2 hnext]

end Mirrors

/-- Under total preorders on the operands in use, every reply of a sorted
multimap that was empty at first is the reply of a naive one. -/
theorem replies_eq_naive {keys values : Comparator} {K V : Value → Prop}
    (hk : keys.compare.TotalOn K) (hv : values.compare.TotalOn V) (calls : List Call)
    (hcalls : ∀ call ∈ calls, call.Within K V) :
    repliesTo Multimap.answer (.empty keys values) calls
      = repliesTo Ledger.answer (Ledger.empty keys values) calls :=
  Mirrors.replies hk hv hcalls ⟨.empty keys values K V, .nil⟩

/-- Texts by their case fold, where a key or a value is found under another
spelling. -/
theorem replies_eq_naive_caseFold :
    let calls : List Call :=
      [.put (.text "pear") (.text "b"), .putAll (.text "PEAR") [.text "B", .text "a"],
        .put (.text "Apple") (.text "x"), .listEntries, .remove (.text "apple") (.text "X"),
        .containsKey (.text "Apple"), .removeAll (.text "Pear"), .size]
    let isText : Value → Prop := fun v => ∃ s, v.text? = some s
    Comparator.caseFold.compare.TotalOn isText ∧ (∀ call ∈ calls, call.Within isText isText)
      ∧ repliesTo Multimap.answer (.empty .caseFold .caseFold) calls
        = repliesTo Ledger.answer (Ledger.empty .caseFold .caseFold) calls := by
  intro calls isText
  have hcalls : ∀ call ∈ calls, call.Within isText isText := by
    simp [calls, isText, Call.Within, Value.text?]
  exact ⟨Comparator.caseFold_totalOn, hcalls,
    replies_eq_naive Comparator.caseFold_totalOn Comparator.caseFold_totalOn calls hcalls⟩

end Collation
