/-
What becomes of the values that a document writes. Decoding puts them one
after the other, slot by slot, and nothing else: the slots may be in any
order, and keys and values may recur. A value that is found to be there
already collapses into the one that is there, and the document says more
values than the multimap holds by just these (`Puts.count`). Each slot is
told about once, with the number of its values that collapsed, if any did
(`replay_counts`).

Whatever the comparators are, a value collapses only if an equivalent one
stands under an equivalent key. The converse takes comparators that are
total preorders on what the document holds, for a search asks about a few
keys only; the natural order is none where a NaN is among the keys
(`likeness_unseen`).
-/
import Collation.Proofs.Multimap.Arrangement
import Collation.Proofs.Multimap.Locality
import Collation.Proofs.Multimap.Replacement
import Collation.Proofs.Wire.Refusal
import Collation.Proofs.Wire.Replay

namespace Collation

namespace Multimap

variable {keys values : Comparator} {K V : Value → Prop} {m m' m'' : Multimap} {k v : Value}
  {pairs rest : List (Value × Value)} {p q : Multimap → Value → Value → Bool}

-- ============================================================== turns

/-- Whether some entry has an equivalent key and an equivalent value. -/
def holdsLike (m : Multimap) (k v : Value) : Bool :=
  m.entries.any fun e => m.keyComparator.compare.same e.1 k && m.valueComparator.compare.same e.2 v

/-- Whether putting the entry finds it to be there already. -/
def collapses (m : Multimap) (k v : Value) : Bool :=
  match (m.put k v).result with
  | .ok isNew => !isNew
  | .error _ => false

/-- The multimap after some entries were put. -/
def afterPuts (m : Multimap) (pairs : List (Value × Value)) : Multimap :=
  pairs.foldl (fun m e => (m.put e.1 e.2).state) m

/-- Those of some entries that have a property when they are about to be
put, each after all those before it. -/
def whenPut (p : Multimap → Value → Value → Bool) (m : Multimap) :
    List (Value × Value) → List (Value × Value)
  | [] => []
  | (k, v) :: rest =>
    if p m k v then (k, v) :: whenPut p (m.put k v).state rest else whenPut p (m.put k v).state rest

private theorem afterPuts_cons (m : Multimap) (k v : Value) (rest : List (Value × Value)) :
    m.afterPuts ((k, v) :: rest) = (m.put k v).state.afterPuts rest := rfl

/-- Entries are judged where those before them have led. -/
private theorem whenPut_append (p : Multimap → Value → Value → Bool)
    (pairs rest : List (Value × Value)) :
    ∀ m : Multimap,
      whenPut p m (pairs ++ rest) = whenPut p m pairs ++ whenPut p (m.afterPuts pairs) rest := by
  induction pairs with
  | nil => exact fun m => rfl
  | cons e pairs ih =>
    obtain ⟨k, v⟩ := e
    intro m
    rw [List.cons_append, whenPut, whenPut, ih, afterPuts_cons]
    split <;> rfl

/-- A property that is a case of another holds of some of the entries of
which that one holds. -/
theorem whenPut_sublist {P : Multimap → Prop} (hput : ∀ m k v, P m → P (m.put k v).state)
    (himp : ∀ m k v, P m → p m k v = true → q m k v = true) (pairs : List (Value × Value)) :
    ∀ m : Multimap, P m → (whenPut p m pairs).Sublist (whenPut q m pairs) := by
  induction pairs with
  | nil => exact fun _ _ => List.Sublist.slnil
  | cons e pairs ih =>
    obtain ⟨k, v⟩ := e
    intro m hm
    have hrest := ih _ (hput m k v hm)
    rw [whenPut, whenPut]
    split
    · next hp =>
      rw [if_pos (himp m k v hm hp)]
      exact hrest.cons_cons (k, v)
    · split
      · exact hrest.cons (k, v)
      · exact hrest

private theorem Puts.append (h : Puts m pairs m') (h' : Puts m' rest m'') :
    Puts m (pairs ++ rest) m'' := by
  induction h with
  | nil => exact h'
  | cons hput _ ih => exact .cons hput (ih h')

private theorem Puts.eq_afterPuts (h : Puts m pairs m') : m' = m.afterPuts pairs := by
  induction h with
  | nil => rfl
  | cons _ _ ih => exact ih

/-- Putting several entries at once is putting them one after the other. -/
theorem Puts.putEntries (h : Puts m pairs m') :
    ∃ isNew, (m.putEntries pairs).Yields m' isNew := by
  induction h with
  | nil m => exact ⟨false, rfl, rfl⟩
  | @cons m m' k v rest isNew hput _ ih =>
    obtain ⟨more, hstate, hresult⟩ := ih
    obtain ⟨hstate', hresult'⟩ := putEntries_cons rest hput
    exact ⟨isNew || more, hstate'.trans hstate, by rw [hresult', hresult]; rfl⟩

/-- The first of some entries collapses if it is not new. -/
theorem length_whenPut_cons {isNew : Bool} (hput : (m.put k v).result = .ok isNew)
    (rest : List (Value × Value)) :
    (whenPut collapses m ((k, v) :: rest)).length + isNew.toNat
      = (whenPut collapses (m.put k v).state rest).length + 1 := by
  have hcollapses : m.collapses k v = !isNew := by
    unfold collapses
    rw [hput]
  rw [whenPut, hcollapses]
  cases isNew with
  | true => rfl
  | false => rfl

/-- What is put is there in the end or collapsed. -/
theorem Puts.count (h : Puts m pairs m') :
    m'.total + (whenPut collapses m pairs).length = m.total + pairs.length := by
  induction h with
  | nil => rfl
  | @cons m m' k v rest isNew hput _ ih =>
    have hfirst := length_whenPut_cons hput rest
    rw [total_put hput] at ih
    rw [List.length_cons]
    omega

-- ========================================================== what is like

/-- What collapses is like an entry that is there. -/
theorem Intact.holdsLike_of_collapses (h : Intact keys values m)
    (hcollapses : m.collapses k v = true) : m.holdsLike k v = true := by
  unfold collapses at hcollapses
  split at hcollapses
  · next isNew hput =>
    have hnot : isNew = false := by simpa using hcollapses
    rw [hnot] at hput
    have htouches := h.put_touches hput
    generalize (m.put k v).state = m' at htouches
    cases htouches with
    | @present s w hs hkey hw hvalue =>
      refine List.any_eq_true.2 ⟨(s.key, w), mem_entries.2 ⟨s, hs, rfl, hw⟩, ?_⟩
      rw [Comparison.same_iff.2 hkey, Comparison.same_iff.2 hvalue]
      rfl
  · cases hcollapses

/-- Under total preorders just what is like an entry that is there collapses. -/
theorem Ordered.collapses_eq (h : Ordered keys values K V m) (hk : keys.compare.TotalOn K)
    (hv : values.compare.TotalOn V) (hK : K k) (hV : V v) :
    m.collapses k v = m.holdsLike k v := by
  have hasked := (h.containsEntry_eq hk hK hv hV).symm.trans (h.containsEntry hk hv hK hV)
  have hlike : m.holds k v = m.holdsLike k v := by
    unfold holdsLike
    rw [h.keyComparator, h.valueComparator]
    exact Except.ok.inj hasked
  rw [← hlike]
  unfold collapses
  rcases h.put_effect hk hv hK hV with ⟨hholds, -, hresult⟩ | ⟨hholds, m', -, -, hresult⟩
  · rw [hresult, hholds]
    rfl
  · rw [hresult, hholds]
    rfl

/-- An entry collapses just if one like it is held when it is put. -/
private theorem Ordered.whenPut_collapses (hk : keys.compare.TotalOn K)
    (hv : values.compare.TotalOn V) :
    ∀ {pairs : List (Value × Value)}, (∀ e ∈ pairs, K e.1 ∧ V e.2) →
      ∀ {m : Multimap}, Ordered keys values K V m →
        whenPut collapses m pairs = whenPut holdsLike m pairs := by
  intro pairs
  induction pairs with
  | nil => exact fun _ _ _ => rfl
  | cons e pairs ih =>
    obtain ⟨k, v⟩ := e
    intro hpairs m h
    obtain ⟨⟨hK, hV⟩, hrest⟩ := List.forall_mem_cons.1 hpairs
    rw [whenPut, whenPut, h.collapses_eq hk hv hK hV,
      ih hrest (h.put hk.consistentOn hv.consistentOn hK hV)]

end Multimap

namespace Wire

open Multimap

variable {keys values : Comparator} {m : Multimap} {k : Value} {s : SlotRecord}
  {slots : List SlotRecord} {d : Document}

-- ============================================================== events

/-- The warnings among some events. -/
def warnings (events : List Event) : List Event := events.filter fun e => e.level = .warning

/-- How many values an event says to have collapsed. -/
def duplicates : Event → Int
  | .collapsed _ n _ => n
  | _ => 0

private theorem warnings_append (events more : List Event) :
    warnings (events ++ more) = warnings events ++ warnings more := List.filter_append ..

/-- A put warns of nothing. -/
private theorem warnings_put (m : Multimap) (k v : Value) : warnings (m.put k v).events = [] := by
  have hstep := put_step m k v
  generalize m.put k v = o at hstep ⊢
  cases hstep with
  | failed => rfl
  | present => rfl
  | grown => rfl
  | made => rfl

-- ============================================================ the slots

/-- The entries that some slots write, in the order in which they do. -/
def writtenEntries (slots : List SlotRecord) : List (Value × Value) :=
  slots.flatMap fun s => entriesUnder s.key s.values

private theorem writtenEntries_cons (s : SlotRecord) (slots : List SlotRecord) :
    writtenEntries (s :: slots) = entriesUnder s.key s.values ++ writtenEntries slots :=
  List.flatMap_cons ..

/-- Each slot with the number of its values that collapse when the slots are
replayed. -/
def tallies (m : Multimap) : List SlotRecord → List (SlotRecord × Nat)
  | [] => []
  | s :: rest =>
    (s, (whenPut collapses m (entriesUnder s.key s.values)).length)
      :: tallies (m.afterPuts (entriesUnder s.key s.values)) rest

/-- The warning about a slot with so many values that collapsed, if there is
need of one. -/
def notice? (tally : SlotRecord × Nat) : Option Event :=
  if tally.2 = 0 then none else some (.collapsed tally.1.key tally.2 tally.1.valueCount)

/-- The slots tally, together, the entries that collapse. -/
private theorem sum_tallies (slots : List SlotRecord) : ∀ m : Multimap,
    ((tallies m slots).map Prod.snd).sum = (whenPut collapses m (writtenEntries slots)).length := by
  induction slots with
  | nil => exact fun _ => rfl
  | cons s slots ih =>
    intro m
    rw [tallies, List.map_cons, List.sum_cons, ih, writtenEntries_cons, whenPut_append,
      List.length_append]

/-- The warnings tell all that collapsed. -/
theorem sum_duplicates (counted : List (SlotRecord × Nat)) :
    ((counted.filterMap notice?).map duplicates).sum = ((counted.map Prod.snd).sum : Nat) := by
  induction counted with
  | nil => rfl
  | cons tally counted ih =>
    obtain ⟨s, n⟩ := tally
    rw [List.filterMap_cons, List.map_cons, List.sum_cons, Nat.cast_add, ← ih]
    by_cases hn : n = 0
    · rw [notice?, if_pos hn, hn]
      simp
    · rw [notice?, if_neg hn]
      rfl

/-- As many values as the slots claim. -/
theorem entryCount_eq (h : ∀ s ∈ d.slots, s.Counted) :
    d.entryCount = (writtenEntries d.slots).length := by
  have hsum : ∀ (slots : List SlotRecord) (n : Int), (∀ s ∈ slots, s.Counted) →
      slots.foldl (fun n slot => n + slot.valueCount) n = n + (writtenEntries slots).length := by
    intro slots
    induction slots with
    | nil => exact fun n _ => (Int.add_zero n).symm
    | cons s slots ih =>
      intro n hslots
      obtain ⟨hs, hslots⟩ := List.forall_mem_cons.1 hslots
      rw [List.foldl_cons, ih _ hslots, writtenEntries_cons, List.length_append, entriesUnder,
        List.length_map, Nat.cast_add, hs.2, Int.add_assoc]
  rw [Document.entryCount, hsum d.slots 0 h, Int.zero_add]

-- ============================================================ the replay

/-- The values of a slot that are put under its key are told apart by whether
they collapse. -/
theorem putCounting_counts (vs : List Value) : ∀ (m : Multimap) {n : Nat},
    (putCounting m k vs).result = .ok n →
      Puts m (entriesUnder k vs) (putCounting m k vs).state
        ∧ n + (whenPut collapses m (entriesUnder k vs)).length = vs.length
        ∧ warnings (putCounting m k vs).events = [] := by
  -- along the values; each is new, or collapses where it is put
  induction vs with
  | nil =>
    rintro m n ⟨⟩
    exact ⟨.nil m, rfl, rfl⟩
  | cons v vs ih =>
    intro m n h
    rw [putCounting] at h ⊢
    obtain ⟨isNew, hput, hrest⟩ := Outcome.andThen_eq_ok h
    obtain ⟨more, hmore, rfl⟩ := map_eq_ok.1 hrest
    obtain ⟨hputs, hcount, hquiet⟩ := ih (m.put k v).state hmore
    have hfirst := length_whenPut_cons hput (entriesUnder k vs)
    rw [Outcome.andThen_of_ok hput]
    refine ⟨.cons hput hputs, ?_, ?_⟩
    · show _ + (whenPut collapses m ((k, v) :: entriesUnder k vs)).length = _
      rw [List.length_cons]
      cases isNew with
      | true =>
        rw [Bool.toNat_true] at hfirst
        rw [if_pos rfl]
        omega
      | false =>
        rw [Bool.toNat_false] at hfirst
        rw [if_neg (by decide)]
        omega
    · rw [warnings_append, warnings_put]
      exact hquiet

/-- A slot is told about if any of its values collapse, and by their number. -/
theorem replaySlot_counts (hs : s.Counted) (h : (replaySlot m s).result = .ok ()) :
    Puts m (entriesUnder s.key s.values) (replaySlot m s).state
      ∧ warnings (replaySlot m s).events
        = (notice? (s, (whenPut collapses m (entriesUnder s.key s.values)).length)).toList := by
  unfold replaySlot at h ⊢
  obtain ⟨added, hmapped, -⟩ := Outcome.andThen_eq_ok h
  obtain ⟨hputs, hcount, hquiet⟩ := putCounting_counts s.values m (mapError_eq_ok.1 hmapped)
  have hclaimed := hs.2
  rw [Outcome.andThen_of_ok hmapped]
  refine ⟨hputs, ?_⟩
  show warnings ((putCounting m s.key s.values).events ++ _) = _
  rw [warnings_append, hquiet, List.nil_append]
  generalize (whenPut collapses m (entriesUnder s.key s.values)).length = lost at hcount ⊢
  by_cases hlost : lost = 0
  · rw [if_neg (by omega), notice?, if_pos hlost]
    rfl
  · have hnumber : s.valueCount - (added : Int) = lost := by omega
    rw [if_pos (by omega), hnumber, notice?, if_neg hlost]
    rfl

/-- Replaying slots puts what they write, and each slot of which values
collapse is told about. -/
theorem replay_counts (slots : List SlotRecord) : ∀ m : Multimap, (∀ s ∈ slots, s.Counted) →
    (replay m slots).result = .ok () →
      Puts m (writtenEntries slots) (replay m slots).state
        ∧ warnings (replay m slots).events = (tallies m slots).filterMap notice? := by
  induction slots with
  | nil => exact fun m _ _ => ⟨.nil m, rfl⟩
  | cons s slots ih =>
    intro m hslots h
    obtain ⟨hs, hslots⟩ := List.forall_mem_cons.1 hslots
    rw [replay] at h ⊢
    obtain ⟨u, hslot, hrest⟩ := Outcome.andThen_eq_ok h
    obtain ⟨hputs, hwarned⟩ := replaySlot_counts hs hslot
    obtain ⟨hmore, hwarned'⟩ := ih (replaySlot m s).state hslots hrest
    rw [Outcome.andThen_of_ok hslot]
    refine ⟨writtenEntries_cons s slots ▸ hputs.append hmore, ?_⟩
    rw [warnings_append, hwarned, hwarned', hputs.eq_afterPuts, tallies, List.filterMap_cons]
    cases notice? _ <;> rfl

/-- Slots that ascend under total preorders are replayed as they are. -/
theorem replayable_of_total {K V : Value → Prop} (hk : keys.compare.TotalOn K)
    (hv : values.compare.TotalOn V) (hslots : ∀ s ∈ slots, K s.key ∧ ∀ v ∈ s.values, V v)
    (hcounted : ∀ s ∈ slots, s.Counted)
    (hkeys : slots.Pairwise fun s t => keys.compare.Gives s.key t.key .lt)
    (hvalues : ∀ s ∈ slots, s.values.Pairwise fun v w => values.compare.Gives v w .lt) :
    Replayable keys values slots where
  slot s hs :=
    { key_itself := hk.refl (hslots s hs).1
      ascends := (hvalues s hs).imp_of_mem fun hv' hw' h =>
        ⟨h, hv.swap ((hslots s hs).2 _ hv') ((hslots s hs).2 _ hw') h⟩
      counted := hcounted s hs
      nullValue := fun hnull => by
        obtain ⟨r, hr, -⟩ := hv.refl ((hslots s hs).2 _ hnull)
        exact ⟨r, hr⟩ }
  ascends := hkeys.imp_of_mem fun hs ht h =>
    ⟨h, hk.swap (hslots _ hs).1 (hslots _ ht).1 h⟩

/-- Such slots are the result, and nothing is told about them. -/
theorem replay_ascending (h : Replayable keys values slots) :
    (replay (empty keys values) slots).state.entries = writtenEntries slots
      ∧ warnings (replay (empty keys values) slots).events = [] := by
  rw [replay_last slots (empty keys values) h fun _ ht => absurd ht List.not_mem_nil]
  have hslots : (withAll (empty keys values) slots).map.slots
      = slots.map (SlotRecord.toSlot values) := List.nil_append _
  refine ⟨?_, List.filter_eq_nil_iff.2 fun e he => ?_⟩
  · show (withAll (empty keys values) slots).entries = _
    rw [entries, hslots, List.flatMap_map]
    rfl
  · obtain ⟨s, -, rfl⟩ := List.mem_map.1 he
    exact Bool.false_ne_true

-- ========================================================== a document

/-- What a document writes is accounted for. Of a document that is accepted,
its slots in any order and keys and values recurring in it, with any registry
by which it is decoded: the multimap is what putting the written entries one
after the other makes; it has no more entries than are claimed, and lacks as
many as there are values that were put and found there already, each of them
like an entry that was there; the warnings are one for each slot with such
values, in order, and their numbers add up to what is lacking. Under total
preorders just the values collapse that are like an entry which is there; and
if then keys and values ascend as they are written, the entries are those
written, as they are, and there is no warning. -/
theorem decoding_accounted (registry : Registry) {x : Value} {d : Document} {m : Multimap}
    (hcheck : Document.check x = .ok d) (hm : (d.toMultimap registry).result = .ok m) :
    ∃ keys values, d.comparators registry = .ok (keys, values)
      ∧ let start := empty keys values
        let written := writtenEntries d.slots
        let warned := warnings (d.toMultimap registry).events
        (∃ isNew, (start.putEntries written).Yields m isNew)
        ∧ (m.total : Int) ≤ d.entryCount
        ∧ d.entryCount - m.total = (whenPut collapses start written).length
        ∧ (whenPut collapses start written).Sublist (whenPut holdsLike start written)
        ∧ d.entryCount - m.total = (warned.map duplicates).sum
        ∧ warned = (tallies start d.slots).filterMap notice?
        ∧ ∀ K V : Value → Prop, keys.compare.TotalOn K → values.compare.TotalOn V →
          (∀ s ∈ d.slots, K s.key ∧ ∀ v ∈ s.values, V v) →
          whenPut collapses start written = whenPut holdsLike start written
          ∧ ((d.slots.Pairwise fun s t => keys.compare.Gives s.key t.key .lt) →
            (∀ s ∈ d.slots, s.values.Pairwise fun v w => values.compare.Gives v w .lt) →
            m.entries = written ∧ warned = []) := by
  have hcounted := Document.counted_of_check hcheck
  obtain ⟨keys, values, hcomparators, hresult, rfl⟩ := Document.toMultimap_eq_ok.1 hm
  have hevents : (d.toMultimap registry).events = (replay (empty keys values) d.slots).events := by
    rw [Document.toMultimap, hcomparators]
    rfl
  obtain ⟨hputs, hwarned⟩ := replay_counts d.slots (empty keys values) hcounted hresult
  have hcount := hputs.count
  have hentries := entryCount_eq hcounted
  -- from an empty multimap, what is missing is what collapsed
  have hlacking : d.entryCount - (replay (empty keys values) d.slots).state.total
      = (whenPut collapses (empty keys values) (writtenEntries d.slots)).length := by
    have hzero : (empty keys values).total = 0 := rfl
    omega
  refine ⟨keys, values, hcomparators, hputs.putEntries, by omega, hlacking, ?_, ?_, ?_, ?_⟩
  · exact whenPut_sublist (P := Intact keys values) (fun m k v h => h.put k v)
      (fun m k v h => h.holdsLike_of_collapses) _ _ (.empty keys values)
  · rw [hevents, hwarned, sum_duplicates, sum_tallies, hlacking]
  · rw [hevents, hwarned]
  · intro K V hk hv hslots
    refine ⟨?_, fun hkeys hvalues => ?_⟩
    · refine Ordered.whenPut_collapses hk hv (fun e he => ?_) (.empty keys values K V)
      obtain ⟨s, hs, he⟩ := List.mem_flatMap.1 he
      obtain ⟨v, hv, rfl⟩ := List.mem_map.1 he
      exact ⟨(hslots s hs).1, (hslots s hs).2 v hv⟩
    · rw [hevents]
      exact replay_ascending (replayable_of_total hk hv hslots hcounted hkeys hvalues)

/-- Slots that are not in order, and keys and values in them that recur in
other cases; and slots that ascend. -/
theorem decoding_accounted_caseFold :
    let d : Document := ⟨currentFormat, "casefold", "casefold", 3,
      [⟨.text "pear", 2, [.text "x", .text "X"]⟩, ⟨.text "fig", 1, [.text "y"]⟩,
        ⟨.text "PEAR", 2, [.text "x", .text "w"]⟩], ""⟩
    let d' : Document := ⟨currentFormat, "casefold", "casefold", 2,
      [⟨.text "Fig", 1, [.text "y"]⟩, ⟨.text "pear", 2, [.text "W", .text "x"]⟩], ""⟩
    (∃ m, (d.toMultimap .withBuiltins).result = .ok m ∧ d.entryCount - m.total = 2
        ∧ (whenPut holdsLike (empty .caseFold .caseFold) (writtenEntries d.slots)).length = 2
        ∧ ((warnings (d.toMultimap .withBuiltins).events).map duplicates).sum = 2)
      ∧ ∃ m', (d'.toMultimap .withBuiltins).result = .ok m'
        ∧ m'.entries = writtenEntries d'.slots
        ∧ warnings (d'.toMultimap .withBuiltins).events = [] := by
  intro d d'
  have hcheck : Document.check d.toValue = .ok d :=
    d.check_toValue.2 ⟨rfl, by simp [d, SlotRecord.Counted], rfl⟩
  have hcheck' : Document.check d'.toValue = .ok d' :=
    d'.check_toValue.2 ⟨rfl, by simp [d', SlotRecord.Counted], rfl⟩
  have htexts : ∀ s ∈ d.slots ++ d'.slots, (∃ t, s.key.text? = some t)
      ∧ ∀ v ∈ s.values, ∃ t, v.text? = some t := by
    simp [d, d', Value.text?]
  rw [List.forall_mem_append] at htexts
  have hresult : (d.toMultimap .withBuiltins).result.toOption.map Multimap.total = some 3 := by
    decide +kernel
  have hresult' : (d'.toMultimap .withBuiltins).result.toOption.map Multimap.total = some 3 := by
    decide +kernel
  obtain ⟨m, hm, htotal⟩ := Option.map_eq_some_iff.1 hresult
  obtain ⟨m', hm', -⟩ := Option.map_eq_some_iff.1 hresult'
  have hlt : ∀ {a b : Value}, Comparator.caseFold.compare.told a b = some (some .lt) →
      Comparator.caseFold.compare.Gives a b .lt := Comparison.told_eq_side.1
  have hlacking : d.entryCount - m.total = 2 := by
    rw [htotal]
    rfl
  refine ⟨⟨m, eq_ok_of_toOption hm, hlacking, ?_, ?_⟩, m', eq_ok_of_toOption hm', ?_⟩
  · obtain ⟨keys, values, hcomparators, -, -, hcollapsed, -, -, -, htotals⟩ :=
      decoding_accounted .withBuiltins hcheck (eq_ok_of_toOption hm)
    obtain ⟨rfl, rfl⟩ : keys = .caseFold ∧ values = .caseFold := by
      cases hcomparators
      exact ⟨rfl, rfl⟩
    rw [← (htotals _ _ Comparator.caseFold_totalOn Comparator.caseFold_totalOn htexts.1).1]
    exact Int.natCast_inj.1 (hcollapsed.symm.trans hlacking)
  · obtain ⟨_, _, -, -, -, -, -, htold, -⟩ :=
      decoding_accounted .withBuiltins hcheck (eq_ok_of_toOption hm)
    exact htold.symm.trans hlacking
  · obtain ⟨keys, values, hcomparators, -, -, -, -, -, -, htotals⟩ :=
      decoding_accounted .withBuiltins hcheck' (eq_ok_of_toOption hm')
    obtain ⟨rfl, rfl⟩ : keys = .caseFold ∧ values = .caseFold := by
      cases hcomparators
      exact ⟨rfl, rfl⟩
    refine (htotals _ _ Comparator.caseFold_totalOn Comparator.caseFold_totalOn htexts.2).2 ?_ ?_
    · simp only [d', List.pairwise_cons, List.forall_mem_singleton]
      exact ⟨hlt (by decide +kernel), fun _ h => absurd h List.not_mem_nil, .nil⟩
    · simp only [d', List.forall_mem_cons]
      refine ⟨List.pairwise_singleton .., ?_, fun _ h => absurd h List.not_mem_nil⟩
      exact List.pairwise_pair.2 (hlt (by decide +kernel))

/-- A value that is like an entry which is there and does not collapse: a NaN
is equivalent to every key, and the search for it ends at the first one, where
the value is new; the value is there under another key. -/
theorem likeness_unseen :
    let d : Document := ⟨currentFormat, "natural", "natural", 3,
      [⟨.int 1, 1, [.text "a"]⟩, ⟨.int 2, 1, [.text "b"]⟩, ⟨.float (.nan 0), 1, [.text "b"]⟩], ""⟩
    Document.check d.toValue = .ok d
      ∧ d.comparators .withBuiltins = .ok (.natural, .natural)
      ∧ ∃ m, (d.toMultimap .withBuiltins).result = .ok m
        ∧ d.entryCount - m.total = 0
        ∧ (whenPut holdsLike (empty .natural .natural) (writtenEntries d.slots)).length = 1 := by
  intro d
  have hcheck : Document.check d.toValue = .ok d :=
    d.check_toValue.2 ⟨rfl, by simp [d, SlotRecord.Counted], rfl⟩
  have hresult : (d.toMultimap .withBuiltins).result.toOption.map Multimap.total = some 3 := by
    decide +kernel
  obtain ⟨m, hm, htotal⟩ := Option.map_eq_some_iff.1 hresult
  refine ⟨hcheck, rfl, m, eq_ok_of_toOption hm, ?_, by decide +kernel⟩
  rw [htotal]
  rfl

end Wire

end Collation
