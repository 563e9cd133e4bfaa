/-
What an encoded multimap is known to be. Encoding looks every key up again,
and the only slot where an ordered multimap can find it is the key's own
(`Ordered.gives_itself`). So a multimap that was encoded has answered that
each of its keys is equivalent to itself, which nothing else ensures, and
its slots were taken down as they are: it is `Encodable`. The converse
holds too (`Encodable.taken_down`).

Comparators that respect what JSON does not tell apart make the normal
form of such a multimap another one (`Encodable.normal`), although they
may never have been asked about the keys and values in it.
-/
import Collation.Proofs.Wire.Encoding
import Collation.Proofs.Wire.Replay

namespace Collation

/-- The comparator answers alike about values that JSON does not tell apart. -/
def Comparison.Respects (c : Comparison) : Prop :=
  ∀ a a' b b' s, a.Plain → a'.Plain → b.Plain → b'.Plain → a.Same a' → b.Same b' →
    c.Gives a b s → c.Gives a' b' s

/-- Of two values that a consistent comparator finds ascending the second is
above the first. -/
theorem Comparison.ConsistentOn.below {c : Comparison} {D : Value → Prop} {a b : Value}
    (hc : c.ConsistentOn D) (ha : D a) (hb : D b) (h : c.Gives a b .lt) : c.Below a b :=
  ⟨h, hc.swap ha hb h⟩

/-- The comparator answers about the normal forms as about the values. -/
theorem Comparison.Respects.gives_normal {c : Comparison} {a b : Value} {s : Ordering}
    (hc : c.Respects) (ha : a.Plain) (hb : b.Plain) (h : c.Gives a b s) :
    c.Gives a.normal b.normal s :=
  hc a _ b _ s ha ha.normal hb hb.normal ha.normal_normal.symm hb.normal_normal.symm h

/-- The normal form of a text is the text. -/
theorem Comparator.caseFold_respects : caseFold.compare.Respects :=
  fun _ _ _ _ _ _ _ _ _ haa hbb h => caseFold_congr haa.text?_eq hbb.text?_eq h

namespace Multimap

open Wire

variable {keys values : Comparator} {K V : Value → Prop} {m : Multimap} {t : Slot OrderedSet}
  {k : Value} {before after : List (Slot OrderedSet)}

-- ======================================================== stored keys

namespace KeysOrdered

/-- The keys around a slot's key. -/
theorem below_parted (h : KeysOrdered keys K m) (hk : keys.compare.ConsistentOn K)
    (hslots : m.map.slots = before ++ t :: after) :
    (∀ s ∈ before, keys.compare.Below s.key t.key)
      ∧ ∀ s ∈ after, keys.compare.Below t.key s.key := by
  have hasc := h.ascends
  have hmem := h.key_mem
  rw [hslots] at hasc hmem
  simp only [List.forall_mem_append, List.forall_mem_cons] at hmem
  obtain ⟨hbefore, ht, hafter⟩ := hmem
  obtain ⟨-, hfrom, hcross⟩ := List.pairwise_append.1 hasc
  exact ⟨fun s hs => hk.below (hbefore s hs) ht (hcross s hs t List.mem_cons_self),
    fun s hs => hk.below ht (hafter s hs) ((List.pairwise_cons.1 hfrom).1 s hs)⟩

/-- A stored key that is found at all is equivalent to itself: the slots
before it and after it hold others. -/
theorem gives_itself (h : KeysOrdered keys K m) (hk : keys.compare.ConsistentOn K)
    (ht : t ∈ m.map.slots) {i : Nat} (hfind : m.map.find t.key = .ok (some i)) :
    keys.compare.Gives t.key t.key .eq := by
  obtain ⟨before, after, hslots⟩ := List.append_of_mem ht
  obtain ⟨hbefore, hafter⟩ := h.below_parted hk hslots
  obtain ⟨y, hy, hzero⟩ := Bisect.find_some hfind
  change m.keyComparator.compare.Gives y.key t.key .eq at hzero
  rw [h.keyComparator] at hzero
  have hmem := List.mem_of_getElem? hy
  rw [hslots, List.mem_append, List.mem_cons] at hmem
  rcases hmem with hy | rfl | hy
  · cases hzero.unique (hbefore y hy).1
  · exact hzero
  · cases hzero.unique (hafter y hy).2

/-- A stored key that is equivalent to itself is found in its own slot. -/
theorem find_slot (h : KeysOrdered keys K m) (hk : keys.compare.ConsistentOn K)
    (hslots : m.map.slots = before ++ t :: after) (hself : keys.compare.Gives t.key t.key .eq) :
    m.map.find t.key = .ok (some before.length) := by
  obtain ⟨hbefore, hafter⟩ := h.below_parted hk hslots
  have hc : m.map.comparator = keys := h.keyComparator
  rw [OrderedMap.find, hslots, hc]
  exact Bisect.find_of_parted (fun s hs => (hbefore s hs).1) hself fun s hs => (hafter s hs).2

/-- A stored key that cannot be compared with itself cannot be looked up. -/
theorem find_refused (h : KeysOrdered keys K m) (hk : keys.compare.ConsistentOn K)
    (ht : t ∈ m.map.slots) {e : Fault} (hself : keys.compare t.key t.key = .error e) :
    m.map.find t.key = .error e := by
  obtain ⟨before, after, hslots⟩ := List.append_of_mem ht
  obtain ⟨hbefore, hafter⟩ := h.below_parted hk hslots
  have hc : m.map.comparator = keys := h.keyComparator
  rw [OrderedMap.find, hslots, hc]
  exact Bisect.find_of_refused (fun s hs => (hbefore s hs).1) hself fun s hs => (hafter s hs).2

end KeysOrdered

/-- A view that is given is one for a key that was found. -/
private theorem find_of_get {view : SlotView} (h : m.asMap.get k = .ok view) :
    ∃ i, m.map.find k = .ok (some i) := by
  have hcontains : m.asMap.contains k = (m.map.find k).map Option.isSome := rfl
  rw [MapView.get, hcontains] at h
  cases hfind : m.map.find k with
  | error e =>
    rw [hfind] at h
    cases h
  | ok found =>
    rw [hfind] at h
    cases found with
    | none => cases h
    | some i => exact ⟨i, rfl⟩

/-- What a view reads is stored. -/
theorem mem_of_get {view : SlotView} {vs : List Value} (h : m.asMap.get k = .ok view)
    (hitems : view.items = .ok vs) : ∀ v ∈ vs, ∃ t ∈ m.map.slots, v ∈ t.value.items := by
  have hmultimap : view.multimap = m := by
    unfold MapView.get at h
    obtain ⟨found, -, h⟩ := bind_eq_ok.1 h
    split at h
    · cases h
    · obtain ⟨k', -, h⟩ := bind_eq_ok.1 h
      cases h
      rfl
  obtain ⟨values, hvalues, rfl⟩ := map_eq_ok.1 hitems
  unfold SlotView.values? valuesAt? OrderedMap.get? at hvalues
  rw [hmultimap] at hvalues
  obtain ⟨place, hplace, rfl⟩ := map_eq_ok.1 hvalues
  intro v hv
  cases place with
  | none => exact absurd hv List.not_mem_nil
  | some p =>
    obtain ⟨before, t, after, hslots, -, hvalue, -⟩ := OrderedMap.locate?_eq_some hplace
    refine ⟨t, mem_of_parted hslots, ?_⟩
    rw [hvalue]
    exact hv

/-- A key that is found in a slot is found with the key and the values there. -/
theorem get_of_find (hslots : m.map.slots = before ++ t :: after)
    (hfind : m.map.find k = .ok (some before.length)) :
    m.asMap.get k = .ok ⟨m, t.key⟩ ∧ (SlotView.mk m k).items = .ok t.value.items := by
  have hat : m.map.slots[before.length]? = some t := by
    rw [hslots]
    simp
  have hcontains : m.asMap.contains k = .ok true := by
    show (m.map.find k).map Option.isSome = .ok true
    rw [hfind]
    rfl
  have hstored : m.asMap.multimap.map.storedKey k = .ok t.key := by
    show m.map.storedKey k = .ok t.key
    rw [OrderedMap.storedKey, OrderedMap.slot, hfind]
    dsimp only [Option.bind]
    rw [hat]
    rfl
  have hlocate : m.map.locate? k = .ok (some (before.length, t.value)) := by
    rw [OrderedMap.locate?, hfind]
    dsimp only [Option.bind]
    rw [hat]
    rfl
  constructor
  · rw [MapView.get, hcontains, hstored]
    rfl
  · unfold SlotView.items SlotView.values? valuesAt? OrderedMap.get?
    rw [hlocate]
    rfl

/-- Looking up a stored key that is equivalent to itself gives its own slot. -/
theorem KeysOrdered.get_slot (h : KeysOrdered keys K m) (hk : keys.compare.ConsistentOn K)
    (ht : t ∈ m.map.slots) (hself : keys.compare.Gives t.key t.key .eq) :
    m.asMap.get t.key = .ok ⟨m, t.key⟩ ∧ (SlotView.mk m t.key).items = .ok t.value.items := by
  obtain ⟨before, after, hslots⟩ := List.append_of_mem ht
  exact get_of_find hslots (h.find_slot hk hslots hself)

-- ======================================================= what is taken down

/-- No dictionary that is stored has a name twice. -/
def Proper (m : Multimap) : Prop := Within (·.isProper = true) (·.isProper = true) m

instance (m : Multimap) : Decidable m.Proper :=
  inferInstanceAs (Decidable (∀ t ∈ m.map.slots, _ ∧ ∀ w ∈ t.value.items, _))

/-- Nothing that is stored passes for plain without being it. -/
def Sifted (m : Multimap) : Prop := Within Value.PlainIfEncodable Value.PlainIfEncodable m

/-- No value of a proper multimap has a name twice. -/
theorem Proper.sifted (h : m.Proper) : m.Sifted := fun t ht =>
  ⟨fun _ hcheck => Value.plain_of_checkEncodable hcheck (h t ht).1,
    fun v hv _ hcheck => Value.plain_of_checkEncodable hcheck ((h t ht).2 v hv)⟩

/-- What encoding takes down of a slot. -/
def recordOf (t : Slot OrderedSet) : SlotRecord := ⟨t.key, t.value.items.length, t.value.items⟩

/-- What encoding takes down of a multimap. -/
def records (m : Multimap) : List SlotRecord := m.map.slots.map recordOf

/-- The record of a slot counts its values. -/
theorem Intact.counted_recordOf (h : Intact keys values m) (ht : t ∈ m.map.slots) :
    (recordOf t).Counted := by
  have hpos := List.length_pos_iff.2 (h.slots t ht).filled
  exact ⟨Int.ofNat_le.2 hpos, rfl⟩

/-- A document of all slots counts as many entries as there are. -/
theorem Intact.entryCount_eq (h : Intact keys values m) {d : Document}
    (hslots : d.slots = m.records) : d.entryCount = m.total := by
  have hsum : ∀ (slots : List (Slot OrderedSet)) (n : Int),
      (slots.map recordOf).foldl (fun n r => n + r.valueCount) n = n + (countIn slots : Nat) := by
    intro slots
    induction slots with
    | nil => exact fun n => (Int.add_zero n).symm
    | cons t rest ih =>
      intro n
      rw [List.map_cons, List.foldl_cons, ih, countIn_cons, Nat.cast_add, ← Int.add_assoc]
      rfl
  rw [Document.entryCount, hslots, records, hsum, h.counted, Int.zero_add]

/-- An ordered multimap each key of which is equivalent to itself, with
nothing in it that JSON has no form for. -/
structure Encodable (keys values : Comparator) (K V : Value → Prop) (m : Multimap) : Prop
    extends Ordered keys values K V m where
  itself : ∀ t ∈ m.map.slots, keys.compare.Gives t.key t.key .eq
  showable : ∀ t ∈ m.map.slots, t.key.isShowable = true
  plain : Within Value.Plain Value.Plain m

/-- A slot is taken down as it is, and only if its key is equivalent to
itself. -/
theorem KeysOrdered.ofKey_slot (h : KeysOrdered keys K m) (hk : keys.compare.ConsistentOn K)
    (ht : t ∈ m.map.slots) {s : SlotRecord} (hs : SlotRecord.ofKey m.asMap t.key = .ok s) :
    s = recordOf t ∧ keys.compare.Gives t.key t.key .eq := by
  obtain ⟨hkey, ⟨-, hlength⟩, -, -, -, view, hget, hitems⟩ := SlotRecord.ofKey_eq_ok.1 hs
  obtain ⟨i, hfind⟩ := find_of_get hget
  have hself := h.gives_itself hk ht hfind
  obtain ⟨hget', hitems'⟩ := h.get_slot hk ht hself
  rw [hget] at hget'
  cases hget'
  rw [hitems] at hitems'
  obtain ⟨key, count, vs⟩ := s
  cases hitems'
  dsimp only at hkey hlength
  subst hkey hlength
  exact ⟨rfl, hself⟩

section TakenDown

variable {slots : List SlotRecord} (hslots : m.keys.mapM (SlotRecord.ofKey m.asMap) = .ok slots)

include hslots

/-- Where all slots were taken down each one was. -/
theorem exists_ofKey (ht : t ∈ m.map.slots) : ∃ s, SlotRecord.ofKey m.asMap t.key = .ok s := by
  obtain ⟨s, -, hs⟩ := exists_of_mem_right (mapM_eq_ok.1 hslots).flip t.key (List.mem_map_of_mem ht)
  exact ⟨s, hs⟩

/-- Keys are taken down only if they are plain and can be shown. -/
theorem key_of_takenDown (hsifted : m.Sifted) (ht : t ∈ m.map.slots) :
    t.key.Plain ∧ t.key.isShowable = true := by
  obtain ⟨s, hs⟩ := exists_ofKey hslots ht
  obtain ⟨-, -, hshown, hkey, -⟩ := SlotRecord.ofKey_eq_ok.1 hs
  exact ⟨(hsifted t ht).1 _ hkey, hshown⟩

/-- What was taken down of ordered keys is every slot as it is, and each key
is equivalent to itself. -/
theorem KeysOrdered.records_of_takenDown (h : KeysOrdered keys K m)
    (hk : keys.compare.ConsistentOn K) :
    slots = m.records ∧ ∀ t ∈ m.map.slots, keys.compare.Gives t.key t.key .eq := by
  have hall : List.Forall₂ (fun (t : Slot OrderedSet) s => SlotRecord.ofKey m.asMap t.key = .ok s)
      m.map.slots slots := List.forall₂_map_left_iff.1 (mapM_eq_ok.1 hslots)
  have heq : List.Forall₂ (fun t s => recordOf t = s) m.map.slots slots :=
    forall₂_imp_of_mem hall fun t ht s hs => (h.ofKey_slot hk ht hs).1.symm
  rw [← List.forall₂_map_left_iff (R := fun r s => r = s), List.forall₂_eq_eq_eq] at heq
  refine ⟨heq.symm, fun t ht => ?_⟩
  obtain ⟨s, hs⟩ := exists_ofKey hslots ht
  exact (h.ofKey_slot hk ht hs).2

/-- Only plain keys and values are taken down. -/
theorem KeysOrdered.plain_of_takenDown (h : KeysOrdered keys K m)
    (hk : keys.compare.ConsistentOn K) (hsifted : m.Sifted) :
    Within Value.Plain Value.Plain m := by
  refine fun t ht => ⟨(key_of_takenDown hslots hsifted ht).1, fun v hv => ?_⟩
  obtain ⟨s, hs⟩ := exists_ofKey hslots ht
  obtain ⟨rfl, -⟩ := h.ofKey_slot hk ht hs
  obtain ⟨-, -, -, -, hvalues, -⟩ := SlotRecord.ofKey_eq_ok.1 hs
  exact (hsifted t ht).2 v hv _ (Value.checkItems_eq_ok.1 hvalues v hv)

/-- What was taken down says what the multimap is. -/
theorem Ordered.encodable (h : Ordered keys values K V m) (hk : keys.compare.ConsistentOn K)
    (hsifted : m.Sifted) :
    slots = m.records ∧ Encodable keys values K V m := by
  obtain ⟨hrecords, hself⟩ := h.keysOrdered.records_of_takenDown hslots hk
  refine ⟨hrecords, h, hself, fun t ht => ?_, h.keysOrdered.plain_of_takenDown hslots hk hsifted⟩
  exact (key_of_takenDown hslots hsifted ht).2

end TakenDown

namespace Encodable

/-- Every slot of an encodable multimap is taken down. -/
theorem taken_down (h : Encodable keys values K V m) (hk : keys.compare.ConsistentOn K) :
    m.keys.mapM (SlotRecord.ofKey m.asMap) = .ok m.records := by
  refine mapM_eq_ok.2 (List.forall₂_map_left_iff.2 (List.forall₂_map_right_iff.2 ?_))
  refine List.forall₂_same.2 fun t ht => SlotRecord.ofKey_eq_ok.2 ?_
  obtain ⟨hget, hitems⟩ := h.keysOrdered.get_slot hk ht (h.itself t ht)
  obtain ⟨hkey, hvalues⟩ := h.plain t ht
  exact ⟨rfl, h.counted_recordOf ht, h.showable t ht, hkey.checkEncodable _,
    Value.checkItems_eq_ok.2 fun v hv => (hvalues v hv).checkEncodable _, ⟨m, t.key⟩, hget, hitems⟩

-- ============================================================== replay

/-- What was taken down can be replayed. -/
theorem replayable (h : Encodable keys values K V m) (hk : keys.compare.ConsistentOn K)
    (hv : values.compare.ConsistentOn V) : Replayable keys values m.records where
  slot := by
    refine List.forall_mem_map.2 fun t ht => ?_
    have hvalues := (h.ordered t ht).value_mem
    exact {
      key_itself := h.itself t ht
      ascends := (h.ordered t ht).ascends.imp_of_mem
        fun ha hb => hv.below (hvalues _ ha) (hvalues _ hb)
      counted := h.counted_recordOf ht
      nullValue := (h.slots t ht).nullValue }
  ascends := List.pairwise_map.2 <|
    h.ascends.imp_of_mem fun hs ht => hk.below (h.key_mem _ hs) (h.key_mem _ ht)

/-- What was taken down describes the multimap. -/
theorem withAll_records (h : Encodable keys values K V m) :
    withAll (empty keys values) m.records = m := by
  have hslots : m.records.map (SlotRecord.toSlot values) = m.map.slots := by
    rw [records, List.map_map]
    refine (List.map_congr_left fun t ht => ?_).trans m.map.slots.map_id
    rw [← (h.slots t ht).comparator]
    rfl
  have htotal : 0 + (m.records.map fun s => s.values.length).sum = m.total := by
    rw [records, List.map_map, h.counted, Nat.zero_add]
    rfl
  obtain ⟨⟨c, slots⟩, d, total⟩ := m
  obtain rfl : c = keys := h.keyComparator
  obtain rfl : d = values := h.valueComparator
  unfold withAll
  simp only [holding, empty, OrderedMap.empty, List.nil_append, hslots, htotal]

/-- Replaying what was taken down gives the multimap back. -/
theorem replay_records (h : Encodable keys values K V m) (hk : keys.compare.ConsistentOn K)
    (hv : values.compare.ConsistentOn V) :
    replay (empty keys values) m.records
      = .done m () (m.records.map fun s => .slotCreated s.key) := by
  have hreplay := replay_last m.records (empty keys values) (h.replayable hk hv)
    fun _ ht => absurd ht List.not_mem_nil
  rw [hreplay, h.withAll_records]

end Encodable

-- ======================================================== normal forms

/-- The multimap with its keys and values in normal form. -/
def normal (m : Multimap) : Multimap :=
  m.holding (m.map.slots.map fun t =>
    ⟨t.key.normal, { t.value with items := t.value.items.map Value.normal }⟩) m.total

/-- The records of a normal form are the normal forms of the records. -/
theorem records_normal (m : Multimap) : m.normal.records = m.records.map SlotRecord.normal := by
  simp [records, normal, recordOf, SlotRecord.normal, Function.comp_def]

private theorem entries_normal (m : Multimap) :
    m.normal.entries = m.entries.map fun e => (e.1.normal, e.2.normal) := by
  simp [entries, normal, List.flatMap_map, List.map_flatMap, Function.comp_def]

/-- Plain entries are the same to JSON as those of the normal form. -/
theorem entries_same (h : Within Value.Plain Value.Plain m) :
    List.Forall₂ (fun e e' => e.1.Same e'.1 ∧ e.2.Same e'.2) m.entries m.normal.entries := by
  rw [entries_normal]
  refine List.forall₂_map_right_iff.2 (List.forall₂_same.2 fun e he => ?_)
  obtain ⟨t, ht, he⟩ := List.mem_flatMap.1 he
  obtain ⟨v, hv, rfl⟩ := List.mem_map.1 he
  exact ⟨(h t ht).1.normal_normal.symm, ((h t ht).2 v hv).normal_normal.symm⟩

/-- The normal form of what can be encoded can be. -/
theorem Encodable.normal (h : Encodable keys values K V m) (hk : keys.compare.Respects)
    (hv : values.compare.Respects) (hK : ∀ k, K k → K k.normal) (hV : ∀ v, V v → V v.normal) :
    Encodable keys values K V m.normal where
  keyComparator := h.keyComparator
  valueComparator := h.valueComparator
  slots := by
    refine List.forall_mem_map.2 fun t ht => ?_
    obtain ⟨hcomparator, hfilled, hnullKey, hnullValue⟩ := h.slots t ht
    exact {
      comparator := hcomparator
      filled := fun hnil => hfilled (List.map_eq_nil_iff.1 hnil)
      nullKey := fun hnull => hnullKey (Value.null_of_normal hnull)
      nullValue := fun hnull => by
        obtain ⟨v, hmem, hnull⟩ := List.mem_map.1 hnull
        exact hnullValue (Value.null_of_normal hnull ▸ hmem) }
  counted := by
    rw [Multimap.normal, holding_total, h.counted]
    simp [countIn, OrderedSet.size, Function.comp_def]
  ordered := by
    refine List.forall_mem_map.2 fun t ht => ?_
    have hs := h.ordered t ht
    have hplain := (h.plain t ht).2
    refine ⟨hK _ hs.key_mem, List.forall_mem_map.2 fun v hv => hV v (hs.value_mem v hv), ?_⟩
    refine List.pairwise_map.2 (hs.ascends.imp_of_mem fun hv' hw hlt => ?_)
    exact hv.gives_normal (hplain _ hv') (hplain _ hw) hlt
  ascends := by
    refine List.pairwise_map.2 (h.ascends.imp_of_mem fun hs ht hlt => ?_)
    exact hk.gives_normal (h.plain _ hs).1 (h.plain _ ht).1 hlt
  itself := List.forall_mem_map.2 fun t ht =>
    hk.gives_normal (h.plain t ht).1 (h.plain t ht).1 (h.itself t ht)
  showable := List.forall_mem_map.2 fun t ht =>
    (h.plain t ht).1.isShowable_normal.trans (h.showable t ht)
  plain := List.forall_mem_map.2 fun t ht =>
    ⟨(h.plain t ht).1.normal, List.forall_mem_map.2 fun v hv' => ((h.plain t ht).2 v hv').normal⟩

end Multimap

end Collation
