/-
Documents that differ in the order of entries only, replayed by comparators
that do not see it. The two replays go side by side: every search is told
the same, so every put finds or makes the same place, and one multimap is
the normal form of the other at every step (`put_normal`,
`Twin.replay`). If one of them is refused something, so is the other;
what the errors are need not be the same, for they show the values.

Two runs side by side are one relation between outcomes (`Outcome.Beside`),
which goes through what is done in sequence (`Outcome.Beside.andThen`).
-/
import Collation.Proofs.Comparator.Blind
import Collation.Proofs.Wire.Encodable

namespace Collation

/-- Blind comparators answer alike about values that JSON does not tell
apart. -/
theorem Comparison.Blind.respects {c : Comparison} (h : c.Blind) : c.Respects := by
  intro a a' b b' s ha ha' hb hb' haa hbb hgives
  have hnormal : c.told a.normal b.normal = some (some s) := by
    rw [h a b ha hb]
    exact told_eq_side.2 hgives
  rw [haa, hbb, h a' b' ha' hb'] at hnormal
  exact told_eq_side.1 hnormal

-- ======================================================== runs side by side

namespace Outcome

variable {σ τ α β γ : Type} {R : σ → τ → Prop} {o : Outcome σ α} {o' : Outcome τ α}

/-- Two outcomes that left related states and came to the same, except for
the error of a failure. -/
structure Beside (R : σ → τ → Prop) (o : Outcome σ α) (o' : Outcome τ α) : Prop where
  state : R o.state o'.state
  result : o'.result.toOption = o.result.toOption

private theorem Beside.failed {s : σ} {t : τ} {e f : Fault} (h : R s t) :
    Beside R (failed s e : Outcome σ α) (failed t f) := ⟨h, rfl⟩

private theorem Beside.done {s : σ} {t : τ} (a : α) {events events' : List Event} (h : R s t) :
    Beside R (done s a events) (done t a events') := ⟨h, rfl⟩

/-- What follows on both sides is side by side again. -/
theorem Beside.andThen {f : σ → α → Outcome σ β} {g : τ → α → Outcome τ β}
    (h : Beside R o o') (hnext : ∀ s t a, R s t → Beside R (f s a) (g t a)) :
    Beside R (o.andThen f) (o'.andThen g) := by
  unfold Outcome.andThen
  rcases cases_of_toOption_eq h.result with ⟨e, e', he, he'⟩ | ⟨a, ha, ha'⟩
  · rw [he, he']
    exact ⟨h.state, rfl⟩
  · rw [ha, ha']
    have hstep := hnext _ _ a h.state
    exact ⟨hstep.state, hstep.result⟩

/-- Results may be changed on both sides. -/
private theorem Beside.mapResult (h : Beside R o o') (f : α → β) :
    Beside R (o.mapResult f) (o'.mapResult f) := by
  refine ⟨h.state, ?_⟩
  unfold Outcome.mapResult
  rcases cases_of_toOption_eq h.result with ⟨e, e', he, he'⟩ | ⟨a, ha, ha'⟩
  · rw [he, he']
    rfl
  · rw [ha, ha']

/-- So may failures, each in its own way. -/
private theorem Beside.mapFault (h : Beside R o o') (f g : Fault → Fault) :
    Beside R (o.mapFault f) (o'.mapFault g) := by
  refine ⟨h.state, ?_⟩
  unfold Outcome.mapFault
  rcases cases_of_toOption_eq h.result with ⟨e, e', he, he'⟩ | ⟨a, ha, ha'⟩
  · rw [he, he']
    rfl
  · rw [ha, ha']
    rfl

end Outcome

-- ============================================================== searches

namespace Bisect

variable {α β : Type} {c : Comparison} {key : α → Value} {key' : β → Value} {f : α → β}
  {xs : List α} {x : Value} {a : α}

/-- Normal forms are found where the values are. -/
private theorem find_normal (hc : c.Blind) (hxs : ∀ y ∈ xs, (key y).Plain) (hx : x.Plain)
    (hf : ∀ y, key' (f y) = (key y).normal) :
    (find c key' (xs.map f) x.normal).toOption = (find c key xs x).toOption := by
  have hkeys : (xs.map f).map key' = xs.map fun y => (key y).normal := by
    rw [List.map_map]
    exact List.map_congr_left fun y _ => hf y
  rw [find_congr hkeys]
  exact find_told fun y hy => hc _ _ (hxs y hy) hx

/-- They are inserted where the values are. -/
private theorem insert_normal (hc : c.Blind) (hxs : ∀ y ∈ xs, (key y).Plain) (ha : (key a).Plain)
    (hf : ∀ y, key' (f y) = (key y).normal) :
    (insert c key' (xs.map f) (f a)).toOption = (insert c key xs a).toOption.map (List.map f) := by
  have hbound : (upperBound c key' (xs.map f) (key' (f a))).toOption
      = (upperBound c key xs (key a)).toOption := by
    unfold upperBound
    rw [search_map]
    simp only [Function.comp_def, hf]
    show (upperBound c (fun y => (key y).normal) xs (key a).normal).toOption = _
    exact upperBound_told fun y hy => hc _ _ ha (hxs y hy)
  unfold insert
  rcases cases_of_toOption_eq hbound with ⟨e, e', he, he'⟩ | ⟨i, hi, hi'⟩
  · rw [he, he']
    rfl
  · rw [hi, hi']
    exact congrArg some (List.map_insertIdx f xs i a).symm

end Bisect

-- ============================================================ normal forms

/-- The set with its elements in normal form. -/
def OrderedSet.normal (s : OrderedSet) : OrderedSet := { s with items := s.items.map Value.normal }

/-- An addition to the normal form is the normal form of the addition. -/
theorem OrderedSet.add_normal {s : OrderedSet} {v : Value} (hc : s.comparator.compare.Blind)
    (hs : ∀ w ∈ s.items, w.Plain) (hv : v.Plain) :
    (s.normal.add v.normal).toOption
      = (s.add v).toOption.map fun r => (r.1.normal, r.2) := by
  have hitems : ∀ w ∈ s.items, (id w).Plain := hs
  have hfind : (s.normal.find v.normal).toOption = (s.find v).toOption :=
    Bisect.find_normal hc hitems hv fun _ => rfl
  have hinsert : (Bisect.insert s.comparator.compare id s.normal.items v.normal).toOption
      = (Bisect.insert s.comparator.compare id s.items v).toOption.map (List.map Value.normal) :=
    Bisect.insert_normal hc hitems hv fun _ => rfl
  unfold OrderedSet.add
  rcases cases_of_toOption_eq hfind with ⟨e, e', he, he'⟩ | ⟨found, hfound, hfound'⟩
  · rw [he, he']
    rfl
  · rw [hfound, hfound']
    cases found with
    | some i => rfl
    | none =>
      dsimp only
      rcases cases_of_toOption_eq_map hinsert with ⟨e, f, he, hf⟩ | ⟨xs, hnormal, hxs⟩
      · rw [hf]
        change (Except.map _ (Bisect.insert s.comparator.compare id _ _)).toOption = _
        rw [he]
        rfl
      · rw [hxs]
        change (Except.map _ (Bisect.insert s.comparator.compare id _ _)).toOption = _
        rw [hnormal]
        rfl

/-- The slot with its key and its values in normal form. -/
def Slot.normal (t : Slot OrderedSet) : Slot OrderedSet := ⟨t.key.normal, t.value.normal⟩

namespace Multimap

open Wire

variable {keys values : Comparator} {m n : Multimap} {k v : Value}

private theorem normal_eq (m : Multimap) :
    m.normal = m.holding (m.map.slots.map Slot.normal) m.total := rfl

/-- The second multimap is the normal form of the first, which holds plain
values only and keeps its books in order. -/
structure Twin (keys values : Comparator) (m n : Multimap) : Prop where
  intact : Intact keys values m
  plain : Within Value.Plain Value.Plain m
  normal : n = m.normal

private theorem checkEntry_normal (m : Multimap) (k v : Value) :
    m.normal.checkEntry k.normal v.normal = m.checkEntry k v := by
  unfold checkEntry
  rw [Comparison.isNull_normal, Comparison.isNull_normal]
  rfl

section Put

variable (hplain : Within Value.Plain Value.Plain m) (hcheck : m.checkEntry k v = .ok ())

include hplain hcheck

/-- Both make a slot, at the same place. -/
theorem put_normal_of_none (hk : m.keyComparator.compare.Blind) (hkplain : k.Plain)
    (hfind : m.map.find k = .ok none) (hfind' : m.normal.map.find k.normal = .ok none) :
    Outcome.Beside (fun s t => t = s.normal) (m.put k v) (m.normal.put k.normal v.normal) := by
  have hkeys : ∀ t ∈ m.map.slots, t.key.Plain := fun t ht => (hplain t ht).1
  have hinsert : (Bisect.insert m.normal.keyComparator.compare Slot.key m.normal.map.slots
      ⟨k.normal, ⟨m.normal.valueComparator, [v.normal]⟩⟩).toOption
        = (Bisect.insert m.keyComparator.compare Slot.key m.map.slots
            ⟨k, ⟨m.valueComparator, [v]⟩⟩).toOption.map (List.map Slot.normal) :=
    Bisect.insert_normal (f := Slot.normal) (a := ⟨k, ⟨m.valueComparator, [v]⟩⟩) hk hkeys hkplain
      fun _ => rfl
  rw [put_of_find_none hcheck hfind,
    put_of_find_none ((checkEntry_normal m k v).trans hcheck) hfind']
  rcases cases_of_toOption_eq_map hinsert with ⟨e, f, he, hf⟩ | ⟨slots, hnormal, hslots⟩
  · rw [he, hf]
    exact .failed rfl
  · rw [hnormal, hslots]
    exact .done true rfl

/-- Both add to the slot at the same place. -/
theorem put_normal_of_some (hm : Intact keys values m) (hv : values.compare.Blind)
    (hvplain : v.Plain) {i : Nat} (hfind : m.map.find k = .ok (some i))
    (hfind' : m.normal.map.find k.normal = .ok (some i)) :
    Outcome.Beside (fun s t => t = s.normal) (m.put k v) (m.normal.put k.normal v.normal) := by
  obtain ⟨before, t, after, hslots, rfl, -⟩ := Bisect.find_parted hfind
  have hmem : t ∈ m.map.slots := mem_of_parted hslots
  have hadd : (t.normal.value.add v.normal).toOption
      = (t.value.add v).toOption.map fun r => (r.1.normal, r.2) :=
    OrderedSet.add_normal ((hm.slots t hmem).comparator ▸ hv) (hplain t hmem).2 hvplain
  have hslots' : m.normal.map.slots
      = before.map Slot.normal ++ t.normal :: after.map Slot.normal := by
    rw [normal_eq, holding_slots, hslots, List.map_append, List.map_cons]
  rw [put_of_find_some hcheck hslots hfind,
    put_of_find_some ((checkEntry_normal m k v).trans hcheck) hslots'
      (by rw [List.length_map]; exact hfind')]
  rcases cases_of_toOption_eq_map hadd with ⟨e, f, he, hf⟩ | ⟨⟨grown, isNew⟩, hnormal, hgrown⟩
  · rw [he, hf]
    exact .failed rfl
  · rw [hnormal, hgrown]
    cases isNew with
    | false => exact .done false rfl
    | true =>
      refine .done true ?_
      simp [normal_eq, Slot.normal, holding]

end Put

/-- Putting normal forms into a normal form comes to the normal form of what
putting comes to. -/
theorem put_normal (hm : Intact keys values m) (hplain : Within Value.Plain Value.Plain m)
    (hk : keys.compare.Blind) (hv : values.compare.Blind) (hkplain : k.Plain)
    (hvplain : v.Plain) :
    Outcome.Beside (fun s t => t = s.normal) (m.put k v) (m.normal.put k.normal v.normal) := by
  have hkeys : ∀ t ∈ m.map.slots, t.key.Plain := fun t ht => (hplain t ht).1
  have hblind : m.keyComparator.compare.Blind := hm.keyComparator ▸ hk
  have hfind : (m.normal.map.find k.normal).toOption = (m.map.find k).toOption :=
    Bisect.find_normal hblind hkeys hkplain fun _ => rfl
  cases hcheck : m.checkEntry k v with
  | error e =>
    rw [put, put, (checkEntry_normal m k v).trans hcheck, hcheck]
    exact .failed rfl
  | ok u =>
    rcases cases_of_toOption_eq hfind with ⟨e, f, he, hf⟩ | ⟨found, hfound', hfound⟩
    · obtain ⟨_, hput⟩ := put_of_find_error hf
      obtain ⟨_, hput'⟩ := put_of_find_error he
      rw [hput, hput']
      exact .failed rfl
    · cases found with
      | none => exact put_normal_of_none hplain hcheck hblind hkplain hfound hfound'
      | some i => exact put_normal_of_some hplain hcheck hm hv hvplain hfound hfound'

-- =============================================================== replays

/-- Putting side by side keeps twins. -/
theorem Twin.put (h : Twin keys values m n) (hk : keys.compare.Blind)
    (hv : values.compare.Blind) (hkplain : k.Plain) (hvplain : v.Plain) :
    Outcome.Beside (Twin keys values) (m.put k v) (n.put k.normal v.normal) := by
  obtain ⟨hintact, hplain, rfl⟩ := h
  obtain ⟨hstate, hresult⟩ := put_normal hintact hplain hk hv hkplain hvplain
  exact ⟨⟨hintact.put k v, hplain.put hkplain hvplain, hstate⟩, hresult⟩

/-- Putting the values of a slot does the same on both sides. -/
private theorem Twin.putCounting (hk : keys.compare.Blind) (hv : values.compare.Blind)
    (hkplain : k.Plain)
    {vs : List Value} (hvs : ∀ v ∈ vs, v.Plain) (h : Twin keys values m n) :
    Outcome.Beside (Twin keys values) (putCounting m k vs)
      (putCounting n k.normal (vs.map Value.normal)) := by
  induction vs generalizing m n with
  | nil => exact .done 0 h
  | cons v vs ih =>
    obtain ⟨hvplain, hvs⟩ := List.forall_mem_cons.1 hvs
    exact (h.put hk hv hkplain hvplain).andThen fun _ _ _ h => (ih hvs h).mapResult _

private theorem Twin.replaySlot {s : SlotRecord} (hk : keys.compare.Blind)
    (hv : values.compare.Blind)
    (hs : s.toValue.Plain) (h : Twin keys values m n) :
    Outcome.Beside (Twin keys values) (replaySlot m s) (replaySlot n s.normal) := by
  obtain ⟨hkplain, hvs⟩ := s.plain_toValue.1 hs
  exact ((h.putCounting hk hv hkplain hvs).mapFault _ _).andThen fun _ _ _ h => .done () h

/-- A document and its normal form are replayed side by side. -/
theorem Twin.replay (hk : keys.compare.Blind) (hv : values.compare.Blind)
    {slots : List SlotRecord} (hslots : ∀ s ∈ slots, s.toValue.Plain) (h : Twin keys values m n) :
    Outcome.Beside (Twin keys values) (replay m slots)
      (replay n (slots.map SlotRecord.normal)) := by
  induction slots generalizing m n with
  | nil => exact .done () h
  | cons s slots ih =>
    obtain ⟨hs, hslots⟩ := List.forall_mem_cons.1 hslots
    exact (h.replaySlot hk hv hs).andThen fun _ _ _ h => ih hslots h

end Multimap

namespace Wire.Document

variable {registry : Registry} {d : Document}

/-- A document and its normal form are both refused, or describe a multimap
and its normal form, if the comparators that they name are blind. -/
theorem toMultimap_twins (hd : d.toValue.Plain)
    (hblind : ∀ keys values, d.comparators registry = .ok (keys, values) →
      keys.compare.Blind ∧ values.compare.Blind) :
    (∃ e f, (d.toMultimap registry).result = .error e
        ∧ (d.normal.toMultimap registry).result = .error f)
      ∨ ∃ keys values m n, (d.toMultimap registry).result = .ok m
        ∧ (d.normal.toMultimap registry).result = .ok n ∧ Multimap.Twin keys values m n := by
  have hnames : d.normal.comparators registry = d.comparators registry := rfl
  unfold toMultimap
  rw [hnames]
  cases hcomparators : d.comparators registry with
  | error e => exact .inl ⟨_, _, rfl, rfl⟩
  | ok named =>
    obtain ⟨keys, values⟩ := named
    obtain ⟨hk, hv⟩ := hblind keys values hcomparators
    have htwin : Multimap.Twin keys values (.empty keys values) (.empty keys values) :=
      ⟨.empty keys values, fun _ ht => absurd ht List.not_mem_nil, rfl⟩
    have hreplay := htwin.replay hk hv (d.plain_toValue.1 hd)
    dsimp only [Except.mapError]
    have hslots : d.normal.slots = d.slots.map SlotRecord.normal := rfl
    rw [hslots]
    rcases cases_of_toOption_eq hreplay.result with ⟨e, f, he, hf⟩ | ⟨u, hu, hu'⟩
    · rw [he, hf]
      exact .inl ⟨_, _, rfl, rfl⟩
    · rw [hu, hu']
      exact .inr ⟨keys, values, _, _, rfl, rfl, hreplay.state⟩

end Wire.Document

end Collation
