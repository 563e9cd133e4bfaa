/-
How little a basic operation touches. Whatever the comparators are, putting
an entry, removing one and taking a key out leave all slots but one as they
were, with their keys, their values and their order; in the one slot a
single value comes or goes, or the slot itself does.

An operation searches for the slot more than once: to read it, to write it
and to delete it. That the later searches come to the slot of the first one
is in the case lists of the operations (`put_step`, `remove_step`,
`removeAll_step`), and owes nothing to an order: a search asks about keys
alone, and no key has changed since. What is said here is what the cases
have in common, the place where two multimaps differ (`DiffersAt`), with
what the comparators have said about it.
-/
import Collation.Proofs.Multimap.Effects

namespace Collation.Multimap

variable {keys values : Comparator} {m : Multimap} {k v : Value}

-- ============================================================ the place

/-- The two multimaps are the same but for the size and for one place among
the slots: there the first one has `former` and the second one has `later`. -/
def DiffersAt (former later : Option (Slot OrderedSet)) (m m' : Multimap) : Prop :=
  ∃ before after, m.map.slots = before ++ (former.toList ++ after)
    ∧ m' = m.holding (before ++ (later.toList ++ after)) m'.total

private theorem DiffersAt.of_parted {former later : Option (Slot OrderedSet)}
    {before after : List (Slot OrderedSet)}
    (hslots : m.map.slots = before ++ (former.toList ++ after)) (total : Nat) :
    DiffersAt former later m (m.holding (before ++ (later.toList ++ after)) total) :=
  ⟨before, after, hslots, rfl⟩

/-- What a put that answers has touched. -/
inductive PutTouches (m : Multimap) (k v : Value) : Multimap → Bool → Prop where
  /-- Nothing: an equivalent value stands under an equivalent key. -/
  | present {s : Slot OrderedSet} {w : Value} : s ∈ m.map.slots →
    m.keyComparator.compare.Gives s.key k .eq → w ∈ s.value.items →
    m.valueComparator.compare.Gives w v .eq → PutTouches m k v m false
  /-- A new slot of the key holds the value alone. -/
  | made {m' : Multimap} : DiffersAt none (some ⟨k, ⟨m.valueComparator, [v]⟩⟩) m m' →
    m'.total = m.total + 1 → PutTouches m k v m' true
  /-- The slot of an equivalent key has the value among its own. -/
  | grown {s : Slot OrderedSet} {low high : List Value} {m' : Multimap} :
    m.keyComparator.compare.Gives s.key k .eq → s.value.items = low ++ high →
    DiffersAt (some s) (some ⟨s.key, { s.value with items := low ++ v :: high }⟩) m m' →
    m'.total = m.total + 1 → PutTouches m k v m' true

/-- What a removal that answers has touched. -/
inductive RemoveTouches (m : Multimap) (k v : Value) : Multimap → Bool → Prop where
  | nothing : RemoveTouches m k v m false
  /-- The slot of an equivalent key is without an equivalent value, and is
  gone if it had no other. -/
  | taken {s : Slot OrderedSet} {low high : List Value} {w : Value} {m' : Multimap} :
    m.keyComparator.compare.Gives s.key k .eq → s.value.items = low ++ w :: high →
    m.valueComparator.compare.Gives w v .eq →
    DiffersAt (some s) (s.refilled? (low ++ high)) m m' → m'.total + 1 = m.total →
    RemoveTouches m k v m' true

/-- What taking a key out has touched, if it answers. -/
inductive RemoveAllTouches (m : Multimap) (k : Value) : Multimap → OrderedSet → Prop where
  | nothing : RemoveAllTouches m k m (.empty m.valueComparator)
  /-- The slot of an equivalent key is gone, and its values are the answer. -/
  | taken {s : Slot OrderedSet} {m' : Multimap} : m.keyComparator.compare.Gives s.key k .eq →
    DiffersAt (some s) none m m' → m'.total + s.value.size = m.total →
    RemoveAllTouches m k m' s.value

-- ============================================================ one step

namespace Intact

variable (h : Intact keys values m)

include h

/-- A put touches the slot of its key and no other. -/
theorem put_touches {isNew : Bool} (hput : (m.put k v).result = .ok isNew) :
    PutTouches m k v (m.put k v).state isNew := by
  have hstep := put_step m k v
  generalize m.put k v = o at hstep hput ⊢
  cases hstep with
  | failed => cases hput
  | @present before after s j _ hslots hfind hj =>
    cases hput
    obtain ⟨low, w, high, hitems, -, hw⟩ := Bisect.find_parted hj
    rw [(h.parted hslots).1.comparator, ← h.valueComparator] at hw
    exact .present (mem_of_parted hslots) (Bisect.gives_of_find hslots hfind)
      (mem_of_parted hitems) hw
  | grown _ hslots hfind _ hitems _ =>
    cases hput
    exact .grown (Bisect.gives_of_find hslots hfind) hitems (.of_parted hslots _) rfl
  | made _ hslots _ _ =>
    cases hput
    exact .made (.of_parted hslots _) rfl

/-- So does taking out an entry. -/
private theorem remove_touches {gone : Bool} (hremove : (m.remove k v).result = .ok gone) :
    RemoveTouches m k v (m.remove k v).state gone := by
  have hstep := remove_step m k v
  generalize m.remove k v = o at hstep hremove ⊢
  cases hstep with
  | failed => cases hremove
  | keyless => cases hremove; exact .nothing
  | valueless => cases hremove; exact .nothing
  | @shrunk before after s low high w hslots hfind hw hitems hne =>
    cases hremove
    obtain ⟨hs, -, -, htotal⟩ := h.parted hslots
    have heq := Bisect.gives_of_find hitems hw
    rw [hs.comparator, ← h.valueComparator] at heq
    refine .taken (Bisect.gives_of_find hslots hfind) hitems heq ?_ ?_
    · rw [Slot.refilled?_of_ne hne]
      exact .of_parted hslots _
    · simp only [OrderedSet.size, hitems, List.length_append, List.length_cons] at htotal
      simp only [Outcome.done, holding_total]
      omega
  | @emptied before after s w hslots hfind hw hitems =>
    cases hremove
    obtain ⟨hs, -, -, htotal⟩ := h.parted hslots
    have hitems : s.value.items = [] ++ [w] := hitems
    have heq := Bisect.gives_of_find hitems hw
    rw [hs.comparator, ← h.valueComparator] at heq
    refine .taken (Bisect.gives_of_find hslots hfind) hitems heq ?_ ?_
    · exact .of_parted hslots _
    · simp only [OrderedSet.size, hitems, List.nil_append, List.length_cons] at htotal
      simp only [Outcome.done, holding_total]
      omega

/-- So does taking out a key. -/
private theorem removeAll_touches {former : OrderedSet}
    (hremove : (m.removeAll k).result = .ok former) :
    RemoveAllTouches m k (m.removeAll k).state former := by
  have hstep := removeAll_step m k
  generalize m.removeAll k = o at hstep hremove ⊢
  cases hstep with
  | failed => cases hremove
  | keyless => cases hremove; exact .nothing
  | removed hslots hfind =>
    cases hremove
    obtain ⟨-, -, -, htotal⟩ := h.parted hslots
    refine .taken (Bisect.gives_of_find hslots hfind) (.of_parted hslots _) ?_
    simp only [Outcome.done, holding_total]
    omega

end Intact

-- ======================================================== after a history

/-- Under any two comparators and after any operations, failed ones included:
a put that is new makes one slot or adds one value to one slot; a removal
that finds its entry takes one value out of one slot, which goes if it had
no other; taking a key out takes one slot out and answers with its values,
or answers with none; and an operation that answers otherwise touches
nothing. All other slots stay as they are and where they are. -/
theorem one_slot_touched (keys values : Comparator) (history : List Operation) (k v : Value) :
    let m := (empty keys values).afterAll history
    (∀ isNew, (m.put k v).result = .ok isNew → PutTouches m k v (m.put k v).state isNew)
      ∧ (∀ gone, (m.remove k v).result = .ok gone →
        RemoveTouches m k v (m.remove k v).state gone)
      ∧ ∀ former, (m.removeAll k).result = .ok former →
        RemoveAllTouches m k (m.removeAll k).state former := by
  intro m
  have h : Intact keys values m := .afterAll keys values history
  exact ⟨fun _ => h.put_touches, fun _ => h.remove_touches, fun _ => h.removeAll_touches⟩

/-- Keys by a comparator that heeds its first operand alone, so that the
slot found for a key may be that of any other: two and three are found to be
one, which makes the removal of two and a value put under it a matter of
the slot of one. -/
theorem one_slot_touched_contradictory :
    let keys : Comparator :=
      { identity := 5, compare := fun a _ => .ok (.int (if a.isTruthy then 0 else -1)) }
    let m := (empty keys .caseFold).afterAll
      [.put (.int 0) (.text "a"), .put (.int 1) (.text "b"), .put (.int 7) (.text "c")]
    (m.put (.int 2) (.text "d")).result = .ok true
      ∧ PutTouches m (.int 2) (.text "d") (m.put (.int 2) (.text "d")).state true
      ∧ (m.remove (.int 2) (.text "C")).result = .ok true
      ∧ RemoveTouches m (.int 2) (.text "C") (m.remove (.int 2) (.text "C")).state true
      ∧ ∃ former, (m.removeAll (.int 3)).result = .ok former ∧ former.size = 2
        ∧ RemoveAllTouches m (.int 3) (m.removeAll (.int 3)).state former := by
  intro keys m
  have hput : (m.put (.int 2) (.text "d")).result = .ok true :=
    eq_ok_of_toOption (by decide +kernel)
  have hremove : (m.remove (.int 2) (.text "C")).result = .ok true :=
    eq_ok_of_toOption (by decide +kernel)
  have hremoveAll : (m.removeAll (.int 3)).result.toOption.map OrderedSet.size = some 2 := by
    decide +kernel
  obtain ⟨former, hformer, hsize⟩ := Option.map_eq_some_iff.1 hremoveAll
  have hformer := eq_ok_of_toOption hformer
  have htouched := one_slot_touched keys .caseFold
    [.put (.int 0) (.text "a"), .put (.int 1) (.text "b"), .put (.int 7) (.text "c")]
  exact ⟨hput, (htouched _ _).1 _ hput, hremove, (htouched _ _).2.1 _ hremove, former, hformer,
    hsize, (htouched _ (.text "c")).2.2 _ hformer⟩

end Collation.Multimap
