/-
Everything that putting an entry, removing one and removing a key can do
to a multimap, whatever its comparators do. Each of the three makes
several searches, some of them after a first change; what is proved about
a multimap elsewhere starts from the case lists here (`PutStep`,
`RemoveStep`, `RemoveAllStep`) and opens no operation again.

The case lists say where the slot and the value stand by parting the lists
around them, so that what is left alone is there to be seen. Two cases
that the operations spell out are missing, and that is the point:

- a key that was found is found again at the same place by the second
  search, for keys and comparator are the same then, so a slot that lost
  its last value goes at once;
- a failure leaves the multimap as it was, for whatever fails fails before
  anything is changed; it is the failure of one of the searches, or of the
  null check, and the case says of which.
-/
import Collation.Multimap.Basic
import Collation.Proofs.Bisect

namespace Collation

-- ========================================================= parted lists

section

variable {α : Type} {xs : List α} {i : Nat} {x : α}

/-- A list parted around the element at an index. -/
theorem eq_parted (h : xs[i]? = some x) : xs = xs.take i ++ x :: xs.drop (i + 1) := by
  obtain ⟨hi, hx⟩ := List.getElem?_eq_some_iff.1 h
  rw [← hx, ← List.drop_eq_getElem_cons hi, List.take_append_drop]

/-- The element between two parts is in the list. -/
theorem mem_of_parted {before after : List α} (h : xs = before ++ x :: after) : x ∈ xs :=
  h ▸ List.mem_append_right before List.mem_cons_self

/-- Modifying the element between two parts leaves these as they are. -/
theorem modify_parted (f : α → α) (before after : List α) :
    (before ++ x :: after).modify before.length f = before ++ f x :: after := by
  induction before with
  | nil => rfl
  | cons y ys ih => simp [ih]

private theorem eraseIdx_parted (before after : List α) :
    (before ++ x :: after).eraseIdx before.length = before ++ after := by
  induction before with
  | nil => rfl
  | cons y ys ih => simp [ih]

end

/-- The element that a search found parts the list. -/
theorem Bisect.find_parted {α : Type} {c : Comparison} {key : α → Value} {xs : List α} {x : Value}
    {i : Nat} (h : find c key xs x = .ok (some i)) :
    ∃ before y after, xs = before ++ y :: after ∧ before.length = i
      ∧ c.Gives (key y) x .eq := by
  obtain ⟨y, hy, hzero⟩ := find_some h
  refine ⟨xs.take i, y, xs.drop (i + 1), eq_parted hy, ?_, hzero⟩
  exact List.length_take_of_le (Nat.le_of_lt (find_some_lt h))

/-- What a search finds at a place is equivalent to the probe. -/
theorem Bisect.gives_of_find {α : Type} {c : Comparison} {key : α → Value}
    {xs before after : List α} {y : α} {x : Value} (hparts : xs = before ++ y :: after)
    (h : find c key xs x = .ok (some before.length)) : c.Gives (key y) x .eq := by
  obtain ⟨z, hz, heq⟩ := find_some h
  rw [hparts, List.getElem?_append_right (Nat.le_refl _), Nat.sub_self] at hz
  injection hz with hz
  exact hz ▸ heq

/-- An insertion parts the list at the place it finds. -/
theorem Bisect.insert_parted {α : Type} {c : Comparison} {key : α → Value} {xs ys : List α} {a : α}
    (h : insert c key xs a = .ok ys) :
    ∃ before after, xs = before ++ after ∧ ys = before ++ a :: after
      ∧ upperBound c key xs (key a) = .ok before.length := by
  unfold insert at h
  cases hu : upperBound c key xs (key a) with
  | error e => rw [hu] at h; cases h
  | ok i =>
    have hi : i ≤ xs.length := (search_decided hu).le_length
    rw [hu] at h
    injection h with h
    refine ⟨xs.take i, xs.drop i, (List.take_append_drop i xs).symm, ?_, ?_⟩
    · exact h.symm.trans (insertIdx_eq hi a)
    · rw [List.length_take_of_le hi]

/-- An insertion fails as its search does. -/
theorem Bisect.insert_eq_error {α : Type} {c : Comparison} {key : α → Value} {xs : List α} {a : α}
    {e : Fault} (h : insert c key xs a = .error e) :
    upperBound c key xs (key a) = .error e := by
  unfold insert at h
  cases hu : upperBound c key xs (key a) with
  | error e' =>
    rw [hu] at h
    injection h with h
    rw [h]
  | ok i => rw [hu] at h; cases h

-- ================================================================= sets

namespace OrderedSet

variable {s s' : OrderedSet} {v : Value}

/-- An addition finds the value, or puts it in at one place. -/
theorem add_eq_ok {grew : Bool} (h : s.add v = .ok (s', grew)) :
    (∃ i, s.find v = .ok (some i) ∧ s' = s ∧ grew = false)
      ∨ ∃ low high, s.find v = .ok none ∧ s.items = low ++ high
        ∧ Bisect.upperBound s.comparator.compare id s.items v = .ok low.length
        ∧ s' = { s with items := low ++ v :: high } ∧ grew = true := by
  unfold add at h
  split at h
  · cases h
  · next i hi =>
    injection h with h
    injection h with hs hg
    exact .inl ⟨i, hi, hs.symm, hg.symm⟩
  · next hnone =>
    cases hins : Bisect.insert s.comparator.compare id s.items v with
    | error e => rw [hins] at h; cases h
    | ok ys =>
      rw [hins] at h
      injection h with h
      injection h with hs hg
      obtain ⟨low, high, hitems, rfl, hu⟩ := Bisect.insert_parted hins
      exact .inr ⟨low, high, hnone, hitems, hu, hs.symm, hg.symm⟩

/-- An addition fails in the search for the value or for its place. -/
theorem add_eq_error {e : Fault} (h : s.add v = .error e) :
    s.find v = .error e
      ∨ s.find v = .ok none ∧ Bisect.upperBound s.comparator.compare id s.items v = .error e := by
  unfold add at h
  split at h
  · next e' he =>
    injection h with h
    exact .inl (h ▸ he)
  · cases h
  · next hnone =>
    cases hins : Bisect.insert s.comparator.compare id s.items v with
    | error e' =>
      rw [hins] at h
      injection h with h
      exact .inr ⟨hnone, h ▸ Bisect.insert_eq_error hins⟩
    | ok ys => rw [hins] at h; cases h

/-- The first value of a set is compared with nothing. -/
theorem add_empty (c : Comparator) (v : Value) : (empty c).add v = .ok (⟨c, [v]⟩, true) := rfl

/-- Discarding finds the value and takes it out, or changes nothing. -/
theorem discard_eq_ok {gone : Bool} (h : s.discard v = .ok (s', gone)) :
    (s.find v = .ok none ∧ s' = s ∧ gone = false)
      ∨ ∃ before w after, s.find v = .ok (some before.length)
        ∧ s.items = before ++ w :: after ∧ s.comparator.compare.Gives w v .eq
        ∧ s' = { s with items := before ++ after } ∧ gone = true := by
  unfold discard at h
  cases hf : s.find v with
  | error e => rw [hf] at h; cases h
  | ok found =>
    rw [hf] at h
    injection h with h
    cases found with
    | none =>
      injection h with hs hg
      exact .inl ⟨rfl, hs.symm, hg.symm⟩
    | some i =>
      injection h with hs hg
      obtain ⟨before, w, after, hitems, rfl, hzero⟩ := Bisect.find_parted hf
      rw [hitems, eraseIdx_parted] at hs
      exact .inr ⟨before, w, after, rfl, hitems, hzero, hs.symm, hg.symm⟩

/-- Discarding fails as the search for the value does. -/
theorem discard_eq_error {e : Fault} (h : s.discard v = .error e) : s.find v = .error e := by
  unfold discard at h
  cases hf : s.find v with
  | error e' =>
    rw [hf] at h
    injection h with h
    rw [h]
  | ok found => rw [hf] at h; cases h

end OrderedSet

-- ================================================================= maps

namespace OrderedMap

variable {β : Type} {m m' : OrderedMap β} {k : Value} {v : β}

/-- A search asks about keys alone, so it does not see that a value was
replaced. -/
theorem find_replaced {c : Comparator} {before after : List (Slot β)} {s : Slot β} :
    find ⟨c, before ++ { s with value := v } :: after⟩ k = find ⟨c, before ++ s :: after⟩ k := by
  refine Bisect.find_congr ?_
  simp

/-- A slot is located where the search finds an equivalent key. -/
theorem locate?_eq_some {i : Nat} (h : m.locate? k = .ok (some (i, v))) :
    ∃ before s after, m.slots = before ++ s :: after ∧ before.length = i ∧ s.value = v
      ∧ m.find k = .ok (some i) ∧ m.comparator.compare.Gives s.key k .eq := by
  unfold locate? at h
  cases hf : m.find k with
  | error e =>
    rw [hf] at h
    dsimp only at h
    split at h <;> cases h
  | ok found =>
    rw [hf] at h
    cases found with
    | none => cases h
    | some j =>
      obtain ⟨before, s, after, hslots, hj, hzero⟩ := Bisect.find_parted hf
      subst hj
      injection h with h
      simp only [hslots, Option.bind_some, List.getElem?_append_right (Nat.le_refl _),
        Nat.sub_self, List.getElem?_cons_zero, Option.map_some, Option.some.injEq,
        Prod.mk.injEq] at h
      exact ⟨before, s, after, hslots, h.1, h.2, by rw [h.1], hzero⟩

/-- A look-up with a default finds no key: the search says so, or it fails
with an error that counts as an absence. -/
def Lacks (m : OrderedMap β) (k : Value) : Prop :=
  m.find k = .ok none ∨ ∃ e, m.find k = .error e ∧ e.isAbsence = true

/-- What a map lacks is not found. -/
theorem Lacks.find_ne (h : m.Lacks k) (i : Nat) : m.find k ≠ .ok (some i) := by
  rcases h with h | ⟨e, h, -⟩
  · simp [h]
  · simp [h]

private theorem lacks_of_locate? (h : m.locate? k = .ok none) : m.Lacks k := by
  unfold locate? at h
  cases hf : m.find k with
  | error e =>
    rw [hf] at h
    dsimp only at h
    split at h
    · next habsence => exact .inr ⟨e, hf, habsence⟩
    · cases h
  | ok found =>
    cases found with
    | none => exact .inl hf
    | some i =>
      obtain ⟨before, s, after, hslots, rfl, -⟩ := Bisect.find_parted hf
      rw [hf] at h
      injection h with h
      simp [hslots] at h

/-- A look-up with a default fails as its search does. -/
theorem locate?_eq_error {e : Fault} (h : m.locate? k = .error e) :
    m.find k = .error e ∧ e.isAbsence = false := by
  unfold locate? at h
  cases hf : m.find k with
  | error e' =>
    rw [hf] at h
    dsimp only at h
    split at h
    · cases h
    · next habsence =>
      injection h with h
      subst h
      exact ⟨rfl, by simpa using habsence⟩
  | ok found => rw [hf] at h; cases h

/-- An assignment through a key that is not found makes a slot for it. -/
theorem set_of_absent (h : m.Lacks k) (hset : m.set k v = .ok m') :
    ∃ before after, m.find k = .ok none ∧ m.slots = before ++ after
      ∧ m' = { m with slots := before ++ ⟨k, v⟩ :: after }
      ∧ Bisect.upperBound m.comparator.compare Slot.key m.slots k = .ok before.length := by
  unfold set at hset
  split at hset
  · cases hset
  · next i hi => exact absurd hi (h.find_ne i)
  · next hnone =>
    cases hins : Bisect.insert m.comparator.compare Slot.key m.slots ⟨k, v⟩ with
    | error e => rw [hins] at hset; cases hset
    | ok ys =>
      rw [hins] at hset
      injection hset with hset
      obtain ⟨before, after, hslots, rfl, hu⟩ := Bisect.insert_parted hins
      exact ⟨before, after, hnone, hslots, hset.symm, hu⟩

/-- An assignment fails in the search for the key or for its place. -/
theorem set_eq_error {e : Fault} (hset : m.set k v = .error e) :
    m.find k = .error e
      ∨ m.find k = .ok none
        ∧ Bisect.upperBound m.comparator.compare Slot.key m.slots k = .error e := by
  unfold set at hset
  split at hset
  · next e' he =>
    injection hset with hset
    exact .inl (hset ▸ he)
  · cases hset
  · next hnone =>
    cases hins : Bisect.insert m.comparator.compare Slot.key m.slots ⟨k, v⟩ with
    | error e' =>
      rw [hins] at hset
      injection hset with hset
      exact .inr ⟨hnone, hset ▸ Bisect.insert_eq_error hins⟩
    | ok ys => rw [hins] at hset; cases hset

/-- The slot of a key that is found is erased. -/
theorem erase_parted {before after : List (Slot β)} {s : Slot β}
    (hslots : m.slots = before ++ s :: after) (hf : m.find k = .ok (some before.length)) :
    m.erase k = .ok { m with slots := before ++ after } := by
  unfold erase
  rw [hf, hslots]
  dsimp only
  rw [eraseIdx_parted]

/-- Taking a key out finds its slot, or nothing. -/
theorem pop?_eq_ok {found : Option β} (h : m.pop? k = .ok (m', found)) :
    (found = none ∧ m' = m ∧ m.Lacks k)
      ∨ ∃ before s after, m.slots = before ++ s :: after
        ∧ m.find k = .ok (some before.length) ∧ m.comparator.compare.Gives s.key k .eq
        ∧ found = some s.value ∧ m' = { m with slots := before ++ after } := by
  unfold pop? get? at h
  cases hl : m.locate? k with
  | error e => rw [hl] at h; cases h
  | ok place =>
    rw [hl] at h
    cases place with
    | none =>
      injection h with h
      injection h with hm hfound
      exact .inl ⟨hfound.symm, hm.symm, lacks_of_locate? hl⟩
    | some p =>
      obtain ⟨i, v⟩ := p
      obtain ⟨before, s, after, hslots, rfl, rfl, hf, hzero⟩ := locate?_eq_some hl
      simp only [Except.map, Option.map_some, erase_parted hslots hf, Except.ok.injEq,
        Prod.mk.injEq] at h
      exact .inr ⟨before, s, after, hslots, hf, hzero, h.2.symm, h.1.symm⟩

/-- Taking a key out fails as the search for it does. -/
theorem pop?_eq_error {e : Fault} (h : m.pop? k = .error e) :
    m.find k = .error e ∧ e.isAbsence = false := by
  unfold pop? get? at h
  cases hl : m.locate? k with
  | error e' =>
    rw [hl] at h
    injection h with h
    exact h ▸ locate?_eq_error hl
  | ok place =>
    rw [hl] at h
    cases place with
    | none => cases h
    | some p =>
      obtain ⟨i, v⟩ := p
      obtain ⟨before, s, after, hslots, rfl, rfl, hf, -⟩ := locate?_eq_some hl
      simp [Except.map, erase_parted hslots hf] at h

end OrderedMap

-- ============================================================ multimaps

namespace Multimap

/-- The multimap with other slots and another count of its entries. -/
def holding (m : Multimap) (slots : List (Slot OrderedSet)) (total : Nat) : Multimap :=
  { m with map := { m.map with slots }, total }

section

variable (m : Multimap) (slots : List (Slot OrderedSet)) (total : Nat)

@[simp] theorem holding_slots : (m.holding slots total).map.slots = slots := rfl

@[simp] theorem holding_total : (m.holding slots total).total = total := rfl

@[simp] theorem holding_keyComparator :
    (m.holding slots total).keyComparator = m.keyComparator := rfl

@[simp] theorem holding_valueComparator :
    (m.holding slots total).valueComparator = m.valueComparator := rfl

end

/-- Why putting a value under a key can fail. -/
inductive PutFailure (m : Multimap) (k v : Value) (e : Fault) : Prop where
  /-- A null is not accepted. -/
  | refused : m.checkEntry k v = .error e → PutFailure m k v e
  | search : m.map.find k = .error e → PutFailure m k v e
  | place : m.map.find k = .ok none →
    Bisect.upperBound m.keyComparator.compare Slot.key m.map.slots k = .error e →
    PutFailure m k v e
  | valueSearch {before after : List (Slot OrderedSet)} {s : Slot OrderedSet} :
    m.map.slots = before ++ s :: after → m.map.find k = .ok (some before.length) →
    s.value.find v = .error e → PutFailure m k v e
  | valuePlace {before after : List (Slot OrderedSet)} {s : Slot OrderedSet} :
    m.map.slots = before ++ s :: after → m.map.find k = .ok (some before.length) →
    s.value.find v = .ok none →
    Bisect.upperBound s.value.comparator.compare id s.value.items v = .error e →
    PutFailure m k v e

/-- What putting a value under a key can come to. -/
inductive PutStep (m : Multimap) (k v : Value) : Outcome Multimap Bool → Prop where
  | failed {e : Fault} : PutFailure m k v e → PutStep m k v (.failed m e)
  /-- The value is there already. -/
  | present {before after : List (Slot OrderedSet)} {s : Slot OrderedSet} {j : Nat} :
    m.checkEntry k v = .ok () → m.map.slots = before ++ s :: after →
    m.map.find k = .ok (some before.length) → s.value.find v = .ok (some j) →
    PutStep m k v (.done m false)
  /-- A slot that is there takes the value in. -/
  | grown {before after : List (Slot OrderedSet)} {s : Slot OrderedSet} {low high : List Value} :
    m.checkEntry k v = .ok () → m.map.slots = before ++ s :: after →
    m.map.find k = .ok (some before.length) →
    s.value.find v = .ok none → s.value.items = low ++ high →
    Bisect.upperBound s.value.comparator.compare id s.value.items v = .ok low.length →
    PutStep m k v (.done
      (m.holding (before ++ ⟨s.key, { s.value with items := low ++ v :: high }⟩ :: after)
        (m.total + 1)) true)
  /-- A new slot holds the value. -/
  | made {before after : List (Slot OrderedSet)} :
    m.checkEntry k v = .ok () → m.map.slots = before ++ after → m.map.find k = .ok none →
    Bisect.upperBound m.keyComparator.compare Slot.key m.map.slots k = .ok before.length →
    PutStep m k v (.done
      (m.holding (before ++ ⟨k, ⟨m.valueComparator, [v]⟩⟩ :: after) (m.total + 1)) true
      [.slotCreated k])

/-- The steps of a put, up to the one that fails. -/
theorem put_step (m : Multimap) (k v : Value) : PutStep m k v (m.put k v) := by
  unfold put
  cases hcheck : m.checkEntry k v with
  | error e => exact .failed (.refused hcheck)
  | ok u =>
    -- the key has a slot already, or one is made for it
    cases hl : m.map.locate? k with
    | error e => exact .failed (.search (OrderedMap.locate?_eq_error hl).1)
    | ok place =>
      cases place with
      | some p =>
        obtain ⟨i, values⟩ := p
        obtain ⟨before, s, after, hslots, rfl, rfl, hf, -⟩ := OrderedMap.locate?_eq_some hl
        dsimp only
        cases hadd : s.value.add v with
        | error e =>
          rcases OrderedSet.add_eq_error hadd with he | ⟨hnone, he⟩
          · exact .failed (.valueSearch hslots hf he)
          · exact .failed (.valuePlace hslots hf hnone he)
        | ok r =>
          obtain ⟨grown, isNew⟩ := r
          rcases OrderedSet.add_eq_ok hadd with
            ⟨j, hj, rfl, rfl⟩ | ⟨low, high, hnone, hitems, hu, rfl, rfl⟩
          · exact .present hcheck hslots hf hj
          · have hset : m.map.setAt before.length { s.value with items := low ++ v :: high }
                = { m.map with slots :=
                    before ++ ⟨s.key, { s.value with items := low ++ v :: high }⟩ :: after } := by
              unfold OrderedMap.setAt
              rw [hslots, modify_parted]
            dsimp only
            rw [hset]
            exact .grown hcheck hslots hf hnone hitems hu
      | none =>
        dsimp only
        rw [OrderedSet.add_empty]
        dsimp only
        cases hset : m.map.set k ⟨m.valueComparator, [v]⟩ with
        | error e =>
          rcases OrderedMap.set_eq_error hset with he | ⟨hnone, he⟩
          · exact .failed (.search he)
          · exact .failed (.place hnone he)
        | ok map =>
          obtain ⟨before, after, hnone, hslots, rfl, hu⟩ :=
            OrderedMap.set_of_absent (OrderedMap.lacks_of_locate? hl) hset
          exact .made hcheck hslots hnone hu

-- The look-up decides how a put goes on.

section

variable {m : Multimap} {k v : Value} {e : Fault} {s : Slot OrderedSet}
  {before after : List (Slot OrderedSet)}

/-- A put fails if the search for its key does. -/
theorem put_of_find_error (h : m.map.find k = .error e) : ∃ f, m.put k v = .failed m f := by
  have hstep := put_step m k v
  generalize m.put k v = o at hstep ⊢
  cases hstep with
  | failed _ => exact ⟨_, rfl⟩
  | present _ _ hfind _ =>
    rw [h] at hfind
    cases hfind
  | grown _ _ hfind _ _ _ =>
    rw [h] at hfind
    cases hfind
  | made _ _ hfind _ =>
    rw [h] at hfind
    cases hfind

/-- A put under a new key makes a slot for it. -/
theorem put_of_find_none (hcheck : m.checkEntry k v = .ok ()) (h : m.map.find k = .ok none) :
    m.put k v =
      match Bisect.insert m.keyComparator.compare Slot.key m.map.slots
          ⟨k, ⟨m.valueComparator, [v]⟩⟩ with
      | .error e => .failed m e
      | .ok slots => .done (m.holding slots (m.total + 1)) true [.slotCreated k] := by
  have hlocate : m.map.locate? k = .ok none := by
    rw [OrderedMap.locate?, h]
    rfl
  rw [put, hcheck, hlocate, OrderedSet.add_empty]
  dsimp only
  rw [OrderedMap.set, h]
  dsimp only
  unfold keyComparator
  cases Bisect.insert m.map.comparator.compare Slot.key m.map.slots ⟨k, ⟨m.valueComparator, [v]⟩⟩
  · rfl
  · rfl

/-- A put under a key that is there adds to its slot. -/
theorem put_of_find_some (hcheck : m.checkEntry k v = .ok ())
    (hslots : m.map.slots = before ++ s :: after)
    (h : m.map.find k = .ok (some before.length)) :
    m.put k v =
      match s.value.add v with
      | .error e => .failed m e
      | .ok (_, false) => .done m false
      | .ok (grown, true) =>
        .done (m.holding (before ++ ⟨s.key, grown⟩ :: after) (m.total + 1)) true := by
  -- the slot is known, so nothing depends on the search any more
  have hlocate : m.map.locate? k = .ok (some (before.length, s.value)) := by
    rw [OrderedMap.locate?, h, hslots]
    simp
  rw [put, hcheck, hlocate]
  dsimp only
  cases s.value.add v with
  | error e => rfl
  | ok r =>
    obtain ⟨grown, isNew⟩ := r
    cases isNew with
    | false => rfl
    | true =>
      unfold OrderedMap.setAt
      dsimp only
      rw [hslots, modify_parted]
      rfl

end

/-- Why taking an entry out can fail. -/
inductive RemoveFailure (m : Multimap) (k v : Value) (e : Fault) : Prop where
  | search : m.map.find k = .error e → e.isAbsence = false → RemoveFailure m k v e
  | valueSearch {before after : List (Slot OrderedSet)} {s : Slot OrderedSet} :
    m.map.slots = before ++ s :: after → m.map.find k = .ok (some before.length) →
    s.value.find v = .error e → RemoveFailure m k v e

/-- What taking an entry out can come to. -/
inductive RemoveStep (m : Multimap) (k v : Value) : Outcome Multimap Bool → Prop where
  | failed {e : Fault} : RemoveFailure m k v e → RemoveStep m k v (.failed m e)
  | keyless : m.map.Lacks k → RemoveStep m k v (.done m false)
  /-- The slot has no such value. -/
  | valueless {before after : List (Slot OrderedSet)} {s : Slot OrderedSet} :
    m.map.slots = before ++ s :: after → m.map.find k = .ok (some before.length) →
    s.value.find v = .ok none → RemoveStep m k v (.done m false)
  /-- The slot keeps other values. -/
  | shrunk {before after : List (Slot OrderedSet)} {s : Slot OrderedSet} {low high : List Value}
      {w : Value} :
    m.map.slots = before ++ s :: after → m.map.find k = .ok (some before.length) →
    s.value.find v = .ok (some low.length) → s.value.items = low ++ w :: high →
    low ++ high ≠ [] →
    RemoveStep m k v (.done
      (m.holding (before ++ ⟨s.key, { s.value with items := low ++ high }⟩ :: after)
        (m.total - 1)) true)
  /-- The slot goes with its only value. -/
  | emptied {before after : List (Slot OrderedSet)} {s : Slot OrderedSet} {w : Value} :
    m.map.slots = before ++ s :: after → m.map.find k = .ok (some before.length) →
    s.value.find v = .ok (some 0) → s.value.items = [w] →
    RemoveStep m k v (.done (m.holding (before ++ after) (m.total - 1)) true [.slotEmptied k])

/-- The steps of taking out an entry, up to the one that fails. -/
theorem remove_step (m : Multimap) (k v : Value) : RemoveStep m k v (m.remove k v) := by
  unfold remove
  cases hl : m.map.locate? k with
  | error e =>
    obtain ⟨he, habsence⟩ := OrderedMap.locate?_eq_error hl
    exact .failed (.search he habsence)
  | ok place =>
    cases place with
    | none => exact .keyless (OrderedMap.lacks_of_locate? hl)
    | some p =>
      obtain ⟨i, values⟩ := p
      obtain ⟨before, s, after, hslots, rfl, rfl, hf, -⟩ := OrderedMap.locate?_eq_some hl
      dsimp only
      cases hd : s.value.discard v with
      | error e => exact .failed (.valueSearch hslots hf (OrderedSet.discard_eq_error hd))
      | ok r =>
        obtain ⟨rest, gone⟩ := r
        rcases OrderedSet.discard_eq_ok hd with
          ⟨hnone, rfl, rfl⟩ | ⟨low, w, high, hw, hitems, -, rfl, rfl⟩
        · exact .valueless hslots hf hnone
        · have hset : m.map.setAt before.length { s.value with items := low ++ high }
              = ⟨m.map.comparator,
                  before ++ ⟨s.key, { s.value with items := low ++ high }⟩ :: after⟩ := by
            unfold OrderedMap.setAt
            rw [hslots, modify_parted]
          dsimp only
          rw [hset]
          split
          · next hempty =>
            -- the second search asks the questions of the first one
            have hfind : OrderedMap.find
                ⟨m.map.comparator,
                  before ++ ⟨s.key, { s.value with items := low ++ high }⟩ :: after⟩ k
                = .ok (some before.length) := by
              rw [OrderedMap.find_replaced, ← hslots]
              exact hf
            rw [OrderedMap.erase_parted rfl hfind]
            obtain ⟨rfl, rfl⟩ : low = [] ∧ high = [] := by
              simpa [OrderedSet.isEmpty] using hempty
            exact .emptied hslots hf hw hitems
          · next hfull =>
            refine .shrunk hslots hf hw hitems fun h => hfull ?_
            simp [OrderedSet.isEmpty, h]

/-- What taking a key out can come to. -/
inductive RemoveAllStep (m : Multimap) (k : Value) : Outcome Multimap OrderedSet → Prop where
  | failed {e : Fault} : m.map.find k = .error e → e.isAbsence = false →
    RemoveAllStep m k (.failed m e)
  | keyless : m.map.Lacks k → RemoveAllStep m k (.done m (.empty m.valueComparator))
  /-- The slot goes, and its values are the result. -/
  | removed {before after : List (Slot OrderedSet)} {s : Slot OrderedSet} :
    m.map.slots = before ++ s :: after → m.map.find k = .ok (some before.length) →
    RemoveAllStep m k (.done (m.holding (before ++ after) (m.total - s.value.size)) s.value
      [.slotRemoved k s.value.size])

/-- The steps of taking out a key. -/
theorem removeAll_step (m : Multimap) (k : Value) : RemoveAllStep m k (m.removeAll k) := by
  unfold removeAll
  cases hp : m.map.pop? k with
  | error e =>
    obtain ⟨he, habsence⟩ := OrderedMap.pop?_eq_error hp
    exact .failed he habsence
  | ok r =>
    obtain ⟨map, found⟩ := r
    rcases OrderedMap.pop?_eq_ok hp with
      ⟨rfl, rfl, habsent⟩ | ⟨before, s, after, hslots, hf, -, rfl, rfl⟩
    · exact .keyless habsent
    · exact .removed hslots hf

end Multimap

end Collation
