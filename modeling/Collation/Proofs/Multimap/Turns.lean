/-
Several entries put one after the other. Whatever the comparators do, the
first failure ends it, and what was put before stays: the multimap is then
exactly the one that the earlier puts make of it (`putTurns_inTurn`). An
entry may have to be taken out of an item first, and is so when its turn
comes; that can fail as well and ends it in the same way.

The values under one key and the entries that some items stand for are put
by this one law (`putEach_eq`, `putItems_eq`), and what replaces values
under a key is a removal with such puts behind it: a failure among them
finds the former values gone (`Replacing`).
-/
import Collation.Proofs.Multimap.Atomicity

namespace Collation.Multimap

variable {m m' : Multimap} {k v : Value} {vs items : List Value} {e : Fault}

-- =============================================================== turns

/-- What there is to put when a turn comes, or why there is nothing. -/
abbrev Turn := Except Fault (Value × Value)

/-- Takes turns at putting; tells whether any entry is new. -/
def putTurns (m : Multimap) : List Turn → Outcome Multimap Bool
  | [] => .done m false
  | .error e :: _ => .failed m e
  | .ok (k, v) :: rest =>
    (m.put k v).andThen fun m' isNew => (putTurns m' rest).mapResult (isNew || ·)

/-- One turn at putting. -/
def putTurn (m : Multimap) : Turn → Outcome Multimap Bool
  | .ok (k, v) => m.put k v
  | .error e => .failed m e

section

variable {isNew : Bool}

/-- A turn that fails is the last. -/
theorem putTurns_cons_error (turns : List Turn) (h : (m.put k v).result = .error e) :
    (m.putTurns (.ok (k, v) :: turns)).state = (m.put k v).state
      ∧ (m.putTurns (.ok (k, v) :: turns)).result = .error e := by
  rw [putTurns, Outcome.andThen, h]
  exact ⟨rfl, rfl⟩

/-- After one that succeeds the others have theirs. -/
theorem putTurns_cons_ok (turns : List Turn) (h : (m.put k v).result = .ok isNew) :
    (m.putTurns (.ok (k, v) :: turns)).state = ((m.put k v).state.putTurns turns).state
      ∧ (m.putTurns (.ok (k, v) :: turns)).result
        = ((m.put k v).state.putTurns turns).result.map (isNew || ·) := by
  rw [putTurns]
  exact Outcome.andThen_ok (f := fun m' isNew => (m'.putTurns turns).mapResult (isNew || ·)) h

end

/-- Values put under a key take turns. -/
theorem putEach_eq (k : Value) (vs : List Value) : ∀ m : Multimap,
    m.putEach k vs = m.putTurns (vs.map fun v => .ok (k, v)) := by
  induction vs with
  | nil => exact fun _ => rfl
  | cons v vs ih =>
    intro m
    simp only [putEach, List.map_cons, putTurns, ih]

/-- Entries take turns, one that is none failing in its own. -/
theorem putItems_eq (items : List Value) : ∀ m : Multimap,
    m.putItems items = m.putTurns (items.map entryOf) := by
  induction items with
  | nil => exact fun _ => rfl
  | cons item rest ih =>
    intro m
    rw [putItems, List.map_cons]
    cases entryOf item with
    | error e => rfl
    | ok p => simp only [putTurns, ih]

-- ========================================================= what they do

/-- The entries are put one after the other, without a failure. -/
inductive Puts : Multimap → List (Value × Value) → Multimap → Prop where
  | nil (m : Multimap) : Puts m [] m
  | cons {m m' : Multimap} {k v : Value} {rest : List (Value × Value)} {isNew : Bool} :
    (m.put k v).result = .ok isNew → Puts (m.put k v).state rest m' → Puts m ((k, v) :: rest) m'

/-- A turn fails: there is nothing to put, or putting it fails. -/
def Fails (m : Multimap) (turn : Turn) (e : Fault) : Prop :=
  turn = .error e ∨ ∃ k v, turn = .ok (k, v) ∧ (m.put k v).result = .error e

/-- What turns come to: all entries are put, and the answer is whether the
multimap grew; or some of them are, up to a turn that fails. -/
inductive InTurn (m : Multimap) (turns : List Turn) : Multimap → Except Fault Bool → Prop where
  | all {pairs : List (Value × Value)} {m' : Multimap} : turns = pairs.map .ok → Puts m pairs m' →
    InTurn m turns m' (.ok (decide (m.total < m'.total)))
  | stopped {pairs : List (Value × Value)} {turn : Turn} {rest : List Turn} {m' : Multimap}
      {e : Fault} : turns = pairs.map .ok ++ turn :: rest → Puts m pairs m' → Fails m' turn e →
    InTurn m turns m' (.error e)

/-- An entry that is new is one more. -/
theorem total_put {isNew : Bool} (h : (m.put k v).result = .ok isNew) :
    (m.put k v).state.total = m.total + isNew.toNat := by
  have hstep := put_step m k v
  generalize m.put k v = o at hstep h ⊢
  cases hstep with
  | failed => cases h
  | present => cases h; rfl
  | grown => cases h; rfl
  | made => cases h; rfl

/-- Puts do not make a multimap smaller. -/
private theorem Puts.total_le {pairs : List (Value × Value)} (h : Puts m pairs m') :
    m.total ≤ m'.total := by
  induction h with
  | nil => exact Nat.le_refl _
  | cons hput _ ih =>
    rw [total_put hput] at ih
    omega

/-- The multimap grew by the first entry or by the others. -/
theorem Puts.grew {pairs : List (Value × Value)} {isNew : Bool}
    (hput : (m.put k v).result = .ok isNew) (h : Puts (m.put k v).state pairs m') :
    (isNew || decide ((m.put k v).state.total < m'.total)) = decide (m.total < m'.total) := by
  have hle := h.total_le
  rw [total_put hput] at hle ⊢
  cases isNew with
  | false => simp
  | true =>
    rw [Bool.toNat_true] at hle
    exact (decide_eq_true (by omega)).symm

/-- A turn that succeeds, and what comes of the others. -/
private theorem InTurn.cons {turns : List Turn} {isNew : Bool} {result : Except Fault Bool}
    (hput : (m.put k v).result = .ok isNew) (h : InTurn (m.put k v).state turns m' result) :
    InTurn m (.ok (k, v) :: turns) m' (result.map (isNew || ·)) := by
  cases h with
  | all hturns hputs =>
    show InTurn m _ m' (.ok (isNew || _))
    rw [hputs.grew hput]
    exact .all (congrArg _ hturns) (.cons hput hputs)
  | stopped hturns hputs hfails => exact .stopped (congrArg _ hturns) (.cons hput hputs) hfails

/-- Turns put a part from the first on and keep it. -/
theorem putTurns_inTurn (turns : List Turn) : ∀ m : Multimap,
    InTurn m turns (m.putTurns turns).state (m.putTurns turns).result := by
  induction turns with
  | nil =>
    intro m
    have hall : InTurn m [] m (.ok (decide (m.total < m.total))) := .all rfl (.nil m)
    rwa [decide_eq_false (Nat.lt_irrefl m.total)] at hall
  | cons turn turns ih =>
    intro m
    cases turn with
    | error e => exact .stopped rfl (.nil m) (.inl rfl)
    | ok p =>
      obtain ⟨k, v⟩ := p
      cases hput : (m.put k v).result with
      | error e =>
        obtain ⟨hstate, hresult⟩ := putTurns_cons_error turns hput
        rw [hstate, hresult, put_atomic m k v e hput]
        exact .stopped rfl (.nil m) (.inr ⟨k, v, rfl, hput⟩)
      | ok isNew =>
        obtain ⟨hstate, hresult⟩ := putTurns_cons_ok turns hput
        rw [hstate, hresult]
        exact (ih (m.put k v).state).cons hput

-- ======================================================== replacing

/-- The entries of some values under one key. -/
def entriesUnder (k : Value) (vs : List Value) : List (Value × Value) := vs.map fun v => (k, v)

private theorem map_ok_entriesUnder (k : Value) (vs : List Value) :
    (entriesUnder k vs).map (.ok : _ → Turn) = vs.map fun v => .ok (k, v) :=
  List.map_map

/-- Turns at the values under a key that are taken up to one of them. -/
theorem entriesUnder_split {pairs : List (Value × Value)} {turn : Turn} {rest : List Turn}
    (h : (vs.map fun v => (.ok (k, v) : Turn)) = pairs.map .ok ++ turn :: rest) :
    ∃ done v left, vs = done ++ v :: left ∧ pairs = entriesUnder k done ∧ turn = .ok (k, v) := by
  obtain ⟨done, tail, rfl, hdone, htail⟩ := List.map_eq_append_iff.1 h
  obtain ⟨v, left, rfl, hturn, -⟩ := List.map_eq_cons_iff.1 htail
  rw [← map_ok_entriesUnder] at hdone
  exact ⟨done, v, left, rfl, (List.map_injective_iff.2 (fun _ _ => Except.ok.inj) hdone).symm,
    hturn.symm⟩

/-- What replacing the values under a key comes to. It fails before anything
is changed, if the key cannot be looked up; or one of the new values cannot
be put, and then the former values are gone and the new ones before that one
are there; or all new values are put and the former ones are the answer. -/
inductive Replacing (m : Multimap) (k : Value) (vs : List Value) :
    Multimap → Except Fault OrderedSet → Prop where
  | unfound {e : Fault} : (m.removeAll k).result = .error e → Replacing m k vs m (.error e)
  | halted {former : OrderedSet} {done left : List Value} {v : Value} {m' : Multimap}
      {e : Fault} : (m.removeAll k).result = .ok former → vs = done ++ v :: left →
    Puts (m.removeAll k).state (entriesUnder k done) m' → (m'.put k v).result = .error e →
    Replacing m k vs m' (.error e)
  | replaced {former : OrderedSet} {m' : Multimap} : (m.removeAll k).result = .ok former →
    Puts (m.removeAll k).state (entriesUnder k vs) m' → Replacing m k vs m' (.ok former)

/-- Putting values in place of others: the removal, then the turns. -/
theorem replaceValues_replacing (m : Multimap) (k : Value) (vs : List Value) :
    Replacing m k vs (m.replaceValues k vs).state (m.replaceValues k vs).result := by
  unfold replaceValues
  cases hremove : (m.removeAll k).result with
  | error e =>
    rw [Outcome.andThen, hremove]
    show Replacing m k vs (m.removeAll k).state (.error e)
    rw [removeAll_atomic m k e hremove]
    exact .unfound hremove
  | ok former =>
    obtain ⟨hstate, hresult⟩ := Outcome.andThen_ok
      (f := fun m' former => (m'.putEach k vs).mapResult fun _ => former) hremove
    have hturns := putTurns_inTurn (vs.map fun v => .ok (k, v)) (m.removeAll k).state
    rw [← putEach_eq] at hturns
    rw [hstate, hresult]
    generalize (m.removeAll k).state.putEach k vs = o at hturns ⊢
    show Replacing m k vs o.state (o.result.map fun _ => former)
    -- the turns of the new values, told as entries under the key
    generalize o.result = result at hturns ⊢
    cases hturns with
    | all hall hputs =>
      rw [← map_ok_entriesUnder] at hall
      have hpairs := List.map_injective_iff.2 (fun _ _ => Except.ok.inj) hall
      exact .replaced hremove (hpairs ▸ hputs)
    | stopped hsplit hputs hfails =>
      obtain ⟨done, v, left, hvs, rfl, rfl⟩ := entriesUnder_split hsplit
      refine .halted hremove hvs hputs ?_
      obtain hnone | ⟨k', v', heq, hput⟩ := hfails
      · cases hnone
      · cases heq
        exact hput

end Collation.Multimap
