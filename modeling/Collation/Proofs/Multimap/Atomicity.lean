/-
Operations that fail as if they had not been called. One that changes a
single entry or a single slot, on the multimap itself or through a view,
makes up to four searches, and a comparator may fail in any of them with
any error: on one order of the operands and not on the other, on a value
compared with itself. Wherever it fails, the multimap is afterwards what it
was before: its slots, the key and the value objects in them, their order
and the number of entries (`single_step_atomic`).

The three basic changes have this from their case lists, in which a failed
step keeps its state (`PutStep.failed`, `RemoveStep.failed`,
`RemoveAllStep.failed`). A view adds failures of its own. All of them come
before the basic change, but for one: a key is reported absent only after
its slot was asked for, and there it takes the bookkeeping to see that a
slot that went had values in it (`KeyView.remove_atomic`).

What puts several entries, one after the other, keeps those that came
before a failure and is not meant here (`Operation.IsSingle`).
-/
import Collation.Proofs.Fallible
import Collation.Proofs.Multimap.Integrity

namespace Collation

variable {σ α β : Type}

/-- An operation that leaves the state `s`, in which it was called, if it
fails. -/
def Outcome.Atomic (s : σ) (o : Outcome σ α) : Prop := ∀ e, o.result = .error e → o.state = s

namespace Outcome.Atomic

variable {s s' : σ} {o : Outcome σ α}

private theorem done (s s' : σ) (a : α) (events : List Event) :
    Atomic s (Outcome.done s' a events) :=
  fun _ h => nomatch h

private theorem failed (s : σ) (e : Fault) : Atomic s (Outcome.failed s e : Outcome σ α) :=
  fun _ _ => rfl

/-- Whatever is made of a result, a failure stays one. -/
theorem mapResult (h : Atomic s o) (f : α → β) : Atomic s (o.mapResult f) := by
  intro e he
  cases hr : o.result with
  | error e' => exact h e' hr
  | ok a =>
    unfold Outcome.mapResult at he
    rw [hr] at he
    cases he

/-- What follows fails only where nothing was changed before it. -/
theorem andThen {f : σ → α → Outcome σ β} (h : Atomic s o)
    (hf : ∀ a, o.result = .ok a → Atomic s (f o.state a)) : Atomic s (o.andThen f) := by
  intro e he
  unfold Outcome.andThen at he ⊢
  cases hr : o.result with
  | error e' => exact h e' hr
  | ok a =>
    rw [hr] at he
    exact hf a hr e he

end Outcome.Atomic

open Outcome (Atomic)

-- ======================================================= basic changes

namespace Multimap

variable (m : Multimap) (k v : Value)

/-- A put either does all its work or none. -/
theorem put_atomic : Atomic m (m.put k v) := by
  have hstep := put_step m k v
  generalize m.put k v = o at hstep ⊢
  cases hstep with
  | failed => exact .failed m _
  | present => exact .done m _ _ _
  | grown => exact .done m _ _ _
  | made => exact .done m _ _ _

/-- So does taking out an entry. -/
private theorem remove_atomic : Atomic m (m.remove k v) := by
  have hstep := remove_step m k v
  generalize m.remove k v = o at hstep ⊢
  cases hstep with
  | failed => exact .failed m _
  | keyless => exact .done m _ _ _
  | valueless => exact .done m _ _ _
  | shrunk => exact .done m _ _ _
  | emptied => exact .done m _ _ _

/-- So does taking out a key. -/
theorem removeAll_atomic : Atomic m (m.removeAll k) := by
  have hstep := removeAll_step m k
  generalize m.removeAll k = o at hstep ⊢
  cases hstep with
  | failed => exact .failed m _
  | keyless => exact .done m _ _ _
  | removed => exact .done m _ _ _

/-- Of an intact multimap a key was taken out with some values, or the
multimap is what it was. -/
theorem removeAll_nothing {keys values : Comparator} {k : Value} {s : OrderedSet}
    (hm : Intact keys values m) (h : (m.removeAll k).result = .ok s) (hempty : s.size = 0) :
    (m.removeAll k).state = m := by
  have hstep := removeAll_step m k
  generalize m.removeAll k = o at hstep h ⊢
  cases hstep with
  | failed => cases h
  | keyless => rfl
  | removed hslots _ =>
    injection h with h
    subst h
    exact absurd (List.length_eq_zero_iff.1 hempty) (hm.parted hslots).1.filled

end Multimap

-- ================================================================ views

variable (m : Multimap)

private theorem SlotView.remove_atomic (k v : Value) : Atomic m ((SlotView.mk m k).remove v) := by
  unfold SlotView.remove
  split
  · exact .failed m _
  · exact .failed m _
  · exact (m.remove_atomic k v).mapResult _

private theorem SlotView.popEnd_atomic (k : Value) (operation : String)
    (pick : OrderedSet → Except Fault Value) :
    Atomic m ((SlotView.mk m k).popEnd operation pick) := by
  unfold SlotView.popEnd
  split
  · exact .failed m _
  · exact .failed m _
  · split
    · exact .failed m _
    · next v _ => exact (m.remove_atomic k v).mapResult _

/-- The one failure that comes after the basic change: that of a key that
was not there. -/
theorem KeyView.remove_atomic {keys values : Comparator} (hm : m.Intact keys values) (k : Value) :
    Atomic m ((KeyView.mk m).remove k) := by
  refine ((m.removeAll_atomic k).mapResult _).andThen fun gone hgone => ?_
  cases gone with
  | true => exact .done m _ _ _
  | false =>
    intro e _
    unfold Outcome.mapResult at hgone
    obtain ⟨s, hs, hsize⟩ := map_eq_ok.1 hgone
    have hempty : s.size = 0 := by simpa using hsize
    exact m.removeAll_nothing hm hs hempty

private theorem KeyView.popEnd_atomic (operation : String)
    (pick : OrderedMap OrderedSet → Except Fault Value) :
    Atomic m ((KeyView.mk m).popEnd operation pick) := by
  unfold KeyView.popEnd
  split
  · exact .failed m _
  · split
    · exact .failed m _
    · next k _ => exact (m.removeAll_atomic k).mapResult _

private theorem MapView.erase_atomic (k : Value) : Atomic m (m.asMap.erase k) := by
  unfold MapView.erase
  split
  · exact .failed m _
  · exact .failed m _
  · exact (m.removeAll_atomic k).mapResult _

private theorem MapView.pop?_atomic (k : Value) : Atomic m (m.asMap.pop? k) := by
  unfold MapView.pop?
  split
  · exact .failed m _
  · exact .done m _ _ _
  · exact (m.removeAll_atomic k).mapResult _

private theorem MapView.pop?_none {k : Value} (h : (m.asMap.pop? k).result = .ok none) :
    (m.asMap.pop? k).state = m := by
  unfold MapView.pop? at h ⊢
  split at h
  · cases h
  · rfl
  · unfold Outcome.mapResult at h
    obtain ⟨s, -, hs⟩ := map_eq_ok.1 h
    cases hs

private theorem MapView.pop_atomic (k : Value) : Atomic m (m.asMap.pop k) := by
  refine (MapView.pop?_atomic m k).andThen fun values hvalues => ?_
  cases values with
  | none =>
    intro e _
    exact MapView.pop?_none m hvalues
  | some s => exact .done m _ _ _

-- ======================================================== any operation

/-- What a change through the view of a key's values comes to, whatever its
result is. -/
def SlotChange.outcome (m : Multimap) (k : Value) : SlotChange → Outcome Multimap Unit
  | add v => ((SlotView.mk m k).add v).mapResult fun _ => ()
  | discard v => ((SlotView.mk m k).discard v).mapResult fun _ => ()
  | remove v => (SlotView.mk m k).remove v
  | clear => (SlotView.mk m k).clear
  | popFirst => (SlotView.mk m k).popFirst.mapResult fun _ => ()
  | popLast => (SlotView.mk m k).popLast.mapResult fun _ => ()
  | edit operator itself o => operator.edit (Operand.editSlot m.valueComparator k) itself m o

/-- What a change through the key view comes to, whatever its result is. -/
def KeyChange.outcome (m : Multimap) : KeyChange → Outcome Multimap Unit
  | discard k => ((KeyView.mk m).discard k).mapResult fun _ => ()
  | remove k => (KeyView.mk m).remove k
  | clear => .done m.clear ()
  | popFirst => (KeyView.mk m).popFirst.mapResult fun _ => ()
  | popLast => (KeyView.mk m).popLast.mapResult fun _ => ()

/-- What a change through the map view comes to, whatever its result is. -/
def MapChange.outcome (m : Multimap) : MapChange → Outcome Multimap Unit
  | erase k => m.asMap.erase k
  | pop k true => (m.asMap.pop? k).mapResult fun _ => ()
  | pop k false => (m.asMap.pop k).mapResult fun _ => ()
  | clear => .done m.clear ()

/-- What an operation comes to, whatever its result is. -/
def Operation.outcome (m : Multimap) : Operation → Outcome Multimap Unit
  | put k v => (m.put k v).mapResult fun _ => ()
  | putAll k vs => (m.putEach k vs).mapResult fun _ => ()
  | putAllFrom items => (m.putItems items).mapResult fun _ => ()
  | remove k v => (m.remove k v).mapResult fun _ => ()
  | removeAll k => (m.removeAll k).mapResult fun _ => ()
  | replaceValues k vs => (m.replaceValues k vs).mapResult fun _ => ()
  | clear => .done m.clear ()
  | onSlot k change => change.outcome m k
  | onKeys change => change.outcome m
  | onMap change => change.outcome m

/-- The state of an outcome is what the operation leaves behind. -/
theorem Operation.state_outcome (operation : Operation) :
    (operation.outcome m).state = operation.after m := by
  cases operation with
  | onSlot k change => cases change <;> rfl
  | onKeys change => cases change <;> rfl
  | onMap change =>
    cases change with
    | pop k withDefault => cases withDefault <;> rfl
    | _ => rfl
  | _ => rfl

/-- An operation that is one change, not several one after the other. -/
def Operation.IsSingle : Operation → Prop
  | putAll .. | putAllFrom .. | replaceValues .. | onSlot _ (.edit ..) => False
  | _ => True

/-- A single call on the values of a key changes nothing if it fails. -/
private theorem SlotChange.atomic {k : Value} {change : SlotChange}
    (h : (Operation.onSlot k change).IsSingle) : Atomic m (change.outcome m k) := by
  cases change with
  | add v => exact (m.put_atomic k v).mapResult _
  | discard v => exact (m.remove_atomic k v).mapResult _
  | remove v => exact SlotView.remove_atomic m k v
  | clear => exact (m.removeAll_atomic k).mapResult _
  | popFirst => exact (SlotView.popEnd_atomic m k _ _).mapResult _
  | popLast => exact (SlotView.popEnd_atomic m k _ _).mapResult _
  | edit operator itself o => exact h.elim

private theorem KeyChange.atomic {keys values : Comparator} (hm : m.Intact keys values)
    (change : KeyChange) : Atomic m (change.outcome m) := by
  cases change with
  | discard k => exact ((m.removeAll_atomic k).mapResult _).mapResult _
  | remove k => exact KeyView.remove_atomic m hm k
  | clear => exact .done m _ _ _
  | popFirst => exact (KeyView.popEnd_atomic m _ _).mapResult _
  | popLast => exact (KeyView.popEnd_atomic m _ _).mapResult _

private theorem MapChange.atomic (change : MapChange) : Atomic m (change.outcome m) := by
  cases change with
  | erase k => exact MapView.erase_atomic m k
  | pop k withDefault =>
    cases withDefault with
    | true => exact (MapView.pop?_atomic m k).mapResult _
    | false => exact (MapView.pop_atomic m k).mapResult _
  | clear => exact .done m _ _ _

/-- A single change of an intact multimap that fails changes nothing. -/
theorem Operation.atomic {keys values : Comparator} (hm : m.Intact keys values)
    {operation : Operation} (h : operation.IsSingle) : Atomic m (operation.outcome m) := by
  cases operation with
  | put k v => exact (m.put_atomic k v).mapResult _
  | remove k v => exact (m.remove_atomic k v).mapResult _
  | removeAll k => exact (m.removeAll_atomic k).mapResult _
  | clear => exact .done m _ _ _
  | onSlot k change => exact SlotChange.atomic m h
  | onKeys change => exact change.atomic m hm
  | onMap change => exact change.atomic m
  | putAll k vs => exact h.elim
  | putAllFrom items => exact h.elim
  | replaceValues k vs => exact h.elim

namespace Multimap

/-- Under any two comparators and after any operations, failed ones
included: a single change that fails, with whatever error, leaves the
multimap as it was. -/
theorem single_step_atomic (keys values : Comparator) (history : List Operation)
    {operation : Operation} (hsingle : operation.IsSingle) {e : Fault}
    (hfailed : (operation.outcome ((empty keys values).afterAll history)).result = .error e) :
    operation.after ((empty keys values).afterAll history)
      = (empty keys values).afterAll history := by
  rw [← Operation.state_outcome]
  exact Operation.atomic _ (Intact.afterAll keys values history) hsingle e hfailed

/-- Keys by a comparator that gives up on one of them, with an error that a
look-up takes for an absence: putting an entry under it gets past the
look-up and fails where the new slot is to go. -/
theorem single_step_atomic_fragile :
    let keys : Comparator :=
      { identity := 5, compare := .fragile (.text "b") (.foreign "KeyError" "b") }
    let m := (empty keys .natural).afterAll
      [.put (.text "a") (.int 1), .put (.text "c") (.int 4), .put (.text "c") (.int 3)]
    let operation : Operation := .put (.text "b") (.int 2)
    operation.IsSingle
      ∧ ∃ e, (operation.outcome m).result = .error e ∧ e.kind = "KeyError"
        ∧ operation.after m = m := by
  intro keys m operation
  have hkind : (operation.outcome m).result.mapError Fault.kind = .error "KeyError" := by
    decide +kernel
  refine ⟨trivial, ?_⟩
  cases hresult : (operation.outcome m).result with
  | ok u =>
    rw [hresult] at hkind
    cases hkind
  | error e =>
    rw [hresult] at hkind
    injection hkind with hkind
    exact ⟨e, rfl, hkind, single_step_atomic keys .natural _ trivial hresult⟩

end Multimap

end Collation
