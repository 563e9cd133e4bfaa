/-
What can happen to a multimap in the course of time. A history is a list of
operations, made on the multimap itself or through one of its views; an
operation that fails leaves a state too, and the history goes on from
there.

Whatever the operations do they do by putting an entry, removing one,
removing a key and clearing. `Leads` is the closure of these four, failed
attempts included, and no operation leaves it (`Operation.leads`). So a
property that the four keep (`Kept`) holds in every state that a history
comes to, and in every state in the midst of an operation as well.

Keys and values may be confined to domains. Only what is put counts there
(`Operation.Puts`): an operation may look up and take out what it likes.
-/
import Collation.Proofs.Fallible
import Collation.Proofs.Multimap.Steps
import Collation.Session.Operators

namespace Collation

open Session (SetOperator)

namespace Multimap

-- ======================================================= basic changes

/-- The second multimap comes from the first by basic changes, of which
those that put an entry put a key and a value of the two domains. -/
inductive Leads (K V : Value → Prop) : Multimap → Multimap → Prop where
  | refl (m : Multimap) : Leads K V m m
  | put {m n : Multimap} {k v : Value} : K k → V v → Leads K V m n → Leads K V m (n.put k v).state
  | remove {m n : Multimap} (k v : Value) : Leads K V m n → Leads K V m (n.remove k v).state
  | removeAll {m n : Multimap} (k : Value) : Leads K V m n → Leads K V m (n.removeAll k).state
  | clear {m n : Multimap} : Leads K V m n → Leads K V m n.clear

/-- No basic change breaks the property, if what is put is of the domains. -/
structure Kept (K V : Value → Prop) (P : Multimap → Prop) : Prop where
  put : ∀ m k v, K k → V v → P m → P (m.put k v).state
  remove : ∀ m k v, P m → P (m.remove k v).state
  removeAll : ∀ m k, P m → P (m.removeAll k).state
  clear : ∀ m, P m → P m.clear

variable {K V : Value → Prop} {l m n : Multimap} {k v : Value} {α β : Type}

/-- What every put and every removal keeps is true wherever they lead. -/
theorem Kept.of_leads {P : Multimap → Prop} (hP : Kept K V P) (h : Leads K V m n) (hm : P m) :
    P n := by
  induction h with
  | refl => exact hm
  | put hk hv _ ih => exact hP.put _ _ _ hk hv ih
  | remove k v _ ih => exact hP.remove _ k v ih
  | removeAll k _ ih => exact hP.removeAll _ k ih
  | clear _ ih => exact hP.clear _ ih

namespace Leads

/-- Where one run of changes ends another can start. -/
private theorem trans (h : Leads K V l m) (h' : Leads K V m n) : Leads K V l n := by
  induction h' with
  | refl => exact h
  | put hk hv _ ih => exact .put hk hv ih
  | remove k v _ ih => exact .remove k v ih
  | removeAll k _ ih => exact .removeAll k ih
  | clear _ ih => exact .clear ih

/-- Going on from what an operation left. -/
theorem andThen {o : Outcome Multimap α} {f : Multimap → α → Outcome Multimap β}
    (h : Leads K V m o.state) (hf : ∀ a, Leads K V o.state (f o.state a).state) :
    Leads K V m (o.andThen f).state :=
  Outcome.state_andThen h fun a => h.trans (hf a)

end Leads

-- ================================================== compound operations

/-- Putting values is a run of puts. -/
theorem putEach_leads (hk : K k) : ∀ {vs : List Value}, (∀ v ∈ vs, V v) → ∀ m : Multimap,
    Leads K V m (m.putEach k vs).state := by
  intro vs
  induction vs with
  | nil => exact fun _ => .refl
  | cons v vs ih =>
    intro hvs m
    rw [List.forall_mem_cons] at hvs
    exact .andThen (.put hk hvs.1 (.refl m)) fun _ => ih hvs.2 _

/-- Putting entries is a run of puts. -/
theorem putItems_leads : ∀ {items : List Value},
    (∀ item ∈ items, ∀ k v, entryOf item = .ok (k, v) → K k ∧ V v) → ∀ m : Multimap,
    Leads K V m (m.putItems items).state := by
  intro items
  induction items with
  | nil => exact fun _ => .refl
  | cons item rest ih =>
    intro hitems m
    rw [List.forall_mem_cons] at hitems
    unfold putItems
    cases hentry : entryOf item with
    | error e => exact .refl m
    | ok e =>
      obtain ⟨hk, hv⟩ := hitems.1 e.1 e.2 hentry
      exact .andThen (.put hk hv (.refl m)) fun _ => ih hitems.2 _

/-- Putting values in place of others is a removal and a run of puts. -/
theorem replaceValues_leads (m : Multimap) (hk : K k) {vs : List Value} (hvs : ∀ v ∈ vs, V v) :
    Leads K V m (m.replaceValues k vs).state :=
  .andThen (.removeAll k (.refl m)) fun _ => putEach_leads hk hvs _

/-- Putting entries keeps whatever putting each of them keeps. -/
theorem putEntries_kept {pairs : List (Value × Value)} {P : Multimap → Prop}
    (hput : ∀ e ∈ pairs, ∀ m : Multimap, P m → P (m.put e.1 e.2).state) (h : P m) :
    P (m.putEntries pairs).state := by
  induction pairs generalizing m with
  | nil => exact h
  | cons e pairs ih =>
    obtain ⟨he, hpairs⟩ := List.forall_mem_cons.1 hput
    exact Outcome.state_andThen (he m h) fun _ => ih hpairs (he m h)

/-- Behind an entry that was put the others are put. -/
theorem putEntries_cons (pairs : List (Value × Value)) {k v : Value} {isNew : Bool}
    (h : (m.put k v).result = .ok isNew) :
    (m.putEntries ((k, v) :: pairs)).state = ((m.put k v).state.putEntries pairs).state
      ∧ (m.putEntries ((k, v) :: pairs)).result
        = ((m.put k v).state.putEntries pairs).result.map (isNew || ·) := by
  rw [putEntries]
  exact Outcome.andThen_ok (f := fun m isNew => (m.putEntries pairs).mapResult (isNew || ·)) h

/-- Pairs as they are handed over. -/
def pairItems (pairs : List (Value × Value)) : List Value := pairs.map fun e => .tuple [e.1, e.2]

/-- Pairs are put as the entries they are. -/
theorem putItems_pairItems (pairs : List (Value × Value)) :
    ∀ m : Multimap, m.putItems (pairItems pairs) = m.putEntries pairs := by
  induction pairs with
  | nil => exact fun _ => rfl
  | cons e rest ih =>
    intro m
    have hentry : entryOf (.tuple [e.1, e.2]) = .ok (e.1, e.2) := rfl
    show m.putItems (.tuple [e.1, e.2] :: pairItems rest) = _
    rw [putItems, hentry, putEntries]
    simp only [ih]

end Multimap

-- ============================================================ operations

open Multimap

/-- A change made through the view of the values under a key. -/
inductive SlotChange where
  | add (v : Value)
  | discard (v : Value)
  | remove (v : Value)
  | clear
  | popFirst
  | popLast
  /-- A set operator in place; `itself` tells that the operand is this very
  view. -/
  | edit (operator : SetOperator) (itself : Bool) (operand : Operand)

/-- A change made through the view of the keys. -/
inductive KeyChange where
  | discard (k : Value)
  | remove (k : Value)
  | clear
  | popFirst
  | popLast

/-- A change made through the view as a map. -/
inductive MapChange where
  | erase (k : Value)
  /-- Taking a key out, which may be absent if there is a default. -/
  | pop (k : Value) (withDefault : Bool)
  | clear

inductive Operation where
  | put (k v : Value)
  | putAll (k : Value) (vs : List Value)
  /-- The entries that the items of a source stand for. -/
  | putAllFrom (items : List Value)
  | remove (k v : Value)
  | removeAll (k : Value)
  | replaceValues (k : Value) (vs : List Value)
  | clear
  | onSlot (k : Value) (change : SlotChange)
  | onKeys (change : KeyChange)
  | onMap (change : MapChange)

/-- What a change through the view of a key's values leaves behind. -/
def SlotChange.after (m : Multimap) (k : Value) : SlotChange → Multimap
  | add v => ((SlotView.mk m k).add v).state
  | discard v => ((SlotView.mk m k).discard v).state
  | remove v => ((SlotView.mk m k).remove v).state
  | clear => (SlotView.mk m k).clear.state
  | popFirst => (SlotView.mk m k).popFirst.state
  | popLast => (SlotView.mk m k).popLast.state
  | edit operator itself o =>
    (operator.edit (Operand.editSlot m.valueComparator k) itself m o).state

/-- What a change through the key view leaves behind. -/
def KeyChange.after (m : Multimap) : KeyChange → Multimap
  | discard k => ((KeyView.mk m).discard k).state
  | remove k => ((KeyView.mk m).remove k).state
  | clear => m.clear
  | popFirst => (KeyView.mk m).popFirst.state
  | popLast => (KeyView.mk m).popLast.state

/-- What a change through the map view leaves behind. -/
def MapChange.after (m : Multimap) : MapChange → Multimap
  | erase k => (m.asMap.erase k).state
  | pop k true => (m.asMap.pop? k).state
  | pop k false => (m.asMap.pop k).state
  | clear => m.clear

/-- What an operation leaves behind, whether it succeeds or fails. -/
def Operation.after (m : Multimap) : Operation → Multimap
  | put k v => (m.put k v).state
  | putAll k vs => (m.putEach k vs).state
  | putAllFrom items => (m.putItems items).state
  | remove k v => (m.remove k v).state
  | removeAll k => (m.removeAll k).state
  | replaceValues k vs => (m.replaceValues k vs).state
  | clear => m.clear
  | onSlot k change => change.after m k
  | onKeys change => change.after m
  | onMap change => change.after m

/-- What is left after several operations. -/
def Multimap.afterAll (m : Multimap) (history : List Operation) : Multimap :=
  history.foldl Operation.after m

-- ======================================================= what is put

/-- What the change through the view of a key's values may put is of the
two domains. -/
def SlotChange.Puts (K V : Value → Prop) (k : Value) : SlotChange → Prop
  | add v => K k ∧ V v
  | edit .union _ o | edit .symmDiff _ o => K k ∧ ∀ v, .ok v ∈ o.listing → V v
  | _ => True

/-- What the operation may put is of the two domains. -/
def Operation.Puts (K V : Value → Prop) : Operation → Prop
  | put k v => K k ∧ V v
  | putAll k vs | replaceValues k vs => K k ∧ ∀ v ∈ vs, V v
  | putAllFrom items => ∀ item ∈ items, ∀ k v, entryOf item = .ok (k, v) → K k ∧ V v
  | onSlot k change => change.Puts K V k
  | _ => True

/-- Nothing is put outside the domains of all values. -/
theorem Operation.puts_any (operation : Operation) :
    operation.Puts (fun _ => True) (fun _ => True) := by
  cases operation with
  | onSlot k change =>
    cases change with
    | edit operator itself o => cases operator <;> simp [Puts, SlotChange.Puts]
    | _ => simp [Puts, SlotChange.Puts]
  | _ => simp [Puts]

section

variable {c : Comparator} {o o' : Operand}

/-- A set that is collected from readings has no other elements. -/
theorem Maker.mem_of_collectOrdered {test : Operand → Except Fault Bool} :
    ∀ {xs : List (Except Fault Operand)} {s s' : OrderedSet}, collectOrdered test s xs = .ok s' →
      ∀ v ∈ s'.items, v ∈ s.items ∨ ∃ x, .ok x ∈ xs ∧ x.toValue none = v := by
  intro xs
  induction xs with
  | nil =>
    intro s s' h v hv
    cases h
    exact .inl hv
  | cons reading xs ih =>
    intro s s' h v hv
    rw [collectOrdered] at h
    obtain ⟨x, hx, htest⟩ := bind_eq_ok.1 h
    obtain ⟨passes, -, hrest⟩ := bind_eq_ok.1 htest
    subst hx
    have hlater : (∃ y, .ok y ∈ xs ∧ y.toValue none = v) →
        ∃ y, .ok y ∈ .ok x :: xs ∧ y.toValue none = v :=
      fun ⟨y, hy, hyv⟩ => ⟨y, List.mem_cons_of_mem _ hy, hyv⟩
    -- an element that fails the test is passed over
    cases passes with
    | false => exact (ih hrest v hv).imp_right hlater
    | true =>
      obtain ⟨⟨grown, isNew⟩, hadd, hmore⟩ := bind_eq_ok.1 hrest
      rcases ih hmore v hv with hold | hnew
      · rcases OrderedSet.add_eq_ok hadd with ⟨-, -, rfl, -⟩ | ⟨low, high, -, hitems, -, rfl, -⟩
        · exact .inl hold
        · rw [List.mem_append, List.mem_cons] at hold
          rw [hitems, List.mem_append]
          rcases hold with hlow | rfl | hhigh
          · exact .inl (.inl hlow)
          · exact .inr ⟨x, List.mem_cons_self, rfl⟩
          · exact .inl (.inr hhigh)
      · exact .inr (hlater hnew)

/-- An operand made a set has no other elements. -/
theorem Maker.mem_of_asSet (h : (ordered c).asSet o = .ok o') :
    ∀ v, .ok v ∈ o'.listing → .ok v ∈ o.listing := by
  intro v hv
  unfold asSet at h
  split at h
  · cases h
    exact hv
  · obtain ⟨s, hs, rfl⟩ := map_eq_ok.1 h
    have hmem : v ∈ s.items := by
      simpa [Operand.listing, Operand.elements, Operand.readings, Except.map, Operand.toValue]
        using hv
    rcases mem_of_collectOrdered hs v hmem with hnone | ⟨x, hx, rfl⟩
    · exact absurd hnone List.not_mem_nil
    · exact List.mem_map.2 ⟨.ok x, hx, rfl⟩

end

-- =============================================== every state is led to

variable {K V : Value → Prop} {m : Multimap} {k : Value}

private theorem SlotView.remove_leads (v : Value) :
    Leads K V m ((SlotView.mk m k).remove v).state := by
  unfold SlotView.remove
  split
  · exact .refl m
  · exact .refl m
  · exact .remove k v (.refl m)

/-- Popping an end of the values is a removal, if anything. -/
theorem SlotView.popEnd_leads (operation : String) (pick : OrderedSet → Except Fault Value) :
    Leads K V m ((SlotView.mk m k).popEnd operation pick).state := by
  unfold SlotView.popEnd
  split
  · exact .refl m
  · exact .refl m
  · split
    · exact .refl m
    · next x _ => exact .remove k x (.refl m)

/-- So is popping an end of the keys. -/
private theorem KeyView.popEnd_leads (operation : String)
    (pick : OrderedMap OrderedSet → Except Fault Value) :
    Leads K V m ((KeyView.mk m).popEnd operation pick).state := by
  unfold KeyView.popEnd
  split
  · exact .refl m
  · split
    · exact .refl m
    · next x _ => exact .removeAll x (.refl m)

private theorem KeyView.remove_leads (k : Value) : Leads K V m ((KeyView.mk m).remove k).state := by
  refine .andThen (.removeAll k (.refl m)) fun gone => ?_
  cases gone with
  | true => exact .refl _
  | false => exact .refl _

private theorem MapView.erase_leads (k : Value) : Leads K V m (m.asMap.erase k).state := by
  unfold MapView.erase
  split
  · exact .refl m
  · exact .refl m
  · exact .removeAll k (.refl m)

private theorem MapView.pop?_leads (k : Value) : Leads K V m (m.asMap.pop? k).state := by
  unfold MapView.pop?
  split
  · exact .refl m
  · exact .refl m
  · exact .removeAll k (.refl m)

private theorem MapView.pop_leads (k : Value) : Leads K V m (m.asMap.pop k).state := by
  refine .andThen (MapView.pop?_leads k) fun values => ?_
  cases values with
  | none => exact .refl _
  | some s => exact .refl _

section

variable {σ : Type} {P : σ → Prop} {step : σ → Value → Outcome σ Unit}

/-- What one change after the other keeps, for elements whose reading may
fail. -/
theorem Operand.Editable.each_keeps : ∀ {xs : List (Except Fault Value)},
    (∀ v, .ok v ∈ xs → ∀ s, P s → P (step s v).state) → ∀ {s : σ}, P s →
      P (each step s xs).state := by
  intro xs
  induction xs with
  | nil => exact fun _ s h => h
  | cons x xs ih =>
    intro hstep s h
    cases x with
    | error e => exact h
    | ok v =>
      have hfirst := hstep v List.mem_cons_self s h
      have hrest : P (each step (step s v).state xs).state :=
        ih (fun w hw => hstep w (List.mem_cons_of_mem _ hw)) hfirst
      exact Outcome.state_andThen hfirst fun _ => hrest

private theorem Operand.Editable.eachOf_keeps {o : Except Fault Operand}
    (hstep : ∀ o', o = .ok o' → ∀ v, .ok v ∈ o'.listing → ∀ s, P s → P (step s v).state) {s : σ}
    (h : P s) : P (eachOf step s o).state := by
  cases o with
  | error e => exact h
  | ok o => exact each_keeps (hstep o rfl) h

/-- An operator in place adds elements of its operand, if it adds any,
discards elements, and clears. -/
theorem Session.SetOperator.edit_keeps (operator : SetOperator) (ed : Operand.Editable σ)
    (itself : Bool) {o : Operand}
    (hadd : operator = .union ∨ operator = .symmDiff → ∀ v, .ok v ∈ o.listing → ∀ s, P s →
      P (ed.add s v).state)
    (hdiscard : ∀ v s, P s → P (ed.discard s v).state) (hclear : ∀ s, P s → P (ed.clear s).state)
    {s : σ} (h : P s) : P (operator.edit ed itself s o).state := by
  cases operator with
  | union =>
    exact Operand.Editable.eachOf_keeps (o := .ok o)
      (fun o' ho v hv => hadd (.inl rfl) v (Except.ok.inj ho ▸ hv)) h
  | inter => exact Operand.Editable.eachOf_keeps (fun _ _ v _ => hdiscard v) h
  | diff =>
    cases itself with
    | true => exact hclear s h
    | false => exact Operand.Editable.eachOf_keeps (o := .ok o) (fun _ _ v _ => hdiscard v) h
  | symmDiff =>
    cases itself with
    | true => exact hclear s h
    | false =>
      refine Operand.Editable.eachOf_keeps (fun o' ho v hv s h => ?_) h
      -- the question for the element fails, or tells which of the two is done
      unfold Operand.Editable.toggle
      split
      · exact h
      · exact hdiscard v s h
      · exact hadd (.inr rfl) v (Maker.mem_of_asSet ho v hv) s h

end

/-- What an operator in place may put into a slot is of the domains. -/
theorem SlotChange.puts_of_edit {operator : SetOperator} {itself : Bool} {o : Operand}
    (h : (SlotChange.edit operator itself o).Puts K V k)
    (hadds : operator = .union ∨ operator = .symmDiff) : K k ∧ ∀ v, .ok v ∈ o.listing → V v := by
  rcases hadds with rfl | rfl
  · exact h
  · exact h

/-- An operator in place changes a slot value by value. -/
theorem Session.SetOperator.edit_leads (operator : SetOperator) (c : Comparator) (itself : Bool)
    (m : Multimap) (o : Operand) (h : (SlotChange.edit operator itself o).Puts K V k) :
    Leads K V m (operator.edit (Operand.editSlot c k) itself m o).state := by
  refine operator.edit_keeps (Operand.editSlot c k) itself (fun hadds v hv n hn => ?_)
    (fun v n hn => .remove k v hn) (fun n hn => .removeAll k hn) (.refl m)
  obtain ⟨hk, hvs⟩ := SlotChange.puts_of_edit h hadds
  exact .put hk (hvs v hv) hn

/-- Whatever is done to the values of a key, puts and removals do it. -/
private theorem SlotChange.leads (m : Multimap) (k : Value) (change : SlotChange)
    (h : change.Puts K V k) : Leads K V m (change.after m k) := by
  cases change with
  | add v => exact .put h.1 h.2 (.refl m)
  | discard v => exact .remove k v (.refl m)
  | remove v => exact SlotView.remove_leads v
  | clear => exact .removeAll k (.refl m)
  | popFirst => exact SlotView.popEnd_leads _ _
  | popLast => exact SlotView.popEnd_leads _ _
  | edit operator itself o => exact operator.edit_leads _ itself m o h

private theorem KeyChange.leads (m : Multimap) (change : KeyChange) :
    Leads K V m (change.after m) := by
  cases change with
  | discard k => exact .removeAll k (.refl m)
  | remove k => exact KeyView.remove_leads k
  | clear => exact .clear (.refl m)
  | popFirst => exact KeyView.popEnd_leads _ _
  | popLast => exact KeyView.popEnd_leads _ _

private theorem MapChange.leads (m : Multimap) (change : MapChange) :
    Leads K V m (change.after m) := by
  cases change with
  | erase k => exact MapView.erase_leads k
  | pop k withDefault =>
    cases withDefault with
    | true => exact MapView.pop?_leads k
    | false => exact MapView.pop_leads k
  | clear => exact .clear (.refl m)

/-- No operation does anything but basic changes. -/
theorem Operation.leads (m : Multimap) (operation : Operation) (h : operation.Puts K V) :
    Leads K V m (operation.after m) := by
  cases operation with
  | put k v => exact .put h.1 h.2 (.refl m)
  | putAll k vs => exact putEach_leads h.1 h.2 m
  | putAllFrom items => exact putItems_leads h m
  | remove k v => exact .remove k v (.refl m)
  | removeAll k => exact .removeAll k (.refl m)
  | replaceValues k vs => exact replaceValues_leads m h.1 h.2
  | clear => exact .clear (.refl m)
  | onSlot k change => exact change.leads m k h
  | onKeys change => exact change.leads m
  | onMap change => exact change.leads m

/-- Any history is a run of puts and removals. -/
private theorem Multimap.afterAll_leads : ∀ {history : List Operation},
    (∀ operation ∈ history, operation.Puts K V) → ∀ m : Multimap,
    Leads K V m (m.afterAll history) := by
  intro history
  induction history with
  | nil => exact fun _ => .refl
  | cons operation history ih =>
    intro h m
    rw [List.forall_mem_cons] at h
    exact (operation.leads m h.1).trans (ih h.2 _)

/-- A property that no basic change breaks holds after any history if it
holds before. -/
theorem Multimap.Kept.afterAll {P : Multimap → Prop} (hP : Kept K V P) (hm : P m)
    {history : List Operation} (h : ∀ operation ∈ history, operation.Puts K V) :
    P (m.afterAll history) :=
  hP.of_leads (afterAll_leads h m) hm

end Collation
