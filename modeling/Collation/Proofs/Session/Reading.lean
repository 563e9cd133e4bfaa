/-
Actions of a session that only read. An action is run on a session, and
what it comes to is a result or an error and the session after it
(`Action.runOn`). One that reads changes nothing that is there; all it may
do is put things at new places, for a view that is an element of something
needs a place (`Session.Grown`). Reading is closed under doing one thing
after the other (`Reads.bind`), so every listing of elements reads, and so
does the collecting of values and entries that are to be stored
(`valuesFor_reads`, `entryItems_reads`) or the reading of one entry
(`entryAt_reads`): whatever it fails with, the session keeps all its things
as they were.
-/
import Collation.Session.Members

namespace Collation

open Session (valueUnder valuesFor entryItems entryAt)

-- ============================================================== running

namespace Action

variable {α β : Type} {s t : Session}

/-- What an action comes to in a session, and the session after it. -/
def runOn (a : Action α) (s : Session) : Except Fault α × Session := (ExceptT.run a).run s

@[simp] theorem runOn_ofExcept (x : Except Fault α) : (ofExcept x : Action α).runOn s = (x, s) := by
  cases x with
  | error e => rfl
  | ok a => rfl

/-- The second step runs on what the first one leaves. -/
theorem runOn_bind (a : Action α) (f : α → Action β) :
    (a >>= f).runOn s =
      match a.runOn s with
      | (.ok x, t) => (f x).runOn t
      | (.error e, t) => (.error e, t) := by
  show (ExceptT.bindCont f (a.runOn s).1 : StateM Session _).run (a.runOn s).2 = _
  cases a.runOn s with
  | mk result t =>
    cases result with
    | error e => rfl
    | ok x => rfl

/-- A first step that succeeds. -/
theorem runOn_bind_ok {a : Action α} {f : α → Action β} {x : α} (h : a.runOn s = (.ok x, t)) :
    (a >>= f).runOn s = (f x).runOn t := by
  rw [runOn_bind, h]

/-- A first step that fails. -/
theorem runOn_bind_error {a : Action α} {f : α → Action β} {e : Fault}
    (h : a.runOn s = (.error e, t)) : (a >>= f).runOn s = (.error e, t) := by
  rw [runOn_bind, h]

@[simp] theorem runOn_thing (r : Ref) :
    (thing r).runOn s = (.ok (s.things.getD r (.plain .null)), s) := rfl

/-- A thing is read as it stands. -/
theorem runOn_thing_of {r : Ref} {x : Thing} (h : s.things[r]? = some x) :
    (thing r).runOn s = (.ok x, s) := by
  rw [runOn_thing, Array.getD_eq_getD_getElem?, h, Option.getD_some]

end Action

-- ============================================================== reading

namespace Session

variable {s t u : Session}

/-- The second session is the first one with more things at new places. -/
def Grown (s t : Session) : Prop := ∃ more, t = { s with things := s.things ++ more }

namespace Grown

/-- Nothing was added yet. -/
theorem refl (s : Session) : Grown s s := ⟨#[], by rw [Array.append_empty]⟩

/-- What was added on the way. -/
theorem trans (h : Grown s t) (h' : Grown t u) : Grown s u := by
  obtain ⟨more, rfl⟩ := h
  obtain ⟨most, rfl⟩ := h'
  exact ⟨more ++ most, by rw [Array.append_assoc]⟩

/-- What is at a place stays there. -/
theorem thing (h : Grown s t) {r : Ref} {x : Thing} (hx : s.things[r]? = some x) :
    t.things[r]? = some x := by
  obtain ⟨more, rfl⟩ := h
  obtain ⟨hr, -⟩ := Array.getElem?_eq_some_iff.1 hx
  show (s.things ++ more)[r]? = some x
  rw [Array.getElem?_append_left hr, hx]

/-- One thing was added. -/
theorem push (s : Session) (x : Thing) : Grown s { s with things := s.things.push x } :=
  ⟨#[x], by rw [Array.append_singleton]⟩

end Grown

end Session

/-- An action that leaves what is there as it is, whether it succeeds or
fails. -/
def Action.Reads {α : Type} (a : Action α) : Prop := ∀ s, Session.Grown s (a.runOn s).2

namespace Action

variable {α β : Type} {a : Action α} {f : α → Action β}

namespace Reads

private theorem pure (x : α) : Reads (pure x : Action α) := fun s => .refl s

private theorem throw (e : Fault) : Reads (throw e : Action α) := fun s => .refl s

private theorem of_except (x : Except Fault α) : Reads (ofExcept x : Action α) := by
  intro s
  rw [runOn_ofExcept]
  exact .refl s

private theorem thing (r : Ref) : Reads (thing r) := fun s => .refl s

private theorem add (x : Thing) : Reads (add x) := fun s => .push s x

/-- Two steps that read are one. -/
private theorem bind (ha : a.Reads) (hf : ∀ x, (f x).Reads) : (a >>= f).Reads := by
  intro s
  have hfirst := ha s
  rw [runOn_bind]
  generalize a.runOn s = first at hfirst ⊢
  obtain ⟨result, t⟩ := first
  cases result with
  | error e => exact hfirst
  | ok x => exact hfirst.trans (hf x t)

private theorem mapM (hf : ∀ x, (f x).Reads) (xs : List α) : (xs.mapM f).Reads := by
  induction xs with
  | nil =>
    rw [List.mapM_nil]
    exact .pure _
  | cons x xs ih =>
    rw [List.mapM_cons]
    exact (hf x).bind fun _ => ih.bind fun _ => .pure _

end Reads

/-- An action comes to an error in a session, and what is there is as it
was. -/
def Refuses (a : Action α) (s : Session) : Prop := ∃ e t, a.runOn s = (.error e, t) ∧ s.Grown t

namespace Refuses

variable {s : Session}

/-- A reading that fails is a refusal. -/
theorem of_reads (ha : a.Reads) {e : Fault} {t : Session} (h : a.runOn s = (.error e, t)) :
    a.Refuses s := by
  have hgrown := ha s
  rw [h] at hgrown
  exact ⟨e, t, h, hgrown⟩

/-- What is refused at the first step is refused. -/
theorem bind (ha : a.Refuses s) : (a >>= f).Refuses s := by
  obtain ⟨e, t, h, hgrown⟩ := ha
  exact ⟨e, t, runOn_bind_error h, hgrown⟩

/-- What is refused after something that reads. -/
theorem after (ha : a.Reads) (hf : ∀ x t, s.Grown t → (f x).Refuses t) : (a >>= f).Refuses s := by
  cases h : a.runOn s with
  | mk result t =>
    cases result with
    | error e => exact (of_reads ha h).bind
    | ok x =>
      have hgrown := ha s
      rw [h] at hgrown
      obtain ⟨e, u, hrun, hgrown'⟩ := hf x t hgrown
      exact ⟨e, u, by rw [runOn_bind_ok h, hrun], hgrown.trans hgrown'⟩

/-- One thing refused is enough, wherever it is among those done in turn. -/
theorem mapM {f : α → Action β} (hf : ∀ x, (f x).Reads) {xs : List α} {x : α} (hx : x ∈ xs)
    (hrefuses : ∀ t, s.Grown t → (f x).Refuses t) : (xs.mapM f).Refuses s := by
  induction xs generalizing s with
  | nil => cases hx
  | cons y ys ih =>
    rw [List.mapM_cons]
    cases hx with
    | head => exact (hrefuses s (.refl s)).bind
    | tail _ hx =>
      refine .after (hf y) fun _ t hgrown => .bind ?_
      exact ih hx fun u hgrown' => hrefuses u (hgrown.trans hgrown')

end Refuses

/-- An action that looks at what is there: it succeeds and changes nothing
at all. -/
def Peeks (a : Action α) : Prop := ∀ s, ∃ x, a.runOn s = (.ok x, s)

namespace Peeks

private theorem pure (x : α) : Peeks (pure x : Action α) := fun _ => ⟨x, rfl⟩

private theorem thing (r : Ref) : Peeks (thing r) := fun _ => ⟨_, rfl⟩

private theorem bind (ha : a.Peeks) (hf : ∀ x, (f x).Peeks) : (a >>= f).Peeks := by
  intro s
  obtain ⟨x, hx⟩ := ha s
  rw [runOn_bind_ok hx]
  exact hf x s

private theorem reads (ha : a.Peeks) : a.Reads := by
  intro s
  obtain ⟨x, hx⟩ := ha s
  rw [hx]
  exact .refl s

end Peeks

-- ============================================== listing what there is

variable {r owner : Ref}

/-- A multimap is read by peeking. -/
theorem multimap_peeks (r : Ref) : (multimap r).Peeks := by
  refine (Peeks.thing r).bind fun t => ?_
  cases t <;> exact .pure _

/-- So is a map. -/
theorem orderedMap_peeks (r : Ref) : (orderedMap r).Peeks := by
  refine (Peeks.thing r).bind fun t => ?_
  cases t <;> exact .pure _

private theorem viewOf_peeks (kind : ViewKind) (owner : Ref) : (viewOf kind owner).Peeks := by
  cases kind
  case mapKeys => exact (orderedMap_peeks owner).bind fun _ => .pure _
  case mapItems => exact (orderedMap_peeks owner).bind fun _ => .pure _
  case mapValues => exact (orderedMap_peeks owner).bind fun _ => .pure _
  all_goals exact (multimap_peeks owner).bind fun _ => .pure _

theorem operand_peeks (r : Ref) : (operand r).Peeks := by
  refine (Peeks.thing r).bind fun t => ?_
  cases t
  case slotView owner key => exact (multimap_peeks owner).bind fun _ => .pure _
  case view kind owner => exact viewOf_peeks kind owner
  all_goals exact .pure _

theorem value_peeks (r : Ref) : (value r).Peeks := (operand_peeks r).bind fun _ => .pure _

private theorem slotValue_reads (owner : Ref) (key : Value) : (slotValue owner key).Reads :=
  (Reads.add _).bind fun r => (value_peeks r).reads

private theorem element_reads (owner : Ref) (o : Operand) : (element owner o).Reads := by
  unfold element
  split
  · exact slotValue_reads owner _
  · exact (slotValue_reads owner _).bind fun _ => .pure _
  · exact .pure _

theorem asNow_peeks (v : Value) : (asNow v).Peeks := by
  unfold asNow
  split
  · exact value_peeks _
  · exact .pure _

/-- The value for an element, if reading it did not fail. -/
def listed (owner : Ref) (reading : Except Fault Operand) : Action (Except Fault Value) :=
  match reading with
  | .ok x => do return .ok (← element owner x)
  | .error e => return .error e

private theorem listed_reads (owner : Ref) (reading : Except Fault Operand) :
    (listed owner reading).Reads := by
  cases reading with
  | error e => exact .pure _
  | ok x => exact (element_reads owner x).bind fun _ => .pure _

theorem ownerOfElements_peeks (r : Ref) : (ownerOfElements r).Peeks := by
  refine (Peeks.thing r).bind fun t => ?_
  cases t <;> exact .pure _

private theorem readings_reads (r : Ref) : (readings r).Reads :=
  (ownerOfElements_peeks r).reads.bind fun owner =>
    (operand_peeks r).reads.bind fun o => .mapM (listed_reads owner) o.elements

/-- Listing elements adds things at most. -/
theorem elements_reads (r : Ref) : (elements r).Reads := by
  refine (operand_peeks r).reads.bind fun o => ?_
  split
  · exact .throw _
  · exact (readings_reads r).bind fun _ => .of_except _

private theorem elementAt_reads (r : Ref) (i : Nat) : (elementAt r i).Reads := by
  refine (operand_peeks r).reads.bind fun o => ?_
  split
  · exact .pure _
  · exact (ownerOfElements_peeks r).reads.bind fun owner => (Reads.of_except _).bind fun x =>
      (element_reads owner x).bind fun _ => .pure _

end Action

-- ================================================== what is to be stored

open Collation.Action

private theorem valueUnder_reads (r : Ref) (k : Value) : (valueUnder r k).Reads := by
  refine (Reads.thing r).bind fun t => (operand_peeks r).reads.bind fun o => ?_
  split
  · exact (Reads.of_except _).bind fun _ => slotValue_reads _ _
  · exact (Reads.of_except _).bind fun _ => .pure _

/-- Reading an entry adds things at most. -/
theorem entryAt_reads (source : Ref) (i : Nat) : (entryAt source i).Reads := by
  refine (elementAt_reads source i).bind fun found => ?_
  cases found with
  | none => exact .pure _
  | some x =>
    refine (operand_peeks source).reads.bind fun o => ?_
    split
    · exact (valueUnder_reads source x).bind fun _ => .pure _
    · exact (asNow_peeks x).reads.bind fun _ => (Reads.of_except _).bind fun _ => .pure _

/-- So does collecting values. -/
theorem valuesFor_reads (key : Value) (source : Ref) : (valuesFor key source).Reads := by
  refine (Reads.thing source).bind fun t => ?_
  cases t
  case plain v =>
    dsimp only
    split
    · exact .throw _
    · exact elements_reads source
  all_goals exact elements_reads source

end Collation
