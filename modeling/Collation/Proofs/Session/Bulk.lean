/-
Putting many entries at once, as a call in a session. First all that is to
be put is collected, which only reads; if that fails, so does the call, and
nothing is changed. Then the entries are put one by one, and a failure
leaves those before it in place (`Multimap.InTurn`).

What is collected are values under a key, or items that stand for entries.
An item may itself be a thing of the session, such as the view of one slot
where the source is the values of the multimap's own map. It is taken apart
when its turn comes, as the puts before it left it (`turnsOf`), so what is
put next can depend on what was put. All other items are what they were
when they were collected, whatever the source is.
-/
import Collation.Proofs.Multimap.Turns
import Collation.Proofs.Session.Reading
import Collation.Session.Functions

namespace Collation

open Collation.Action
open Multimap (InTurn Turn)

namespace Session

variable {s t u : Session} {r key source : Ref} {m n : Multimap} {k v w : Value} {e : Fault}
  {α : Type}

-- ==================================================== a thing is changed

/-- The multimap that a session has at a place. -/
def Holds (s : Session) (r : Ref) (m : Multimap) : Prop := s.things[r]? = some (.multimap m)

private theorem Grown.holds (h : s.Grown t) (hm : s.Holds r m) : t.Holds r m := h.thing hm

/-- The multimap is read as it is held. -/
theorem runOn_multimap (h : s.Holds r m) : (Action.multimap r).runOn s = (.ok m, s) := by
  unfold Action.multimap
  rw [runOn_bind_ok (runOn_thing_of h)]
  rfl

/-- The session after an operation on the multimap at a place. -/
def keeping (s : Session) (r : Ref) (o : Outcome Multimap α) : Session :=
  { s with things := s.things.setIfInBounds r (.multimap o.state), events := s.events ++ o.events }

private theorem runOn_changeMultimap (h : s.Holds r m) (change : Multimap → Outcome Multimap α) :
    (changeMultimap r change).runOn s = ((change m).result, s.keeping r (change m)) := by
  unfold changeMultimap
  rw [runOn_bind_ok (runOn_multimap h)]
  show ((ofExcept (change m).result : Action α).runOn (s.keeping r (change m))) = _
  rw [runOn_ofExcept]

/-- Of all that was there only the multimap at a place is another. -/
structure Changed (s : Session) (r : Ref) (m : Multimap) (t : Session) : Prop where
  holds : t.Holds r m
  others : ∀ place x, place ≠ r → s.things[place]? = some x → t.things[place]? = some x

private theorem Changed.refl (h : s.Holds r m) : s.Changed r m s := ⟨h, fun _ _ _ hx => hx⟩

private theorem Changed.trans (h : s.Changed r m t) (h' : t.Changed r n u) : s.Changed r n u :=
  ⟨h'.holds, fun place x hplace hx => h'.others place x hplace (h.others place x hplace hx)⟩

/-- What a change leaves is held. -/
private theorem Holds.keeping (h : s.Holds r m) (o : Outcome Multimap α) :
    s.Changed r o.state (s.keeping r o) where
  holds := by
    obtain ⟨hr, -⟩ := Array.getElem?_eq_some_iff.1 h
    show (s.things.setIfInBounds r _)[r]? = _
    rw [Array.getElem?_setIfInBounds_self_of_lt hr]
  others place x hplace hx := by
    show (s.things.setIfInBounds r _)[place]? = _
    rw [Array.getElem?_setIfInBounds_ne hplace.symm, hx]

/-- A call that leaves a multimap at its place, gives an answer or an error,
and changes nothing else that is there. -/
structure Answers (s : Session) (r : Ref) (m : Multimap) (result : Except Fault Thing)
    (out : Except Fault Ref × Session) : Prop where
  holds : out.2.Holds r m
  others : ∀ place x, place ≠ r → s.things[place]? = some x → out.2.things[place]? = some x
  fails : ∀ e, result = .error e → out.1 = .error e
  gives : ∀ x, result = .ok x → ∃ place, out.1 = .ok place ∧ out.2.things[place]? = some x

/-- The answer of what changed a multimap is added after it. -/
theorem answers_of_changed {act : Action α} {result : Except Fault α}
    (hrun : act.runOn s = (result, t)) (h : s.Changed r m t) (answer : α → Thing) :
    Answers s r m (result.map answer) ((act >>= fun a => add (answer a)).runOn s) := by
  rw [runOn_bind, hrun]
  cases result with
  | error e =>
    refine ⟨h.holds, h.others, fun f hf => ?_, fun x hx => ?_⟩
    · cases hf
      rfl
    · cases hx
  | ok a =>
    have hgrown : t.Grown ((add (answer a)).runOn t).2 := .push t (answer a)
    refine ⟨hgrown.holds h.holds, ?_, fun f hf => ?_, fun x hx => ?_⟩
    · exact fun place x hplace hx => hgrown.thing (h.others place x hplace hx)
    · cases hf
    · cases hx
      refine ⟨t.things.size, rfl, ?_⟩
      show (t.things.push (answer a))[t.things.size]? = _
      rw [Array.getElem?_push_size]

/-- So it is for one operation on the multimap. -/
theorem answers_change (h : s.Holds r m) (change : Multimap → Outcome Multimap α)
    (answer : α → Thing) :
    Answers s r (change m).state ((change m).result.map answer)
      ((changeMultimap r change >>= fun a => add (answer a)).runOn s) :=
  answers_of_changed (runOn_changeMultimap h change) (h.keeping _) answer

-- ======================================================== taking turns

/-- The entry that an item stands for in a session. A thing of the session is
taken apart as it is there. -/
def entryNow (s : Session) (item : Value) : Turn :=
  ((asNow item).runOn s).1.bind Multimap.entryOf

/-- What is no thing of the session is taken apart as it stands. -/
theorem entryNow_plain {item : Value} (h : ∀ o xs, item = .object o xs → o.identity = none) :
    entryNow s item = Multimap.entryOf item := by
  unfold entryNow asNow
  split
  · cases h _ _ rfl
  · rfl

/-- The turns that items have at being put into the multimap at a place, each
taken apart in the session that those before it leave. -/
def turnsOf (r : Ref) : Session → Multimap → List Value → List Turn
  | _, _, [] => []
  | s, m, item :: rest =>
    let turn := entryNow s item
    turn :: turnsOf r (s.keeping r (m.putTurn turn)) (m.putTurn turn).state rest

private theorem turnsOf_cons {item : Value} (h : entryNow s item = .ok (k, v)) (rest : List Value) :
    turnsOf r s m (item :: rest)
      = .ok (k, v) :: turnsOf r (s.keeping r (m.put k v)) (m.put k v).state rest := by
  rw [turnsOf, h]
  rfl

/-- Items that are no objects are the same whenever they are read. -/
theorem turnsOf_plain {items : List Value}
    (h : ∀ item ∈ items, ∀ o xs, item = .object o xs → o.identity = none) (r : Ref) :
    ∀ (s : Session) (m : Multimap), turnsOf r s m items = items.map Multimap.entryOf := by
  induction items with
  | nil => exact fun _ _ => rfl
  | cons item rest ih =>
    intro s m
    obtain ⟨hitem, hrest⟩ := List.forall_mem_cons.1 h
    rw [turnsOf, entryNow_plain hitem, ih hrest]
    rfl

/-- The first of some items has its turn, then the others have theirs. -/
theorem runOn_putItems_cons (s : Session) (item : Value) (rest : List Value) :
    (putItems r (item :: rest)).runOn s =
      match entryNow s item with
      | .error e => (.error e, s)
      | .ok (k, v) => (changeMultimap r (·.put k v) >>= fun isNew =>
          putItems r rest >>= fun others => pure (isNew || others)).runOn s := by
  obtain ⟨x, hx⟩ := asNow_peeks item s
  have hentry : entryNow s item = Multimap.entryOf x := by
    unfold entryNow
    rw [hx]
    rfl
  rw [putItems, runOn_bind_ok hx, hentry]
  cases Multimap.entryOf x with
  | error e => rfl
  | ok p => rfl

/-- Putting items is to let them have their turns. -/
theorem runOn_putItems (items : List Value) : ∀ {s : Session} {m : Multimap}, s.Holds r m →
    ∃ t, (putItems r items).runOn s = ((m.putTurns (turnsOf r s m items)).result, t)
      ∧ s.Changed r (m.putTurns (turnsOf r s m items)).state t := by
  induction items with
  | nil => exact fun hm => ⟨_, rfl, .refl hm⟩
  | cons item rest ih =>
    intro s m hm
    rw [runOn_putItems_cons]
    cases hentry : entryNow s item with
    | error e =>
      rw [turnsOf, hentry]
      exact ⟨s, rfl, .refl hm⟩
    | ok p =>
      obtain ⟨k, v⟩ := p
      rw [turnsOf_cons hentry]
      have hkept := hm.keeping (m.put k v)
      have hput := runOn_changeMultimap hm (·.put k v)
      cases hresult : (m.put k v).result with
      | error e =>
        obtain ⟨hstate, hanswer⟩ := Multimap.putTurns_cons_error _ hresult
        rw [hresult] at hput
        rw [hstate, hanswer]
        exact ⟨_, runOn_bind_error hput, hkept⟩
      | ok isNew =>
        obtain ⟨hstate, hanswer⟩ := Multimap.putTurns_cons_ok _ hresult
        obtain ⟨t, hrun, hchanged⟩ := ih hkept.holds
        rw [hresult] at hput
        rw [hstate, hanswer]
        refine ⟨t, ?_, hkept.trans hchanged⟩
        dsimp only
        rw [runOn_bind_ok hput, runOn_bind, hrun]
        cases ((m.put k v).state.putTurns _).result with
        | error e => rfl
        | ok others => rfl

-- ============================================================ the calls

/-- The answer that tells whether there is more than before. -/
def grewFlag (grew : Bool) : Thing := .plain (.bool grew)

/-- The call, step by step: the items, the puts. -/
theorem runOn_put_all_from (hm : s.Holds r m) :
    (callOn r "put_all_from" ⟨[source], []⟩).runOn s
      = (do
          let items ← entryItems source
          putItems r items >>= fun grew => add (grewFlag grew)).runOn s := by
  unfold callOn
  rw [runOn_bind_ok (runOn_thing_of hm)]
  rfl

/-- What becomes of a call that collects values first and then changes the
multimap at a place by them. Where collecting fails the call fails alike,
and all that was there is there as it was. Else the change comes to what
`Comes` says, from the session as it is after collecting. -/
inductive AfterCollecting (s : Session) (r : Ref) (answer : α → Thing)
    (Comes : Session → List Value → Multimap → Except Fault α → Prop) :
    Except Fault (List Value) × Session → Except Fault Ref × Session → Prop where
  | refused {e : Fault} {t : Session} : s.Grown t →
    AfterCollecting s r answer Comes (.error e, t) (.error e, t)
  | changed {vs : List Value} {t : Session} {m : Multimap} {result : Except Fault α}
      {out : Except Fault Ref × Session} : s.Grown t → Comes t vs m result →
    Answers t r m (result.map answer) out → AfterCollecting s r answer Comes (.ok vs, t) out

/-- What comes after collecting, for a change in steps that themselves read. -/
private theorem afterCollecting {collect : Action (List Value)} (hreads : collect.Reads)
    {act : List Value → Action α} (answer : α → Thing)
    {Comes : Session → List Value → Multimap → Except Fault α → Prop}
    (hacts : ∀ vs t, s.Grown t → ∃ m result u, (act vs).runOn t = (result, u)
      ∧ t.Changed r m u ∧ Comes t vs m result) :
    AfterCollecting s r answer Comes (collect.runOn s)
      ((collect >>= fun vs => act vs >>= fun a => add (answer a)).runOn s) := by
  have hgrown := hreads s
  rw [runOn_bind]
  generalize collect.runOn s = collected at hgrown ⊢
  obtain ⟨result, t⟩ := collected
  cases result with
  | error e => exact .refused hgrown
  | ok vs =>
    obtain ⟨m, result, u, hrun, hchanged, hcomes⟩ := hacts vs t hgrown
    exact .changed hgrown hcomes (answers_of_changed hrun hchanged answer)

/-- Collecting with one operation on the multimap behind it. -/
theorem afterCollecting_change (hm : s.Holds r m) {collect : Action (List Value)}
    (hreads : collect.Reads) {change : List Value → Multimap → Outcome Multimap α}
    (answer : α → Thing) (Comes : List Value → Multimap → Except Fault α → Prop)
    (hcomes : ∀ vs, Comes vs (change vs m).state (change vs m).result) :
    AfterCollecting s r answer (fun _ => Comes) (collect.runOn s)
      ((collect >>= fun vs => changeMultimap r (change vs) >>= fun a =>
        add (answer a)).runOn s) :=
  afterCollecting hreads answer fun vs _ hgrown => ⟨_, _, _,
    runOn_changeMultimap (hgrown.holds hm) (change vs), (hgrown.holds hm).keeping _, hcomes vs⟩

/-- The maps to plain values, as things and as operands, with their keys. -/
inductive PlainMap : Thing → Operand → List Value → Prop where
  | dict (es : List (Value × Value)) :
    PlainMap (.plain (.dict es)) (.value (.dict es)) (es.map Prod.fst)
  | ordered (m : OrderedMap Value) : PlainMap (.orderedMap m) (.orderedMap m) m.keys

/-- A plain value is its own operand. -/
theorem runOn_operand_plain (h : s.things[r]? = some (.plain v)) :
    (operand r).runOn s = (.ok (.value v), s) := by
  unfold operand
  rw [runOn_bind_ok (runOn_thing_of h)]
  rfl

namespace PlainMap

variable {x : Thing} {o : Operand} {ks : List Value}

/-- A map is read as the operand it is. -/
theorem runOn_operand (h : PlainMap x o ks) (hx : s.things[r]? = some x) :
    (operand r).runOn s = (.ok o, s) := by
  unfold operand
  rw [runOn_bind_ok (runOn_thing_of hx)]
  cases h <;> rfl

/-- What is read under a key, be it there or not. -/
theorem runOn_under (h : PlainMap x o ks) (hx : s.things[r]? = some x) (k : Value) :
    (valueUnder r k).runOn s = ((o.under k).map (·.toValue none), s) := by
  unfold valueUnder
  rw [runOn_bind_ok (runOn_thing_of hx), runOn_bind_ok (h.runOn_operand hx)]
  have hfound : (do return (← ofExcept (o.under k)).toValue none : Action Value).runOn s
      = ((o.under k).map (·.toValue none), s) := by
    cases o.under k with
    | error e => rfl
    | ok v => rfl
  cases h with
  | dict es => exact hfound
  | ordered m => exact hfound

end PlainMap

-- =========================================================== collecting

/-- The entries of a multimap are all there at once. -/
theorem runOn_entryItems_multimap (h : s.Holds source n) :
    (entryItems source).runOn s = (.ok n.entryTuples, s) := by
  have ho : (operand source).runOn s = (.ok (.multimap n), s) := by
    unfold operand
    rw [runOn_bind_ok (runOn_thing_of h)]
    rfl
  unfold entryItems
  rw [runOn_bind_ok ho]
  rfl

/-- A view is no multimap. -/
theorem runOn_viewOf_ne (kind : ViewKind) (owner : Ref) :
    (viewOf kind owner).runOn s ≠ (.ok (.multimap n), s) := by
  intro hrun
  obtain ⟨m, hm⟩ := multimap_peeks owner s
  obtain ⟨om, hom⟩ := orderedMap_peeks owner s
  unfold viewOf at hrun
  cases kind
  case mapKeys | mapItems | mapValues =>
    rw [runOn_bind_ok hom] at hrun
    cases hrun
  all_goals
    rw [runOn_bind_ok hm] at hrun
    cases hrun

/-- An operand that is a multimap is held under its name. -/
theorem holds_of_operand (h : (operand source).runOn s = (.ok (.multimap n), s)) :
    s.Holds source n := by
  unfold operand at h
  unfold Holds
  cases hx : s.things[source]? with
  | none =>
    rw [runOn_bind, runOn_thing, Array.getD_eq_getD_getElem?, hx] at h
    cases h
  | some x =>
    rw [runOn_bind_ok (runOn_thing_of hx)] at h
    cases x
    case multimap m =>
      cases h
      rfl
    case slotView owner key =>
      dsimp only at h
      obtain ⟨m, hm⟩ := multimap_peeks owner s
      rw [runOn_bind_ok hm] at h
      cases h
    case view kind owner => exact absurd h (runOn_viewOf_ne kind owner)
    all_goals cases h

end Session

end Collation
