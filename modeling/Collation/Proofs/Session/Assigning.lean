/-
Assigning to an ordered map of a session what a source gives. The entries
of the source are read one by one, each in the session that the assignments
before it leave, and a reading or an assignment that fails ends it all;
what was assigned before it stays. What is read so is the entries that the
source supplies (`Supplies`), and the map is changed as by assigning these
in turn (`assigned_of_supplies`).

A source may be a view of the very map. Then an assignment can put further
elements ahead of those that were read, or change what is read next, and
under some comparators there is no end to it. A multimap has no end either,
since it has an element at every position. Every other source comes to an
end (`exists_supplies`): no assignment changes it, or it is the map itself,
and then each assignment puts in what is there already
(`OrderedMap.set_get`).
-/
import Collation.Proofs.Maps.Order
import Collation.Proofs.Session.Bulk

namespace Collation

open Collation.Action

-- ================================================== maps in a session

namespace OrderedMap

variable {β : Type} {m m' : OrderedMap β} {k : Value} {v : β}
  {rest : List (Except Fault (Value × β))}

/-- To assign to a key what it has changes nothing. -/
theorem set_get (h : m.get k = .ok v) : m.set k v = .ok m := by
  obtain ⟨s, hs, rfl⟩ := map_eq_ok.1 h
  unfold slot at hs
  unfold OrderedMap.set
  cases hfind : m.find k with
  | error e =>
    rw [hfind] at hs
    cases hs
  | ok found =>
    rw [hfind] at hs
    cases found with
    | none => cases hs
    | some i =>
      obtain ⟨before, t, after, hslots, rfl, -⟩ := Bisect.find_parted hfind
      have hat : m.slots[before.length]? = some t := by simp [hslots]
      have hts : t = s := by
        dsimp only [Option.bind] at hs
        rw [hat] at hs
        exact Except.ok.inj hs
      dsimp only
      unfold setAt
      rw [hslots, modify_parted, hts, ← hts, ← hslots]

/-- After an assignment come the others. -/
theorem setEach_cons_ok (h : m.set k v = .ok m') :
    m.setEach id (.ok (k, v) :: rest) = m'.setEach id rest := by
  rw [setEach]
  dsimp only [id]
  rw [h]

/-- An assignment that fails is the last. -/
theorem setEach_cons_refused {e : Fault} (h : m.set k v = .error e) :
    m.setEach id (.ok (k, v) :: rest) = .failed m e := by
  rw [setEach]
  dsimp only [id]
  rw [h]

end OrderedMap

namespace Session

variable {s t u : Session} {r source owner : Ref} {m n : OrderedMap Value} {mm : Multimap}
  {k v : Value} {α : Type}

/-- The ordered map that a session has at a place. -/
def Keeps (s : Session) (r : Ref) (m : OrderedMap Value) : Prop :=
  s.things[r]? = some (.orderedMap m)

/-- What the first session has at other places the second one has too. -/
def Apart (r : Ref) (s t : Session) : Prop :=
  ∀ place x, place ≠ r → s.things[place]? = some x → t.things[place]? = some x

private theorem Apart.refl (r : Ref) (s : Session) : Apart r s s := fun _ _ _ h => h

/-- More things are no change to those that are there. -/
theorem Apart.grown (h : Apart r s t) (hgrown : t.Grown u) : Apart r s u :=
  fun place x hplace hx => hgrown.thing (h place x hplace hx)

private theorem Keeps.unique (h : s.Keeps r m) (h' : s.Keeps r n) : n = m := by
  unfold Keeps at h h'
  rw [h] at h'
  cases h'
  rfl

/-- A map is still kept when there are more things. -/
theorem Grown.keeps (h : s.Grown t) (hm : s.Keeps r m) : t.Keeps r m := h.thing hm

/-- The session with another ordered map at a place. -/
def withMap (s : Session) (r : Ref) (m : OrderedMap Value) : Session :=
  { s with things := s.things.setIfInBounds r (.orderedMap m) }

/-- The new map is kept in place of the old one. -/
theorem keeps_withMap (h : s.Keeps r m) : (s.withMap r n).Keeps r n := by
  obtain ⟨hr, -⟩ := Array.getElem?_eq_some_iff.1 h
  show (s.things.setIfInBounds r _)[r]? = _
  rw [Array.getElem?_setIfInBounds_self_of_lt hr]

/-- Neither is a change to the one map. -/
theorem Apart.withMap (h : Apart r s t) : Apart r s (t.withMap r n) := by
  intro place x hplace hx
  show (t.things.setIfInBounds r _)[place]? = _
  rw [Array.getElem?_setIfInBounds_ne hplace.symm, h place x hplace hx]

/-- The map is read as it is kept. -/
theorem runOn_orderedMap (h : s.Keeps r m) : (Action.orderedMap r).runOn s = (.ok m, s) := by
  unfold Action.orderedMap
  rw [runOn_bind_ok (runOn_thing_of h)]
  rfl

/-- A change that fails leaves the session; one that succeeds leaves the new
map. -/
theorem runOn_changeMap (h : s.Keeps r m)
    (change : OrderedMap Value → Except Fault (OrderedMap Value × α)) :
    (changeMap r change).runOn s =
      match change m with
      | .error e => (.error e, s)
      | .ok (m', a) => (.ok a, s.withMap r m') := by
  unfold changeMap
  rw [runOn_bind_ok (runOn_orderedMap h), runOn_bind, runOn_ofExcept]
  cases change m with
  | error e => rfl
  | ok r => rfl

/-- So with an assignment. -/
theorem runOn_assign (h : s.Keeps r m) (k v : Value) :
    (assign r k v).runOn s =
      match m.set k v with
      | .error e => (.error e, s)
      | .ok m' => (.ok (), s.withMap r m') := by
  unfold assign
  rw [runOn_changeMap h]
  cases m.set k v with
  | error e => rfl
  | ok m' => rfl

-- ==================================================== what is supplied

/-- The entries that a source supplies from a position on, for a map of the
session: each is read in the session that the assignments before it leave.
They end with the source, with a reading that fails or with an entry that
cannot be assigned. -/
inductive Supplies (r source : Ref) :
    Session → Nat → List (Except Fault (Value × Value)) → Prop where
  | done {s t : Session} {i : Nat} : (entryAt source i).runOn s = (.ok none, t) →
    Supplies r source s i []
  | failed {s t : Session} {i : Nat} {e : Fault} :
    (entryAt source i).runOn s = (.error e, t) → Supplies r source s i [.error e]
  | refused {s t : Session} {i : Nat} {k v : Value} {m : OrderedMap Value} {e : Fault} :
    (entryAt source i).runOn s = (.ok (some (k, v)), t) → t.Keeps r m → m.set k v = .error e →
    Supplies r source s i [.ok (k, v)]
  | assigned {s t : Session} {i : Nat} {k v : Value} {m m' : OrderedMap Value}
      {rest : List (Except Fault (Value × Value))} :
    (entryAt source i).runOn s = (.ok (some (k, v)), t) → t.Keeps r m → m.set k v = .ok m' →
    Supplies r source (t.withMap r m') (i + 1) rest →
    Supplies r source s i (.ok (k, v) :: rest)

/-- What assigning entries in turn comes to. -/
def Assigned (s : Session) (r : Ref) (m : OrderedMap Value)
    (entries : List (Except Fault (Value × Value))) (out : Except Fault Unit × Session) : Prop :=
  Apart r s out.2 ∧ out.2.Keeps r (m.setEach id entries).state
    ∧ out.1 = (m.setEach id entries).result

/-- One entry is read and assigned, then those after it. -/
theorem assignFrom_eq (r source : Ref) (i : Nat) :
    assignFrom r source i = (do
      match ← entryAt source i with
      | none => return
      | some (k, v) =>
        assign r k v
        assignFrom r source (i + 1)) := by
  unfold assignFrom
  rw [repeatM_eq_of_monadTail]
  unfold repeatM.body
  rw [bind_assoc]
  refine bind_congr fun entry => ?_
  cases entry with
  | none => rw [pure_bind]
  | some e => rw [bind_assoc]; rfl

private theorem grown_of_entryAt {result : Except Fault (Option (Value × Value))} {i : Nat}
    (h : (entryAt source i).runOn s = (result, t)) : s.Grown t := by
  have hgrown := entryAt_reads source i s
  rwa [h] at hgrown

/-- Assigning from a source assigns the entries that it supplies. -/
theorem assigned_of_supplies {entries : List (Except Fault (Value × Value))} {i : Nat}
    (h : Supplies r source s i entries) (hm : s.Keeps r m) :
    Assigned s r m entries ((assignFrom r source i).runOn s) := by
  -- along what is supplied; each assignment starts where the one before it ended
  induction h generalizing m with
  | done hread =>
    have hgrown := grown_of_entryAt hread
    rw [assignFrom_eq, runOn_bind_ok hread]
    exact ⟨(Apart.refl r _).grown hgrown, hgrown.keeps hm, rfl⟩
  | failed hread =>
    have hgrown := grown_of_entryAt hread
    rw [assignFrom_eq, runOn_bind_error hread]
    exact ⟨(Apart.refl r _).grown hgrown, hgrown.keeps hm, rfl⟩
  | @refused s t i k v n e hread hn hset =>
    have hgrown := grown_of_entryAt hread
    obtain rfl := Keeps.unique (hgrown.keeps hm) hn
    have hassign := runOn_assign hn (k := k) (v := v)
    rw [hset] at hassign
    unfold Assigned
    rw [assignFrom_eq, runOn_bind_ok hread, runOn_bind_error hassign,
      OrderedMap.setEach_cons_refused hset]
    exact ⟨(Apart.refl r _).grown hgrown, hn, rfl⟩
  | @assigned s t i k v n n' rest hread hn hset _ ih =>
    have hgrown := grown_of_entryAt hread
    obtain rfl := Keeps.unique (hgrown.keeps hm) hn
    have hassign := runOn_assign hn (k := k) (v := v)
    rw [hset] at hassign
    obtain ⟨hapart, hkept, hresult⟩ := ih (keeps_withMap hn)
    unfold Assigned
    rw [assignFrom_eq, runOn_bind_ok hread, runOn_bind_ok hassign,
      OrderedMap.setEach_cons_ok hset]
    exact ⟨fun place x hplace hx =>
      hapart place x hplace (((Apart.refl r _).grown hgrown).withMap place x hplace hx),
      hkept, hresult⟩

-- ============================================ sources that come to an end

/-- All but a multimap have their elements at the positions of the listing. -/
private theorem elementAt?_eq {o : Operand} (hends : ∀ n, o ≠ .multimap n) (i : Nat) :
    o.elementAt? i = o.elements[i]? := by
  cases o with
  | multimap n => exact absurd rfl (hends n)
  | _ => rfl

/-- Past the elements of a source there is nothing to read. -/
theorem entryAt_past {o : Operand} {i : Nat} (ho : (operand source).runOn s = (.ok o, s))
    (hi : o.elementAt? i = none) : (entryAt source i).runOn s = (.ok none, s) := by
  have hnone : (elementAt source i).runOn s = (.ok none, s) := by
    unfold elementAt
    rw [runOn_bind_ok ho, hi]
    rfl
  unfold entryAt
  rw [runOn_bind_ok hnone]
  rfl

/-- A source comes to an end if it stays what it is while its entries are
assigned. -/
theorem exists_supplies_of_steady {o : Operand} (hends : ∀ n, o ≠ .multimap n)
    (Inv : Session → Prop)
    (hkeeps : ∀ t, Inv t → ∃ m, t.Keeps r m)
    (hsteady : ∀ t, Inv t → (operand source).runOn t = (.ok o, t))
    (hstep : ∀ t i k v u m m', Inv t → (entryAt source i).runOn t = (.ok (some (k, v)), u) →
      u.Keeps r m → m.set k v = .ok m' → Inv (u.withMap r m')) :
    ∀ (n i : Nat) (t : Session), o.elements.length ≤ i + n → Inv t →
      ∃ entries, Supplies r source t i entries := by
  -- by how many elements are left to be read, as they stand all the while
  intro n
  induction n with
  | zero =>
    intro i t hi ht
    have hpast : o.elementAt? i = none :=
      (elementAt?_eq hends i).trans (List.getElem?_eq_none hi)
    exact ⟨[], .done (entryAt_past (hsteady t ht) hpast)⟩
  | succ n ih =>
    intro i t hi ht
    cases hread : (entryAt source i).runOn t with
    | mk result u =>
      cases result with
      | error e => exact ⟨_, .failed hread⟩
      | ok found =>
        cases found with
        | none => exact ⟨_, .done hread⟩
        | some entry =>
          obtain ⟨k, v⟩ := entry
          obtain ⟨m, hm⟩ := hkeeps t ht
          have hm' := (grown_of_entryAt hread).keeps hm
          cases hset : m.set k v with
          | error e => exact ⟨_, .refused hread hm' hset⟩
          | ok m' =>
            obtain ⟨rest, hrest⟩ := ih (i + 1) (u.withMap r m') (by omega)
              (hstep t i k v u m m' ht hread hm' hset)
            exact ⟨_, .assigned hread hm' hset hrest⟩

/-- Where there is no multimap an empty one is read. -/
theorem multimap_cases (h : (multimap owner).runOn s = (.ok mm, s)) :
    s.Holds owner mm ∨ mm = .empty .natural .natural := by
  unfold multimap at h
  unfold Holds
  rw [runOn_bind, runOn_thing, Array.getD_eq_getD_getElem?] at h
  cases hx : s.things[owner]? with
  | none =>
    rw [hx] at h
    cases h
    exact .inr rfl
  | some x =>
    rw [hx] at h
    cases x
    case multimap n =>
      cases h
      exact .inl rfl
    all_goals
      cases h
      exact .inr rfl

/-- And where there is no ordered map. -/
theorem orderedMap_cases (h : (Action.orderedMap owner).runOn s = (.ok m, s)) :
    s.Keeps owner m ∨ m = .empty .natural := by
  unfold Action.orderedMap at h
  unfold Keeps
  rw [runOn_bind, runOn_thing, Array.getD_eq_getD_getElem?] at h
  cases hx : s.things[owner]? with
  | none =>
    rw [hx] at h
    cases h
    exact .inr rfl
  | some x =>
    rw [hx] at h
    cases x
    case orderedMap n =>
      cases h
      exact .inl rfl
    all_goals
      cases h
      exact .inr rfl

/-- A view of something else than what changes stays what it is, unless it has
no elements. -/
theorem viewOf_steady {kind : ViewKind} (hother : owner ≠ r) {o : Operand}
    (ho : (viewOf kind owner).runOn s = (.ok o, s)) :
    o.elements = [] ∨ ∀ t, Apart r s t → (viewOf kind owner).runOn t = (.ok o, t) := by
  obtain ⟨mm, hmm⟩ := multimap_peeks owner s
  obtain ⟨om, hom⟩ := orderedMap_peeks owner s
  unfold viewOf at ho ⊢
  cases kind
  case mapKeys | mapItems | mapValues =>
    rw [runOn_bind_ok hom] at ho
    cases ho
    rcases orderedMap_cases hom with hkeeps | rfl
    · exact .inr fun t hapart => runOn_bind_ok (runOn_orderedMap (hapart owner _ hother hkeeps))
    · exact .inl rfl
  all_goals
    rw [runOn_bind_ok hmm] at ho
    cases ho
    rcases multimap_cases hmm with hholds | rfl
    · exact .inr fun t hapart => runOn_bind_ok (runOn_multimap (hapart owner _ hother hholds))
    · exact .inl rfl

/-- A thing that is neither the map nor a view of it stays what it is while
the map changes, unless there is nothing to read in it anyway. -/
theorem operand_steady (hm : s.Keeps r m) (hother : source ≠ r)
    (hview : ∀ kind, s.things[source]? ≠ some (.view kind r)) {o : Operand}
    (ho : (operand source).runOn s = (.ok o, s)) :
    (∀ x, o.elements[0]? ≠ some (.ok x))
      ∨ ∀ t, Apart r s t → (operand source).runOn t = (.ok o, t) := by
  unfold operand at ho ⊢
  cases hx : s.things[source]? with
  | none =>
    rw [runOn_bind, runOn_thing, Array.getD_eq_getD_getElem?, hx] at ho
    cases ho
    exact .inl fun x => nofun
  | some x =>
    rw [runOn_bind_ok (runOn_thing_of hx)] at ho
    have hstays : ∀ t, Apart r s t → t.things[source]? = some x :=
      fun t hapart => hapart source x hother hx
    -- only what belongs to another thing depends on more than its own
    cases x
    case slotView owner key =>
      obtain ⟨mm, hmm⟩ := multimap_peeks owner s
      dsimp only at ho
      rw [runOn_bind_ok hmm] at ho
      cases ho
      rcases multimap_cases hmm with hholds | rfl
      · have howner : owner ≠ r := by
          rintro rfl
          rw [Holds, hm] at hholds
          cases hholds
        refine .inr fun t hapart => ?_
        rw [runOn_bind_ok (runOn_thing_of (hstays t hapart))]
        exact runOn_bind_ok (runOn_multimap (hapart owner _ howner hholds))
      · exact .inl fun x => nofun
    case view kind owner =>
      have howner : owner ≠ r := by
        rintro rfl
        exact hview kind hx
      rcases viewOf_steady howner ho with hnone | hsteady
      · exact .inl fun x => by simp [hnone]
      · refine .inr fun t hapart => ?_
        rw [runOn_bind_ok (runOn_thing_of (hstays t hapart))]
        exact hsteady t hapart
    all_goals
      refine .inr fun t hapart => ?_
      rw [runOn_bind_ok (runOn_thing_of (hstays t hapart))]
      cases ho
      rfl

namespace PlainMap

variable {x : Thing} {o : Operand} {ks : List Value} {i : Nat}

/-- The entry of a map at a position: the key there with what is under it. -/
theorem runOn_entryAt (h : PlainMap x o ks) (hx : s.things[source]? = some x) (i : Nat) :
    (entryAt source i).runOn s =
      match ks[i]? with
      | none => (.ok none, s)
      | some k => ((o.under k).map fun v => some (k, v.toValue none), s) := by
  have ho := h.runOn_operand hx
  -- a map lists its keys, and what is under each is looked up
  have hkeys : o.elementAt? i = ks[i]?.map fun k => .ok (.value k) := by
    rw [← List.getElem?_map]
    cases h <;> rfl
  have hmap : o.isMap = true := by cases h <;> rfl
  cases hk : ks[i]? with
  | none =>
    rw [hk] at hkeys
    exact entryAt_past ho hkeys
  | some k =>
    have helement : (elementAt source i).runOn s = (.ok (some k), s) := by
      unfold elementAt
      rw [runOn_bind_ok ho, hkeys, hk]
      unfold ownerOfElements
      dsimp only [Option.map_some]
      rw [bind_assoc, runOn_bind_ok (runOn_thing_of hx)]
      cases h <;> rfl
    unfold entryAt
    rw [runOn_bind_ok helement]
    dsimp only
    rw [runOn_bind_ok ho, if_pos hmap]
    have hunder := h.runOn_under hx k
    cases hv : o.under k with
    | error e =>
      rw [hv] at hunder
      exact runOn_bind_error hunder
    | ok v =>
      rw [hv] at hunder
      exact runOn_bind_ok hunder

/-- A map from which an entry was assigned is what it was, be it the very map
that was assigned to. -/
theorem stays (h : PlainMap x o ks) (hx : s.things[source]? = some x)
    (hread : (entryAt source i).runOn s = (.ok (some (k, v)), t)) (hm : t.Keeps r m)
    (hset : m.set k v = .ok n) : (t.withMap r n).things[source]? = some x := by
  have hgrown := grown_of_entryAt hread
  by_cases hself : source = r
  · subst hself
    have hxm : x = .orderedMap m := by
      have hxt := hgrown.thing hx
      unfold Keeps at hm
      rw [hm] at hxt
      exact (Option.some.inj hxt).symm
    subst hxm
    obtain ⟨rfl, rfl⟩ : o = .orderedMap m ∧ ks = m.keys := by
      cases h
      exact ⟨rfl, rfl⟩
    rw [h.runOn_entryAt hx] at hread
    cases hk : m.keys[i]? with
    | none =>
      rw [hk] at hread
      cases hread
    | some k' =>
      rw [hk] at hread
      obtain ⟨hentry, -⟩ := Prod.mk.inj hread
      obtain ⟨w, hw, hkv⟩ := map_eq_ok.1 hentry
      obtain ⟨v', hv', rfl⟩ := map_eq_ok.1 hw
      cases hkv
      -- what is assigned is there already
      obtain rfl := Except.ok.inj ((OrderedMap.set_get hv').symm.trans hset)
      exact keeps_withMap hm
  · exact ((Apart.refl r s).grown hgrown).withMap source x hself hx

/-- What a map supplies is some of its entries, from the first on. -/
theorem supplied (h : PlainMap x o ks) {entries : List (Except Fault (Value × Value))}
    (hs : Supplies r source s i entries) (hx : s.things[source]? = some x) :
    entries <+: (ks.drop i).map fun k => (o.under k).map fun v => (k, v.toValue none) := by
  have hentry : ∀ {s t : Session} {i : Nat} (entry : Except Fault (Value × Value)),
      s.things[source]? = some x → (entryAt source i).runOn s = (entry.map some, t) →
      (ks.drop i).map (fun k => (o.under k).map fun v => (k, v.toValue none))
        = entry :: (ks.drop (i + 1)).map fun k => (o.under k).map fun v => (k, v.toValue none) := by
    intro s t i entry hx hread
    rw [h.runOn_entryAt hx] at hread
    cases hk : ks[i]? with
    | none =>
      rw [hk] at hread
      cases entry <;> cases hread
    | some k =>
      obtain ⟨hi, rfl⟩ := List.getElem?_eq_some_iff.1 hk
      rw [hk] at hread
      rw [List.drop_eq_getElem_cons hi, List.map_cons]
      refine congrArg (· :: _) ?_
      obtain ⟨hresult, -⟩ := Prod.mk.inj hread
      cases hunder : o.under ks[i] with
      | error e =>
        rw [hunder] at hresult
        cases entry with
        | error e' => exact congrArg Except.error (Except.error.inj hresult)
        | ok p => cases hresult
      | ok v =>
        rw [hunder] at hresult
        cases entry with
        | error e' => cases hresult
        | ok p => exact congrArg Except.ok (Option.some.inj (Except.ok.inj hresult))
  induction hs with
  | done hread => exact List.nil_prefix
  | failed hread =>
    rw [hentry (.error _) hx hread]
    exact List.cons_prefix_cons.2 ⟨rfl, List.nil_prefix⟩
  | refused hread hm hset =>
    rw [hentry (.ok _) hx hread]
    exact List.cons_prefix_cons.2 ⟨rfl, List.nil_prefix⟩
  | assigned hread hm hset _ ih =>
    rw [hentry (.ok _) hx hread]
    exact List.cons_prefix_cons.2 ⟨rfl, ih (h.stays hx hread hm hset)⟩

end PlainMap

/-- Nothing is supplied where already the first reading fails or finds
nothing. -/
theorem exists_supplies_of_barren {o : Operand} (ho : (operand source).runOn s = (.ok o, s))
    (hbarren : ∀ x, o.elementAt? 0 ≠ some (.ok x)) :
    ∃ entries, Supplies r source s 0 entries := by
  cases hfirst : o.elementAt? 0 with
  | none => exact ⟨_, .done (entryAt_past ho hfirst)⟩
  | some reading =>
    cases reading with
    | ok x => exact absurd hfirst (hbarren x)
    | error e =>
      obtain ⟨owner, howner⟩ := ownerOfElements_peeks source s
      have hread : (elementAt source 0).runOn s = (.error e, s) := by
        unfold elementAt
        rw [runOn_bind_ok ho, hfirst]
        dsimp only
        rw [runOn_bind_ok howner]
        exact runOn_bind_error (runOn_ofExcept _)
      exact ⟨_, .failed (runOn_bind_error hread)⟩

/-- Whatever is neither a view of the map nor a multimap comes to an end. -/
theorem exists_supplies (hm : s.Keeps r m)
    (hview : ∀ kind, s.things[source]? ≠ some (.view kind r)) (hends : ∀ n, ¬s.Holds source n) :
    ∃ entries, Supplies r source s 0 entries := by
  by_cases hself : source = r
  · subst hself
    have hown : PlainMap (.orderedMap m) (.orderedMap m) m.keys := .ordered m
    exact exists_supplies_of_steady (fun _ => Operand.noConfusion)
      (fun t => t.Keeps source m) (fun t ht => ⟨m, ht⟩)
      (fun t ht => hown.runOn_operand ht)
      (fun t i k v u n n' ht hread hn hset => hown.stays ht hread hn hset) _ 0 s
      (Nat.le_add_left _ 0) hm
  · obtain ⟨o, ho⟩ := operand_peeks source s
    have hlisted : ∀ n, o ≠ .multimap n := by
      rintro n rfl
      exact hends n (holds_of_operand ho)
    rcases operand_steady hm hself hview ho with hbarren | hsteady
    · exact exists_supplies_of_barren ho fun x => elementAt?_eq hlisted 0 ▸ hbarren x
    · refine exists_supplies_of_steady hlisted (fun t => Apart r s t ∧ ∃ m, t.Keeps r m)
        (fun t ht => ht.2) (fun t ht => hsteady t ht.1) ?_ _ 0 s (Nat.le_add_left _ 0)
        ⟨.refl r s, m, hm⟩
      rintro t i k v u n n' ⟨hapart, -⟩ hread hn -
      exact ⟨(hapart.grown (grown_of_entryAt hread)).withMap, n', keeps_withMap hn⟩

end Session

end Collation
