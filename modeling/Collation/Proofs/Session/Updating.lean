/-
Updating an ordered map, as a call in a session, and what is left to tell
of ordered maps as maps modulo their comparators.

An update is the one operation on a map that is not done in one step: it
assigns what its source supplies entry by entry, and reads each entry when
those before it are assigned (`update_sets`). So where any other operation
fails the map is as it was, while an update that fails at an entry has
assigned those before it (`setEach_failed`).
-/
import Collation.Proofs.Maps.Refinement
import Collation.Proofs.Session.Assigning

namespace Collation

open Bisect (Ascends)
open Collation.Action

namespace OrderedMap

variable {β : Type} {m : OrderedMap β} {k : Value} {e : Fault}

-- ============================================================= one key

/-- What stands in the slot that is found. -/
private theorem get_of_find {i : Nat} {s : Slot β} (h : m.find k = .ok (some i))
    (hs : m.slots[i]? = some s) : m.get k = .ok s.value := by
  unfold get slot
  rw [h]
  dsimp only [Option.bind]
  rw [hs]
  rfl

private theorem get_of_find_error (h : m.find k = .error e) : m.get k = .error e := by
  unfold get slot
  rw [h]
  rfl

/-- A key below all others is found in the first slot. -/
theorem find_of_least {c : Comparator} {t : Slot β} {ts : List (Slot β)}
    (ht : c.compare.Gives t.key k .eq) (hts : ∀ s ∈ ts, c.compare.Gives s.key k .gt) :
    find ⟨c, t :: ts⟩ k = .ok (some 0) :=
  Bisect.find_of_parted (List.forall_mem_nil _) ht hts

/-- A key above all others gets a slot behind theirs. -/
theorem set_of_below (h : ∀ s ∈ m.slots, m.comparator.compare.Gives s.key k .lt
      ∧ m.comparator.compare.Gives k s.key .gt) (v : β) :
    m.set k v = .ok { m with slots := m.slots ++ [⟨k, v⟩] } := by
  have hfind : m.find k = .ok none := Bisect.find_of_below fun s hs => (h s hs).1
  have hinsert : Bisect.insert m.comparator.compare Slot.key m.slots ⟨k, v⟩
      = .ok (m.slots ++ [⟨k, v⟩]) := Bisect.insert_of_below fun s hs => (h s hs).2
  unfold OrderedMap.set
  rw [hfind]
  dsimp only
  rw [hinsert]
  rfl

end OrderedMap

namespace Session

variable {s t u : Session} {r : Ref} {m n : OrderedMap Value}

-- ============================================================ the call

/-- Named arguments, plain values, give entries under their names. -/
def Named (s : Session) (named : List (String × Ref))
    (entries : List (Except Fault (Value × Value))) : Prop :=
  List.Forall₂ (fun e entry =>
    ∃ v, s.things[e.2]? = some (.plain v) ∧ entry = .ok (.text e.1, v)) named entries

private theorem runOn_value_plain {v : Value} (h : s.things[r]? = some (.plain v)) :
    (Action.value r).runOn s = (.ok v, s) := by
  unfold Action.value
  rw [runOn_bind_ok (runOn_operand_plain h)]
  rfl

/-- Assigning what is given by name is assigning it in turn. The values are
told by the session before the call, since none of them is the map. -/
theorem assigned_of_named {named : List (String × Ref)}
    {more : List (Except Fault (Value × Value))} (hm : s.Keeps r n) (hnamed : s.Named named more)
    (hapart : Apart r s t) (hkept : t.Keeps r m) :
    Assigned s r m more ((assignNamed r named).runOn t) := by
  induction hnamed generalizing t m with
  | nil => exact ⟨hapart, hkept, rfl⟩
  | @cons e entry named more hentry _ ih =>
    obtain ⟨v, hv, rfl⟩ := hentry
    have hother : e.2 ≠ r := by
      intro hself
      rw [hself, hm] at hv
      cases hv
    have hrun : (assignNamed r (e :: named)).runOn t
        = (assign r (.text e.1) v >>= fun _ => assignNamed r named).runOn t :=
      runOn_bind_ok (runOn_value_plain (hapart e.2 _ hother hv))
    have hassign := runOn_assign hkept (.text e.1) v
    rw [hrun]
    cases hset : m.set (.text e.1) v with
    | error f =>
      rw [hset] at hassign
      unfold Assigned
      rw [runOn_bind_error hassign, OrderedMap.setEach_cons_refused hset]
      exact ⟨hapart, hkept, rfl⟩
    | ok m' =>
      rw [hset] at hassign
      unfold Assigned
      rw [runOn_bind_ok hassign, OrderedMap.setEach_cons_ok hset]
      exact ih hapart.withMap (keeps_withMap hkept)

/-- What an update of a map from a source and named arguments does to it is
what assigning entries in turn does. -/
structure UpdateSets (s : Session) (r : Ref) (m : OrderedMap Value) (source : Ref)
    (named : List (String × Ref)) : Prop where
  /-- Those that the source supplies are assigned, then those of the arguments,
  and nothing else that is there is changed. -/
  sets (entries : List (Except Fault (Value × Value))) : Supplies r source s 0 entries →
    ∃ more, s.Named named more ∧
      let out := (callOn r "update" ⟨[source], named⟩).runOn s
      let sets := (m.setEach id entries).andThen fun m _ => m.setEach id more
      Apart r s out.2 ∧ out.2.Keeps r sets.state ∧ out.1.map (fun _ => ()) = sets.result
  /-- Only a view of the map itself may go on supplying for ever, or a multimap,
  which is read by position. -/
  ends : (∀ kind, s.things[source]? ≠ some (.view kind r)) → (∀ n, ¬s.Holds source n) →
    ∃ entries, Supplies r source s 0 entries
  /-- A map supplies its entries as they were before the call, up to the first
  that fails. -/
  ofMap (x : Thing) (o : Operand) (ks : List Value)
    (entries : List (Except Fault (Value × Value))) : PlainMap x o ks →
    s.things[source]? = some x → Supplies r source s 0 entries →
    entries <+: ks.map fun k => (o.under k).map fun v => (k, v.toValue none)

/-- The call: the source first, then what is given by name, and no answer. -/
theorem runOn_update (hm : s.Keeps r m) (source : Ref) (named : List (String × Ref)) :
    (callOn r "update" ⟨[source], named⟩).runOn s =
      (assignFrom r source 0 >>= fun _ => assignNamed r named >>= fun _ => answerNone).runOn s := by
  unfold callOn
  rw [runOn_bind_ok (runOn_thing_of hm)]
  rfl

/-- The answer is added behind the last assignment. -/
theorem answered_of_assigned {entries : List (Except Fault (Value × Value))} {act : Action Unit}
    (h : Assigned s r m entries (act.runOn t)) :
    let out := (act >>= fun _ => answerNone).runOn t
    Apart r s out.2 ∧ out.2.Keeps r (m.setEach id entries).state
      ∧ out.1.map (fun _ => ()) = (m.setEach id entries).result := by
  obtain ⟨hapart, hkept, hresult⟩ := h
  dsimp only
  rw [← hresult, runOn_bind]
  generalize act.runOn t = out at hapart hkept ⊢
  obtain ⟨result, u⟩ := out
  cases result with
  | error e => exact ⟨hapart, hkept, rfl⟩
  | ok done =>
    have hgrown := Grown.push u (.plain .null)
    exact ⟨hapart.grown hgrown, hgrown.keeps hkept, rfl⟩

/-- An update assigns what its source supplies, then what it is given by name. -/
private theorem update_sets (hm : s.Keeps r m) (source : Ref) (named : List (String × Ref))
    (hnamed : ∀ e ∈ named, ∃ v, s.things[e.2]? = some (.plain v)) :
    UpdateSets s r m source named where
  sets entries hsupplies := by
    obtain ⟨more, hmore⟩ : ∃ more, s.Named named more := forall₂_of_total fun e he => by
      obtain ⟨v, hv⟩ := hnamed e he
      exact ⟨_, v, hv, rfl⟩
    refine ⟨more, hmore, ?_⟩
    obtain ⟨hapart, hkept, hresult⟩ := assigned_of_supplies hsupplies hm
    have hassigned := assigned_of_named hm hmore hapart hkept
    rw [runOn_update hm]
    unfold Outcome.andThen
    dsimp only
    rw [← hresult]
    cases hfrom : (assignFrom r source 0).runOn s with
    | mk result t =>
      rw [hfrom] at hapart hkept hassigned
      cases result with
      | error e =>
        rw [runOn_bind_error hfrom]
        exact ⟨hapart, hkept, rfl⟩
      | ok done =>
        rw [runOn_bind_ok hfrom]
        exact answered_of_assigned hassigned
  ends := exists_supplies hm
  ofMap x o ks entries h hx hsupplies := h.supplied hsupplies hx

/-- The entry that a view of the values of a map supplies: the value at the
position, taken apart. -/
theorem runOn_entryAt_values {owner : Ref} {k v : Value} (source : Ref) (i : Nat)
    (hx : s.things[source]? = some (.view .mapValues owner)) (hm : s.Keeps owner m)
    (hk : m.keys[i]? = some k) (hv : m.get k = .ok v)
    (hplain : ∀ o xs, v = .object o xs → o.identity = none) :
    (entryAt source i).runOn s = ((Multimap.entryOf v).map some, s) := by
  have ho : (operand source).runOn s = (.ok (.mapValues m), s) := by
    unfold operand
    rw [runOn_bind_ok (runOn_thing_of hx)]
    exact runOn_bind_ok (runOn_orderedMap hm)
  have hat : (Operand.mapValues m).elementAt? i = some (.ok (.value v)) := by
    show (m.keys.map fun k => (m.get k).map Operand.value)[i]? = _
    rw [List.getElem?_map, hk, Option.map_some, hv]
    rfl
  have helement : (elementAt source i).runOn s = (.ok (some v), s) := by
    unfold elementAt ownerOfElements
    rw [runOn_bind_ok ho, hat]
    dsimp only
    rw [bind_assoc, runOn_bind_ok (runOn_thing_of hx)]
    rfl
  have hnow : asNow v = pure v := by
    unfold asNow
    split
    · cases hplain _ _ rfl
    · rfl
  have hentry : (do return some (← ofExcept (Multimap.entryOf (← asNow v))) : Action _).runOn s
      = ((Multimap.entryOf v).map some, s) := by
    rw [hnow, pure_bind]
    cases Multimap.entryOf v with
    | error e => rfl
    | ok entry => rfl
  unfold entryAt
  rw [runOn_bind_ok helement]
  exact (runOn_bind_ok ho).trans hentry

end Session

namespace OrderedMap

variable {β : Type} {c : Comparator} {D : Value → Prop} {m : OrderedMap β} {e : Fault}

-- ============================================================= failures

/-- A change that fails leaves the map as it is, whatever the comparator. -/
theorem Change.after_of_failure {change : Change β} (h : change.response m = .failure e) :
    change.after m = m := by
  have hfailed : ∀ {α : Type} {x : Except Fault (OrderedMap β × α)} {e : Fault}, x = .error e →
      (Outcome.ofExcept m x).state = m := by
    rintro α x e rfl
    rfl
  have hof : ∀ {α : Type} {f : α → Response β} {x : Except Fault α}, Response.of f x = .failure e →
      (∀ a, f a ≠ .failure e) → x = .error e := by
    intro α f x h hf
    cases x with
    | error e' => cases h; rfl
    | ok a => exact absurd h (hf a)
  cases change with
  | set k v => exact hfailed (map_eq_error.2 (hof h fun _ => nofun))
  | erase k => exact hfailed (map_eq_error.2 (hof h fun _ => nofun))
  | pop k withDefault =>
    cases withDefault with
    | true => exact hfailed (hof h fun _ => nofun)
    | false => exact hfailed (hof h fun _ => nofun)
  | popItem => exact hfailed (hof h fun _ => nofun)
  | setDefault k v => exact hfailed (hof h fun _ => nofun)
  | clear => cases h

/-- An update that fails at an entry has assigned the entries before it. -/
theorem setEach_failed (hc : c.compare.TotalOn D) :
    ∀ {entries : List (Except Fault (Value × β))}, (∀ k v, .ok (k, v) ∈ entries → D k) →
      ∀ {m : OrderedMap β}, Sorted c D m → (m.setEach id entries).result = .error e →
        ∃ (taken : List (Value × β)) (rest : List (Except Fault (Value × β))),
          entries = taken.map .ok ++ .error e :: rest
          ∧ (m.setEach id (taken.map .ok)).result = .ok ()
          ∧ (m.setEach id entries).state = (m.setEach id (taken.map .ok)).state := by
  intro entries
  induction entries with
  | nil => exact fun _ _ _ h => nomatch h
  | cons entry rest ih =>
    intro hentries m hm h
    cases entry with
    | error f =>
      cases h
      exact ⟨[], rest, rfl, rfl, rfl⟩
    | ok entry =>
      obtain ⟨k, v⟩ := entry
      have hlists : Lists D m (⟨m.slots⟩ : Roster c β) := ⟨hm, .refl _⟩
      obtain ⟨m', hset, hnext⟩ := hlists.set hc (hentries k v List.mem_cons_self) v
      rw [setEach_cons_ok hset] at h ⊢
      obtain ⟨taken, after, hparts, hresult, hstate⟩ :=
        ih (fun k v hkv => hentries k v (List.mem_cons_of_mem _ hkv)) hnext.sorted h
      refine ⟨(k, v) :: taken, after, ?_, ?_, ?_⟩
      · rw [hparts]
        rfl
      · rw [List.map_cons, setEach_cons_ok hset, hresult]
      · rw [List.map_cons, setEach_cons_ok hset, hstate]

-- ======================================= a map modulo its comparator

/-- The map that several requests made of an empty one. -/
abbrev madeBy (c : Comparator) (requests : List (Request β)) : OrderedMap β :=
  (exchange answer (.empty c) requests).1

/-- What can be told of a map that was empty and then had some requests. -/
structure ModuloComparator (c : Comparator) (D : Value → Prop) (requests : List (Request β)) :
    Prop where
  /-- All replies are those of the naive map. -/
  replies : (exchange answer (.empty c) requests).2
    = (exchange Roster.answer (.empty : Roster c β) requests).2
  ascends : Ascends c.compare Slot.key (madeBy c requests).slots
  failed_change (change : Change β) (e : Fault) :
    change.response (madeBy c requests) = .failure e →
      change.after (madeBy c requests) = madeBy c requests
  failed_update (entries : List (Except Fault (Value × β))) (e : Fault) :
    (∀ k v, .ok (k, v) ∈ entries → D k) →
      ((madeBy c requests).setEach id entries).result = .error e →
      ∃ (taken : List (Value × β)) (rest : List (Except Fault (Value × β))),
        entries = taken.map .ok ++ .error e :: rest
          ∧ ((madeBy c requests).setEach id (taken.map .ok)).result = .ok ()
          ∧ ((madeBy c requests).setEach id entries).state
            = ((madeBy c requests).setEach id (taken.map .ok)).state

/-- Under a total preorder on the keys in use a map is the naive one, as far
as the replies tell; and to update a map is to assign in turn what its
source supplies, each entry read when those before it are assigned. -/
theorem replies_eq_roster (hc : c.compare.TotalOn D) (requests : List (Request β))
    (hwithin : ∀ request ∈ requests, request.Within D) :
    ModuloComparator c D requests
      ∧ ∀ (s : Session) (r : Ref) (m : OrderedMap Value) (source : Ref)
          (named : List (String × Ref)), s.Keeps r m →
        (∀ e ∈ named, ∃ v, s.things[e.2]? = some (.plain v)) →
        s.UpdateSets r m source named := by
  obtain ⟨hlists, hreplies⟩ := Lists.exchange hc hwithin (Lists.empty (c := c) (D := D))
  refine ⟨⟨hreplies, hlists.sorted.slots_ascend, ?_, ?_⟩, ?_⟩
  · exact fun change e h => Change.after_of_failure h
  · exact fun entries e hentries h => setEach_failed hc hentries hlists.sorted h
  · exact fun s r m source named hm hnamed => Session.update_sets hm source named hnamed

/-- Texts by their case fold: a slot keeps its key under another spelling
until it goes, and the least key goes first. An update of a map by a view of
its own values assigns the one pair among them, and then reads the half of
it that it has just assigned, which is none. -/
theorem replies_eq_roster_caseFold :
    let requests : List (Request Nat) :=
      [.change (.set (.text "pear") 1), .change (.set (.text "PEAR") 2),
        .storedKey (.text "Pear"), .change (.erase (.text "peaR")),
        .change (.erase (.text "pear")), .change (.setDefault (.text "PEAR") 3),
        .update [.ok (.text "Apple", 4), .error (.absent (.text "x")), .ok (.text "fig", 5)],
        .change .popItem, .change (.pop (.text "apple") true), .get (.text "pear"), .items true]
    let isText : Value → Prop := fun v => ∃ s, v.text? = some s
    let m : OrderedMap Value :=
      ⟨.natural, [⟨.text "a", .tuple [.text "b", .text "c"]⟩]⟩
    let s : Session :=
      { things := #[.orderedMap m, .view .mapValues 0], names := [], settings := {} }
    Comparator.caseFold.compare.TotalOn isText ∧ (∀ request ∈ requests, request.Within isText)
      ∧ ModuloComparator .caseFold isText requests
      ∧ ∃ t, (Session.callOn 0 "update" ⟨[1], []⟩).runOn s = (.error (.tooFewParts 1), t)
        ∧ t.Keeps 0 ⟨.natural, m.slots ++ [⟨.text "b", .text "c"⟩]⟩ := by
  intro requests isText m s
  have hwithin : ∀ request ∈ requests, request.Within isText := by
    simp [requests, isText, Request.Within, Change.Within, Value.text?, or_imp, forall_and]
  obtain ⟨hmodulo, hupdates⟩ := replies_eq_roster Comparator.caseFold_totalOn requests hwithin
  refine ⟨Comparator.caseFold_totalOn, hwithin, hmodulo, ?_⟩
  have hm : s.Keeps 0 m := rfl
  have hlt : Comparator.natural.compare.Gives (.text "a") (.text "b") .lt := by decide +kernel
  have hgt : Comparator.natural.compare.Gives (.text "b") (.text "a") .gt := by decide +kernel
  have ha : Comparator.natural.compare.Gives (.text "a") (.text "a") .eq := by decide +kernel
  have hb : Comparator.natural.compare.Gives (.text "b") (.text "b") .eq := by decide +kernel
  let m' : OrderedMap Value := ⟨.natural, m.slots ++ [⟨.text "b", .text "c"⟩]⟩
  have hset : m.set (.text "b") (.text "c") = .ok m' :=
    set_of_below (by simpa [m] using ⟨hlt, hgt⟩) _
  have hfirst : m.find (.text "a") = .ok (some 0) :=
    find_of_least ha (by simp)
  have hsecond : m'.find (.text "b") = .ok (some 1) :=
    Bisect.find_of_parted (List.forall_mem_singleton.2 hlt) hb (by simp)
  have hpair := Session.runOn_entryAt_values 1 0 rfl hm rfl
    (get_of_find hfirst rfl) (fun _ _ => nofun)
  have hhalf := Session.runOn_entryAt_values (s := s.withMap 0 m') 1 1 rfl rfl rfl
    (get_of_find hsecond rfl) (fun _ _ => nofun)
  have hsupplies : Session.Supplies 0 1 s 0
      [.ok (.text "b", .text "c"), .error (.tooFewParts 1)] :=
    .assigned hpair hm hset (.failed hhalf)
  obtain ⟨more, hmore, -, hkept, hresult⟩ :=
    (hupdates s 0 m 1 [] hm fun _ h => absurd h List.not_mem_nil).sets _ hsupplies
  cases hmore
  rw [setEach_cons_ok hset] at hkept hresult
  generalize (Session.callOn 0 "update" ⟨[1], []⟩).runOn s = out at hkept hresult ⊢
  obtain ⟨result, t⟩ := out
  cases result with
  | ok place => cases hresult
  | error e =>
    cases hresult
    exact ⟨t, rfl, hkept⟩

/-- A source whose look-ups compare an entry of the keys: it can hold a
dictionary without that entry next to null, but looking the dictionary up
fails. The update fails there, and null is assigned all the same. -/
theorem update_halfway :
    let byId : Comparator :=
      { identity := 9
        compare := (Comparison.natural.comparing (SortKey.item (.text "id"))).nullsFirst }
    let source : OrderedMap Value :=
      ((OrderedMap.empty byId).setEach id
        [.ok (.null, .text "a"), .ok (.dict [], .text "b")]).state
    let m : OrderedMap Value := .empty .naturalNullsFirst
    let s : Session :=
      { things := #[.orderedMap m, .orderedMap source], names := [], settings := {} }
    Comparator.naturalNullsFirst.compare.TotalOn (· = .null) ∧ s.Keeps 0 m ∧ m.size = 0
      ∧ ∃ e t m', (Session.callOn 0 "update" ⟨[1], []⟩).runOn s = (.error e, t)
        ∧ e.kind = "KeyError" ∧ t.Keeps 0 m' ∧ m'.size = 1 := by
  intro byId source m s
  have hnull : Comparator.naturalNullsFirst.compare.Gives .null .null .eq :=
    ⟨.int 0, rfl, Answer.side?_int 0⟩
  have htotal : Comparator.naturalNullsFirst.compare.TotalOn (· = .null) := by
    refine ⟨?_, ?_⟩
    · rintro a b rfl rfl
      exact ⟨.eq, hnull, hnull⟩
    · rintro a b d rfl rfl rfl _ _
      exact .inr hnull
  have hm : s.Keeps 0 m := rfl
  have hnulls : byId.compare.Gives .null .null .eq := ⟨.int 0, rfl, Answer.side?_int 0⟩
  have hbelow : byId.compare.Gives .null (.dict []) .lt := ⟨.int (-1), rfl, Answer.side?_int (-1)⟩
  have habove : byId.compare.Gives (.dict []) .null .gt := ⟨.int 1, rfl, Answer.side?_int 1⟩
  have hrefused : byId.compare (.dict []) (.dict []) = .error (.absent (.text "id")) := rfl
  let kept : OrderedMap Value := ⟨byId, [⟨.null, .text "a"⟩, ⟨.dict [], .text "b"⟩]⟩
  have hsource : source = kept := by
    have hfirst : (OrderedMap.empty byId).set .null (Value.text "a")
        = .ok ⟨byId, [⟨.null, .text "a"⟩]⟩ := set_of_below (by simp [empty]) _
    have hsecond : (OrderedMap.mk byId [⟨.null, Value.text "a"⟩]).set (.dict []) (.text "b")
        = .ok kept := set_of_below (by simpa using ⟨hbelow, habove⟩) _
    show ((OrderedMap.empty byId).setEach id _).state = _
    rw [setEach_cons_ok hfirst, setEach_cons_ok hsecond]
    rfl
  have hfound : kept.find .null = .ok (some 0) :=
    find_of_least hnulls (by simpa using habove)
  have hlost : kept.find (.dict []) = .error (.absent (.text "id")) :=
    Bisect.find_of_refused (List.forall_mem_singleton.2 hbelow) hrefused (by simp)
  have hunder : ∀ k, (Operand.orderedMap kept).under k = (kept.get k).map .value := fun _ => rfl
  have hmap : Session.PlainMap (.orderedMap kept) (.orderedMap kept) kept.keys := .ordered kept
  let m' : OrderedMap Value := ⟨.naturalNullsFirst, [⟨.null, .text "a"⟩]⟩
  have hm' : m.set .null (.text "a") = .ok m' := set_of_below (by simp [m, empty]) _
  have hthing : some (Thing.orderedMap source) = some (.orderedMap kept) := by rw [hsource]
  have hx : s.things[1]? = some (.orderedMap kept) := hthing
  have hx' : (s.withMap 0 m').things[1]? = some (.orderedMap kept) := hthing
  have hnull : (Session.entryAt 1 0).runOn s = (.ok (some (.null, .text "a")), s) := by
    rw [hmap.runOn_entryAt hx]
    show (((Operand.orderedMap kept).under .null).map _, s) = _
    rw [hunder, get_of_find hfound rfl]
    rfl
  have hdict : (Session.entryAt 1 1).runOn (s.withMap 0 m')
      = (.error (.absent (.text "id")), s.withMap 0 m') := by
    rw [hmap.runOn_entryAt hx']
    show (((Operand.orderedMap kept).under (.dict [])).map _, _) = _
    rw [hunder, get_of_find_error hlost]
    rfl
  obtain ⟨more, hmore, -, hkept, hresult⟩ :=
    (Session.update_sets hm 1 [] fun _ h => absurd h List.not_mem_nil).sets _
      (.assigned hnull hm hm' (.failed hdict))
  cases hmore
  rw [setEach_cons_ok hm'] at hkept hresult
  generalize (Session.callOn 0 "update" ⟨[1], []⟩).runOn s = out at hkept hresult ⊢
  obtain ⟨result, t⟩ := out
  cases result with
  | ok place => cases hresult
  | error e =>
    cases hresult
    exact ⟨htotal, hm, rfl, _, t, _, rfl, rfl, hkept, rfl⟩

end OrderedMap

end Collation
