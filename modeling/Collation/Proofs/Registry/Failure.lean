/-
Registrations that fail. Registering writes to the two tables of a registry
in turn: the former comparator of the name is made nameless, the name is
given to the new comparator, and the way back is written last. What is
checked before the first write is not all that the writes ask for: the way
back needs a comparator that can be a look-up key. So a call fails in one
of two ways. It is refused by a check, or because the former comparator
cannot be looked up to make it nameless, and then nothing is written
(`register_refused`). Or the new comparator cannot be a look-up key, and
then all is done but the way back (`HalfRegistered`): the name leads to a
comparator that has no name, and the former one has lost its own.

Where no comparator has a name there is nothing to look the former one up
in, so there it need not be a look-up key, and the call goes on to write
(`CanForget`).
-/
import Collation.Proofs.Registry.Histories

namespace Collation

namespace Registry

variable {C : Comparator → Prop} {r start : Registry} {s : Text} {c d : Comparator} {e : Fault}
  {candidate : Option Comparator} {replace : Bool} {x : Value}

-- ====================================================== texts for names

section

variable {es : List (Value × Comparator)} (h : ∀ e ∈ es, ∃ t, e.1 = .text t) (s : Text)
  (c : Comparator)

include h

/-- What is given for a text is found by this text, and no other text finds
anything else than before. -/
theorem lookup_insertEntry_text (t : Text) :
    Value.lookup (.text t) (Value.insertEntry (.text s) c es)
      = if t = s then some c else Value.lookup (.text t) es := by
  induction es with
  | nil =>
    rw [Value.insertEntry, Value.lookup_cons, Value.agree_text]
    by_cases hts : t = s <;> simp [hts]
  | cons e es ih =>
    obtain ⟨⟨u, hu⟩, hes⟩ := List.forall_mem_cons.1 h
    rw [Value.insertEntry, hu, Value.agree_text]
    by_cases hsu : s = u
    · subst hsu
      rw [if_pos (beq_self_eq_true s), Value.lookup_cons, Value.lookup_cons, hu, Value.agree_text]
      by_cases hts : t = s <;> simp [hts]
    · rw [if_neg (by simpa using hsu), Value.lookup_cons, Value.lookup_cons, hu, Value.agree_text,
        ih hes]
      by_cases htu : t = u
      · subst htu
        simp [Ne.symm hsu]
      · simp [htu]

/-- The names stay, and a new one comes last. -/
theorem names_insertEntry_text :
    (Value.insertEntry (.text s) c es).map Prod.fst
      = if Value.lookup (.text s) es = none then es.map Prod.fst ++ [.text s]
        else es.map Prod.fst := by
  induction es with
  | nil => rfl
  | cons e es ih =>
    obtain ⟨⟨u, hu⟩, hes⟩ := List.forall_mem_cons.1 h
    obtain ⟨k, p⟩ := e
    cases hu
    rw [Value.insertEntry, Value.lookup_cons, Value.agree_text]
    by_cases hsu : s = u
    · simp [hsu]
    · have hne : (s == u) = false := by simpa using hsu
      rw [hne, if_neg Bool.false_ne_true, if_neg Bool.false_ne_true, List.map_cons, ih hes]
      split <;> rfl

end

/-- A text leads to what is under it. -/
theorem resolve_text : r.resolve (.text s) =
    match Value.lookup (.text s) r.byName with
    | some c => .ok c
    | none => .error (.misuse (.unknownName (.text s))) := by
  cases hlookup : Value.lookup (.text s) r.byName with
  | none =>
    rw [resolve, Value.find?, hlookup]
    rfl
  | some c => exact resolve_of_lookup rfl hlookup

private theorem resolve_eq_ok_iff : r.resolve (.text s) = .ok c ↔
    Value.lookup (.text s) r.byName = some c :=
  ⟨lookup_of_resolve, resolve_of_lookup rfl⟩

-- ====================================================== the two failures

/-- Registering gets as far as writing: the name is no empty text, it is
free or may be given away, and its former comparator, if any, can be a
look-up key, unless no comparator has a name. -/
structure Writes (r : Registry) (s : Text) (replace : Bool) : Prop where
  nonempty : s ≠ ""
  free : (∃ e, r.resolve (.text s) = .error e) ∨ replace = true
  former : r.byComparator = [] ∨ ∀ p, r.resolve (.text s) = .ok p → p.unhashableAs = none

/-- Of a registration all is done but the way back from the comparator to
its name. -/
structure HalfRegistered (r : Registry) (s : Text) (c : Comparator) (r' : Registry) : Prop where
  resolves : r'.resolve (.text s) = .ok c
  others : ∀ t, t ≠ s → r'.resolve (.text t) = r.resolve (.text t)
  /-- A name that is new is listed. -/
  names : ∃ ns ns', r.names = .ok ns ∧ r'.names = .ok ns'
    ∧ ((∃ p, r.resolve (.text s) = .ok p) → ns' = ns)
    ∧ ((∃ e, r.resolve (.text s) = .error e) → ns'.Perm (.text s :: ns))
  nameless : r'.nameOf c = .error (.misuse (.unregistered c.display))
  /-- The former comparator of the name has none any more. -/
  former : ∀ p, r.resolve (.text s) = .ok p →
    r'.nameOf p = .error (.misuse (.unregistered p.display))
  kept : ∀ d, (∀ p, r.resolve (.text s) = .ok p → p.likeness ≠ d.likeness) →
    r'.nameOf d = r.nameOf d

/-- A comparator that cannot be a look-up key leaves its registration half
done. -/
private theorem halfRegistered (hr : Textual r) {type : String} (hc : c.unhashableAs = some type) :
    HalfRegistered r s c ⟨Value.insertEntry (.text s) c r.byName, r.forgotten (.text s)⟩ where
  resolves := by
    rw [resolve_eq_ok_iff, lookup_insertEntry_text hr, if_pos rfl]
  others t ht := by
    rw [resolve_text, resolve_text, lookup_insertEntry_text hr, if_neg ht]
  names := by
    -- the names are still texts, so they can be listed in order
    have htextual : Textual ⟨Value.insertEntry (.text s) c r.byName, r.forgotten (.text s)⟩ := by
      intro e he
      rcases Value.key_of_mem_insertEntry he with heq | hmem
      · exact ⟨s, heq⟩
      · obtain ⟨f, hf, heq⟩ := List.mem_map.1 hmem
        exact heq ▸ hr f hf
    obtain ⟨ns, hns, hperm⟩ := Value.sort_texts (r.byName.map Prod.fst) (List.forall_mem_map.2 hr)
    obtain ⟨ns', hns', hperm'⟩ := Value.sort_texts _ (List.forall_mem_map.2 htextual)
    have hnames := names_insertEntry_text hr s c
    refine ⟨ns, ns', hns, hns', ?_, ?_⟩
    · rintro ⟨p, hp⟩
      rw [hnames, if_neg (by rw [resolve_eq_ok_iff.1 hp]; nofun), hns] at hns'
      exact (Except.ok.inj hns').symm
    · rintro ⟨e, he⟩
      have hnone : Value.lookup (.text s) r.byName = none := by
        rw [resolve_text] at he
        split at he
        · cases he
        · assumption
      rw [hnames, if_pos hnone] at hperm'
      exact hperm'.trans ((List.perm_append_singleton _ _).trans (hperm.symm.cons _))
  nameless := by
    unfold nameOf
    rw [hc]
  former p hp := nameOf_of_lookup_none (lookup_forgotten_of_lookup (resolve_eq_ok_iff.1 hp))
  kept d hd := by
    unfold nameOf
    rw [lookup_forgotten_other fun p hp => hd p (resolve_eq_ok_iff.2 hp)]

/-- The checks before the first write are those of `Writes`. -/
theorem checks_iff : (r.checkRegistration (.text s) candidate replace = .ok c
      ∧ r.CanForget (.text s)) ↔ candidate = some c ∧ r.Writes s replace := by
  have hnonempty : (Value.text s).isTruthy = true ↔ s ≠ "" := by
    rw [Value.isTruthy, Bool.not_eq_true', Text.isEmpty, List.isEmpty_eq_false_iff]
    exact ⟨fun h heq => h (congrArg Text.points heq), fun h heq => h (congrArg Text.mk heq)⟩
  have hfree : (∃ e, r.resolve (.text s) = .error e) ↔ Value.lookup (.text s) r.byName = none := by
    rw [resolve_text]
    cases Value.lookup (.text s) r.byName with
    | none => exact iff_of_true ⟨_, rfl⟩ rfl
    | some p => exact iff_of_false (fun ⟨_, he⟩ => nomatch he) nofun
  rw [checkRegistration_eq_ok, hnonempty, ← hfree, CanForget]
  simp only [← resolve_eq_ok_iff]
  constructor
  · rintro ⟨⟨hs, hc, -, hfree⟩, hformer⟩
    exact ⟨hc, hs, hfree, hformer⟩
  · rintro ⟨hc, hs, hfree, hformer⟩
    exact ⟨⟨hs, hc, rfl, hfree⟩, hformer⟩

/-- A call that does not get as far as writing changes nothing. -/
theorem register_refused (h : ∀ c, candidate = some c → ¬r.Writes s replace) :
    (r.register (.text s) candidate replace).state = r := by
  unfold register
  split
  · rfl
  · next c hcheck =>
    split
    · rfl
    · next hforget =>
      obtain ⟨hc, hwrites⟩ := checks_iff.1 ⟨hcheck, (forget_eq_ok.1 hforget).2⟩
      exact absurd hwrites (h c hc)

/-- A call that writes does all, or all but the way back. -/
theorem register_written (h : r.Writes s replace) :
    r.register (.text s) (some c) replace =
      match c.unhashableAs with
      | some type => .failed ⟨Value.insertEntry (.text s) c r.byName, r.forgotten (.text s)⟩
          (.unhashable type)
      | none => .done ⟨Value.insertEntry (.text s) c r.byName,
          setName c.likeness (.text s) (r.forgotten (.text s))⟩ () [.registered (.text s)] := by
  obtain ⟨hcheck, hformer⟩ := checks_iff.2 ⟨rfl, h⟩
  unfold register
  rw [hcheck]
  dsimp only
  rw [forget_eq_ok.2 ⟨rfl, hformer⟩]
  dsimp only
  unfold hashableComparator
  cases c.unhashableAs <;> rfl

/-- Failed registrations. After any calls that register under texts, a call
that fails leaves the registry as it was, unless it gets as far as writing.
Then its comparator cannot be a look-up key, and the call leaves half of
its work. -/
theorem register_fails (hstart : Started C start) (history : List Registration)
    (hhistory : ∀ g ∈ history, ∃ t, g.name = .text t) (s : Text)
    (candidate : Option Comparator) (replace : Bool) {e : Fault}
    (hfails : ((start.afterAll history).register (.text s) candidate replace).result = .error e) :
    let r := start.afterAll history
    let r' := (r.register (.text s) candidate replace).state
    ((∀ c, candidate = some c → c.unhashableAs = none) → r' = r)
      ∧ (¬r.Writes s replace → r' = r)
      ∧ ∀ c type, candidate = some c → c.unhashableAs = some type → r.Writes s replace →
        e = .unhashable type ∧ r.HalfRegistered s c r' := by
  intro r r'
  have hr : Textual r := hstart.textual.afterAll hhistory
  refine ⟨fun hhashable => ?_, fun hchecks => register_refused fun _ _ => hchecks, ?_⟩
  · refine register_refused fun c hc hwrites => ?_
    rw [hc, register_written hwrites, hhashable c hc] at hfails
    cases hfails
  · rintro c type rfl hc hwrites
    have hwritten := register_written (c := c) hwrites
    rw [hc] at hwritten
    have hstate : r' = ⟨Value.insertEntry (.text s) c r.byName, r.forgotten (.text s)⟩ :=
      congrArg Outcome.state hwritten
    rw [hwritten] at hfails
    refine ⟨(Except.error.inj hfails).symm, ?_⟩
    rw [hstate]
    exact halfRegistered hr hc

/-- The name of the natural order is to be given to a comparator that cannot
be a look-up key. -/
theorem register_fails_unhashable :
    let awkward : Comparator :=
      { identity := 5, compare := .natural, unhashableAs := some "UnhashableCmp" }
    let history : List Registration := [⟨.text "folded", some .caseFold, false⟩]
    let r := Registry.withBuiltins.afterAll history
    let o := r.register (.text "natural") (some awkward) true
    o.result = .error (.unhashable "UnhashableCmp") ∧ r.Writes "natural" true
      ∧ r.HalfRegistered "natural" awkward o.state := by
  intro awkward history r o
  have hstart : Started ReadyMade .withBuiltins := .withBuiltins fun _ h => h
  have hhistory : ∀ g ∈ history, ∃ t, g.name = .text t :=
    List.forall_mem_singleton.2 ⟨"folded", rfl⟩
  have hfails : o.result = .error (.unhashable "UnhashableCmp") := rfl
  have hwrites : r.Writes "natural" true := by
    refine ⟨by decide, .inr rfl, .inr fun p hp => ?_⟩
    obtain rfl : Comparator.natural = p := Except.ok.inj hp
    rfl
  obtain ⟨-, -, hhalf⟩ :=
    register_fails hstart history hhistory "natural" (some awkward) true hfails
  exact ⟨hfails, hwrites, (hhalf awkward _ rfl rfl hwrites).2⟩

/-- Where no comparator has a name, one that cannot be a look-up key does not
keep another such one from its name. -/
example :
    let awkward : Comparator :=
      { identity := 5, compare := .natural, unhashableAs := some "UnhashableCmp" }
    let other : Comparator := { awkward with identity := 6 }
    let first := Registry.empty.register (.text "awkward") (some awkward) false
    let second := first.state.register (.text "awkward") (some other) true
    second.result = .error (.unhashable "UnhashableCmp")
      ∧ first.state.resolve (.text "awkward") = .ok awkward
      ∧ second.state.resolve (.text "awkward") = .ok other :=
  ⟨rfl, rfl, rfl⟩

/-- Registering under a free name, and under one that is given away: both
calls fail, and both show afterwards. -/
theorem failed_and_registered :
    let awkward : Comparator :=
      { identity := 5, compare := .natural, unhashableAs := some "UnhashableCmp" }
    let r := Registry.withBuiltins
    let anew := r.register (.text "awkward") (some awkward) false
    let instead := r.register (.text "natural") (some awkward) true
    anew.result = .error (.unhashable "UnhashableCmp")
      ∧ r.resolve (.text "awkward") = .error (.misuse (.unknownName (.text "awkward")))
      ∧ anew.state.resolve (.text "awkward") = .ok awkward
      ∧ instead.result = .error (.unhashable "UnhashableCmp")
      ∧ r.nameOf .natural = .ok (.text "natural")
      ∧ instead.state.nameOf .natural = .error (.misuse (.unregistered "<comparator>")) :=
  ⟨rfl, rfl, rfl, rfl, rfl, rfl⟩

end Registry

end Collation
