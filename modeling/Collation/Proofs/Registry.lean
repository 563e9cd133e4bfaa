/-
What a registry promises to whoever writes names down: the name that it
has for a comparator leads back to that comparator, or to one that is
equal to it. Its two tables are written one after the other, names may be
taken over, and a registration may fail in between; so they need not be
inverse to one another. What holds after any registrations is one half
(`Coherent`): what stands as the name of a likeness is found in the other
table, with a comparator of that likeness under it. A name taken over keeps
this up because its former comparator is made nameless in the same step.

The table of names takes equal comparators for one. So the way back ends at
the very comparator that was asked about only if no other one is equal to
it (`Unmatched`).

A name need not be a text. One that is not found even where it stands,
because it agrees with nothing, leads nowhere.
-/
import Collation.Comparator.Registry
import Collation.Proofs.Fallible
import Collation.Proofs.Value.Lookup
import Mathlib.Data.List.Nodup

namespace Collation

namespace Registry

variable {C : Comparator → Prop} {r : Registry} {name : Value} {c d : Comparator} {i : Nat}
  {s : Text}

-- ========================================================== invariant

/-- What stands as the name of a likeness leads to a comparator of that
likeness. -/
structure Coherent (C : Comparator → Prop) (r : Registry) : Prop where
  leads : ∀ e ∈ r.byComparator, e.2.agree e.2 = true →
    ∃ c, Value.lookup e.2 r.byName = some c ∧ c.likeness = e.1
  hashable : ∀ e ∈ r.byComparator, e.2.checkHashable = .ok ()
  /-- Nothing but the comparators given was registered. -/
  registered : ∀ e ∈ r.byName, C e.2

/-- Naming a comparator adds that one name. -/
private theorem mem_setName {e : Nat × Value} {names : List (Nat × Value)}
    (h : e ∈ setName i name names) : e = (i, name) ∨ e ∈ names := by
  induction names with
  | nil => exact .inl (List.mem_singleton.1 h)
  | cons f names ih =>
    rw [setName] at h
    split at h
    · next heq =>
      rcases List.mem_cons.1 h with h | h
      · exact .inl (heq ▸ h)
      · exact .inr (List.mem_cons_of_mem f h)
    · rcases List.mem_cons.1 h with h | h
      · exact .inr (h ▸ List.mem_cons_self)
      · exact (ih h).imp_right (List.mem_cons_of_mem f)

/-- What is forgotten when a name is given away. -/
def forgotten (r : Registry) (name : Value) : List (Nat × Value) :=
  match Value.lookup name r.byName with
  | some p => unname p.likeness r.byComparator
  | none => r.byComparator

private theorem mem_forgotten {e : Nat × Value} (h : e ∈ r.forgotten name) :
    e ∈ r.byComparator := by
  unfold forgotten at h
  split at h
  · exact List.mem_of_mem_filter h
  · exact h

/-- The former comparator of a name can be made nameless if it can be a
look-up key, or if there are no names at all. -/
def CanForget (r : Registry) (name : Value) : Prop :=
  r.byComparator = [] ∨ ∀ p, Value.lookup name r.byName = some p → p.unhashableAs = none

/-- The former holder of a name is forgotten if it can be looked up, or if
there is nothing to look through. -/
theorem forget_eq_ok {names : List (Nat × Value)} :
    forget r.byComparator (Value.lookup name r.byName) = .ok names
      ↔ names = r.forgotten name ∧ r.CanForget name := by
  unfold forget forgotten CanForget
  cases Value.lookup name r.byName with
  | none => simp [eq_comm]
  | some p =>
    by_cases hnil : r.byComparator = []
    · simp [hnil, unname, eq_comm]
    · have hsome : ¬r.byComparator.isEmpty = true := mt List.isEmpty_iff.1 hnil
      dsimp only
      rw [if_neg hsome, hashableComparator]
      cases hp : p.unhashableAs with
      | none => simp [Except.map, eq_comm, hp]
      | some type => simp [Except.map, hnil, hp]

/-- The checks that come before anything is written. -/
theorem checkRegistration_eq_ok {candidate : Option Comparator} {replace : Bool} :
    r.checkRegistration name candidate replace = .ok c ↔
      name.isTruthy = true ∧ candidate = some c ∧ name.checkHashable = .ok ()
        ∧ (Value.lookup name r.byName = none ∨ replace = true) := by
  unfold checkRegistration contains Value.find?
  cases name.isTruthy with
  | false => exact iff_of_false (fun h => nomatch h) fun h => nomatch h.1
  | true =>
    cases candidate with
    | none => exact iff_of_false (fun h => nomatch h) fun h => nomatch h.2.1
    | some d =>
      cases name.checkHashable with
      | error e => simp [bind, Except.bind, Except.map]
      | ok _ =>
        cases Value.lookup name r.byName <;> cases replace <;>
          simp [throw, throwThe, MonadExceptOf.throw, bind, Except.bind, Except.map, pure,
            Except.pure]

/-- All that a registration can come to: it is refused; the name is given to
the comparator, and taken from another one, but the comparator has no way
back to it; or all of it is done. -/
inductive RegisterStep (r : Registry) (name : Value) (candidate : Option Comparator)
    (replace : Bool) : Outcome Registry Unit → Prop where
  | refused (e : Fault) : RegisterStep r name candidate replace (.failed r e)
  | unnamed {c : Comparator} {type : String} : candidate = some c → name.checkHashable = .ok () →
    c.unhashableAs = some type →
    RegisterStep r name candidate replace
      (.failed ⟨Value.insertEntry name c r.byName, r.forgotten name⟩ (.unhashable type))
  | named {c : Comparator} : candidate = some c → name.checkHashable = .ok () →
    c.unhashableAs = none → (Value.lookup name r.byName = none ∨ replace = true) →
    RegisterStep r name candidate replace
      (.done ⟨Value.insertEntry name c r.byName, setName c.likeness name (r.forgotten name)⟩ ()
        [.registered name])

/-- What registering can come to. -/
theorem register_step (r : Registry) (name : Value) (candidate : Option Comparator)
    (replace : Bool) :
    RegisterStep r name candidate replace (r.register name candidate replace) := by
  unfold register
  split
  · exact .refused _
  · next c hcheck =>
    obtain ⟨-, hc, hname, htaken⟩ := checkRegistration_eq_ok.1 hcheck
    split
    · exact .refused _
    · next hforget =>
      rw [(forget_eq_ok.1 hforget).1]
      unfold hashableComparator
      cases hhash : c.unhashableAs with
      | some type => exact .unnamed hc hname hhash
      | none => exact .named hc hname hhash htaken

namespace Coherent

/-- Nothing leads astray in an empty registry. -/
theorem empty (C : Comparator → Prop) : Coherent C .empty :=
  ⟨fun _ h => absurd h List.not_mem_nil, fun _ h => absurd h List.not_mem_nil,
    fun _ h => absurd h List.not_mem_nil⟩

/-- A comparator is given a name, which another one may lose. -/
theorem named (h : Coherent C r) (hc : C c) :
    Coherent C ⟨Value.insertEntry name c r.byName, r.forgotten name⟩ where
  leads e he hitself := by
    obtain ⟨d, hd, hlikeness⟩ := h.leads e (mem_forgotten he) hitself
    refine ⟨d, Value.lookup_insertEntry_kept hd fun hname => ?_, hlikeness⟩
    -- the comparator that had the name is nameless now
    unfold forgotten at he
    rw [hname] at he
    have hne := List.of_mem_filter he
    rw [hlikeness, bne_self_eq_false] at hne
    cases hne
  hashable e he := h.hashable e (mem_forgotten he)
  registered e he := (Value.mem_insertEntry he).elim (fun heq => heq ▸ hc) (h.registered e)

/-- The way back from the comparator to its name. -/
theorem setName (h : Coherent C r) (hname : name.checkHashable = .ok ())
    (hleads : name.agree name = true →
      ∃ d, Value.lookup name r.byName = some d ∧ d.likeness = i) :
    Coherent C { r with byComparator := Registry.setName i name r.byComparator } where
  leads e he := by
    rcases mem_setName he with rfl | he
    · exact hleads
    · exact h.leads e he
  hashable e he := by
    rcases mem_setName he with rfl | he
    · exact hname
    · exact h.hashable e he
  registered := h.registered

/-- A registration, failed or not, leads no name astray. -/
theorem register (h : Coherent C r) {candidate : Option Comparator} (replace : Bool)
    (hcandidate : ∀ c, candidate = some c → C c) :
    Coherent C (r.register name candidate replace).state := by
  have hstep := register_step r name candidate replace
  generalize r.register name candidate replace = o at hstep ⊢
  cases hstep with
  | refused e => exact h
  | unnamed hc _ _ => exact h.named (hcandidate _ hc)
  | named hc hname _ _ =>
    refine (h.named (hcandidate _ hc)).setName hname fun hitself => ?_
    exact ⟨_, Value.lookup_insertEntry_itself hitself r.byName, rfl⟩

end Coherent

-- ====================================================== any registrations

/-- The registries that registering makes, successfully or not, under names
that are not octets, of comparators of one kind. -/
inductive Built (C : Comparator → Prop) : Registry → Prop where
  | empty : Built C .empty
  | register {r : Registry} (name : Value) (candidate : Option Comparator) (replace : Bool) :
    Built C r → (∀ octets, name ≠ .bytes octets) → (∀ c, candidate = some c → C c) →
    Built C (r.register name candidate replace).state

/-- Nothing leads astray in a registry that was built by registrations. -/
theorem Built.coherent (h : Built C r) : Coherent C r := by
  induction h with
  | empty => exact .empty C
  | register _ _ replace _ _ hcandidate ih => exact ih.register replace hcandidate

/-- Registering comparators under texts, one after the other. -/
theorem Built.foldl_register (named : List (String × Comparator)) (hnamed : ∀ b ∈ named, C b.2) :
    ∀ {r : Registry}, Built C r →
      Built C (named.foldl (fun r b => (r.register (.text b.1) (some b.2) false).state) r) := by
  induction named with
  | nil => exact fun h => h
  | cons b named ih =>
    intro r h
    obtain ⟨hb, hnamed⟩ := List.forall_mem_cons.1 hnamed
    refine ih hnamed (h.register _ _ _ (fun _ h => nomatch h) fun c hc => ?_)
    exact Option.some.inj hc ▸ hb

/-- No other comparator of the kind is equal to it. -/
def Unmatched (C : Comparator → Prop) (c : Comparator) : Prop :=
  ∀ d, C d → d.likeness = c.likeness → d = c

/-- No two comparators of the kind are equal. -/
def Identified (C : Comparator → Prop) : Prop := ∀ c, C c → Unmatched C c

/-- The comparators that a registry can start with. -/
def ReadyMade (c : Comparator) : Prop := ∃ b ∈ Comparator.builtins, b.2 = c

/-- The ready-made comparators are as if registered in turn. -/
theorem withBuiltins_built : Built ReadyMade .withBuiltins := by
  have hturn : withBuiltins = Comparator.builtins.foldl
      (fun r b => (r.register (.text b.1) (some b.2) false).state) .empty := by rfl
  rw [hturn]
  exact Built.empty.foldl_register Comparator.builtins fun b hb => ⟨b, hb, rfl⟩

/-- No two of the ready-made comparators are equal. -/
theorem readyMade_identified : Identified ReadyMade := by
  rintro _ ⟨b, hb, rfl⟩ _ ⟨e, he, rfl⟩ heq
  have hnodup : (Comparator.builtins.map fun b => b.2.likeness).Nodup := by decide
  rw [List.inj_on_of_nodup_map hnodup he hb heq]

/-- A name that resolves is in the table. -/
theorem lookup_of_resolve (h : r.resolve name = .ok c) :
    Value.lookup name r.byName = some c := by
  unfold resolve Value.find? at h
  split at h
  · cases h
  · next found hfound =>
    cases h
    obtain ⟨_, -, hlookup⟩ := map_eq_ok.1 hfound
    exact hlookup.symm
  · cases h

/-- A name in the table resolves. -/
theorem resolve_of_lookup (hname : name.checkHashable = .ok ())
    (h : Value.lookup name r.byName = some c) : r.resolve name = .ok c := by
  rw [resolve, Value.find?, hname, h]
  rfl

/-- A comparator that a name leads to was registered. -/
theorem mem_of_resolve (h : r.resolve name = .ok c) : ∃ e ∈ r.byName, e.2 = c :=
  Value.mem_of_lookup (lookup_of_resolve h)

/-- The names of a fresh registry lead to what is ready-made. -/
theorem readyMade_of_resolve (h : withBuiltins.resolve name = .ok c) : ReadyMade c := by
  obtain ⟨e, he, rfl⟩ := mem_of_resolve h
  exact withBuiltins_built.coherent.registered e he

/-- A text that leads to a ready-made comparator is its name. -/
theorem mem_builtins_of_resolve (h : withBuiltins.resolve (.text s) = .ok c) :
    ∃ b ∈ Comparator.builtins, s = .ofString b.1 ∧ c = b.2 := by
  obtain ⟨e, he, rfl⟩ := Option.map_eq_some_iff.1 (lookup_of_resolve h)
  obtain ⟨b, hb, rfl⟩ := List.mem_map.1 (List.mem_of_find?_eq_some he)
  have hagree : Value.agree (.text s) (.text b.1) = true :=
    List.find?_some (p := fun e : Value × Comparator => Value.agree (.text s) e.1) he
  rw [Value.agree_text] at hagree
  exact ⟨b, hb, eq_of_beq hagree, rfl⟩

/-- What is ready-made has its own name in a fresh registry. -/
theorem nameOf_builtin {b : String × Comparator} (hb : b ∈ Comparator.builtins) :
    withBuiltins.nameOf b.2 = .ok (.text b.1) := by
  simp only [Comparator.builtins, List.mem_cons, List.not_mem_nil, or_false] at hb
  rcases hb with rfl | rfl | rfl | rfl | rfl <;> rfl

/-- The ready-made comparators have texts for names. -/
theorem nameOf_readyMade (h : ReadyMade c) : ∃ s, withBuiltins.nameOf c = .ok (.text s) := by
  obtain ⟨b, hb, rfl⟩ := h
  exact ⟨b.1, nameOf_builtin hb⟩

-- ============================================================ there and back

/-- A comparator has the name of the entry that is equal to it. -/
private theorem mem_of_nameOf (h : r.nameOf c = .ok name) :
    ∃ e ∈ r.byComparator, e.1 = c.likeness ∧ e.2 = name := by
  unfold nameOf at h
  split at h
  · next n _ hn =>
    obtain ⟨before, after, hparts, -⟩ := List.lookup_eq_some_iff.1 hn
    refine ⟨(c.likeness, n), ?_, rfl, Except.ok.inj h⟩
    rw [hparts]
    exact List.mem_append_right before List.mem_cons_self
  · cases h

/-- A comparator that is found has the name that stands there. -/
theorem nameOf_of_lookup (hc : c.unhashableAs = none)
    (h : r.byComparator.lookup c.likeness = some name) : r.nameOf c = .ok name := by
  rw [nameOf, hc, h]

/-- One that is not found has no name. -/
theorem nameOf_of_lookup_none (h : r.byComparator.lookup c.likeness = none) :
    r.nameOf c = .error (.misuse (.unregistered c.display)) := by
  unfold nameOf
  rw [h]
  cases c.unhashableAs <;> rfl

/-- Registering gives out no name but its own. -/
private theorem name_of_mem_register {candidate : Option Comparator} {replace : Bool}
    {e : Nat × Value}
    (h : e ∈ (r.register name candidate replace).state.byComparator) :
    e.2 = name ∨ e ∈ r.byComparator := by
  have hstep := register_step r name candidate replace
  generalize r.register name candidate replace = o at hstep h
  cases hstep with
  | refused _ => exact .inr h
  | unnamed _ _ _ => exact .inr (mem_forgotten h)
  | named _ _ _ _ => exact (mem_setName h).imp (congrArg Prod.snd) mem_forgotten

/-- No octets, which may spell a text, are the name of anything. -/
theorem Built.nameOf_ne_bytes (h : Built C r) {octets : List UInt8} :
    r.nameOf c ≠ .ok (.bytes octets) := by
  have hnames : ∀ e ∈ r.byComparator, ∀ octets, e.2 ≠ .bytes octets := by
    induction h with
    | empty => exact fun _ he => absurd he List.not_mem_nil
    | register _ _ _ _ hname _ ih =>
      intro e he
      rcases name_of_mem_register he with heq | he
      · exact heq ▸ hname
      · exact ih e he
  intro hname
  obtain ⟨e, he, -, heq⟩ := mem_of_nameOf hname
  exact hnames e he octets heq

/-- The name of a comparator leads back to one that is equal to it. -/
theorem Coherent.resolve_nameOf (h : Coherent C r) (hname : r.nameOf c = .ok name)
    (hitself : name.agree name = true) :
    ∃ d, C d ∧ r.resolve name = .ok d ∧ d.likeness = c.likeness := by
  obtain ⟨e, he, hlikeness, rfl⟩ := mem_of_nameOf hname
  obtain ⟨d, hd, hd'⟩ := h.leads e he hitself
  obtain ⟨f, hf, rfl⟩ := Value.mem_of_lookup hd
  exact ⟨f.2, h.registered f hf, resolve_of_lookup (h.hashable e he) hd, hd'.trans hlikeness⟩

/-- If no other one is equal, it leads back to that very comparator. -/
theorem Coherent.resolve_nameOf_unmatched (h : Coherent C r) (hc : Unmatched C c)
    (hname : r.nameOf c = .ok name) (hitself : name.agree name = true) :
    r.resolve name = .ok c := by
  obtain ⟨d, hd, hresolve, hlikeness⟩ := h.resolve_nameOf hname hitself
  rw [hresolve, hc d hd hlikeness]

/-- Two kinds of the same text lead to the same. -/
theorem resolve_of_text (hs : name.text? = some s) (h : r.resolve name = .ok c) :
    r.resolve (.text s) = .ok c := by
  have hlookup := lookup_of_resolve h
  rw [Value.lookup_of_text hs] at hlookup
  rw [resolve, Value.find?, hlookup]
  rfl

end Registry

end Collation
