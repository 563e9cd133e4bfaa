/-
A registry in the course of time. A history is a list of calls that
register, the earliest first; a call that fails may leave something done,
and the history goes on from there.

Two questions are asked of what a history comes to. Does the name of a
comparator lead back to it? To it or to one that is equal to it: the
registry is coherent (`Started.coherent_afterAll`). Has a comparator that
some name leads to a name at all? Not always. A comparator may go by
several names, and the way back remembers one of them; when any of them is
given to another comparator, the way back is taken down, whichever name it
held. From then on the comparator is nameless until it is registered again
(`Bereft`), and that is the only way to be so (`named_unless_bereft`,
`Bereft.nameless`). Equal comparators share their way back, so they lose it
together.
-/
import Collation.Proofs.Registry
import Collation.Proofs.Value.Normal
import Mathlib.Data.List.Induction

namespace Collation

namespace Registry

variable {C : Comparator → Prop} {r start : Registry} {name : Value} {c d : Comparator} {i : Nat}

-- ============================================================ histories

/-- A call that registers a candidate under a name; the candidate is none
if it cannot be called at all. -/
structure Registration where
  name : Value
  candidate : Option Comparator
  replace : Bool := false

/-- What the call comes to. -/
def after (r : Registry) (g : Registration) : Outcome Registry Unit :=
  r.register g.name g.candidate g.replace

/-- The registry after some calls, the first one first. -/
def afterAll (r : Registry) (history : List Registration) : Registry :=
  history.foldl (fun r g => (r.after g).state) r

private theorem afterAll_concat (r : Registry) (history : List Registration) (g : Registration) :
    r.afterAll (history ++ [g]) = ((r.afterAll history).after g).state := by
  unfold afterAll
  rw [List.foldl_append]
  rfl

private theorem after_step (r : Registry) (g : Registration) :
    RegisterStep r g.name g.candidate g.replace (r.after g) :=
  register_step r g.name g.candidate g.replace

/-- All that is registered, or attempted to be, is comparators of one kind. -/
def Confined (C : Comparator → Prop) (history : List Registration) : Prop :=
  ∀ g ∈ history, ∀ c, g.candidate = some c → C c

private theorem Confined.of_concat {history : List Registration} {g : Registration}
    (h : Confined C (history ++ [g])) :
    Confined C history ∧ ∀ c, g.candidate = some c → C c :=
  ⟨fun g' hg' => h g' (List.mem_append_left _ hg'),
    h g (List.mem_append_right _ List.mem_cons_self)⟩

/-- The registries that are there before anything is registered. -/
inductive Started (C : Comparator → Prop) : Registry → Prop where
  | empty : Started C .empty
  | withBuiltins : (∀ c, ReadyMade c → C c) → Started C .withBuiltins

private theorem Started.coherent (h : Started C start) : Coherent C start := by
  cases h with
  | empty => exact .empty C
  | withBuiltins hC =>
    have hbuiltins := withBuiltins_built.coherent
    exact ⟨hbuiltins.leads, hbuiltins.hashable, fun e he => hC e.2 (hbuiltins.registered e he)⟩

/-- Whatever calls came, no name leads astray. -/
theorem Started.coherent_afterAll (h : Started C start) {history : List Registration}
    (hhistory : Confined C history) : Coherent C (start.afterAll history) := by
  induction history using List.reverseRecOn with
  | nil => exact h.coherent
  | append_singleton history g ih =>
    obtain ⟨hbefore, hg⟩ := hhistory.of_concat
    rw [afterAll_concat]
    exact (ih hbefore).register g.replace hg

-- =============================================================== names

/-- All names are texts. -/
def Textual (r : Registry) : Prop := ∀ e ∈ r.byName, ∃ s, e.1 = .text s

/-- Names that are texts stay all there are. -/
theorem Textual.afterAll (h : Textual r) {history : List Registration}
    (hhistory : ∀ g ∈ history, ∃ s, g.name = .text s) : Textual (r.afterAll history) := by
  induction history using List.reverseRecOn with
  | nil => exact h
  | append_singleton history g ih =>
    have hbefore := ih fun g' hg' => hhistory g' (List.mem_append_left _ hg')
    have hgiven : ∀ c, ∀ e ∈ Value.insertEntry g.name c (r.afterAll history).byName,
        ∃ s, e.1 = .text s := by
      intro c e he
      rcases Value.key_of_mem_insertEntry he with heq | hmem
      · exact heq ▸ hhistory g (List.mem_append_right _ List.mem_cons_self)
      · obtain ⟨f, hf, heq⟩ := List.mem_map.1 hmem
        exact heq ▸ hbefore f hf
    rw [afterAll_concat]
    have hstep := after_step (r.afterAll history) g
    generalize (r.afterAll history).after g = o at hstep ⊢
    cases hstep with
    | refused _ => exact hbefore
    | unnamed _ _ _ => exact hgiven _
    | named _ _ _ _ => exact hgiven _

/-- A registry starts with texts for names. -/
theorem Started.textual (h : Started C start) : Textual start := by
  cases h with
  | empty => exact fun _ he => absurd he List.not_mem_nil
  | withBuiltins _ =>
    intro e he
    obtain ⟨b, -, rfl⟩ := List.mem_map.1 he
    exact ⟨b.1, rfl⟩

/-- Names that are texts can be listed, and each of them leads to a
comparator. -/
theorem Textual.names (h : Textual r) :
    ∃ ns, r.names = .ok ns ∧ ∀ n ∈ ns, ∃ c, r.resolve n = .ok c := by
  obtain ⟨ns, hsort, hperm⟩ := Value.sort_texts (r.byName.map Prod.fst) (List.forall_mem_map.2 h)
  refine ⟨ns, hsort, fun n hn => ?_⟩
  obtain ⟨e, he, rfl⟩ := List.mem_map.1 (hperm.mem_iff.1 hn)
  obtain ⟨s, hs⟩ := h e he
  have hitself : Value.agree e.1 e.1 = true := by
    rw [hs, Value.agree_text]
    exact beq_self_eq_true s
  obtain ⟨c, hc⟩ := Value.exists_lookup he hitself
  exact ⟨c, resolve_of_lookup (by rw [hs]; rfl) hc⟩

-- ==================================================== losing the way back

/-- A name of the comparator, or of one that is equal to it, was given to
another one that is not, and none of the equal ones was registered since. -/
inductive Bereft (start : Registry) (c : Comparator) : List Registration → Prop where
  | taken {history : List Registration} {g : Registration} {p d : Comparator} :
    (start.afterAll history).resolve g.name = .ok p → p.likeness = c.likeness →
    g.candidate = some d → d.likeness ≠ c.likeness →
    ((start.afterAll history).after g).result = .ok () → Bereft start c (history ++ [g])
  | still {history : List Registration} {g : Registration} :
    Bereft start c history →
    (∀ d, ((start.afterAll history).after g).result = .ok () → g.candidate = some d →
      d.likeness ≠ c.likeness) →
    Bereft start c (history ++ [g])

/-- Naming one comparator leaves the names of the others. -/
private theorem lookup_setName (i : Nat) (name : Value) (names : List (Nat × Value)) (j : Nat) :
    (setName i name names).lookup j = if j = i then some name else names.lookup j := by
  induction names with
  | nil => by_cases h : j = i <;> simp [setName, h]
  | cons e names ih =>
    obtain ⟨k, n⟩ := e
    rw [setName]
    by_cases hk : k = i
    · subst hk
      by_cases h : j = k <;> simp [h, List.lookup_cons, beq_false_of_ne]
    · rw [if_neg hk]
      by_cases h : j = k
      · subst h
        simp [hk]
      · simp [List.lookup_cons, beq_false_of_ne h, ih]

/-- So does taking a name away. -/
private theorem lookup_unname (i : Nat) (names : List (Nat × Value)) (j : Nat) :
    (unname i names).lookup j = if j = i then none else names.lookup j := by
  unfold unname
  induction names with
  | nil => simp
  | cons e names ih =>
    obtain ⟨k, n⟩ := e
    by_cases hk : k = i
    · subst hk
      rw [List.filter_cons_of_neg (by simp), ih]
      by_cases h : j = k <;> simp [h, List.lookup_cons, beq_false_of_ne]
    · rw [List.filter_cons_of_pos (by simpa using hk)]
      by_cases h : j = k
      · subst h
        simp [hk]
      · simp [List.lookup_cons, beq_false_of_ne h, ih]

/-- Whoever had the name that is given away is forgotten. -/
theorem lookup_forgotten_of_lookup (h : Value.lookup name r.byName = some c) :
    (r.forgotten name).lookup c.likeness = none := by
  unfold forgotten
  rw [h]
  show (unname c.likeness r.byComparator).lookup c.likeness = none
  rw [lookup_unname, if_pos rfl]

/-- Nobody else is. -/
theorem lookup_forgotten_other (h : ∀ p, Value.lookup name r.byName = some p → p.likeness ≠ i) :
    (r.forgotten name).lookup i = r.byComparator.lookup i := by
  unfold forgotten
  cases hp : Value.lookup name r.byName with
  | none => rfl
  | some p =>
    show (unname p.likeness r.byComparator).lookup i = r.byComparator.lookup i
    rw [lookup_unname, if_neg (h p hp).symm]

/-- What had no name has none when another one is forgotten. -/
private theorem lookup_forgotten_of_none (h : r.byComparator.lookup i = none) :
    (r.forgotten name).lookup i = none := by
  unfold forgotten
  cases Value.lookup name r.byName with
  | none => exact h
  | some p =>
    show (unname p.likeness r.byComparator).lookup i = none
    rw [lookup_unname, h, ite_self]

/-- A comparator that lost a name has no way back to any. -/
theorem Bereft.nameless {history : List Registration} (h : Bereft start c history) :
    (start.afterAll history).byComparator.lookup c.likeness = none := by
  induction h with
  | @taken history g p d hresolve hp hd hne hok =>
    rw [afterAll_concat]
    have hstep := after_step (start.afterAll history) g
    generalize (start.afterAll history).after g = o at hstep hok ⊢
    cases hstep with
    | refused e => cases hok
    | unnamed _ _ _ => cases hok
    | named hd' _ _ _ =>
      obtain rfl := Option.some.inj (hd.symm.trans hd')
      show (setName _ _ _).lookup c.likeness = none
      rw [lookup_setName, if_neg hne.symm, ← hp,
        lookup_forgotten_of_lookup (lookup_of_resolve hresolve)]
  | @still history g _ hother ih =>
    rw [afterAll_concat]
    have hstep := after_step (start.afterAll history) g
    generalize (start.afterAll history).after g = o at hstep hother ⊢
    cases hstep with
    | refused e => exact ih
    | unnamed _ _ _ => exact lookup_forgotten_of_none ih
    | @named d hd _ _ _ =>
      show (setName _ _ _).lookup c.likeness = none
      rw [lookup_setName, if_neg (hother d rfl hd).symm, lookup_forgotten_of_none ih]

/-- A comparator that some name leads to has a way back to one, unless it
lost a name. -/
theorem named_unless_bereft {history : List Registration} (hstart : Started C start)
    (hhistory : Confined C history) (hhashable : ∀ c, C c → c.unhashableAs = none)
    {e : Value × Comparator} (he : e ∈ (start.afterAll history).byName)
    (hkept : ¬Bereft start e.2 history) :
    ∃ name, (start.afterAll history).byComparator.lookup e.2.likeness = some name := by
  induction history using List.reverseRecOn generalizing e with
  | nil =>
    cases hstart with
    | empty => exact absurd he List.not_mem_nil
    | withBuiltins _ =>
      obtain ⟨b, hb, rfl⟩ := List.mem_map.1 he
      simp only [Comparator.builtins, List.mem_cons, List.not_mem_nil, or_false] at hb
      rcases hb with rfl | rfl | rfl | rfl | rfl <;> exact ⟨_, rfl⟩
  | append_singleton history g ih =>
    obtain ⟨hbefore, hg⟩ := hhistory.of_concat
    rw [afterAll_concat] at he ⊢
    have hstep := after_step (start.afterAll history) g
    have hstill := fun hb hother => hkept (Bereft.still (g := g) hb hother)
    have htaken := fun p d hresolve hp hd hne hok =>
      hkept (Bereft.taken (p := p) (d := d) hresolve hp hd hne hok)
    generalize (start.afterAll history).after g = o at hstep he hstill htaken ⊢
    cases hstep with
    | refused _ => exact ih hbefore he fun hb => hstill hb fun _ h => by cases h
    | unnamed hc _ hhash =>
      rw [hhashable _ (hg _ hc)] at hhash
      cases hhash
    | @named c hc hname _ _ =>
      show ∃ name, (setName _ _ _).lookup e.2.likeness = some name
      by_cases hsame : e.2.likeness = c.likeness
      · exact ⟨g.name, by rw [lookup_setName, if_pos hsame]⟩
      · have hmem : e ∈ (start.afterAll history).byName :=
          (Value.mem_insertEntry he).resolve_left fun heq => hsame (congrArg _ heq)
        obtain ⟨n, hn⟩ := ih hbefore hmem fun hb => hstill hb fun d _ hd heq => by
          obtain rfl := Option.some.inj (hc.symm.trans hd)
          exact hsame heq.symm
        -- had it lost the name that is given away, it would be bereft
        have hother : ∀ p, Value.lookup g.name (start.afterAll history).byName = some p →
            p.likeness ≠ e.2.likeness := fun p hp heq =>
          htaken p c (resolve_of_lookup hname hp) heq hc (Ne.symm hsame) rfl
        exact ⟨n, by rw [lookup_setName, if_neg hsame, lookup_forgotten_other hother, hn]⟩

end Registry

end Collation
