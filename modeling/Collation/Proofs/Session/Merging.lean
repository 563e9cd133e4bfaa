/-
Putting all entries of one multimap into another, under shared total
preorders. Whether an entry is there up to equivalence is all that matters
for what is put next (`Ordered.putEntries_effect`), and an entry is there
afterwards if it was there before or was put (`merge_holds`). Multimaps that
hold the same are equal (`equal_of_holds`), so the laws of a join are those
of the disjunction.

Which of two equivalent keys or values is kept does depend on what came
first: those that were there stay, as they stood.
-/
import Collation.Proofs.Session.Bulk
import Collation.Proofs.Views.Equality

namespace Collation

namespace Multimap

/-- All entries of `b` put into `a`. -/
def merge (a b : Multimap) : Outcome Multimap Bool := a.putItems b.entryTuples

/-- The entries of `a`, then those of `b`, put into a new multimap. -/
def join (keys values : Comparator) (a b : Multimap) : Multimap :=
  (((empty keys values).merge a).state.merge b).state

variable {keys values : Comparator} {K V : Value → Prop} {a b c m n : Multimap} {k v : Value}
  {pairs : List (Value × Value)}

private theorem merge_eq (a b : Multimap) : a.merge b = a.putEntries b.entries :=
  putItems_pairItems b.entries a

-- ============================================================ what is held

section

variable (hk : keys.compare.TotalOn K) (hv : values.compare.TotalOn V)

include hk hv

/-- What putting entries answers, told from what was there before. If all
were there, nothing changes. -/
theorem Ordered.putEntries_effect : ∀ {pairs : List (Value × Value)},
    (∀ e ∈ pairs, K e.1 ∧ V e.2) → ∀ {m : Multimap}, Ordered keys values K V m →
      (m.putEntries pairs).result = .ok (pairs.any fun e => !m.holds e.1 e.2)
        ∧ ((∀ e ∈ pairs, m.holds e.1 e.2 = true) → (m.putEntries pairs).state = m) := by
  intro pairs
  induction pairs with
  | nil => exact fun _ m _ => ⟨rfl, fun _ => rfl⟩
  | cons e rest ih =>
    obtain ⟨k, v⟩ := e
    intro hpairs m h
    obtain ⟨⟨hK, hV⟩, hrest⟩ := List.forall_mem_cons.1 hpairs
    rcases h.put_effect hk hv hK hV with
      ⟨hheld, hstate, hresult⟩ | ⟨hnew, m', -, hstate, hresult⟩
    · obtain ⟨hstate', hresult'⟩ := putEntries_cons rest hresult
      obtain ⟨hanswer, hsame⟩ := ih hrest h
      rw [hstate', hresult', hstate, hanswer, List.any_cons, hheld]
      exact ⟨rfl, fun hall => hsame (List.forall_mem_cons.1 hall).2⟩
    · have hnext := h.put hk.consistentOn hv.consistentOn hK hV
      obtain ⟨-, hresult'⟩ := putEntries_cons rest hresult
      rw [hresult', (ih hrest hnext).1, List.any_cons, hnew]
      refine ⟨rfl, fun hall => ?_⟩
      rw [(List.forall_mem_cons.1 hall).1] at hnew
      cases hnew

variable (hm : Ordered keys values K V m) (hn : Ordered keys values K V n)

include hm hn

/-- What is there after entries were put was there before or came with them. -/
theorem Brings.holds_iff (hpairs : ∀ e ∈ pairs, K e.1 ∧ V e.2)
    (h : Brings keys values pairs m n) (hK : K k) (hV : V v) :
    n.holds k v = true ↔
      m.holds k v = true ∨ ∃ e ∈ pairs, EquivalentEntry keys values e (k, v) := by
  rw [hm.holds_iff hk hv hK hV, hn.holds_iff hk hv hK hV]
  constructor
  · rintro ⟨f, hf, hkey, hvalue⟩
    rcases h.value f hf with hold | ⟨e, he, heq, hfe⟩
    · exact .inl ⟨f, hold, hkey, hvalue⟩
    · obtain ⟨hKf, -⟩ := hn.entry_mem hf
      obtain ⟨hKe, -⟩ := hpairs e he
      rw [heq] at hvalue
      exact .inr ⟨e, he, hk.eq_trans hKe hKf hK (hk.swap hKf hKe hfe) hkey, hvalue⟩
  · rintro (⟨f, hf, hsame⟩ | ⟨e, he, hkey, hvalue⟩)
    · exact ⟨f, h.kept.mem hf, hsame⟩
    · obtain ⟨f, hf, hfkey, hfvalue⟩ := h.brought e he
      obtain ⟨hKf, hVf⟩ := hn.entry_mem hf
      obtain ⟨hKe, hVe⟩ := hpairs e he
      exact ⟨f, hf, hk.eq_trans hKf hKe hK hfkey hkey, hv.eq_trans hVf hVe hV hfvalue hvalue⟩

/-- Multimaps that hold the same are equal. -/
theorem equal_of_holds (same : Bool)
    (h : ∀ k v, K k → V v → m.holds k v = n.holds k v) :
    Operand.equal same (.multimap m) (.multimap n) = .ok true := by
  refine equal_of_equivalent hm hn hk hv same ⟨fun e he => ?_, fun f hf => ?_⟩
  · obtain ⟨hK, hV⟩ := hm.entry_mem he
    have hheld := (hm.holds_iff hk hv hK hV).2 ⟨e, he, hk.refl hK, hv.refl hV⟩
    rw [h e.1 e.2 hK hV, hn.holds_iff hk hv hK hV] at hheld
    obtain ⟨f, hf, hkey, hvalue⟩ := hheld
    obtain ⟨hKf, hVf⟩ := hn.entry_mem hf
    exact ⟨f, hf, hk.swap hKf hK hkey, hv.swap hVf hV hvalue⟩
  · obtain ⟨hK, hV⟩ := hn.entry_mem hf
    have hheld := (hn.holds_iff hk hv hK hV).2 ⟨f, hf, hk.refl hK, hv.refl hV⟩
    rwa [← h f.1 f.2 hK hV, hm.holds_iff hk hv hK hV] at hheld

end

-- ================================================================ merging

section

variable (hk : keys.compare.TotalOn K) (hv : values.compare.TotalOn V)
  (ha : Ordered keys values K V a) (hb : Ordered keys values K V b)

include hk hv ha hb

private theorem merge_brings : Ordered keys values K V (a.merge b).state
    ∧ Brings keys values b.entries a (a.merge b).state := by
  obtain ⟨hordered, -, hbrings⟩ := ha.putEntries_brings hk hv fun e he => hb.entry_mem he
  rw [merge_eq]
  exact ⟨hordered, hbrings⟩

private theorem merge_result :
    (a.merge b).result = .ok (b.entries.any fun e => !a.holds e.1 e.2) := by
  rw [merge_eq]
  exact (Ordered.putEntries_effect hk hv (fun e he => hb.entry_mem he) ha).1

private theorem merge_holds (hK : K k) (hV : V v) :
    (a.merge b).state.holds k v = (a.holds k v || b.holds k v) := by
  obtain ⟨hordered, hbrings⟩ := merge_brings hk hv ha hb
  rw [Bool.eq_iff_iff, Bool.or_eq_true, hb.holds_iff hk hv hK hV]
  exact hbrings.holds_iff hk hv ha hordered (fun e he => hb.entry_mem he) hK hV

private theorem join_ordered : Ordered keys values K V (join keys values a b) := by
  obtain ⟨hfirst, -⟩ := merge_brings hk hv (.empty keys values K V) ha
  exact (merge_brings hk hv hfirst hb).1

private theorem join_holds (hK : K k) (hV : V v) :
    (join keys values a b).holds k v = (a.holds k v || b.holds k v) := by
  have hempty := Ordered.empty keys values K V
  obtain ⟨hfirst, -⟩ := merge_brings hk hv hempty ha
  rw [join, merge_holds hk hv hfirst hb hK hV, merge_holds hk hv hempty ha hK hV]
  rfl

omit hb in
/-- All entries of a multimap are there already. -/
theorem merge_self : (a.merge a).Yields a false := by
  have hheld : ∀ e ∈ a.entries, a.holds e.1 e.2 = true := fun e he => by
    obtain ⟨hK, hV⟩ := ha.entry_mem he
    exact (ha.holds_iff hk hv hK hV).2 ⟨e, he, hk.refl hK, hv.refl hV⟩
  obtain ⟨hresult, hstate⟩ := Ordered.putEntries_effect hk hv (fun e he => ha.entry_mem he) ha
  rw [merge_eq]
  refine ⟨hstate hheld, hresult.trans (congrArg Except.ok (List.any_eq_false.2 fun e he => ?_))⟩
  simp [hheld e he]

end

-- ============================================================== the laws

section

variable (hk : keys.compare.TotalOn K) (hv : values.compare.TotalOn V)
  (ha : Ordered keys values K V a) (hb : Ordered keys values K V b)
  (hc : Ordered keys values K V c) (same : Bool)

include hk hv ha

private theorem join_self :
    Operand.equal same (.multimap (join keys values a a)) (.multimap a) = .ok true := by
  refine equal_of_holds hk hv (join_ordered hk hv ha ha) ha same fun k v hK hV => ?_
  rw [join_holds hk hv ha ha hK hV, Bool.or_self]

include hb

private theorem join_comm : Operand.equal same (.multimap (join keys values a b))
    (.multimap (join keys values b a)) = .ok true := by
  refine equal_of_holds hk hv (join_ordered hk hv ha hb) (join_ordered hk hv hb ha) same
    fun k v hK hV => ?_
  rw [join_holds hk hv ha hb hK hV, join_holds hk hv hb ha hK hV, Bool.or_comm]

include hc

/-- Three can be joined in any order. -/
private theorem join_assoc :
    Operand.equal same (.multimap (join keys values (join keys values a b) c))
    (.multimap (join keys values a (join keys values b c))) = .ok true := by
  have hab := join_ordered hk hv ha hb
  have hbc := join_ordered hk hv hb hc
  refine equal_of_holds hk hv (join_ordered hk hv hab hc) (join_ordered hk hv ha hbc) same
    fun k v hK hV => ?_
  rw [join_holds hk hv hab hc hK hV, join_holds hk hv ha hb hK hV, join_holds hk hv ha hbc hK hV,
    join_holds hk hv hb hc hK hV, Bool.or_assoc]

end

end Multimap

open Collation.Action in
/-- A call that merges a multimap of the session into another, or into
itself. -/
theorem Session.runOn_merge {s : Session} {r source : Ref} {a b : Multimap} (ha : s.Holds r a)
    (hb : s.Holds source b) :
    Answers s r (a.merge b).state ((a.merge b).result.map grewFlag)
      ((callOn r "put_all_from" ⟨[source], []⟩).runOn s) := by
  obtain ⟨t, hrun, hchanged⟩ := runOn_putItems b.entryTuples ha
  have hplain : ∀ item ∈ b.entryTuples, ∀ o xs, item = .object o xs → o.identity = none := by
    intro item hitem o xs heq
    obtain ⟨e, -, rfl⟩ := List.mem_map.1 hitem
    cases heq
  rw [turnsOf_plain hplain, ← Multimap.putItems_eq] at hrun hchanged
  rw [runOn_put_all_from ha, runOn_bind_ok (runOn_entryItems_multimap hb)]
  exact answers_of_changed hrun hchanged grewFlag

namespace Multimap

variable {keys values : Comparator} {K V : Value → Prop}

open Collation.Action in
/-- Under total preorders on what is put, merging is a join: it adds what has
no equivalent yet and tells whether there was any, all that was there stays
as it stood, a multimap merged into itself stays as it is, and up to
equality neither the order nor the grouping of several has a say. -/
theorem merging_joins (hk : keys.compare.TotalOn K) (hv : values.compare.TotalOn V)
    (same : Bool) :
    (∀ (s : Session) (r source : Ref) (a b : Multimap), s.Holds r a → s.Holds source b →
      s.Answers r (a.merge b).state ((a.merge b).result.map Session.grewFlag)
        ((Session.callOn r "put_all_from" ⟨[source], []⟩).runOn s))
    ∧ (∀ a b, Reached keys values K V a → Reached keys values K V b →
      (∃ grew, (a.merge b).result = .ok grew
        ∧ (grew = true ↔ ∃ e ∈ b.entries, ∀ f ∈ a.entries, ¬EquivalentEntry keys values f e))
      ∧ a.entries.Sublist (a.merge b).state.entries)
    ∧ (∀ a, Reached keys values K V a → (a.merge a).Yields a false
      ∧ Operand.equal same (.multimap (join keys values a a)) (.multimap a) = .ok true)
    ∧ (∀ a b, Reached keys values K V a → Reached keys values K V b →
      Operand.equal same (.multimap (join keys values a b)) (.multimap (join keys values b a))
        = .ok true)
    ∧ ∀ a b c, Reached keys values K V a → Reached keys values K V b →
      Reached keys values K V c →
      Operand.equal same (.multimap (join keys values (join keys values a b) c))
        (.multimap (join keys values a (join keys values b c))) = .ok true := by
  have hordered : ∀ {m}, Reached keys values K V m → Ordered keys values K V m :=
    fun hm => hm.ordered hk.consistentOn hv.consistentOn
  refine ⟨fun s r source a b ha hb => Session.runOn_merge ha hb, fun a b ha hb => ⟨?_, ?_⟩,
    fun a ha => ⟨merge_self hk hv (hordered ha), join_self hk hv (hordered ha) same⟩,
    fun a b ha hb => join_comm hk hv (hordered ha) (hordered hb) same,
    fun a b c ha hb hc => join_assoc hk hv (hordered ha) (hordered hb) (hordered hc) same⟩
  · refine ⟨_, merge_result hk hv (hordered ha) (hordered hb), ?_⟩
    rw [List.any_eq_true]
    refine exists_congr fun e => and_congr_right fun he => ?_
    obtain ⟨hK, hV⟩ := (hordered hb).entry_mem he
    rw [Bool.not_eq_true', Bool.eq_false_iff, ne_eq, (hordered ha).holds_iff hk hv hK hV]
    exact ⟨fun h f hf hfe => h ⟨f, hf, hfe⟩, fun h ⟨f, hf, hfe⟩ => h f hf hfe⟩
  · exact (merge_brings hk hv (hordered ha) (hordered hb)).2.kept

/-- Texts by their case fold: of two multimaps with equivalent keys and
values, the one that comes first keeps its spelling. -/
theorem merging_joins_caseFold :
    let history : List Operation :=
      [.put (.text "pear") (.text "b"), .put (.text "Fig") (.text "x")]
    let history' : List Operation := [.putAll (.text "PEAR") [.text "B", .text "a"]]
    let isText : Value → Prop := fun v => ∃ s, v.text? = some s
    let a := (empty .caseFold .caseFold).afterAll history
    let b := (empty .caseFold .caseFold).afterAll history'
    Comparator.caseFold.compare.TotalOn isText
      ∧ (∀ operation ∈ history ++ history', operation.Puts isText isText)
      ∧ (a.merge b).result = .ok true ∧ (a.merge a).Yields a false
      ∧ ((a.merge b).state.entries.map fun e =>
          (e.1.text?.map Text.lossy, e.2.text?.map Text.lossy))
        = [(some "Fig", some "x"), (some "pear", some "a"), (some "pear", some "b")]
      ∧ Operand.equal false (.multimap (join .caseFold .caseFold a b))
        (.multimap (join .caseFold .caseFold b a)) = .ok true := by
  intro history history' isText a b
  have htotal : Comparator.caseFold.compare.TotalOn isText := Comparator.caseFold_totalOn
  have hputs : ∀ operation ∈ history ++ history', operation.Puts isText isText := by
    simp [history, history', isText, Operation.Puts, Value.text?]
  obtain ⟨hfirst, hsecond⟩ := List.forall_mem_append.1 hputs
  have ha : Reached .caseFold .caseFold isText isText a := ⟨history, hfirst, rfl⟩
  have hb : Reached .caseFold .caseFold isText isText b := ⟨history', hsecond, rfl⟩
  obtain ⟨-, -, hself, hcomm, -⟩ := merging_joins htotal htotal false
  exact ⟨htotal, hputs, eq_ok_of_toOption (by decide +kernel), (hself a ha).1, by decide +kernel,
    hcomm a b ha hb⟩

end Multimap

end Collation
