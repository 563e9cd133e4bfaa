/-
Looking up, mostly by texts, which is how names, of comparators as of
fields, are looked up. A key finds the first entry it agrees with, and what
is given for a key replaces the first entry that the key agrees with; so a
key loses what it finds only to a key that finds the same
(`lookup_insertEntry_kept`). A text agrees with the same text of either
kind and with nothing else. Where all names are texts and no two of them
the same (`Named`), a dictionary is as good as the set of its entries: what
is found does not depend on their order (`lookup_eq_some_iff`).
-/
import Collation.Value.Lookup
import Mathlib.Data.List.Basic

namespace Collation.Value

variable {α β : Type} {k x : Value} {v : β} {s : Text} {es fs : List (Value × β)}

-- ============================================================ agreement

/-- A text agrees with the same text of either kind, and with nothing else. -/
theorem agree_iff_of_text (hk : k.text? = some s) : agree k x = true ↔ x.text? = some s := by
  have hatoms : agree k x = equalAtoms k x := by
    cases k <;> cases hk <;> rfl
  have hnumber : k.position? = none := by
    cases k <;> cases hk <;> rfl
  rw [hatoms]
  unfold equalAtoms
  rw [hnumber, hk]
  cases x.text? with
  | none => cases k <;> cases hk <;> simp
  | some t =>
    show (s == t) = true ↔ some t = some s
    rw [beq_iff_eq, Option.some.injEq]
    exact eq_comm

/-- Two texts agree only if they are the same. -/
theorem agree_text (s t : Text) : agree (text s) (text t) = (s == t) := rfl

-- ============================================================== looking

/-- A name is looked up from the first entry on. -/
theorem lookup_cons (k : Value) (e : Value × β) (es : List (Value × β)) :
    lookup k (e :: es) = if agree k e.1 then some e.2 else lookup k es := by
  unfold lookup
  rw [List.find?_cons]
  cases agree k e.1 <;> rfl

/-- What is found under a name is the value of an entry. -/
theorem mem_of_lookup (h : lookup k es = some v) : ∃ e ∈ es, e.2 = v := by
  unfold lookup at h
  obtain ⟨e, he, rfl⟩ := Option.map_eq_some_iff.1 h
  exact ⟨e, List.mem_of_find?_eq_some he, rfl⟩

/-- Where a key agrees with something, something is found. -/
theorem exists_lookup {e : Value × β} (he : e ∈ es) (hagree : agree k e.1 = true) :
    ∃ w, lookup k es = some w := by
  have hfound : (es.find? fun e => agree k e.1).isSome = true :=
    List.find?_isSome.2 ⟨e, he, hagree⟩
  obtain ⟨f, hf⟩ := Option.isSome_iff_exists.1 hfound
  exact ⟨f.2, by rw [lookup, hf]; rfl⟩

/-- Two kinds of the same text find the same. -/
theorem lookup_of_text (hk : k.text? = some s) (es : List (Value × β)) :
    lookup k es = lookup (text s) es := by
  have hsame : (fun e : Value × β => agree k e.1) = fun e => agree (text s) e.1 := by
    funext e
    rw [Bool.eq_iff_iff, agree_iff_of_text hk, agree_iff_of_text (k := text s) rfl]
  rw [lookup, lookup, hsame]

-- =============================================================== giving

/-- What is given stands under its own key or under one that was there. -/
theorem insertEntry_cases {e : Value × β} (h : e ∈ insertEntry k v es) :
    e.2 = v ∧ (e.1 = k ∨ e.1 ∈ es.map Prod.fst) ∨ e ∈ es := by
  induction es with
  | nil =>
    rw [List.mem_singleton.1 h]
    exact .inl ⟨rfl, .inl rfl⟩
  | cons f es ih =>
    rw [insertEntry] at h
    split at h
    · rcases List.mem_cons.1 h with rfl | h
      · exact .inl ⟨rfl, .inr List.mem_cons_self⟩
      · exact .inr (List.mem_cons_of_mem f h)
    · rcases List.mem_cons.1 h with rfl | h
      · exact .inr List.mem_cons_self
      · exact (ih h).imp (fun hnew => ⟨hnew.1, hnew.2.imp_right (List.mem_cons_of_mem f.1)⟩)
          (List.mem_cons_of_mem f)

/-- Inserting adds one value at most. -/
theorem mem_insertEntry {e : Value × β} (h : e ∈ insertEntry k v es) : e.2 = v ∨ e ∈ es :=
  (insertEntry_cases h).imp_left And.left

/-- It adds one name at most. -/
theorem key_of_mem_insertEntry {e : Value × β} (h : e ∈ insertEntry k v es) :
    e.1 = k ∨ e.1 ∈ es.map Prod.fst := by
  rcases insertEntry_cases h with ⟨-, hkey⟩ | hmem
  · exact hkey
  · exact .inr (List.mem_map_of_mem hmem)

/-- A key that agrees with itself finds what was last given for it. -/
theorem lookup_insertEntry_itself (hk : agree k k = true) (es : List (Value × β)) :
    lookup k (insertEntry k v es) = some v := by
  induction es with
  | nil => rw [insertEntry, lookup_cons, if_pos hk]
  | cons e es ih =>
    rw [insertEntry]
    by_cases h : agree k e.1 = true
    · rw [if_pos h, lookup_cons, if_pos h]
    · rw [if_neg h, lookup_cons, if_neg h, ih]

/-- What a key finds is still found when something is given for another key,
unless the other one found it as well. -/
theorem lookup_insertEntry_kept {w : β} (h : lookup x es = some w) (hother : lookup k es ≠ some w) :
    lookup x (insertEntry k v es) = some w := by
  induction es with
  | nil => cases h
  | cons e es ih =>
    rw [lookup_cons] at h hother
    rw [insertEntry]
    by_cases hx : agree x e.1 = true
    · rw [if_pos hx] at h
      have hk : ¬agree k e.1 = true := fun hk => hother (by rw [if_pos hk, h])
      rw [if_neg hk, lookup_cons, if_pos hx, h]
    · rw [if_neg hx] at h
      by_cases hk : agree k e.1 = true
      · rw [if_pos hk, lookup_cons, if_neg hx, h]
      · rw [if_neg hk] at hother
        rw [if_neg hk, lookup_cons, if_neg hx, ih h hother]

/-- An entry under a new name is the last. -/
private theorem insertEntry_new (h : ∀ e ∈ es, agree k e.1 = false) :
    insertEntry k v es = es ++ [(k, v)] := by
  induction es with
  | nil => rfl
  | cons e es ih =>
    obtain ⟨hne, hes⟩ := List.forall_mem_cons.1 h
    rw [insertEntry, if_neg (by rw [hne]; exact Bool.false_ne_true), ih hes]
    rfl

-- ======================================================== different texts

/-- Entries under texts, no two of them the same. -/
structure Named (es : List (Value × β)) : Prop where
  texts : ∀ e ∈ es, ∃ s, e.1 = text s
  nodup : (es.map Prod.fst).Nodup

/-- The order of entries does not matter. -/
theorem Named.perm (h : Named es) (hperm : fs.Perm es) : Named fs :=
  ⟨fun e he => h.texts e (hperm.mem_iff.1 he), (hperm.map Prod.fst).nodup_iff.2 h.nodup⟩

/-- Some of the entries have names, too. -/
theorem Named.filter (p : Value × β → Bool) (h : Named es) : Named (es.filter p) :=
  ⟨fun e he => h.texts e (List.mem_of_mem_filter he), h.nodup.sublist (List.filter_sublist.map _)⟩

/-- Other values under the same names. -/
theorem Named.map (f : Value × β → α) (h : Named es) : Named (es.map fun e => (e.1, f e)) := by
  refine ⟨fun e he => ?_, ?_⟩
  · obtain ⟨e', he', rfl⟩ := List.mem_map.1 he
    exact h.texts e' he'
  · rw [List.map_map]
    exact h.nodup

/-- Entries that have the names of others. -/
theorem Named.of_names {fs : List (Value × α)} (h : Named es)
    (hnames : fs.map Prod.fst = es.map Prod.fst) : Named fs := by
  refine ⟨fun f hf => ?_, hnames ▸ h.nodup⟩
  have hmem := List.mem_map_of_mem (f := Prod.fst) hf
  rw [hnames] at hmem
  obtain ⟨e, he, heq⟩ := List.mem_map.1 hmem
  exact heq ▸ h.texts e he

/-- One more name, unless it is one of those given. -/
theorem Named.insertEntry (h : Named es) (s : Text) (v : β) :
    Named (insertEntry (text s) v es) := by
  refine ⟨fun e he => ?_, ?_⟩
  · rcases key_of_mem_insertEntry he with heq | hmem
    · exact ⟨s, heq⟩
    · obtain ⟨f, hf, heq⟩ := List.mem_map.1 hmem
      exact heq ▸ h.texts f hf
  · induction es with
    | nil => exact List.nodup_cons.2 ⟨List.not_mem_nil, List.nodup_nil⟩
    | cons e es ih =>
      have hnodup := h.nodup
      rw [List.map_cons, List.nodup_cons] at hnodup
      obtain ⟨t, ht⟩ := h.texts e List.mem_cons_self
      rw [Value.insertEntry]
      split
      · exact h.nodup
      · next hne =>
        refine List.nodup_cons.2 ⟨fun hmem => ?_,
          ih ⟨fun f hf => h.texts f (List.mem_cons_of_mem e hf), hnodup.2⟩⟩
        obtain ⟨f, hf, heq⟩ := List.mem_map.1 hmem
        rcases key_of_mem_insertEntry hf with hkey | hkey
        · rw [← heq, hkey, agree_text, beq_self_eq_true] at hne
          exact hne rfl
        · exact hnodup.1 (heq ▸ hkey)

/-- Texts that do not agree are different names. -/
theorem named_of_pairwise (htexts : ∀ e ∈ es, ∃ s, e.1 = text s)
    (h : es.Pairwise fun e f => agree e.1 f.1 = false) : Named es := by
  refine ⟨htexts, List.pairwise_map.2 (h.imp_of_mem fun {e f} he hf hne heq => ?_)⟩
  obtain ⟨s, hs⟩ := htexts e he
  rw [← heq, hs, agree_text, beq_self_eq_true] at hne
  cases hne

/-- Different names do not agree. -/
theorem Named.pairwise (h : Named es) : es.Pairwise fun e f => agree e.1 f.1 = false := by
  refine (List.pairwise_map.1 h.nodup).imp_of_mem fun {e f} he hf hne => ?_
  obtain ⟨s, hs⟩ := h.texts e he
  obtain ⟨t, ht⟩ := h.texts f hf
  rw [hs, ht, Ne, text.injEq] at hne
  rw [hs, ht, agree_text, beq_eq_false_iff_ne]
  exact hne

/-- Under different texts whatever stands is found. -/
theorem lookup_eq_some_iff (h : Named es) : lookup (text s) es = some v ↔ (text s, v) ∈ es := by
  induction es with
  | nil => exact iff_of_false (fun h => nomatch h) List.not_mem_nil
  | cons e es ih =>
    obtain ⟨k, w⟩ := e
    obtain ⟨t, rfl⟩ : ∃ t, k = text t := h.texts _ List.mem_cons_self
    have hnodup := h.nodup
    rw [List.map_cons, List.nodup_cons] at hnodup
    rw [lookup_cons, agree_text, List.mem_cons, Prod.mk.injEq, text.injEq]
    by_cases hst : s = t
    · subst hst
      have hnot : (text s, v) ∉ es := fun hmem => hnodup.1 (List.mem_map.2 ⟨_, hmem, rfl⟩)
      rw [if_pos (beq_self_eq_true s), Option.some.injEq]
      constructor
      · exact fun heq => .inl ⟨rfl, heq.symm⟩
      · exact fun hmem => (hmem.resolve_right hnot).2.symm
    · rw [if_neg (by simpa using hst),
        ih ⟨fun e he => h.texts e (List.mem_cons_of_mem _ he), hnodup.2⟩]
      exact ⟨.inr, fun hmem => hmem.resolve_left fun heq => hst heq.1⟩

/-- Entries under different names are taken over as they are given. -/
private theorem foldl_insertEntry (fs : List (Value × Value)) : ∀ es : List (Value × Value),
    Named (es ++ fs) → fs.foldl (fun es e => insertEntry e.1 e.2 es) es = es ++ fs := by
  induction fs with
  | nil => exact fun es _ => (List.append_nil es).symm
  | cons f fs ih =>
    intro es h
    have hnew : ∀ e ∈ es, agree f.1 e.1 = false := by
      intro e he
      obtain ⟨s, hs⟩ := h.texts f (List.mem_append_right es List.mem_cons_self)
      obtain ⟨t, ht⟩ := h.texts e (List.mem_append_left _ he)
      have hnodup := h.nodup
      rw [List.map_append, List.nodup_append] at hnodup
      have hne := hnodup.2.2 e.1 (List.mem_map_of_mem he) f.1 List.mem_cons_self
      rw [hs, ht] at hne ⊢
      exact beq_false_of_ne fun heq => hne (congrArg Value.text heq.symm)
    rw [List.foldl_cons, insertEntry_new hnew, ih _ (by rwa [List.append_assoc]), List.append_assoc]
    rfl

/-- Entries under different texts are a dictionary as they stand. -/
theorem dictOf_named {es : List (Value × Value)} (h : Named es) : dictOf es = es :=
  foldl_insertEntry es [] h

/-- A dictionary made of entries under texts has each text once. -/
theorem named_dictOf {es : List (Value × Value)} (h : ∀ e ∈ es, ∃ s, e.1 = text s) :
    Named (dictOf es) := by
  refine List.foldlRecOn es _ ⟨fun _ h => absurd h List.not_mem_nil, List.nodup_nil⟩ ?_
  intro fs hfs e he
  obtain ⟨s, hs⟩ := h e he
  rw [hs]
  exact hfs.insertEntry s e.2

/-- Its names are among those of the entries, and its values too. -/
theorem of_mem_dictOf {es : List (Value × Value)} {e : Value × Value} (h : e ∈ dictOf es) :
    (∃ f ∈ es, f.1 = e.1) ∧ ∃ f ∈ es, f.2 = e.2 := by
  refine List.foldlRecOn
    (motive := fun fs => ∀ e ∈ fs, (∃ f ∈ es, f.1 = e.1) ∧ ∃ f ∈ es, f.2 = e.2)
    es _ (fun _ h => absurd h List.not_mem_nil) (fun fs hfs f hf e he => ?_) e h
  constructor
  · rcases key_of_mem_insertEntry he with heq | hmem
    · exact ⟨f, hf, heq.symm⟩
    · obtain ⟨e', he', heq⟩ := List.mem_map.1 hmem
      exact heq ▸ (hfs e' he').1
  · rcases mem_insertEntry he with heq | hmem
    · exact ⟨f, hf, heq.symm⟩
    · exact (hfs e hmem).2

end Collation.Value
