/-
There is one arrangement of some entries. If each member of a strictly
ascending list has an equivalent one in another, these stand there in the
same order (`sublist_of_matched`); so two such lists that are as long, or
each of which has equivalents of all the other's members, are equivalent
place by place (`forall₂_of_matched`): no history has a say in where a key
or a value stands. Two ordered multimaps with matching entries
so match slot by slot and value by value, and entry by entry
(`Ordered.slots_matched`, `forall₂_entries`), in whatever finer sense than
equivalence the entries match (`Matched`).

What putting entries comes to is told in the same terms: each of them has
an equivalent one in the end, and nothing is there but what they brought
(`Ordered.putEntries_brings`). So the order in which they are put is lost.
-/
import Collation.Proofs.Multimap.Effects

namespace Collation

open Bisect (Ascends)

-- ================================================== ascending lists

section

variable {α : Type} {c : Comparison} {D : Value → Prop} {key : α → Value} {xs ys : List α}
  {x y : α} {R : α → α → Prop}

/-- Where each member of one ascending list has a match in another, the
matches come in the same order there. -/
theorem sublist_of_matched (hc : c.TotalOn D) (hxs : ∀ x ∈ xs, D (key x))
    (hys : ∀ y ∈ ys, D (key y)) (hascx : Ascends c key xs) (hascy : Ascends c key ys)
    (hR : ∀ x ∈ xs, ∀ y ∈ ys, R x y → c.Gives (key x) (key y) .eq)
    (hleft : ∀ x ∈ xs, ∃ y ∈ ys, R x y) : ∃ zs, zs.Sublist ys ∧ List.Forall₂ R xs zs := by
  induction xs generalizing ys with
  | nil => exact ⟨[], List.nil_sublist ys, .nil⟩
  | cons x xs ih =>
    obtain ⟨w, hw, hxw⟩ := hleft x List.mem_cons_self
    obtain ⟨hDx, hDxs⟩ := List.forall_mem_cons.1 hxs
    obtain ⟨hbelow, hascx'⟩ := List.pairwise_cons.1 hascx
    have heq := hR x List.mem_cons_self w hw hxw
    obtain ⟨before, after, rfl⟩ := List.append_of_mem hw
    obtain ⟨-, hascw, hbefore⟩ := List.pairwise_append.1 hascy
    have hafter : ∀ v ∈ after, v ∈ before ++ w :: after :=
      fun v hv => List.mem_append_right before (List.mem_cons_of_mem w hv)
    -- a later member is above the first one, and its match above that one's
    have hrest : ∀ z ∈ xs, ∃ v ∈ after, R z v := by
      intro z hz
      obtain ⟨v, hv, hzv⟩ := hleft z (List.mem_cons_of_mem x hz)
      have hxv := hc.lt_of_lt_of_atMost hDx (hDxs z hz) (hys v hv) (hbelow z hz)
        (.inr (hR z (List.mem_cons_of_mem x hz) v hv hzv))
      rcases List.mem_append.1 hv with hv' | hv'
      · have hvw := hbefore v hv' w List.mem_cons_self
        have hlt := hc.lt_of_lt_of_atMost hDx (hys v hv) (hys w hw) hxv (.inl hvw)
        cases hlt.unique heq
      rcases List.mem_cons.1 hv' with rfl | hv'
      · cases hxv.unique heq
      · exact ⟨v, hv', hzv⟩
    obtain ⟨zs, hsub, hzs⟩ := ih hDxs (fun v hv => hys v (hafter v hv)) hascx' hascw.of_cons
      (fun z hz v hv => hR z (List.mem_cons_of_mem x hz) v (hafter v hv)) hrest
    exact ⟨w :: zs, (hsub.cons_cons w).trans (List.sublist_append_right before _), .cons hxw hzs⟩

/-- Matches in one direction are enough if there are as many members. -/
theorem forall₂_of_matched_left (hc : c.TotalOn D) (hxs : ∀ x ∈ xs, D (key x))
    (hys : ∀ y ∈ ys, D (key y)) (hascx : Ascends c key xs) (hascy : Ascends c key ys)
    (hR : ∀ x ∈ xs, ∀ y ∈ ys, R x y → c.Gives (key x) (key y) .eq)
    (hleft : ∀ x ∈ xs, ∃ y ∈ ys, R x y) (hlength : xs.length = ys.length) :
    List.Forall₂ R xs ys := by
  obtain ⟨zs, hsub, hzs⟩ := sublist_of_matched hc hxs hys hascx hascy hR hleft
  rwa [hsub.eq_of_length (hzs.length_eq.symm.trans hlength)] at hzs

/-- Ascending lists with matching members match place by place. -/
theorem forall₂_of_matched (hc : c.TotalOn D) (hxs : ∀ x ∈ xs, D (key x))
    (hys : ∀ y ∈ ys, D (key y)) (hascx : Ascends c key xs) (hascy : Ascends c key ys)
    (hR : ∀ x ∈ xs, ∀ y ∈ ys, R x y → c.Gives (key x) (key y) .eq)
    (hleft : ∀ x ∈ xs, ∃ y ∈ ys, R x y) (hright : ∀ y ∈ ys, ∃ x ∈ xs, R x y) :
    List.Forall₂ R xs ys := by
  have hback : ∀ y ∈ ys, ∀ x ∈ xs, R x y → c.Gives (key y) (key x) .eq :=
    fun y hy x hx hxy => hc.swap (hxs x hx) (hys y hy) (hR x hx y hy hxy)
  obtain ⟨zs, hsub, hzs⟩ := sublist_of_matched hc hxs hys hascx hascy hR hleft
  obtain ⟨ws, hsub', hws⟩ := sublist_of_matched (R := fun y x => R x y) hc hys hxs hascy hascx
    hback hright
  have hle := hsub.length_le
  have hle' := hsub'.length_le
  have hlength := hzs.length_eq
  have hlength' := hws.length_eq
  exact forall₂_of_matched_left hc hxs hys hascx hascy hR hleft (by omega)

end

namespace Multimap

variable {keys values : Comparator} {K V : Value → Prop} {R S : Value → Value → Prop}
  {m n : Multimap} {k v : Value} {s t : Slot OrderedSet}

/-- An entry is a key with a value of its slot. -/
theorem mem_entries {e : Value × Value} :
    e ∈ m.entries ↔ ∃ s ∈ m.map.slots, s.key = e.1 ∧ e.2 ∈ s.value.items := by
  simp only [entries, List.mem_flatMap, List.mem_map, Prod.ext_iff]
  constructor
  · rintro ⟨s, hs, v, hv, hkey, rfl⟩
    exact ⟨s, hs, hkey, hv⟩
  · rintro ⟨s, hs, hkey, hv⟩
    exact ⟨s, hs, e.2, hv, hkey, rfl⟩

/-- The entries are of the kinds that the comparators order. -/
theorem Ordered.entry_mem {e : Value × Value} (h : Ordered keys values K V m) (he : e ∈ m.entries) :
    K e.1 ∧ V e.2 := by
  obtain ⟨s, hs, hkey, hitem⟩ := mem_entries.1 he
  exact ⟨hkey ▸ h.key_mem s hs, (h.ordered s hs).value_mem e.2 hitem⟩

/-- Each entry of either multimap has a match in the other: keys that match
in the one sense, values that match in the other. -/
structure Matched (R S : Value → Value → Prop) (m n : Multimap) : Prop where
  left : ∀ e ∈ m.entries, ∃ f ∈ n.entries, R e.1 f.1 ∧ S e.2 f.2
  right : ∀ f ∈ n.entries, ∃ e ∈ m.entries, R e.1 f.1 ∧ S e.2 f.2

/-- A match in one sense is one in another, if it is so of the entries. -/
theorem Matched.imp {R' S' : Value → Value → Prop} (h : Matched R S m n)
    (hRS : ∀ e ∈ m.entries, ∀ f ∈ n.entries, R e.1 f.1 → S e.2 f.2 → R' e.1 f.1 ∧ S' e.2 f.2) :
    Matched R' S' m n where
  left e he := by
    obtain ⟨f, hf, hkey, hvalue⟩ := h.left e he
    exact ⟨f, hf, hRS e he f hf hkey hvalue⟩
  right f hf := by
    obtain ⟨e, he, hkey, hvalue⟩ := h.right f hf
    exact ⟨e, he, hRS e he f hf hkey hvalue⟩

/-- Slots with keys and values that match. -/
def SlotsMatched (R S : Value → Value → Prop) (s t : Slot OrderedSet) : Prop :=
  R s.key t.key ∧ List.Forall₂ S s.value.items t.value.items

/-- Slot by slot is entry by entry. -/
theorem forall₂_entries (h : List.Forall₂ (SlotsMatched R S) m.map.slots n.map.slots) :
    List.Forall₂ (fun e f => R e.1 f.1 ∧ S e.2 f.2) m.entries n.entries := by
  unfold entries
  generalize m.map.slots = xs at h ⊢
  generalize n.map.slots = ys at h ⊢
  induction h with
  | nil => exact .nil
  | cons hst _ ih =>
    rw [List.flatMap_cons, List.flatMap_cons]
    refine List.rel_append ?_ ih
    rw [List.forall₂_map_left_iff, List.forall₂_map_right_iff]
    exact hst.2.imp fun _ _ hvw => ⟨hst.1, hvw⟩

namespace Ordered

section

variable (hm : Ordered keys values K V m) (hn : Ordered keys values K V n)
  (hk : keys.compare.TotalOn K) (hv : values.compare.TotalOn V)
  (hR : ∀ a b, K a → K b → R a b → keys.compare.Gives a b .eq)
  (hS : ∀ a b, V a → V b → S a b → values.compare.Gives a b .eq)
  (h : Matched R S m n)

include hm hn hk hv hR hS h

/-- In slots of equivalent keys the values match. -/
theorem items_matched (hs : s ∈ m.map.slots) (ht : t ∈ n.map.slots)
    (heq : keys.compare.Gives s.key t.key .eq) :
    List.Forall₂ S s.value.items t.value.items := by
  have hKs := hm.key_mem s hs
  have hKt := hn.key_mem t ht
  have hos := hm.ordered s hs
  have hot := hn.ordered t ht
  refine forall₂_of_matched hv hos.value_mem hot.value_mem hos.ascends hot.ascends
    (fun v hv w hw => hS v w (hos.value_mem v hv) (hot.value_mem w hw)) (fun v hv => ?_)
    fun w hw => ?_
  · obtain ⟨f, hf, hkey, hvalue⟩ := h.left (s.key, v) (mem_entries.2 ⟨s, hs, rfl, hv⟩)
    obtain ⟨t', ht', hfkey, hitem⟩ := mem_entries.1 hf
    rw [← hfkey] at hkey
    have hKt' := hn.key_mem t' ht'
    have hst' := hR _ _ hKs hKt' hkey
    have htt' := hk.eq_trans hKt hKs hKt' (hk.swap hKs hKt heq) hst'
    rw [eq_of_gives_eq hk.consistentOn hn.key_mem hn.ascends ht ht' htt']
    exact ⟨f.2, hitem, hvalue⟩
  · obtain ⟨e, he, hkey, hvalue⟩ := h.right (t.key, w) (mem_entries.2 ⟨t, ht, rfl, hw⟩)
    obtain ⟨s', hs', hekey, hitem⟩ := mem_entries.1 he
    rw [← hekey] at hkey
    have hKs' := hm.key_mem s' hs'
    have hs't := hR _ _ hKs' hKt hkey
    have hss' := hk.eq_trans hKs hKt hKs' heq (hk.swap hKs' hKt hs't)
    rw [eq_of_gives_eq hk.consistentOn hm.key_mem hm.ascends hs hs' hss']
    exact ⟨e.2, hitem, hvalue⟩

/-- Multimaps with matching entries match slot by slot. -/
theorem slots_matched : List.Forall₂ (SlotsMatched R S) m.map.slots n.map.slots := by
  have hitems := fun {s t} => hm.items_matched hn hk hv hR hS h (s := s) (t := t)
  refine forall₂_of_matched hk hm.key_mem hn.key_mem hm.ascends hn.ascends
    (fun s hs t ht hst => hR _ _ (hm.key_mem s hs) (hn.key_mem t ht) hst.1) (fun s hs => ?_)
    fun t ht => ?_
  · obtain ⟨v, hv⟩ := List.exists_mem_of_ne_nil _ (hm.slots s hs).filled
    obtain ⟨f, hf, hkey, -⟩ := h.left (s.key, v) (mem_entries.2 ⟨s, hs, rfl, hv⟩)
    obtain ⟨t, ht, hfkey, -⟩ := mem_entries.1 hf
    rw [← hfkey] at hkey
    exact ⟨t, ht, hkey, hitems hs ht (hR _ _ (hm.key_mem s hs) (hn.key_mem t ht) hkey)⟩
  · obtain ⟨w, hw⟩ := List.exists_mem_of_ne_nil _ (hn.slots t ht).filled
    obtain ⟨e, he, hkey, -⟩ := h.right (t.key, w) (mem_entries.2 ⟨t, ht, rfl, hw⟩)
    obtain ⟨s, hs, hekey, -⟩ := mem_entries.1 he
    rw [← hekey] at hkey
    exact ⟨s, hs, hkey, hitems hs ht (hR _ _ (hm.key_mem s hs) (hn.key_mem t ht) hkey)⟩

end

end Ordered

-- ==================================================== putting entries

private theorem entries_parted {before after : List (Slot OrderedSet)}
    (hslots : m.map.slots = before ++ s :: after) :
    m.entries = (before.flatMap fun t => t.value.items.map fun v => (t.key, v))
      ++ ((s.value.items.map fun v => (s.key, v))
        ++ after.flatMap fun t => t.value.items.map fun v => (t.key, v)) := by
  rw [entries, hslots, List.flatMap_append, List.flatMap_cons]

/-- What is under a key are the entries of equivalent keys. -/
theorem Ordered.holds_iff (h : Ordered keys values K V m) (hk : keys.compare.TotalOn K)
    (hv : values.compare.TotalOn V) (hK : K k) (hV : V v) :
    m.holds k v = true ↔
      ∃ e ∈ m.entries, keys.compare.Gives e.1 k .eq ∧ values.compare.Gives e.2 v .eq := by
  have heq := (h.containsEntry_eq hk hK hv hV).symm.trans (h.containsEntry hk hv hK hV)
  rw [Except.ok.inj heq, List.any_eq_true]
  simp only [Bool.and_eq_true, Comparison.same_iff]

/-- The value added makes one more entry among those that are there, under
the key that is there or under the new one. -/
theorem Added.entries_inserted {m' : Multimap} (h : Ordered keys values K V m)
    (hk : keys.compare.TotalOn K) (hK : K k) (hadded : Added m k v m') :
    ∃ k' low high, keys.compare.Gives k' k .eq ∧ (k' = k ∨ ∃ e ∈ m.entries, k' = e.1)
      ∧ m.entries = low ++ high ∧ m'.entries = low ++ (k', v) :: high := by
  cases hadded with
  | @grown low high hhas hunder _ _ =>
    rcases h.located hk hK with ⟨-, hnone⟩ | ⟨before, s, after, hslots, -, hfor, hothers⟩
    · rw [hasKey_eq_false_iff.2 hnone] at hhas
      cases hhas
    have hitems := hunder
    rw [under_parted hslots hfor hothers] at hitems
    have hrevised := revised_parted (f := fun _ => low ++ v :: high) hslots hfor hothers
    rw [Slot.refilled?_of_ne (by simp)] at hrevised
    obtain ⟨w, hw⟩ := List.exists_mem_of_ne_nil _ (h.toIntact.parted hslots).1.filled
    rw [h.isFor_eq] at hfor
    have hentry := mem_entries (e := (s.key, w)).2 ⟨s, mem_of_parted hslots, rfl, hw⟩
    have hentries := entries_parted hslots
    have hentries' := entries_parted hrevised
    rw [hitems, List.map_append, List.append_assoc, ← List.append_assoc] at hentries
    rw [List.map_append, List.map_cons, List.append_assoc, List.cons_append, ← List.append_assoc]
      at hentries'
    exact ⟨s.key, _, _, Comparison.same_iff.1 hfor, .inr ⟨_, hentry, rfl⟩, hentries, hentries'⟩
  | @made before after _ hslots _ _ =>
    have hentries : m.entries = (before.flatMap fun t => t.value.items.map fun v => (t.key, v))
        ++ after.flatMap fun t => t.value.items.map fun v => (t.key, v) := by
      rw [entries, hslots, List.flatMap_append]
    exact ⟨k, _, _, hk.refl hK, .inl rfl, hentries, entries_parted (holding_slots ..)⟩

/-- What putting some entries makes of a multimap: what was there stays,
each entry put has an equivalent one in the end, and nothing else comes in
than their keys and values, under keys that are equivalent. -/
structure Brings (keys values : Comparator) (pairs : List (Value × Value)) (m n : Multimap) :
    Prop where
  kept : m.entries.Sublist n.entries
  brought : ∀ e ∈ pairs, ∃ f ∈ n.entries,
    keys.compare.Gives f.1 e.1 .eq ∧ values.compare.Gives f.2 e.2 .eq
  value : ∀ f ∈ n.entries, f ∈ m.entries
    ∨ ∃ e ∈ pairs, f.2 = e.2 ∧ keys.compare.Gives f.1 e.1 .eq
  key : ∀ f ∈ n.entries, (∃ e ∈ m.entries, f.1 = e.1) ∨ ∃ e ∈ pairs, f.1 = e.1

/-- A put brings its entry and nothing else. -/
private theorem Ordered.put_brings (h : Ordered keys values K V m) (hk : keys.compare.TotalOn K)
    (hv : values.compare.TotalOn V) (hK : K k) (hV : V v) :
    ∃ isNew, (m.put k v).result = .ok isNew
      ∧ Brings keys values [(k, v)] m (m.put k v).state := by
  rcases h.put_effect hk hv hK hV with
    ⟨hheld, hstate, hresult⟩ | ⟨-, m', hadded, hstate, hresult⟩
  · rw [hstate]
    refine ⟨false, hresult, .refl _, ?_, fun _ hf => .inl hf, fun f hf => .inl ⟨f, hf, rfl⟩⟩
    exact List.forall_mem_singleton.2 ((h.holds_iff hk hv hK hV).1 hheld)
  · rw [hstate]
    obtain ⟨k', low, high, heq, hkey, hold, hnew⟩ := hadded.entries_inserted h hk hK
    have hmem : ∀ f, f ∈ m'.entries ↔ f = (k', v) ∨ f ∈ m.entries := fun f => by
      rw [hold, hnew, List.perm_middle.mem_iff, List.mem_cons]
    have hkept : m.entries.Sublist m'.entries := by
      rw [hold, hnew]
      exact (List.sublist_cons_self _ high).append_left low
    refine ⟨true, hresult, hkept, ?_, fun f hf => ?_, fun f hf => ?_⟩
    · exact List.forall_mem_singleton.2 ⟨(k', v), (hmem _).2 (.inl rfl), heq, hv.refl hV⟩
    · rcases (hmem f).1 hf with rfl | hf
      · exact .inr ⟨(k, v), List.mem_singleton_self _, rfl, heq⟩
      · exact .inl hf
    · rcases (hmem f).1 hf with rfl | hf
      · rcases hkey with rfl | hkey
        · exact .inr ⟨(k', v), List.mem_singleton_self _, rfl⟩
        · exact .inl hkey
      · exact .inl ⟨f, hf, rfl⟩

/-- What some entries bring and then others bring is brought by all. -/
theorem Brings.append {l : Multimap} {pairs more : List (Value × Value)}
    (h : Brings keys values pairs l m) (h' : Brings keys values more m n) :
    Brings keys values (pairs ++ more) l n where
  kept := h.kept.trans h'.kept
  brought := by
    refine List.forall_mem_append.2 ⟨fun e he => ?_, h'.brought⟩
    obtain ⟨f, hf, heq⟩ := h.brought e he
    exact ⟨f, h'.kept.mem hf, heq⟩
  value f hf := by
    rcases h'.value f hf with hf | ⟨e, he, heq⟩
    · refine (h.value f hf).imp_right ?_
      rintro ⟨e, he, heq⟩
      exact ⟨e, List.mem_append_left _ he, heq⟩
    · exact .inr ⟨e, List.mem_append_right _ he, heq⟩
  key f hf := by
    rcases h'.key f hf with ⟨g, hg, hkey⟩ | ⟨e, he, heq⟩
    · rw [hkey]
      refine (h.key g hg).imp_right ?_
      rintro ⟨e, he, heq⟩
      exact ⟨e, List.mem_append_left _ he, heq⟩
    · exact .inr ⟨e, List.mem_append_right _ he, heq⟩

/-- Putting entries one after the other succeeds and brings them all. -/
theorem Ordered.putEntries_brings (hk : keys.compare.TotalOn K) (hv : values.compare.TotalOn V) :
    ∀ {pairs : List (Value × Value)}, (∀ e ∈ pairs, K e.1 ∧ V e.2) →
      ∀ {m : Multimap}, Ordered keys values K V m →
        Ordered keys values K V (m.putEntries pairs).state
          ∧ (∃ isNew, (m.putEntries pairs).result = .ok isNew)
          ∧ Brings keys values pairs m (m.putEntries pairs).state := by
  intro pairs
  induction pairs with
  | nil =>
    exact fun _ m h => ⟨h, ⟨false, rfl⟩, .refl _, fun _ he => absurd he List.not_mem_nil,
      fun _ hf => .inl hf, fun f hf => .inl ⟨f, hf, rfl⟩⟩
  | cons e rest ih =>
    obtain ⟨k, v⟩ := e
    intro hpairs m h
    rw [List.forall_mem_cons] at hpairs
    obtain ⟨⟨hK, hV⟩, hrest⟩ := hpairs
    obtain ⟨isNew, hresult, hbrings⟩ := h.put_brings hk hv hK hV
    have hnext := h.put hk.consistentOn hv.consistentOn hK hV
    obtain ⟨hordered, ⟨more, hmore⟩, hbrings'⟩ := ih hrest hnext
    obtain ⟨hstate, hanswer⟩ := putEntries_cons rest hresult
    rw [hstate, hanswer, hmore]
    exact ⟨hordered, ⟨isNew || more, rfl⟩, hbrings.append hbrings'⟩

section Permuted

variable {pairs pairs' : List (Value × Value)} (hk : keys.compare.TotalOn K)
  (hv : values.compare.TotalOn V) (hm : Ordered keys values K V m)
  (hn : Ordered keys values K V n) (hpairs : ∀ e ∈ pairs, K e.1 ∧ V e.2)
  (h : Brings keys values pairs (.empty keys values) m)
  (h' : Brings keys values pairs' (.empty keys values) n)

include hk hv hm hn hpairs h h'

/-- What some entries brought has an equivalent in what these entries, and
perhaps others, brought elsewhere. -/
theorem Brings.counterpart (hsubset : pairs ⊆ pairs') : ∀ f ∈ m.entries, ∃ g ∈ n.entries,
    keys.compare.Gives f.1 g.1 .eq ∧ values.compare.Gives f.2 g.2 .eq := by
  intro f hf
  rcases h.value f hf with hnone | ⟨e, he, hvalue, hkey⟩
  · exact absurd hnone List.not_mem_nil
  · obtain ⟨hK, -⟩ := hm.entry_mem hf
    obtain ⟨hKe, hVe⟩ := hpairs e he
    obtain ⟨g, hg, hgkey, hgvalue⟩ := h'.brought e (hsubset he)
    obtain ⟨hKg, hVg⟩ := hn.entry_mem hg
    refine ⟨g, hg, hk.eq_trans hK hKe hKg hkey (hk.swap hKg hKe hgkey), ?_⟩
    rw [hvalue]
    exact hv.swap hVg hVe hgvalue

/-- Multimaps into which the same entries were put, each in an order of its
own, have equivalent entries. -/
theorem Brings.matched (hperm : pairs.Perm pairs') :
    Matched (fun a b => keys.compare.Gives a b .eq) (fun a b => values.compare.Gives a b .eq)
      m n where
  left := h.counterpart hk hv hm hn hpairs h' hperm.subset
  right g hg := by
    have hpairs' : ∀ e ∈ pairs', K e.1 ∧ V e.2 := fun e he => hpairs e (hperm.mem_iff.2 he)
    obtain ⟨f, hf, hkey, hvalue⟩ :=
      h'.counterpart hk hv hn hm hpairs' h hperm.symm.subset g hg
    obtain ⟨hKf, hVf⟩ := hm.entry_mem hf
    obtain ⟨hKg, hVg⟩ := hn.entry_mem hg
    exact ⟨f, hf, hk.swap hKg hKf hkey, hv.swap hVg hVf hvalue⟩

/-- Where no two different keys and no two different values are equivalent,
they have the same entries. -/
theorem Brings.matched_same (hperm : pairs.Perm pairs')
    (hR : ∀ e ∈ pairs, ∀ f ∈ pairs, keys.compare.Gives e.1 f.1 .eq → R e.1 f.1)
    (hS : ∀ e ∈ pairs, ∀ f ∈ pairs, values.compare.Gives e.2 f.2 .eq → S e.2 f.2) :
    Matched R S m n := by
  refine (h.matched hk hv hm hn hpairs h' hperm).imp fun e he f hf hkey hvalue => ⟨?_, ?_⟩
  · rcases h.key e he with ⟨_, hnone, -⟩ | ⟨d, hd, heq⟩
    · exact absurd hnone List.not_mem_nil
    rcases h'.key f hf with ⟨_, hnone, -⟩ | ⟨d', hd', heq'⟩
    · exact absurd hnone List.not_mem_nil
    rw [heq, heq'] at hkey ⊢
    exact hR d hd d' (hperm.mem_iff.2 hd') hkey
  · rcases h.value e he with hnone | ⟨d, hd, heq, -⟩
    · exact absurd hnone List.not_mem_nil
    rcases h'.value f hf with hnone | ⟨d', hd', heq', -⟩
    · exact absurd hnone List.not_mem_nil
    rw [heq, heq'] at hvalue ⊢
    exact hS d hd d' (hperm.mem_iff.2 hd') hvalue

end Permuted

end Multimap

end Collation
