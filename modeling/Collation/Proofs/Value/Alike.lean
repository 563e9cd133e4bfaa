/-
Values that are the same but for the order in which the entries of their
dictionaries were given (`Value.Alike`). Unlike equality this tells true, 1
and 1.0 apart, and the two zeros; unlike the normal form (module Normal) it
is about all values, also those for which JSON has none. Of a plain value
the two come to the same: what is like it is plain as well, and JSON does
not tell the two apart (`Plain.same_of_alike`), and plain values that JSON
does not tell apart are alike (`Plain.alike_of_same`).
-/
import Collation.Proofs.Fallible
import Collation.Proofs.Value.Normal
import Mathlib.Data.List.Perm.Basic

namespace Collation.Value

-- ============================================================= alike

/-- Two values of one type and with one content at every depth, the entries
of dictionaries and the elements of sets being taken in any order. -/
inductive Alike : Value → Value → Prop where
  | refl (v : Value) : Alike v v
  | list {xs ys : List Value} : List.Forall₂ Alike xs ys → Alike (list xs) (list ys)
  | tuple {xs ys : List Value} : List.Forall₂ Alike xs ys → Alike (tuple xs) (tuple ys)
  | dict {es fs gs : List (Value × Value)} : fs.Perm gs →
    List.Forall₂ Alike (es.map Prod.fst) (gs.map Prod.fst) →
    List.Forall₂ Alike (es.map Prod.snd) (gs.map Prod.snd) → Alike (dict es) (dict fs)
  | set {xs ys zs : List Value} : ys.Perm zs → List.Forall₂ Alike xs zs →
    Alike (set xs) (set ys)
  | iterator (type : String) {xs ys : List Value} : List.Forall₂ Alike xs ys →
    Alike (iterator type xs) (iterator type ys)
  | object (o : Outline) {xs ys : List Value} : List.Forall₂ Alike xs ys →
    Alike (object o xs) (object o ys)

variable {v w : Value} {xs ys : List Value} {es fs : List (Value × Value)}

/-- What is like a text is that text. -/
theorem Alike.eq_of_text {s : Text} (h : (text s).Alike w) : w = .text s := by
  cases h
  rfl

/-- Values that are alike are the same text, if they are texts. -/
theorem Alike.text?_eq (h : v.Alike w) : w.text? = v.text? := by
  cases h <;> rfl

/-- Entries with like names and like values, entry by entry. -/
theorem forall₂_entries_iff {R : Value → Value → Prop} :
    List.Forall₂ R (es.map Prod.fst) (fs.map Prod.fst)
        ∧ List.Forall₂ R (es.map Prod.snd) (fs.map Prod.snd)
      ↔ List.Forall₂ (fun e f => R e.1 f.1 ∧ R e.2 f.2) es fs := by
  rw [List.forall₂_map_left_iff, List.forall₂_map_right_iff, List.forall₂_map_left_iff,
    List.forall₂_map_right_iff]
  constructor
  · rintro ⟨hkeys, hvalues⟩
    induction hkeys with
    | nil => exact .nil
    | cons hkey _ ih =>
      cases hvalues with
      | cons hvalue hrest => exact .cons ⟨hkey, hvalue⟩ (ih hrest)
  · intro h
    exact ⟨h.imp fun _ _ he => he.1, h.imp fun _ _ he => he.2⟩

/-- Being alike goes both ways. -/
theorem Alike.symm (h : v.Alike w) : w.Alike v := by
  induction v using nested generalizing w with
  | step v ih =>
    have hitems : ∀ {xs ys : List Value}, (∀ x ∈ xs, x ∈ v.within) →
        List.Forall₂ Alike xs ys → List.Forall₂ Alike ys xs := by
      intro xs ys hmem hxs
      exact (forall₂_imp_of_mem (S := fun x y => y.Alike x) hxs
        fun x hx y hxy => ih x (hmem x hx) hxy).flip
    cases h with
    | refl => exact .refl v
    | list hxs => exact .list (hitems (fun _ hx => hx) hxs)
    | tuple hxs => exact .tuple (hitems (fun _ hx => hx) hxs)
    | iterator type hxs => exact .iterator type (hitems (fun _ hx => hx) hxs)
    | object o hxs => exact .object o (hitems (fun _ hx => hx) hxs)
    | set hperm hxs =>
      obtain ⟨zs, hys, hzs⟩ := List.perm_comp_forall₂ hperm (hitems (fun _ hx => hx) hxs)
      exact .set hzs.symm hys
    | @dict es fs gs hperm hkeys hvalues =>
      have hback := forall₂_entries_iff.1
        ⟨hitems (fun _ hx => List.mem_append_left _ hx) hkeys,
          hitems (fun _ hx => List.mem_append_right _ hx) hvalues⟩
      obtain ⟨hs, hfs, hhs⟩ := List.perm_comp_forall₂ hperm hback
      obtain ⟨hkeys', hvalues'⟩ := forall₂_entries_iff.2 hfs
      exact .dict hhs.symm hkeys' hvalues'

-- ======================================================== plain values

/-- Values that are the same one by one have the same normal forms. -/
theorem map_normal_eq (h : List.Forall₂ Same xs ys) : xs.map normal = ys.map normal := by
  induction h with
  | nil => rfl
  | cons hxy _ ih => rw [List.map_cons, List.map_cons, hxy, ih]

/-- The order of entries under different texts is nothing to JSON. -/
theorem same_of_perm (hes : Named es) (hperm : fs.Perm es) : (dict es).Same (dict fs) := by
  unfold Same
  rw [normal_dict, normal_dict, canonicalEntries, canonicalEntries, byName_eq_of_perm hes hperm]

/-- What is like a plain value is plain, and JSON does not tell the two
apart. -/
theorem Plain.same_of_alike (h : v.Plain) (halike : v.Alike w) : w.Plain ∧ v.Same w := by
  induction h generalizing w with
  | null => cases halike; exact ⟨.null, rfl⟩
  | bool b => cases halike; exact ⟨.bool b, rfl⟩
  | int n => cases halike; exact ⟨.int n, rfl⟩
  | float hx => cases halike; exact ⟨.float hx, rfl⟩
  | text s => cases halike; exact ⟨.text s, rfl⟩
  | list hxs ih =>
    cases halike with
    | refl => exact ⟨.list hxs, rfl⟩
    | list halike =>
      have hitems := forall₂_imp_of_mem (S := fun x y => y.Plain ∧ x.Same y) halike
        fun x hx y hxy => ih x hx hxy
      refine ⟨.list fun y hy => ?_, ?_⟩
      · obtain ⟨x, -, hplain, -⟩ := exists_of_mem_right hitems y hy
        exact hplain
      · unfold Same
        rw [normal_list, normal_list, map_normal_eq (hitems.imp fun _ _ h => h.2)]
  | @dict es hes hvalues ih =>
    cases halike with
    | refl => exact ⟨.dict hes hvalues, rfl⟩
    | @dict _ fs gs hperm hkeys hseconds =>
      -- rearranged, the second has the same names, and its values are like
      -- those of the first
      have hboth : List.Forall₂ (fun e g => e.1 = g.1 ∧ g.2.Plain ∧ e.2.Same g.2) es gs := by
        refine forall₂_imp_of_mem (forall₂_entries_iff.1 ⟨hkeys, hseconds⟩) fun e he g heg => ?_
        obtain ⟨s, hs⟩ := hes.texts e he
        have hkey := heg.1
        rw [hs] at hkey ⊢
        exact ⟨hkey.eq_of_text.symm, ih e he heg.2⟩
      have hnames : gs.map Prod.fst = es.map Prod.fst := by
        rw [← List.forall₂_eq_eq_eq, List.forall₂_map_left_iff, List.forall₂_map_right_iff]
        exact hboth.flip.imp fun _ _ h => h.1.symm
      have hgs : Named gs := hes.of_names hnames
      refine ⟨.dict (hgs.perm hperm) fun f hf => ?_, ?_⟩
      · obtain ⟨e, -, -, hplain, -⟩ := exists_of_mem_right hboth f (hperm.mem_iff.1 hf)
        exact hplain
      · refine Eq.trans (same_dict ?_) (same_of_perm hgs hperm)
        rw [← List.forall₂_eq_eq_eq, List.forall₂_map_left_iff, List.forall₂_map_right_iff]
        exact hboth.imp fun _ _ h => Prod.ext h.1 h.2.2

/-- What has the normal form of a plain value is like it. -/
theorem Plain.alike_of_same (hv : v.Plain) (hw : w.Plain) (h : v.Same w) : v.Alike w := by
  induction hv generalizing w with
  | null | bool | int | float | text =>
    -- what is no container is its normal form
    cases hw with
    | list => rw [Same, normal_list] at h; cases h
    | dict => rw [Same, normal_dict] at h; cases h
    | _ => cases h <;> exact .refl _
  | @list xs hxs ih =>
    cases hw with
    | @list ys hys =>
      rw [Same, normal_list, normal_list, list.injEq, ← List.forall₂_eq_eq_eq,
        List.forall₂_map_left_iff, List.forall₂_map_right_iff] at h
      have hplain := forall₂_imp_of_mem (S := fun y x => y.Plain ∧ x.Same y) h.flip
        fun y hy x hxy => ⟨hys y hy, hxy⟩
      exact .list (forall₂_imp_of_mem hplain.flip fun x hx y hxy => ih x hx hxy.1 hxy.2)
    | dict => rw [Same, normal_list, normal_dict] at h; cases h
    | _ => rw [Same, normal_list] at h; cases h
  | @dict es hes hvalues ih =>
    cases hw with
    | @dict fs hfs hvalues' =>
      rw [Same, normal_dict, normal_dict, dict.injEq, canonicalEntries, canonicalEntries,
        ← List.forall₂_eq_eq_eq, List.forall₂_map_left_iff, List.forall₂_map_right_iff] at h
      -- sorted by name the entries correspond, so they do in some order
      obtain ⟨gs, hgs, hperm⟩ := List.perm_comp_forall₂ (byName_perm es).symm h
      have hgs' := hperm.trans (byName_perm fs)
      have hplain := forall₂_imp_of_mem
        (S := fun g e => g.2.Plain ∧ (e.1, e.2.normal) = (g.1, g.2.normal)) hgs.flip
        fun g hg e heg => ⟨hvalues' g (hgs'.mem_iff.1 hg), heg⟩
      have halike : List.Forall₂ (fun e g => e.1.Alike g.1 ∧ e.2.Alike g.2) es gs :=
        forall₂_imp_of_mem hplain.flip fun e he g heg => by
          obtain ⟨hname, hvalue⟩ := Prod.mk.inj heg.2
          exact ⟨hname ▸ .refl e.1, ih e he heg.1 hvalue⟩
      obtain ⟨hkeys, hseconds⟩ := forall₂_entries_iff.2 halike
      exact .dict hgs'.symm hkeys hseconds
    | list => rw [Same, normal_list, normal_dict] at h; cases h
    | _ => rw [Same, normal_dict] at h; cases h

end Collation.Value
