/-
Comparators that do not see in which order the entries of a dictionary
were given (`Blind`). JSON does not keep that order, so what is read back
may be put in another place, or not be told apart, by a comparator that
does see it.

The natural order is blind: a value agrees with its normal form, and what
agrees stands alike to everything. The combinators keep it, if a key sees
as little of its value as the comparator does of the key.
-/
import Collation.Proofs.Comparator.Composed
import Collation.Proofs.Registry
import Collation.Proofs.Value.Normal

namespace Collation

namespace Value

variable {a b a' b' v : Value} {o : Ordering}

-- ========================================================== plain values

/-- A number that is not finite is no plain value, and no other one is
indefinite. -/
private theorem Plain.definite (h : v.Plain) : v.Definite := by
  induction h with
  | null => exact .atom rfl
  | bool b => exact .atom rfl
  | int n => exact .atom rfl
  | @float x hx =>
    have hfield : (x.field == 2047) = false := by simpa [Binary64.isFinite] using hx
    have hposition : x.position? = some (.finite x.units) := by
      simp [Binary64.position?, Binary64.isNaN, Binary64.isInfinite, hfield]
    exact .atom (m := .number (.finite x.units)) (by rw [mark?, hposition]; rfl)
  | text s => exact .atom rfl
  | list _ ih => exact .list ih
  | dict hes _ ih => exact .dict hes ih

private theorem agreeItems_normal {xs : List Value} (h : ∀ x ∈ xs, agree x x.normal = true) :
    agreeItems xs (xs.map normal) = true := by
  induction xs with
  | nil => rfl
  | cons x xs ih =>
    obtain ⟨hx, hxs⟩ := List.forall_mem_cons.1 h
    rw [List.map_cons, agreeItems, hx, ih hxs]
    rfl

/-- A value agrees with its normal form: equality does not see the order of
entries. -/
theorem Plain.agree_normal (h : v.Plain) : agree v v.normal = true := by
  induction h with
  | null => rfl
  | bool b => exact (Plain.bool b).definite.agree_refl
  | int n => exact (Plain.int n).definite.agree_refl
  | float hx => exact (Plain.float hx).definite.agree_refl
  | text s => exact (Plain.text s).definite.agree_refl
  | @list xs _ ih =>
    rw [normal_list]
    exact agree_list_iff.2 ⟨_, rfl, agreeItems_normal ih⟩
  | @dict es hes _ ih =>
    rw [normal_dict]
    refine agree_dict_iff.2 ⟨canonicalEntries es, rfl, ?_, fun e he => ?_⟩
    · rw [canonicalEntries, List.length_map, (byName_perm es).length_eq]
    · refine ⟨(e.1, e.2.normal), List.mem_map.2 ⟨e, mem_byName.2 he, rfl⟩, ?_, ih e he⟩
      exact (hes.agree_iff hes he he).2 rfl

private theorem stands?_of_agree (ha : a.Sound) (hb : b.Sound) (ha' : a'.Sound)
    (hb' : b'.Sound) (haa : agree a a' = true) (hbb : agree b b' = true)
    (h : stands? a b = some o) : stands? a' b' = some o :=
  ha'.stands?_congr_right hb hb' hbb (ha.stands?_congr a' b o ha' hb haa h)

/-- Plain values stand to one another as their normal forms do. -/
theorem stands?_normal (ha : a.Plain) (hb : b.Plain) :
    stands? a.normal b.normal = stands? a b := by
  have hsa := ha.definite.sound
  have hsb := hb.definite.sound
  have hna := ha.normal.definite.sound
  have hnb := hb.normal.definite.sound
  refine Option.ext fun o => ⟨?_, ?_⟩
  · exact stands?_of_agree hna hnb hsa hsb (hsa.agree_symm _ hna ha.agree_normal)
      (hsb.agree_symm _ hnb hb.agree_normal)
  · exact stands?_of_agree hsa hsb hna hnb ha.agree_normal hb.agree_normal

end Value

namespace Comparison

variable {c : Comparison} {key : SortKey}

-- ============================================================ blindness

/-- The comparator tells of plain values what it tells of their normal
forms. -/
def Blind (c : Comparison) : Prop :=
  ∀ a b, a.Plain → b.Plain → c.told a.normal b.normal = c.told a b

-- =========================================================== combinators

/-- The natural order does not see the order of entries. -/
private theorem natural_blind : natural.Blind := by
  intro a b ha hb
  obtain ⟨e, he⟩ := natural_eq ha.definite.sound hb.definite.sound
  obtain ⟨f, hf⟩ := natural_eq ha.normal.definite.sound hb.normal.definite.sound
  rw [Value.stands?_normal ha hb] at hf
  rw [told, told, he, hf]
  cases Value.stands? a b <;> rfl

private theorem Blind.reversed (h : c.Blind) : c.reversed.Blind := fun a b ha hb => h b a hb ha

/-- A null is put in normal form as itself. -/
theorem isNull_normal (v : Value) : v.normal.isNull = v.isNull := by
  cases v <;> rfl

/-- Neither does one with the nulls before all others. -/
private theorem Blind.nullsFirst (h : c.Blind) : c.nullsFirst.Blind := by
  intro a b ha hb
  have hab := h a b ha hb
  unfold told at hab ⊢
  rw [nullsFirst_eq, nullsFirst_eq, isNull_normal, isNull_normal]
  cases a.isNull with
  | true => rfl
  | false =>
    cases b.isNull with
    | true => rfl
    | false => exact hab

private theorem Blind.nullsLast (h : c.Blind) : c.nullsLast.Blind := by
  rw [nullsLast_eq]
  exact h.reversed.nullsFirst.reversed

/-- A key that sees no more of a plain value than its normal form, and gives
plain keys. -/
def BlindKey (key : SortKey) : Prop :=
  ∀ v, v.Plain → (∃ e f, key v = .error e ∧ key v.normal = .error f)
    ∨ ∃ w, key v = .ok w ∧ key v.normal = .ok w.normal ∧ w.Plain

private theorem Blind.comparing (h : c.Blind) (hkey : BlindKey key) : (c.comparing key).Blind := by
  intro a b ha hb
  unfold told Comparison.comparing
  rcases hkey a ha with ⟨e, f, he, hf⟩ | ⟨v, hv, hvn, hplain⟩
  · rw [he, hf]
    rfl
  · rcases hkey b hb with ⟨e, f, he, hf⟩ | ⟨w, hw, hwn, hplain'⟩
    · rw [hv, hvn, he, hf]
      rfl
    · rw [hv, hvn, hw, hwn]
      exact h v w hplain hplain'

/-- The folded text of a value does not show the order of entries. -/
private theorem foldedKey_blind : BlindKey foldedKey := by
  intro v _
  unfold foldedKey
  rw [Value.text?_normal]
  cases v.text? with
  | none => exact .inl ⟨_, _, rfl, rfl⟩
  | some s => exact .inr ⟨_, rfl, rfl, .text _⟩

private theorem builtins_blind : ∀ e ∈ Comparator.builtins, e.2.compare.Blind :=
  forall_builtins natural_blind .reversed .nullsFirst .nullsLast
    (natural_blind.comparing foldedKey_blind)

end Comparison

namespace Registry.ReadyMade

variable {c : Comparator}

/-- What is ready-made does not see the order of entries. -/
theorem blind (h : ReadyMade c) : c.compare.Blind := by
  obtain ⟨b, hb, rfl⟩ := h
  exact Comparison.builtins_blind b hb

/-- On sound values a ready-made comparator does not contradict itself. -/
theorem consistentOn_sound (h : ReadyMade c) : c.compare.ConsistentOn Value.Sound := by
  obtain ⟨b, hb, rfl⟩ := h
  exact Comparison.builtins_consistentOn b hb

/-- What is ready-made does not contradict itself on plain values. -/
theorem consistentOn (h : ReadyMade c) : c.compare.ConsistentOn Value.Plain :=
  h.consistentOn_sound.mono fun _ hv => hv.definite.sound

end Registry.ReadyMade

end Collation
