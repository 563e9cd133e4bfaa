/-
When values agree, told shape by shape. A list agrees with a list element
by element, a dictionary or a set with one of its size in which all of it
is found. That is half of what should hold: whether all of the other one
is found here as well depends on the first one not having the same thing
twice (`found_back`). A value as it can come about has not (`Sound`), and
among such values agreeing is symmetric and transitive
(`Sound.agree_symm`, `Sound.agree_trans`), though not reflexive: an
iterator agrees with nothing, and neither does a thing that only passes
by.

Symmetry and transitivity are what is used of agreement from here on
(`Agreeing`).
-/
import Collation.Proofs.Value.Marks

namespace Collation.Value

variable {a b c : Value} {xs ys : List Value} {es fs : List (Value × Value)}

-- ================================================================ shapes

/-- A list agrees with lists only, item by item. -/
theorem agree_list_iff :
    agree (list xs) b = true ↔ ∃ ys, b = list ys ∧ agreeItems xs ys = true := by
  constructor
  · intro h
    cases b
    case list ys => exact ⟨ys, rfl, h⟩
    all_goals cases h
  · rintro ⟨ys, rfl, h⟩
    exact h

/-- A tuple agrees with tuples only, part by part. -/
theorem agree_tuple_iff :
    agree (tuple xs) b = true ↔ ∃ ys, b = tuple ys ∧ agreeItems xs ys = true := by
  constructor
  · intro h
    cases b
    case tuple ys => exact ⟨ys, rfl, h⟩
    all_goals cases h
  · rintro ⟨ys, rfl, h⟩
    exact h

private theorem entryWithin_iff (e : Value × Value) :
    entryWithin e fs = true ↔ ∃ f ∈ fs, agree e.1 f.1 = true ∧ agree e.2 f.2 = true := by
  obtain ⟨k, v⟩ := e
  show (fs.any fun f => agree k f.1 && agree v f.2) = true ↔ _
  simp only [List.any_eq_true, Bool.and_eq_true]

/-- Each entry of the one is an entry of the other. -/
private theorem entriesWithin_iff : entriesWithin es fs = true ↔
    ∀ e ∈ es, ∃ f ∈ fs, agree e.1 f.1 = true ∧ agree e.2 f.2 = true := by
  induction es with
  | nil => exact iff_of_true rfl fun _ he => absurd he List.not_mem_nil
  | cons e es ih =>
    show (entryWithin e fs && entriesWithin es fs) = true ↔ _
    rw [Bool.and_eq_true, entryWithin_iff, ih, List.forall_mem_cons]

/-- Dictionaries agree if they are of a size and each entry of the one is in
the other. -/
theorem agree_dict_iff : agree (dict es) b = true ↔
    ∃ fs, b = dict fs ∧ es.length = fs.length
      ∧ ∀ e ∈ es, ∃ f ∈ fs, agree e.1 f.1 = true ∧ agree e.2 f.2 = true := by
  constructor
  · intro h
    cases b
    case dict fs =>
      obtain ⟨hlength, hwithin⟩ := Bool.and_eq_true_iff.1 h
      exact ⟨fs, rfl, beq_iff_eq.1 hlength, entriesWithin_iff.1 hwithin⟩
    all_goals cases h
  · rintro ⟨fs, rfl, hlength, hwithin⟩
    exact Bool.and_eq_true_iff.2 ⟨beq_iff_eq.2 hlength, entriesWithin_iff.2 hwithin⟩

/-- Each item of the one agrees with one of the other. -/
theorem itemsWithin_iff : itemsWithin xs ys = true ↔ ∀ x ∈ xs, ∃ y ∈ ys, agree x y = true := by
  induction xs with
  | nil => exact iff_of_true rfl fun _ hx => absurd hx List.not_mem_nil
  | cons x xs ih =>
    show (ys.any (fun y => agree x y) && itemsWithin xs ys) = true ↔ _
    rw [Bool.and_eq_true, List.any_eq_true, ih, List.forall_mem_cons]

/-- Sets agree if they are of a size and each item of the one is in the other. -/
theorem agree_sets_iff : agree (set xs) (set ys) = true ↔
    xs.length = ys.length ∧ ∀ x ∈ xs, ∃ y ∈ ys, agree x y = true := by
  show (xs.length == ys.length && itemsWithin xs ys) = true ↔ _
  rw [Bool.and_eq_true, beq_iff_eq, itemsWithin_iff]

/-- A NaN agrees with no other number. -/
theorem agree_nan_iff {x : Binary64} (hx : x.position? = none) :
    agree (float x) b = true ↔ b = float x := by
  have hatoms : ∀ y, equalAtoms (float x) y = false := by
    intro y
    unfold equalAtoms
    rw [show (float x).position? = none from hx]
    cases y <;> rfl
  cases b
  case float y =>
    show (x.bits == y.bits || equalAtoms (float x) (float y)) = true ↔ _
    rw [hatoms, Bool.or_false, beq_iff_eq, float.injEq, ← Binary64.mk.injEq]
    exact eq_comm
  all_goals
    refine iff_of_false (fun h => ?_) fun h => nomatch h
    change equalAtoms (float x) _ = true at h
    rw [hatoms] at h
    cases h

/-- An iterator agrees with nothing, not even with itself. -/
theorem not_agree_iterator {type : String} : agree (iterator type xs) b = false := by
  cases b <;> rfl

/-- A thing that is not compared as a set agrees with who it is. -/
theorem agree_object_iff {o : Outline} (ho : o.isSet = false) :
    agree (object o xs) b = true ↔
      ∃ p ys, b = object p ys ∧ o.identity.isSome = true ∧ o.identity = p.identity := by
  constructor
  · intro h
    cases b
    case set ys =>
      change (o.isSet && _ && _) = true at h
      rw [ho] at h
      cases h
    case object p ys =>
      change ((o.identity.isSome && o.identity == p.identity)
        || (o.isSet && _ && _ && _)) = true at h
      rw [ho, Bool.false_and, Bool.false_and, Bool.false_and, Bool.or_false, Bool.and_eq_true,
        beq_iff_eq] at h
      exact ⟨p, ys, rfl, h⟩
    all_goals cases h
  · rintro ⟨p, ys, rfl, hsome, hsame⟩
    change ((o.identity.isSome && o.identity == p.identity) || _) = true
    rw [hsome, hsame, beq_self_eq_true]
    rfl

-- ========================================================= sound values

/-- A value as it can come about: no two keys of a dictionary and no two
elements of a set agree. A thing of another type that is compared as a set
is left out. -/
inductive Sound : Value → Prop where
  | atom {v : Value} {m : Mark} : v.mark? = some m → Sound v
  | nan {x : Binary64} : x.position? = none → Sound (float x)
  | list {xs : List Value} : (∀ x ∈ xs, Sound x) → Sound (list xs)
  | tuple {xs : List Value} : (∀ x ∈ xs, Sound x) → Sound (tuple xs)
  | dict {es : List (Value × Value)} : es.Pairwise (fun e f => agree e.1 f.1 = false) →
      (∀ e ∈ es, Sound e.1) → (∀ e ∈ es, Sound e.2) → Sound (dict es)
  | set {xs : List Value} : xs.Pairwise (fun x y => agree x y = false) → (∀ x ∈ xs, Sound x) →
      Sound (set xs)
  | iterator (type : String) (xs : List Value) : Sound (iterator type xs)
  | object {o : Outline} (xs : List Value) : o.isSet = false → Sound (object o xs)

namespace Sound

/-- The items of a sound list are sound. -/
theorem of_list (h : Sound (.list xs)) : ∀ x ∈ xs, x.Sound := by
  cases h with
  | atom h => cases h
  | list h => exact h

/-- So are the parts of a sound tuple. -/
theorem of_tuple (h : Sound (.tuple xs)) : ∀ x ∈ xs, x.Sound := by
  cases h with
  | atom h => cases h
  | tuple h => exact h

private theorem of_dict (h : Sound (.dict es)) :
    es.Pairwise (fun e f => agree e.1 f.1 = false) ∧ ∀ e ∈ es, e.1.Sound ∧ e.2.Sound := by
  cases h with
  | atom h => cases h
  | dict hes hkeys hvalues => exact ⟨hes, fun e he => ⟨hkeys e he, hvalues e he⟩⟩

theorem of_set (h : Sound (.set xs)) :
    xs.Pairwise (fun x y => agree x y = false) ∧ ∀ x ∈ xs, x.Sound := by
  cases h with
  | atom h => cases h
  | set hxs h => exact ⟨hxs, h⟩

/-- A sound object is no set. -/
theorem of_object {o : Outline} (h : Sound (.object o xs)) : o.isSet = false := by
  cases h with
  | atom h => cases h
  | object _ h => exact h

end Sound

/-- Among sound values a set agrees with sets alone. -/
theorem agree_set_iff (hb : b.Sound) : agree (set xs) b = true ↔
    ∃ ys, b = set ys ∧ xs.length = ys.length ∧ ∀ x ∈ xs, ∃ y ∈ ys, agree x y = true := by
  constructor
  · intro h
    cases b
    case set ys => exact ⟨ys, rfl, agree_sets_iff.1 h⟩
    case object p ys =>
      change (p.isSet && _ && _) = true at h
      rw [hb.of_object] at h
      cases h
    all_goals cases h
  · rintro ⟨ys, rfl, h⟩
    exact agree_sets_iff.2 h

-- =========================================================== transitive

/-- Lists agree in two steps if their items do. -/
private theorem agreeItems_trans {zs : List Value}
    (h : ∀ x ∈ xs, ∀ y z, Sound y → Sound z → agree x y = true → agree y z = true →
      agree x z = true)
    (hys : ∀ y ∈ ys, Sound y) (hzs : ∀ z ∈ zs, Sound z) (hxy : agreeItems xs ys = true)
    (hyz : agreeItems ys zs = true) : agreeItems xs zs = true := by
  induction xs generalizing ys zs with
  | nil =>
    cases ys with
    | nil => exact hyz
    | cons y ys => cases hxy
  | cons x xs ih =>
    cases ys with
    | nil => cases hxy
    | cons y ys =>
      cases zs with
      | nil => cases hyz
      | cons z zs =>
        obtain ⟨hx, hxs⟩ := List.forall_mem_cons.1 h
        obtain ⟨hy, hys⟩ := List.forall_mem_cons.1 hys
        obtain ⟨hz, hzs⟩ := List.forall_mem_cons.1 hzs
        obtain ⟨hhead, htail⟩ := Bool.and_eq_true_iff.1 hxy
        obtain ⟨hhead', htail'⟩ := Bool.and_eq_true_iff.1 hyz
        exact Bool.and_eq_true_iff.2 ⟨hx y z hy hz hhead hhead', ih hxs hys hzs htail htail'⟩

/-- Sound values that agree with one value agree. -/
theorem Sound.agree_trans (ha : a.Sound) : ∀ b c : Value, b.Sound → c.Sound →
    agree a b = true → agree b c = true → agree a c = true := by
  induction ha with
  | atom ha =>
    intro b c _ _ hab hbc
    have hb := (agree_iff_of_mark ha).1 hab
    rw [agree_iff_of_mark ha, ← agree_iff_of_mark hb]
    exact hbc
  | nan hx =>
    intro b c _ _ hab hbc
    obtain rfl := (agree_nan_iff hx).1 hab
    exact hbc
  | list _ ih =>
    intro b c hb hc hab hbc
    obtain ⟨ys, rfl, hxy⟩ := agree_list_iff.1 hab
    obtain ⟨zs, rfl, hyz⟩ := agree_list_iff.1 hbc
    exact agreeItems_trans ih hb.of_list hc.of_list hxy hyz
  | tuple _ ih =>
    intro b c hb hc hab hbc
    obtain ⟨ys, rfl, hxy⟩ := agree_tuple_iff.1 hab
    obtain ⟨zs, rfl, hyz⟩ := agree_tuple_iff.1 hbc
    exact agreeItems_trans ih hb.of_tuple hc.of_tuple hxy hyz
  | dict _ _ _ ihkeys ihvalues =>
    intro b c hb hc hab hbc
    obtain ⟨fs, rfl, hlength, hef⟩ := agree_dict_iff.1 hab
    obtain ⟨gs, rfl, hlength', hfg⟩ := agree_dict_iff.1 hbc
    refine agree_dict_iff.2 ⟨gs, rfl, hlength.trans hlength', fun e he => ?_⟩
    obtain ⟨f, hf, hkey, hvalue⟩ := hef e he
    obtain ⟨g, hg, hkey', hvalue'⟩ := hfg f hf
    have hf := hb.of_dict.2 f hf
    have hg' := hc.of_dict.2 g hg
    exact ⟨g, hg, ihkeys e he f.1 g.1 hf.1 hg'.1 hkey hkey',
      ihvalues e he f.2 g.2 hf.2 hg'.2 hvalue hvalue'⟩
  | set _ _ ih =>
    intro b c hb hc hab hbc
    obtain ⟨ys, rfl, hlength, hxy⟩ := (agree_set_iff hb).1 hab
    obtain ⟨zs, rfl, hlength', hyz⟩ := (agree_set_iff hc).1 hbc
    refine agree_sets_iff.2 ⟨hlength.trans hlength', fun x hx => ?_⟩
    obtain ⟨y, hy, hagree⟩ := hxy x hx
    obtain ⟨z, hz, hagree'⟩ := hyz y hy
    exact ⟨z, hz, ih x hx y z (hb.of_set.2 y hy) (hc.of_set.2 z hz) hagree hagree'⟩
  | iterator =>
    intro b c _ _ hab _
    rw [not_agree_iterator] at hab
    cases hab
  | object _ ho =>
    intro b c hb hc hab hbc
    obtain ⟨p, ys, rfl, hsome, hsame⟩ := (agree_object_iff ho).1 hab
    obtain ⟨q, zs, rfl, -, hsame'⟩ := (agree_object_iff hb.of_object).1 hbc
    exact (agree_object_iff ho).2 ⟨q, zs, rfl, hsome, hsame.trans hsame'⟩

-- ============================================================ symmetric

/-- If each thing of one list is found in another list of its length, and
no two of them are found in the same place, then all of the other list is
found: nothing is left over. -/
theorem found_back {α β : Type} {R : α → β → Prop} {xs : List α} : ∀ {ys : List β},
    xs.length = ys.length → xs.Pairwise (fun x x' => ∀ y ∈ ys, R x y → ¬R x' y) →
    (∀ x ∈ xs, ∃ y ∈ ys, R x y) → ∀ y ∈ ys, ∃ x ∈ xs, R x y := by
  induction xs with
  | nil =>
    intro ys hlength _ _ y hy
    rw [List.length_eq_zero_iff.1 hlength.symm] at hy
    exact absurd hy List.not_mem_nil
  | cons x xs ih =>
    intro ys hlength happart hfound y hy
    obtain ⟨hhead, htail⟩ := List.pairwise_cons.1 happart
    obtain ⟨⟨y₀, hy₀, hxy₀⟩, hrest⟩ := List.forall_mem_cons.1 hfound
    -- the partner of the first element is set aside; no other one has it
    obtain ⟨before, after, rfl⟩ := List.append_of_mem hy₀
    have hmem : ∀ z, z ∈ before ++ y₀ :: after ↔ z = y₀ ∨ z ∈ before ++ after := by
      intro z
      simp only [List.mem_append, List.mem_cons]
      tauto
    have hlength' : xs.length = (before ++ after).length := by
      simp only [List.length_cons, List.length_append] at hlength ⊢
      omega
    have hback := ih hlength'
      (htail.imp fun h z hz => h z ((hmem z).2 (.inr hz))) fun x' hx' => by
        obtain ⟨z, hz, hxz⟩ := hrest x' hx'
        rcases (hmem z).1 hz with rfl | hz
        · exact absurd hxz (hhead x' hx' z hy₀ hxy₀)
        · exact ⟨z, hz, hxz⟩
    rcases (hmem y).1 hy with rfl | hy
    · exact ⟨x, List.mem_cons_self, hxy₀⟩
    · obtain ⟨x', hx', hxy⟩ := hback y hy
      exact ⟨x', List.mem_cons_of_mem x hx', hxy⟩

/-- Lists agree the other way round if their items do. -/
private theorem agreeItems_symm
    (h : ∀ x ∈ xs, ∀ y, Sound y → agree x y = true → agree y x = true)
    (hys : ∀ y ∈ ys, Sound y) (hxy : agreeItems xs ys = true) : agreeItems ys xs = true := by
  induction xs generalizing ys with
  | nil =>
    cases ys with
    | nil => rfl
    | cons y ys => cases hxy
  | cons x xs ih =>
    cases ys with
    | nil => cases hxy
    | cons y ys =>
      obtain ⟨hx, hxs⟩ := List.forall_mem_cons.1 h
      obtain ⟨hy, hys⟩ := List.forall_mem_cons.1 hys
      obtain ⟨hhead, htail⟩ := Bool.and_eq_true_iff.1 hxy
      exact Bool.and_eq_true_iff.2 ⟨hx y hy hhead, ih hxs hys htail⟩

/-- Sound values agree both ways round. -/
theorem Sound.agree_symm (ha : a.Sound) : ∀ b : Value, b.Sound → agree a b = true →
    agree b a = true := by
  induction ha with
  | atom ha =>
    intro b _ hab
    rw [agree_iff_of_mark ((agree_iff_of_mark ha).1 hab)]
    exact ha
  | nan hx =>
    intro b _ hab
    obtain rfl := (agree_nan_iff hx).1 hab
    exact hab
  | list _ ih =>
    intro b hb hab
    obtain ⟨ys, rfl, hxy⟩ := agree_list_iff.1 hab
    exact agree_list_iff.2 ⟨_, rfl, agreeItems_symm ih hb.of_list hxy⟩
  | tuple _ ih =>
    intro b hb hab
    obtain ⟨ys, rfl, hxy⟩ := agree_tuple_iff.1 hab
    exact agree_tuple_iff.2 ⟨_, rfl, agreeItems_symm ih hb.of_tuple hxy⟩
  | @dict es hes hkeys _ ihkeys ihvalues =>
    intro b hb hab
    obtain ⟨fs, rfl, hlength, hef⟩ := agree_dict_iff.1 hab
    have hfs := hb.of_dict.2
    -- entries that differ have different partners, so every partner is found
    have hback := found_back (R := fun e f : Value × Value =>
      agree e.1 f.1 = true ∧ agree e.2 f.2 = true) hlength
      (hes.imp_of_mem fun {e e'} he he' hne f hf hef hef' => by
        have hfe' := ihkeys e' he' f.1 (hfs f hf).1 hef'.1
        rw [(hkeys e he).agree_trans f.1 e'.1 (hfs f hf).1 (hkeys e' he') hef.1 hfe'] at hne
        cases hne) hef
    refine agree_dict_iff.2 ⟨es, rfl, hlength.symm, fun f hf => ?_⟩
    obtain ⟨e, he, hkey, hvalue⟩ := hback f hf
    exact ⟨e, he, ihkeys e he f.1 (hfs f hf).1 hkey, ihvalues e he f.2 (hfs f hf).2 hvalue⟩
  | @set xs hxs hsound ih =>
    intro b hb hab
    obtain ⟨ys, rfl, hlength, hxy⟩ := (agree_set_iff hb).1 hab
    have hys := hb.of_set.2
    have hback := found_back (R := fun x y : Value => agree x y = true) hlength
      (hxs.imp_of_mem fun {x x'} hx hx' hne y hy hagree hagree' => by
        have hyx' := ih x' hx' y (hys y hy) hagree'
        rw [(hsound x hx).agree_trans y x' (hys y hy) (hsound x' hx') hagree hyx'] at hne
        cases hne) hxy
    refine agree_sets_iff.2 ⟨hlength.symm, fun y hy => ?_⟩
    obtain ⟨x, hx, hagree⟩ := hback y hy
    exact ⟨x, hx, ih x hx y (hys y hy) hagree⟩
  | iterator =>
    intro b _ hab
    rw [not_agree_iterator] at hab
    cases hab
  | object _ ho =>
    intro b hb hab
    obtain ⟨p, ys, rfl, hsome, hsame⟩ := (agree_object_iff ho).1 hab
    exact (agree_object_iff hb.of_object).2 ⟨_, _, rfl, hsame ▸ hsome, hsame.symm⟩

-- ====================================================== what is used of it

/-- On some values agreeing is symmetric, and values that agree agree with
the same others. -/
structure Agreeing (D : Value → Prop) : Prop where
  comm : ∀ a b, D a → D b → agree a b = agree b a
  congr : ∀ a b c, D a → D b → D c → agree a b = true → agree a c = agree b c

namespace Agreeing

variable {D : Value → Prop}

/-- The same values agree with values that agree. -/
theorem congr_right (h : Agreeing D) (ha : D a) (hb : D b) (hc : D c) (hbc : agree b c = true) :
    agree a b = agree a c := by
  rw [h.comm a b ha hb, h.congr b c a hb hc ha hbc, h.comm c a hc ha]

end Agreeing

/-- To agree is an equivalence of sound values. -/
theorem Sound.agreeing : Agreeing Sound where
  comm a b ha hb := Bool.eq_iff_iff.2 ⟨ha.agree_symm b hb, hb.agree_symm a ha⟩
  congr a b c ha hb hc hab := by
    have hba := ha.agree_symm b hb hab
    exact Bool.eq_iff_iff.2 ⟨hb.agree_trans a c ha hc hba, ha.agree_trans b c hb hc hab⟩

end Collation.Value
