/-
Computations that may fail, seen from their success: a sequence of them
succeeds if each one does, on what those before it gave. So a function
that is written as such a sequence can be read off as a conjunction, in
both directions. Seen from its failure, a sequence fails as one of them
does, those before it having succeeded. Operations that leave a state as
well leave what the last of them that was made left.
-/
import Collation.Outcome
import Mathlib.Data.List.Forall2

namespace Collation

variable {α β ε : Type} {f g : α → Except ε β} {xs : List α} {ys : List β}

/-- What an image comes from. -/
theorem map_eq_ok {x : Except ε α} {h : α → β} {b : β} :
    x.map h = .ok b ↔ ∃ a, x = .ok a ∧ b = h a := by
  cases x with
  | error e => exact iff_of_false (fun h => nomatch h) fun ⟨_, h, _⟩ => nomatch h
  | ok a =>
    constructor
    · exact fun h => ⟨a, rfl, (Except.ok.inj h).symm⟩
    · rintro ⟨a', ha, rfl⟩
      cases ha
      rfl

/-- Both steps went well. -/
theorem bind_eq_ok {x : Except ε α} {h : α → Except ε β} {b : β} :
    (x >>= h) = .ok b ↔ ∃ a, x = .ok a ∧ h a = .ok b := by
  cases x with
  | error e => exact iff_of_false (fun h => nomatch h) fun ⟨_, h, _⟩ => nomatch h
  | ok a =>
    constructor
    · exact fun h => ⟨a, rfl, h⟩
    · rintro ⟨a', ha, h⟩
      cases ha
      exact h

/-- One of the steps failed. -/
theorem bind_eq_error {x : Except ε α} {h : α → Except ε β} {e : ε} :
    (x >>= h) = .error e ↔ x = .error e ∨ ∃ a, x = .ok a ∧ h a = .error e := by
  cases x with
  | error f =>
    constructor
    · rintro ⟨⟩
      exact .inl rfl
    · rintro (⟨⟨⟩⟩ | ⟨a, h, -⟩)
      · rfl
      · cases h
  | ok a =>
    constructor
    · exact fun h => .inr ⟨a, rfl, h⟩
    · rintro (h | ⟨a', ⟨⟩, h⟩)
      · cases h
      · exact h

/-- Only what failed before fails under an image. -/
theorem map_eq_error {x : Except ε α} {h : α → β} {e : ε} :
    x.map h = .error e ↔ x = .error e := by
  cases x with
  | error f =>
    constructor
    · rintro ⟨⟩
      rfl
    · rintro ⟨⟩
      rfl
  | ok a => exact iff_of_false (fun h => nomatch h) fun h => nomatch h

theorem mapError_eq_ok {x : Except ε α} {h : ε → β} {a : α} :
    x.mapError h = .ok a ↔ x = .ok a := by
  cases x with
  | error e => exact iff_of_false (fun h => nomatch h) fun h => nomatch h
  | ok b =>
    constructor
    · exact fun h => congrArg Except.ok (Except.ok.inj h)
    · exact fun h => congrArg Except.ok (Except.ok.inj h)

theorem eq_ok_of_toOption {x : Except ε α} {a : α} (h : x.toOption = some a) : x = .ok a := by
  cases x with
  | error e => cases h
  | ok b => exact congrArg Except.ok (Option.some.inj h)

/-- Computations that come to the same but for their errors. -/
theorem cases_of_toOption_eq {x : Except ε α} {y : Except β α} (h : x.toOption = y.toOption) :
    (∃ e f, x = .error e ∧ y = .error f) ∨ ∃ a, x = .ok a ∧ y = .ok a := by
  cases x with
  | error e =>
    cases y with
    | error f => exact .inl ⟨e, f, rfl, rfl⟩
    | ok b => cases h
  | ok a =>
    cases y with
    | error f => cases h
    | ok b =>
      cases h
      exact .inr ⟨a, rfl, rfl⟩

/-- The first computation comes to the image of what the second one does. -/
theorem cases_of_toOption_eq_map {x : Except ε β} {y : Except ε α} {h : α → β}
    (heq : x.toOption = y.toOption.map h) :
    (∃ e f, x = .error e ∧ y = .error f) ∨ ∃ a, x = .ok (h a) ∧ y = .ok a := by
  cases y with
  | error f =>
    cases x with
    | error e => exact .inl ⟨e, f, rfl, rfl⟩
    | ok b => cases heq
  | ok a =>
    cases x with
    | error e => cases heq
    | ok b =>
      cases heq
      exact .inr ⟨a, rfl, rfl⟩

/-- A list is mapped if each of its elements is. -/
theorem mapM_eq_ok : xs.mapM f = .ok ys ↔ List.Forall₂ (fun x y => f x = .ok y) xs ys := by
  induction xs generalizing ys with
  | nil =>
    rw [List.mapM_nil, List.forall₂_nil_left_iff]
    exact ⟨fun h => (Except.ok.inj h).symm, fun h => h ▸ rfl⟩
  | cons x xs ih =>
    simp only [List.mapM_cons, bind_eq_ok, ih, List.forall₂_cons_left_iff]
    constructor
    · rintro ⟨y, hy, ys', hys, h⟩
      exact ⟨y, ys', hy, hys, (Except.ok.inj h).symm⟩
    · rintro ⟨y, ys', hy, hys, rfl⟩
      exact ⟨y, hy, ys', hys, rfl⟩

/-- A list is not mapped because one of its elements is not. -/
theorem mapM_eq_error {e : ε} (h : xs.mapM f = .error e) : ∃ x ∈ xs, f x = .error e := by
  induction xs with
  | nil => cases h
  | cons x xs ih =>
    rw [List.mapM_cons, bind_eq_error] at h
    rcases h with hx | ⟨y, -, h⟩
    · exact ⟨x, List.mem_cons_self, hx⟩
    · rcases bind_eq_error.1 h with hxs | ⟨ys, -, h⟩
      · obtain ⟨z, hz, he⟩ := ih hxs
        exact ⟨z, List.mem_cons_of_mem x hz, he⟩
      · cases h

/-- Steps that agree on all members come to the same. -/
theorem mapM_congr (h : ∀ x ∈ xs, f x = g x) : xs.mapM f = xs.mapM g := by
  induction xs with
  | nil => rfl
  | cons x xs ih =>
    rw [List.forall_mem_cons] at h
    rw [List.mapM_cons, List.mapM_cons, h.1, ih h.2]

/-- A check of a list passes if it passes each element. -/
theorem forM_eq_ok {f : α → Except ε Unit} :
    xs.forM f = .ok () ↔ ∀ x ∈ xs, f x = .ok () := by
  induction xs with
  | nil => exact iff_of_true rfl fun _ h => absurd h List.not_mem_nil
  | cons x xs ih =>
    rw [List.forall_mem_cons, ← ih]
    show (f x >>= fun _ => xs.forM f) = .ok () ↔ _
    rw [bind_eq_ok]
    exact ⟨fun ⟨_, hx, hxs⟩ => ⟨hx, hxs⟩, fun ⟨hx, hxs⟩ => ⟨(), hx, hxs⟩⟩

/-- It fails because of one of them. -/
theorem forM_eq_error {f : α → Except ε Unit} {e : ε} (h : xs.forM f = .error e) :
    ∃ x ∈ xs, f x = .error e := by
  induction xs with
  | nil => cases h
  | cons x xs ih =>
    rcases bind_eq_error.1 h with hx | ⟨-, -, hxs⟩
    · exact ⟨x, List.mem_cons_self, hx⟩
    · obtain ⟨y, hy, he⟩ := ih hxs
      exact ⟨y, List.mem_cons_of_mem x hy, he⟩

/-- What each element of a list has can be listed. -/
theorem forall₂_of_total {R : α → β → Prop} (h : ∀ x ∈ xs, ∃ y, R x y) :
    ∃ ys, List.Forall₂ R xs ys := by
  induction xs with
  | nil => exact ⟨[], .nil⟩
  | cons x xs ih =>
    obtain ⟨⟨y, hy⟩, htail⟩ := List.forall_mem_cons.1 h
    obtain ⟨ys, hys⟩ := ih htail
    exact ⟨y :: ys, .cons hy hys⟩

/-- Each member on the right has one on the left. -/
theorem exists_of_mem_right {R : α → β → Prop} (h : List.Forall₂ R xs ys) :
    ∀ y ∈ ys, ∃ x ∈ xs, R x y := by
  induction h with
  | nil => exact fun _ hy => absurd hy List.not_mem_nil
  | @cons x y xs ys hxy _ ih =>
    refine List.forall_mem_cons.2 ⟨⟨x, List.mem_cons_self, hxy⟩, fun z hz => ?_⟩
    obtain ⟨w, hw, hwz⟩ := ih z hz
    exact ⟨w, List.mem_cons_of_mem x hw, hwz⟩

/-- A relation between lists follows from one that holds of their members. -/
theorem forall₂_imp_of_mem {R S : α → β → Prop} (h : List.Forall₂ R xs ys)
    (himp : ∀ x ∈ xs, ∀ y, R x y → S x y) : List.Forall₂ S xs ys := by
  have hboth := (List.forall₂_and_left xs ys).2 ⟨himp, h⟩
  exact hboth.imp fun x y h => h.1 y h.2

-- ==================================================== with a state left

/-- What an operation and all that can follow it leave true is true in the
end. -/
theorem Outcome.state_andThen {σ α β : Type} {P : σ → Prop} {o : Outcome σ α}
    {f : σ → α → Outcome σ β} (h : P o.state) (hf : ∀ a, P (f o.state a).state) :
    P (o.andThen f).state := by
  unfold andThen
  cases o.result with
  | error e => exact h
  | ok a => exact hf a

/-- An operation that succeeds with such a state, or leaves the one that was
there. -/
theorem Outcome.state_ofExcept {σ α : Type} {P : σ → Prop} {s : σ} {r : Except Fault (σ × α)}
    (h : P s) (hr : ∀ s' a, r = .ok (s', a) → P s') : P (ofExcept s r).state := by
  unfold ofExcept
  cases r with
  | error e => exact h
  | ok r => exact hr r.1 r.2 rfl

/-- The same where the state is made of what a computation gives. -/
theorem Outcome.state_ofExcept_map {σ α β : Type} {P : σ → Prop} {s : σ} {x : Except Fault β}
    {h : β → σ × α} (hs : P s) (hx : ∀ b, x = .ok b → P (h b).1) :
    P (ofExcept s (x.map h)).state := by
  refine state_ofExcept hs fun s' a hmap => ?_
  obtain ⟨b, hb, heq⟩ := map_eq_ok.1 hmap
  have hb := hx b hb
  rw [← heq] at hb
  exact hb

/-- What follows an operation that succeeded, with what both reported. -/
theorem Outcome.andThen_of_ok {σ α β : Type} {o : Outcome σ α} {a : α} (h : o.result = .ok a)
    (f : σ → α → Outcome σ β) : o.andThen f
      = ⟨(f o.state a).state, (f o.state a).result, o.events ++ (f o.state a).events⟩ := by
  unfold andThen
  rw [h]

/-- What succeeds in the end has followed an operation that succeeded. -/
theorem Outcome.andThen_eq_ok {σ α β : Type} {o : Outcome σ α} {f : σ → α → Outcome σ β} {b : β}
    (h : (o.andThen f).result = .ok b) :
    ∃ a, o.result = .ok a ∧ (f o.state a).result = .ok b := by
  unfold andThen at h
  split at h
  · next a ha => exact ⟨a, ha, h⟩
  · cases h

/-- What follows an operation that succeeded is what there is in the end. -/
theorem Outcome.andThen_ok {σ α β : Type} {o : Outcome σ α} {f : σ → α → Outcome σ β} {a : α}
    (h : o.result = .ok a) :
    (o.andThen f).state = (f o.state a).state ∧ (o.andThen f).result = (f o.state a).result := by
  rw [andThen_of_ok h]
  exact ⟨rfl, rfl⟩

end Collation
