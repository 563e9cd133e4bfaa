/-
What becomes of the texts in a value when it is written and read again:
the halves of pairs that stand side by side in them are joined, at every
depth (`joined`). Names are texts too, so two names that differ may be one
when they are joined, and then the last entry counts. A value is whole if
no text in it has anything to join (`isWhole`); then nothing of this
happens to it.
-/
import Collation.Proofs.Text.Joined
import Collation.Proofs.Value.Normal

namespace Collation.Value

variable {v : Value} {xs : List Value} {es : List (Value × Value)}

mutual

/-- The value as it is read from what is written for it in this order: its
texts joined, and of entries whose names are then the same the last one. -/
def joined : Value → Value
  | text s => text s.joined
  | list xs => list (joinedItems xs)
  | dict es => dict (dictOf (joinedEntries es))
  | v => v
termination_by structural v => v

def joinedItems : List Value → List Value
  | [] => []
  | x :: xs => joined x :: joinedItems xs
termination_by structural xs => xs

def joinedEntries : List (Value × Value) → List (Value × Value)
  | [] => []
  | e :: es => joinedEntry e :: joinedEntries es
termination_by structural es => es

def joinedEntry : Value × Value → Value × Value
  | (k, v) => (joined k, joined v)
termination_by structural e => e

end

/-- A list is joined item by item. -/
theorem joined_list (xs : List Value) : (list xs).joined = list (xs.map joined) := by
  rw [joined]
  refine congrArg list ?_
  induction xs with
  | nil => rfl
  | cons x xs ih => exact congrArg (x.joined :: ·) ih

/-- A dictionary is joined entry by entry, a later name overriding an earlier
one that has become the same. -/
theorem joined_dict (es : List (Value × Value)) :
    (dict es).joined = dict (dictOf (es.map fun e => (e.1.joined, e.2.joined))) := by
  rw [joined]
  refine congrArg (fun es => dict (dictOf es)) ?_
  induction es with
  | nil => rfl
  | cons e es ih =>
    obtain ⟨k, v⟩ := e
    exact congrArg ((k.joined, v.joined) :: ·) ih

/-- What JSON has a form for it still has one for. -/
theorem Plain.joined (h : v.Plain) : v.joined.Plain := by
  induction h with
  | null => exact .null
  | bool b => exact .bool b
  | int n => exact .int n
  | float hfinite => exact .float hfinite
  | text s => exact .text s.joined
  | list _ ih =>
    rw [joined_list]
    exact .list (List.forall_mem_map.2 ih)
  | @dict es hes _ ih =>
    rw [joined_dict]
    refine .dict (named_dictOf (List.forall_mem_map.2 fun e he => ?_)) fun e he => ?_
    · obtain ⟨s, hs⟩ := hes.texts e he
      exact ⟨s.joined, by rw [hs, Value.joined]⟩
    · obtain ⟨-, f, hf, heq⟩ := of_mem_dictOf he
      obtain ⟨g, hg, rfl⟩ := List.mem_map.1 hf
      exact heq ▸ ih g hg

-- ========================================================= whole values

mutual

/-- No text within the value has a second half of a pair behind a first
one. -/
def isWhole : Value → Bool
  | text s | label s => s.IsWhole
  | list xs | tuple xs | set xs | iterator _ xs | object _ xs => areWhole xs
  | dict es => entriesWhole es
  | _ => true
termination_by structural v => v

def areWhole : List Value → Bool
  | [] => true
  | x :: xs => isWhole x && areWhole xs
termination_by structural xs => xs

def entriesWhole : List (Value × Value) → Bool
  | [] => true
  | e :: es => entryWhole e && entriesWhole es
termination_by structural es => es

def entryWhole : Value × Value → Bool
  | (k, v) => isWhole k && isWhole v
termination_by structural e => e

end

/-- A text value is whole if the text is. -/
theorem isWhole_text {s : Text} : (text s).isWhole = true ↔ s.IsWhole := decide_eq_true_iff

/-- A list is whole if its items are. -/
theorem isWhole_list : (list xs).isWhole = true ↔ ∀ x ∈ xs, x.isWhole = true := by
  rw [← List.all_eq_true]
  refine iff_of_eq (congrArg (· = true) ?_)
  rw [isWhole]
  induction xs with
  | nil => rfl
  | cons x xs ih => exact congrArg (x.isWhole && ·) ih

/-- A dictionary is whole if its names and values are. -/
theorem isWhole_dict :
    (dict es).isWhole = true ↔ ∀ e ∈ es, e.1.isWhole = true ∧ e.2.isWhole = true := by
  have hentries : entriesWhole es = es.all fun e => e.1.isWhole && e.2.isWhole := by
    induction es with
    | nil => rfl
    | cons e es ih =>
      obtain ⟨k, v⟩ := e
      exact congrArg (k.isWhole && v.isWhole && ·) ih
  rw [isWhole, hentries]
  simp only [Bool.and_eq_true, List.all_eq_true]

/-- The order of entries has no part in it. -/
theorem isWhole_normal (v : Value) : v.normal.isWhole = v.isWhole := by
  induction v using nested with
  | step v ih =>
    cases v with
    | list xs =>
      rw [normal_list, Bool.eq_iff_iff, isWhole_list, isWhole_list, List.forall_mem_map]
      exact forall₂_congr fun x hx => iff_of_eq (congrArg (· = true) (ih x hx))
    | dict es =>
      rw [normal_dict, canonicalEntries, Bool.eq_iff_iff, isWhole_dict, isWhole_dict,
        List.forall_mem_map]
      simp only [mem_byName]
      refine forall₂_congr fun e he => and_congr_right fun _ => ?_
      exact iff_of_eq (congrArg (· = true) (ih e.2 (mem_within_dict he)))
    | _ => rfl

/-- What is the same to JSON is as whole. -/
theorem Same.isWhole_eq {w : Value} (h : v.Same w) : v.isWhole = w.isWhole := by
  rw [← isWhole_normal v, ← isWhole_normal w, h]

end Collation.Value
