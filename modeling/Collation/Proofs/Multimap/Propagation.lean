/-
What is answered about a key for which the comparator fails. The search
for its slot ends in an error, and there are two ways on from there. A
plain search hands the error on, so asking for the key and putting values
under it fail with that very error. A look-up with a default takes an
error of the class for absent keys for its own and answers that there is
no such key (`OrderedMap.locate?_of_error`); every other error it hands on.
The class takes in those that are made kinds of it (`Fault.isAbsence`).

So of the operations that look up with a default, each fails with the
error of the comparator, unless that error is of this one class: then they
answer as for a key that is not there (`failed_search_answers`). A
comparator that reads an entry of a record meets such an error in every
record without the entry (`missing_entry_seems_absent`).
-/
import Collation.Comparator.Keys
import Collation.Multimap.Views
import Collation.Proofs.Multimap.Integrity

namespace Collation

namespace OrderedMap

variable {β : Type} {m : OrderedMap β} {k : Value} {e : Fault}

/-- A search that fails is a look-up that fails or, by the class of the
error, one that finds no key. -/
theorem locate?_of_error (h : m.find k = .error e) :
    m.locate? k = if e.isAbsence then .ok none else .error e := by
  unfold locate?
  rw [h]

/-- A failed search, where a look-up has a default. -/
private theorem get?_of_error (h : m.find k = .error e) :
    m.get? k = if e.isAbsence then .ok none else .error e := by
  unfold get?
  rw [locate?_of_error h]
  split
  · rfl
  · rfl

/-- The same where an entry is taken out with a default. -/
private theorem pop?_of_error (h : m.find k = .error e) :
    m.pop? k = if e.isAbsence then .ok (m, none) else .error e := by
  unfold pop?
  rw [get?_of_error h]
  by_cases habsence : e.isAbsence = true
  · rw [if_pos habsence, if_pos habsence]
  · rw [if_neg habsence, if_neg habsence]

end OrderedMap

namespace Multimap

variable {m : Multimap} {k v : Value} {e : Fault}

-- ============================================== handed on in any case

private theorem containsKey_of_error (h : m.map.find k = .error e) :
    m.containsKey k = .error e := by
  unfold containsKey OrderedMap.contains
  rw [h]
  rfl

/-- Putting a value hands the error on, if not from the look-up then from
the search for the place of the new slot. -/
theorem put_of_error (hk : k ≠ .null) (hv : v ≠ .null) (h : m.map.find k = .error e) :
    m.put k v = .failed m e := by
  unfold put
  rw [checkEntry_eq_ok (fun hnull => absurd hnull hk) fun hnull => absurd hnull hv]
  dsimp only
  rw [OrderedMap.locate?_of_error h]
  by_cases habsence : e.isAbsence = true
  · rw [if_pos habsence]
    dsimp only
    rw [OrderedSet.add_empty]
    dsimp only
    unfold OrderedMap.set
    rw [h]
  · rw [if_neg habsence]

/-- Taking out a key has a default for an absent one. -/
private theorem removeAll_of_error (h : m.map.find k = .error e) :
    m.removeAll k
      = if e.isAbsence then .done m (.empty m.valueComparator) else .failed m e := by
  unfold removeAll
  rw [OrderedMap.pop?_of_error h]
  by_cases habsence : e.isAbsence = true
  · rw [if_pos habsence, if_pos habsence]
  · rw [if_neg habsence, if_neg habsence]

/-- Replacing values by at least one fails, if not in taking out the former
ones then in putting the new ones. -/
theorem replaceValues_of_error {vs : List Value} (hk : k ≠ .null) (hv : v ≠ .null)
    (h : m.map.find k = .error e) : (m.replaceValues k (v :: vs)).result = .error e := by
  unfold replaceValues
  rw [removeAll_of_error h]
  split
  · show ((m.putEach k (v :: vs)).mapResult _).result = _
    unfold putEach
    rw [put_of_error hk hv h]
    rfl
  · rfl

-- =========================================== looked up with a default

private theorem valuesAt?_of_error (h : m.map.find k = .error e) :
    m.valuesAt? k = if e.isAbsence then .ok none else .error e :=
  OrderedMap.get?_of_error h

/-- Taking out an entry looks the values up. -/
private theorem remove_of_error (h : m.map.find k = .error e) :
    m.remove k v = if e.isAbsence then .done m false else .failed m e := by
  unfold remove
  rw [OrderedMap.locate?_of_error h]
  by_cases habsence : e.isAbsence = true
  · rw [if_pos habsence, if_pos habsence]
  · rw [if_neg habsence, if_neg habsence]

private theorem containsEntry_of_error (h : m.map.find k = .error e) :
    m.containsEntry k v = if e.isAbsence then .ok false else .error e := by
  unfold containsEntry
  rw [valuesAt?_of_error h]
  cases e.isAbsence <;> rfl

/-- The view of the key's values looks them up anew for every read. -/
theorem values?_of_error (h : m.map.find k = .error e) :
    (SlotView.mk m k).values? = if e.isAbsence then .ok none else .error e :=
  valuesAt?_of_error h

private theorem items_of_error (h : m.map.find k = .error e) :
    (SlotView.mk m k).items = if e.isAbsence then .ok [] else .error e := by
  unfold SlotView.items
  rw [values?_of_error h]
  cases e.isAbsence <;> rfl

private theorem size_of_error (h : m.map.find k = .error e) :
    (SlotView.mk m k).size = if e.isAbsence then .ok 0 else .error e := by
  unfold SlotView.size
  rw [items_of_error h]
  cases e.isAbsence <;> rfl

private theorem contains_of_error (h : m.map.find k = .error e) :
    (SlotView.mk m k).contains v = if e.isAbsence then .ok false else .error e := by
  unfold SlotView.contains
  rw [values?_of_error h]
  cases e.isAbsence <;> rfl

private theorem first_of_error (h : m.map.find k = .error e) :
    (SlotView.mk m k).first = if e.isAbsence
      then .error (.emptyEnd ((SlotView.mk m k).emptyAbout "first")) else .error e := by
  unfold SlotView.first
  rw [values?_of_error h]
  cases e.isAbsence <;> rfl

/-- A failed search, handed on: whatever reads or changes what is under the
key fails with its error. -/
structure HandsOn (m : Multimap) (k v : Value) (e : Fault) : Prop where
  containsEntry : m.containsEntry k v = .error e
  remove : m.remove k v = .failed m e
  removeAll : m.removeAll k = .failed m e
  size : (SlotView.mk m k).size = .error e
  items : (SlotView.mk m k).items = .error e
  contains : (SlotView.mk m k).contains v = .error e
  first : (SlotView.mk m k).first = .error e

/-- A failed search, taken for one that found nothing: the key seems to have
no values, and nothing is changed. -/
structure SeemsAbsent (m : Multimap) (k v : Value) : Prop where
  containsEntry : m.containsEntry k v = .ok false
  remove : m.remove k v = .done m false
  removeAll : m.removeAll k = .done m (.empty m.valueComparator)
  size : (SlotView.mk m k).size = .ok 0
  items : (SlotView.mk m k).items = .ok []
  contains : (SlotView.mk m k).contains v = .ok false
  first : (SlotView.mk m k).first = .error (.emptyEnd ((SlotView.mk m k).emptyAbout "first"))

/-- An error of another class than the one for absent keys is handed on. -/
private theorem handsOn_of_error (h : m.map.find k = .error e) (habsence : e.isAbsence = false) :
    HandsOn m k v e := by
  have hne : ¬e.isAbsence = true := by simp [habsence]
  constructor
  case containsEntry => rw [containsEntry_of_error h, if_neg hne]
  case remove => rw [remove_of_error h, if_neg hne]
  case removeAll => rw [removeAll_of_error h, if_neg hne]
  case size => rw [size_of_error h, if_neg hne]
  case items => rw [items_of_error h, if_neg hne]
  case contains => rw [contains_of_error h, if_neg hne]
  case first => rw [first_of_error h, if_neg hne]

/-- One of that class is taken for the absence of the key. -/
private theorem seemsAbsent_of_error (h : m.map.find k = .error e) (habsence : e.isAbsence = true) :
    SeemsAbsent m k v := by
  constructor
  case containsEntry => rw [containsEntry_of_error h, if_pos habsence]
  case remove => rw [remove_of_error h, if_pos habsence]
  case removeAll => rw [removeAll_of_error h, if_pos habsence]
  case size => rw [size_of_error h, if_pos habsence]
  case items => rw [items_of_error h, if_pos habsence]
  case contains => rw [contains_of_error h, if_pos habsence]
  case first => rw [first_of_error h, if_pos habsence]

/-- Where the search for a key fails, the question for the key, a value put
under it and values put in place of others fail with the same error. The
look-ups with a default do so too, unless the error is of the class for
absent keys or a kind of it: then they take the key for an absent one. -/
theorem failed_search_answers (m : Multimap) {k v : Value} {vs : List Value} {e : Fault}
    (hk : k ≠ .null) (hv : v ≠ .null) (hvs : ∀ w ∈ vs, w ≠ .null) (hne : vs ≠ [])
    (hfind : m.map.find k = .error e) :
    m.containsKey k = .error e ∧ m.put k v = .failed m e
      ∧ (m.replaceValues k vs).result = .error e
      ∧ (e.isAbsence = false → HandsOn m k v e) ∧ (e.isAbsence = true → SeemsAbsent m k v) := by
  refine ⟨containsKey_of_error hfind, put_of_error hk hv hfind, ?_, handsOn_of_error hfind,
    seemsAbsent_of_error hfind⟩
  obtain ⟨w, ws, rfl⟩ := List.exists_cons_of_ne_nil hne
  exact replaceValues_of_error hk (hvs w List.mem_cons_self) hfind

/-- Keys by a comparator that gives up on one of them, with an error of its
own. -/
theorem failed_search_answers_fragile :
    let e : Fault := .foreign "RuntimeError" "gave up"
    let keys : Comparator := { identity := 5, compare := .fragile (.text "b") e }
    let m := (empty keys .natural).afterAll [.put (.text "a") (.int 1)]
    m.map.find (.text "b") = .error e ∧ e.isAbsence = false
      ∧ m.containsKey (.text "b") = .error e ∧ m.put (.text "b") (.int 2) = .failed m e
      ∧ (m.replaceValues (.text "b") [.int 2, .int 3]).result = .error e
      ∧ HandsOn m (.text "b") (.int 2) e := by
  intro e keys m
  have hfind : m.map.find (.text "b") = .error e := rfl
  have habsence : e.isAbsence = false := rfl
  have hkey : Value.text "b" ≠ .null := fun h => nomatch h
  have hvalue : Value.int 2 ≠ .null := fun h => nomatch h
  have hvalues : ∀ w ∈ [Value.int 2, .int 3], w ≠ .null := by simp
  obtain ⟨hcontains, hput, hreplace, hhanded, -⟩ :=
    failed_search_answers m hkey hvalue hvalues (List.cons_ne_nil _ _) hfind
  exact ⟨hfind, habsence, hcontains, hput, hreplace, hhanded habsence⟩

/-- Records ordered by an entry that one of them lacks: the search fails with
the error for the missing entry, and the look-ups of that record answer as
if it were a key that is not there. -/
theorem missing_entry_seems_absent :
    let keys : Comparator :=
      { identity := 5, compare := Comparison.natural.comparing (.item (.text "id")) }
    let m := (empty keys .natural).afterAll [.put (.dict [(.text "id", .int 1)]) (.text "a")]
    let k : Value := .dict [(.text "name", .int 2)]
    m.map.find k = .error (.absent (.text "id"))
      ∧ m.containsKey k = .error (.absent (.text "id"))
      ∧ SeemsAbsent m k (.text "a") := by
  intro keys m k
  have hfind : m.map.find k = .error (.absent (.text "id")) := rfl
  exact ⟨hfind, containsKey_of_error hfind, seemsAbsent_of_error hfind rfl⟩

end Multimap

end Collation
