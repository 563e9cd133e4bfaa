/-
What a value is to JSON. Of the values that a document may hold (`Plain`)
JSON keeps everything but the order in which the entries of a dictionary
were given. A value with the entries sorted by name at every depth is its
normal form, so two values are the same to JSON if they have one normal
form (`Same`): the types count, and so does the sign of a zero, for
nothing but the order of entries is touched.

Sorting is what the canonical text does too, by a sort that asks the
natural order about the names. On names that are texts it answers every
question, so that the sort is the one of the library (`sortBy_named`).
-/
import Collation.Proofs.Comparison
import Collation.Proofs.Fallible
import Collation.Proofs.Sorting.Sorted
import Collation.Proofs.Value.Lookup
import Collation.Wire.Encode
import Mathlib.Data.List.Nodup

namespace Collation.Value

variable {α β : Type} {v w : Value} {place : String}

-- ============================================================== entries

/-- Whether the name of an entry comes before that of another. -/
def namedBefore (e f : Value × α) : Bool := e.1.text?.getD "" < f.1.text?.getD ""

/-- Entries are in order by their names. -/
private theorem namedBefore_strictWeak : Sorting.StrictWeak (namedBefore (α := α)) where
  asymm e f h := by
    simp only [namedBefore, decide_eq_true_eq, decide_eq_false_iff_not] at h ⊢
    exact h.not_gt
  not_below_trans e f g hef hfg := by
    simp only [namedBefore, decide_eq_false_iff_not, not_lt] at hef hfg ⊢
    exact hfg.trans hef

/-- Entries in the order of their names. -/
def byName (es : List (Value × α)) : List (Value × α) :=
  es.mergeSort (Sorting.upTo namedBefore)

variable {es fs : List (Value × α)}

/-- Ordering by names loses nothing and adds nothing. -/
theorem byName_perm (es : List (Value × α)) : (byName es).Perm es := List.mergeSort_perm es _

/-- The same entries are there. -/
theorem mem_byName {e : Value × α} : e ∈ byName es ↔ e ∈ es := (byName_perm es).mem_iff

/-- Entries in order stay as they are. -/
theorem byName_byName (es : List (Value × α)) : byName (byName es) = byName es :=
  List.mergeSort_of_pairwise <| List.pairwise_mergeSort namedBefore_strictWeak.upTo_trans
    namedBefore_strictWeak.upTo_total es

/-- Of entries under different texts there is one order. -/
theorem byName_eq_of_perm (h : Named es) (hperm : fs.Perm es) : byName fs = byName es := by
  refine List.Perm.eq_of_pairwise (fun e f he hf hef hfe => ?_)
    (List.pairwise_mergeSort namedBefore_strictWeak.upTo_trans namedBefore_strictWeak.upTo_total fs)
    (List.pairwise_mergeSort namedBefore_strictWeak.upTo_trans namedBefore_strictWeak.upTo_total es)
    ((byName_perm fs).trans (hperm.trans (byName_perm es).symm))
  have he' := hperm.mem_iff.1 (mem_byName.1 he)
  have hf' := mem_byName.1 hf
  refine List.inj_on_of_nodup_map h.nodup he' hf' ?_
  obtain ⟨s, hs⟩ := h.texts e he'
  obtain ⟨t, ht⟩ := h.texts f hf'
  simp only [Sorting.upTo, namedBefore, hs, ht, text?, Option.getD_some, Bool.not_eq_true',
    decide_eq_false_iff_not, not_lt] at hef hfe
  rw [hs, ht, le_antisymm hef hfe]

/-- The order does not depend on what stands under the names. -/
theorem byName_map (f : Value × α → β) (es : List (Value × α)) :
    byName (es.map fun e => (e.1, f e)) = (byName es).map fun e => (e.1, f e) := by
  have hkeep : ∀ e ∈ es, ∀ e' ∈ es, Sorting.upTo namedBefore e e'
      = Sorting.upTo namedBefore (e.1, f e) (e'.1, f e') := fun _ _ _ _ => rfl
  exact (List.map_mergeSort hkeep).symm

/-- The entries in order have the same names. -/
theorem Named.byName (h : Named es) : Named (byName es) := h.perm (byName_perm es)

/-- Entries under texts are sorted as they should be. -/
theorem sortBy_named (h : ∀ e ∈ es, ∃ s, e.1 = text s) : sortBy Prod.fst es = .ok (byName es) := by
  refine Sorting.sorted_eq_mergeSort (P := fun e => ∃ s, e.1 = text s) namedBefore_strictWeak
    (fun e f he hf => ?_) h
  obtain ⟨s, hs⟩ := he
  obtain ⟨t, ht⟩ := hf
  rw [hs, ht, less_text, namedBefore, hs, ht]
  rfl

/-- Texts can be sorted. -/
theorem sort_texts (vs : List Value) (h : ∀ v ∈ vs, ∃ s, v = text s) :
    ∃ ws, sort vs = .ok ws ∧ ws.Perm vs := by
  have hstrict : Sorting.StrictWeak fun v w : Value => namedBefore (v, ()) (w, ()) :=
    ⟨fun v w => namedBefore_strictWeak.asymm (v, ()) (w, ()),
      fun u v w => namedBefore_strictWeak.not_below_trans (u, ()) (v, ()) (w, ())⟩
  refine ⟨_, Sorting.sorted_eq_mergeSort (P := fun v => ∃ s, v = text s) hstrict
    (fun v w hv hw => ?_) h, List.mergeSort_perm vs _⟩
  obtain ⟨s, rfl⟩ := hv
  obtain ⟨t, rfl⟩ := hw
  exact less_text s t

-- ============================================================ normal form

mutual

/-- The value with the entries of its dictionaries in the order of their
names, at every depth. -/
def normal : Value → Value
  | list xs => list (normalItems xs)
  | dict es => dict (byName (normalEntries es))
  | v => v
termination_by structural v => v

def normalItems : List Value → List Value
  | [] => []
  | x :: xs => normal x :: normalItems xs
termination_by structural xs => xs

def normalEntries : List (Value × Value) → List (Value × Value)
  | [] => []
  | e :: es => normalEntry e :: normalEntries es
termination_by structural es => es

def normalEntry : Value × Value → Value × Value
  | (k, v) => (k, normal v)
termination_by structural e => e

end

/-- Two values that JSON does not tell apart. -/
def Same (v w : Value) : Prop := v.normal = w.normal

private theorem normalItems_eq (xs : List Value) : normalItems xs = xs.map normal := by
  induction xs with
  | nil => rfl
  | cons x xs ih => exact congrArg (normal x :: ·) ih

private theorem normalEntries_eq (es : List (Value × Value)) :
    normalEntries es = es.map fun e => (e.1, e.2.normal) := by
  induction es with
  | nil => rfl
  | cons e es ih =>
    obtain ⟨k, v⟩ := e
    exact congrArg ((k, v.normal) :: ·) ih

/-- A list is put in normal form item by item. -/
theorem normal_list (xs : List Value) : (list xs).normal = list (xs.map normal) :=
  congrArg list (normalItems_eq xs)

/-- The entries of a dictionary's normal form. -/
def canonicalEntries (es : List (Value × Value)) : List (Value × Value) :=
  (byName es).map fun e => (e.1, e.2.normal)

/-- A dictionary is so in the order of its names. -/
theorem normal_dict (es : List (Value × Value)) :
    (dict es).normal = dict (canonicalEntries es) := by
  rw [normal, normalEntries_eq, byName_map, canonicalEntries]

/-- A text is its own normal form. -/
theorem text?_normal (v : Value) : v.normal.text? = v.text? := by
  cases v <;> rfl

/-- What is the same to JSON is the same text. -/
theorem Same.text?_eq (h : v.Same w) : w.text? = v.text? := by
  rw [← text?_normal w, ← h, text?_normal]

/-- Only a null is put in normal form as a null. -/
theorem null_of_normal (h : v.normal = null) : v = null := by
  cases v with
  | list xs => cases h
  | dict es => cases h
  | _ => exact h

/-- Dictionaries with the same names in one order, and with values under them
that JSON does not tell apart. -/
theorem same_dict {es fs : List (Value × Value)}
    (h : (es.map fun e => (e.1, e.2.normal)) = fs.map fun e => (e.1, e.2.normal)) :
    (dict es).Same (dict fs) := by
  unfold Same
  rw [normal_dict, normal_dict, canonicalEntries, canonicalEntries, ← byName_map, h, byName_map]

/-- The entries in normal form have the same names. -/
theorem Named.canonicalEntries {es : List (Value × Value)} (h : Named es) :
    Named (canonicalEntries es) :=
  h.byName.map _

/-- A text finds in the normal form what it finds in the dictionary, in its
normal form. -/
theorem lookup_canonicalEntries {es : List (Value × Value)} (h : Named es) (s : Text) :
    lookup (.text s) (canonicalEntries es) = (lookup (.text s) es).map normal := by
  refine Option.ext fun w => ?_
  rw [lookup_eq_some_iff h.canonicalEntries, Option.map_eq_some_iff, canonicalEntries, List.mem_map]
  constructor
  · rintro ⟨⟨k, v⟩, he, heq⟩
    obtain ⟨rfl, rfl⟩ := Prod.mk.inj heq
    exact ⟨v, (lookup_eq_some_iff h).2 (mem_byName.1 he), rfl⟩
  · rintro ⟨v, hv, rfl⟩
    exact ⟨(text s, v), mem_byName.2 ((lookup_eq_some_iff h).1 hv), rfl⟩

-- =========================================================== plain values

/-- A value that JSON has a form for: no text under a name of its own, no
number that is not finite, and only texts for the names of entries. -/
inductive Plain : Value → Prop where
  | null : Plain null
  | bool (b : Bool) : Plain (bool b)
  | int (n : Int) : Plain (int n)
  | float {x : Binary64} : x.isFinite = true → Plain (float x)
  | text (s : Text) : Plain (text s)
  | list {xs : List Value} : (∀ x ∈ xs, Plain x) → Plain (list xs)
  | dict {es : List (Value × Value)} : Named es → (∀ e ∈ es, Plain e.2) → Plain (dict es)

/-- The items of a plain list are plain. -/
theorem Plain.of_list {xs : List Value} (h : (Value.list xs).Plain) : ∀ x ∈ xs, x.Plain := by
  cases h with
  | list hxs => exact hxs

/-- A plain dictionary has names, each once, and plain values under them. -/
theorem Plain.of_dict {es : List (Value × Value)} (h : (Value.dict es).Plain) :
    Named es ∧ ∀ e ∈ es, e.2.Plain := by
  cases h with
  | dict hes hvalues => exact ⟨hes, hvalues⟩

/-- The normal form of a plain value is plain. -/
theorem Plain.normal (h : v.Plain) : v.normal.Plain := by
  induction h with
  | null => exact .null
  | bool b => exact .bool b
  | int n => exact .int n
  | float hx => exact .float hx
  | text s => exact .text s
  | list _ ih =>
    rw [normal_list]
    exact .list (List.forall_mem_map.2 ih)
  | dict hes _ ih =>
    rw [normal_dict]
    refine .dict hes.canonicalEntries ?_
    exact List.forall_mem_map.2 fun e he => ih e (mem_byName.1 he)

/-- A normal form is its own. -/
theorem Plain.normal_normal (h : v.Plain) : v.normal.normal = v.normal := by
  induction h with
  | null => rfl
  | bool b => rfl
  | int n => rfl
  | float hx => rfl
  | text s => rfl
  | list _ ih =>
    rw [normal_list, normal_list, List.map_map]
    exact congrArg Value.list (List.map_congr_left ih)
  | dict _ _ ih =>
    rw [normal_dict, normal_dict, canonicalEntries, canonicalEntries, byName_map, byName_byName,
      List.map_map]
    refine congrArg Value.dict (List.map_congr_left fun e he => ?_)
    exact congrArg (Prod.mk e.1) (ih e (mem_byName.1 he))

-- =============================================================== within

/-- What a value is made of directly. -/
def within : Value → List Value
  | list xs | tuple xs | set xs | iterator _ xs | object _ xs => xs
  | dict es => es.map Prod.fst ++ es.map Prod.snd
  | _ => []

private theorem sizeOf_lt_of_mem_within {v w : Value} (h : w ∈ v.within) : sizeOf w < sizeOf v := by
  have hitem : ∀ xs : List Value, w ∈ xs → sizeOf w < 1 + sizeOf xs := by
    intro xs hw
    have hless := List.sizeOf_lt_of_mem hw
    omega
  cases v with
  | list xs => exact (hitem xs h).trans_eq (list.sizeOf_spec xs).symm
  | tuple xs => exact (hitem xs h).trans_eq (tuple.sizeOf_spec xs).symm
  | set xs => exact (hitem xs h).trans_eq (set.sizeOf_spec xs).symm
  | iterator type xs =>
    have hless := hitem xs h
    rw [iterator.sizeOf_spec]
    omega
  | object o xs =>
    have hless := hitem xs h
    rw [object.sizeOf_spec]
    omega
  | dict es =>
    have hentry : ∃ e ∈ es, w = e.1 ∨ w = e.2 := by
      rcases List.mem_append.1 h with h | h
      · obtain ⟨e, he, rfl⟩ := List.mem_map.1 h
        exact ⟨e, he, .inl rfl⟩
      · obtain ⟨e, he, rfl⟩ := List.mem_map.1 h
        exact ⟨e, he, .inr rfl⟩
    obtain ⟨⟨k, x⟩, he, hw⟩ := hentry
    have hless := List.sizeOf_lt_of_mem he
    rw [Prod.mk.sizeOf_spec] at hless
    rw [dict.sizeOf_spec]
    rcases hw with rfl | rfl
    · omega
    · omega
  | _ => exact absurd h List.not_mem_nil

/-- The values of a dictionary are within it. -/
theorem mem_within_dict {es : List (Value × Value)} {e : Value × Value} (he : e ∈ es) :
    e.2 ∈ (dict es).within :=
  List.mem_append_right _ (List.mem_map_of_mem he)

/-- Induction on what is within a value. -/
@[elab_as_elim]
theorem nested {P : Value → Prop} (step : ∀ v, (∀ w ∈ v.within, P w) → P v) (v : Value) : P v :=
  step v fun w _ => nested step w
termination_by sizeOf v
decreasing_by exact sizeOf_lt_of_mem_within ‹_›

-- ============================================================= refusals

/-- A list is shown if its items can be. -/
theorem areShowable_eq (xs : List Value) : areShowable xs = xs.all isShowable := by
  induction xs with
  | nil => rfl
  | cons x xs ih => exact congrArg (x.isShowable && ·) ih

/-- A dictionary is shown if its keys and values can be. -/
theorem entriesShowable_eq (es : List (Value × Value)) :
    entriesShowable es = es.all fun e => e.1.isShowable && e.2.isShowable := by
  induction es with
  | nil => rfl
  | cons e es ih =>
    obtain ⟨k, v⟩ := e
    exact congrArg (k.isShowable && v.isShowable && ·) ih

/-- The order of entries has no part in whether a value can be shown. -/
theorem Plain.isShowable_normal (h : v.Plain) : v.normal.isShowable = v.isShowable := by
  induction h with
  | null => rfl
  | bool b => rfl
  | int n => rfl
  | float hx => rfl
  | text s => rfl
  | @list xs _ ih =>
    rw [normal_list, isShowable, isShowable, areShowable_eq, areShowable_eq, List.all_map,
      Bool.eq_iff_iff, List.all_eq_true, List.all_eq_true]
    exact forall₂_congr fun x hx => iff_of_eq (congrArg (· = true) (ih x hx))
  | @dict es _ _ ih =>
    rw [normal_dict, canonicalEntries, isShowable, isShowable, entriesShowable_eq,
      entriesShowable_eq, List.all_map, ← (byName_perm es).all_eq, Bool.eq_iff_iff,
      List.all_eq_true, List.all_eq_true]
    refine forall₂_congr fun e he => iff_of_eq (congrArg (· = true) ?_)
    exact congrArg (e.1.isShowable && ·) (ih e (mem_byName.1 he))

/-- A refusal is one even if the value cannot be shown in it. -/
theorem refusal_ne_ok (v : Value) (e : Fault) :
    (do v.checkShowable; throw e : Except Fault Unit) ≠ .ok () := by
  unfold checkShowable
  cases v.isShowable with
  | true => exact fun h => nomatch h
  | false => exact fun h => nomatch h

/-- The items are checked in turn. -/
theorem checkItems_eq (place : String) (xs : List Value) :
    checkItems place xs = xs.forM (checkEncodable place) := by
  induction xs with
  | nil => rfl
  | cons x xs ih =>
    rw [checkItems, ih]
    rfl

/-- The entries are checked in turn. -/
theorem checkEntries_eq (place : String) (es : List (Value × Value)) :
    checkEntries place es = es.forM (checkEntry place) := by
  induction es with
  | nil => rfl
  | cons e es ih =>
    rw [checkEntries, ih]
    rfl

/-- A list is accepted if its items are. -/
theorem checkItems_eq_ok {xs : List Value} :
    checkItems place xs = .ok () ↔ ∀ x ∈ xs, checkEncodable place x = .ok () := by
  rw [checkItems_eq, forM_eq_ok]

/-- An entry is accepted if its name is a text and its value is accepted. -/
theorem checkEntry_eq_ok {e : Value × Value} :
    checkEntry place e = .ok () ↔ (∃ s, e.1 = text s) ∧ checkEncodable place e.2 = .ok () := by
  obtain ⟨k, v⟩ := e
  cases k with
  | text s => exact ⟨fun h => ⟨⟨s, rfl⟩, h⟩, fun h => h.2⟩
  | _ =>
    refine iff_of_false (fun h => ?_) fun h => nomatch h.1
    exact refusal_ne_ok _ _ h

/-- A dictionary is accepted if its entries are. -/
theorem checkEntries_eq_ok {es : List (Value × Value)} :
    checkEntries place es = .ok () ↔ ∀ e ∈ es, checkEntry place e = .ok () := by
  rw [checkEntries_eq, forM_eq_ok]

/-- A plain value is not refused. -/
theorem Plain.checkEncodable (h : v.Plain) (place : String) : v.checkEncodable place = .ok () := by
  induction h with
  | null => rfl
  | bool b => rfl
  | int n => rfl
  | float hx => exact if_pos hx
  | text s => rfl
  | list _ ih => exact checkItems_eq_ok.2 ih
  | dict hes _ ih =>
    exact checkEntries_eq_ok.2 fun e he => checkEntry_eq_ok.2 ⟨hes.texts e he, ih e he⟩

mutual

/-- No dictionary within the value has two names that agree: what a
dictionary is made of by giving entries one by one. -/
def isProper : Value → Bool
  | list xs | tuple xs | set xs | iterator _ xs | object _ xs => areProper xs
  | dict es => es.Pairwise (fun e f => agree e.1 f.1 = false) && entriesProper es
  | _ => true
termination_by structural v => v

def areProper : List Value → Bool
  | [] => true
  | x :: xs => isProper x && areProper xs
termination_by structural xs => xs

def entriesProper : List (Value × Value) → Bool
  | [] => true
  | e :: es => entryProper e && entriesProper es
termination_by structural es => es

def entryProper : Value × Value → Bool
  | (k, v) => isProper k && isProper v
termination_by structural e => e

end

/-- A list is proper if its items are. -/
theorem isProper_list {xs : List Value} :
    (list xs).isProper = true ↔ ∀ x ∈ xs, x.isProper = true := by
  rw [← List.all_eq_true]
  refine iff_of_eq (congrArg (· = true) ?_)
  rw [isProper]
  induction xs with
  | nil => rfl
  | cons x xs ih => exact congrArg (x.isProper && ·) ih

/-- A dictionary is proper if its names all differ and what it holds is
proper. -/
theorem isProper_dict {es : List (Value × Value)} :
    (dict es).isProper = true ↔ (es.Pairwise fun e f => agree e.1 f.1 = false)
      ∧ ∀ e ∈ es, e.1.isProper = true ∧ e.2.isProper = true := by
  have hentries : entriesProper es = es.all fun e => e.1.isProper && e.2.isProper := by
    induction es with
    | nil => rfl
    | cons e es ih =>
      obtain ⟨k, v⟩ := e
      exact congrArg (k.isProper && v.isProper && ·) ih
  rw [isProper, hentries]
  simp only [Bool.and_eq_true, decide_eq_true_eq, List.all_eq_true]

/-- What is not refused is plain, its dictionaries being dictionaries. -/
theorem plain_of_checkEncodable (h : v.checkEncodable place = .ok ()) (hp : v.isProper = true) :
    v.Plain := by
  induction v using nested with
  | step v ih =>
    cases v with
    | null => exact .null
    | bool b => exact .bool b
    | int n => exact .int n
    | text s => exact .text s
    | float x =>
      unfold Value.checkEncodable at h
      split at h
      · next hx => exact .float hx
      · cases h
    | list xs =>
      have hitems := checkItems_eq_ok.1 h
      have hproper := isProper_list.1 hp
      exact .list fun x hx => ih x hx (hitems x hx) (hproper x hx)
    | dict es =>
      have hentries := fun e he => checkEntry_eq_ok.1 (checkEntries_eq_ok.1 h e he)
      obtain ⟨hnames, hvalues⟩ := isProper_dict.1 hp
      refine .dict (named_of_pairwise (fun e he => (hentries e he).1) hnames) fun e he => ?_
      exact ih e.2 (mem_within_dict he) (hentries e he).2 (hvalues e he).2
    | label | bytes | tuple | set | iterator | object => exact absurd h (refusal_ne_ok _ _)

/-- The value is refused unless it is plain. -/
def PlainIfEncodable (v : Value) : Prop := ∀ place, v.checkEncodable place = .ok () → v.Plain

end Collation.Value
