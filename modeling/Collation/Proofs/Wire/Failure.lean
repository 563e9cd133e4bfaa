/-
Why a multimap is not encoded. Three things can stand in the way, and
nothing else: a key or a value that JSON has no form for, which is a
misused argument; an integer in one of them of too many digits to be
written, or to be shown in a message; and a key that its comparator cannot
compare with itself, for encoding looks every key up again. The last two
are errors of other classes, though all that is stored may have a form in
JSON.

Step by step: a check fails on a value that has no form or holds a long
integer (`Value.Refused`); a slot is not taken down because of its key or
its values, or because its key cannot be looked up, and the look-up then
has the very error of comparing the key with itself, since the keys around
it are known to be below it and above it (`KeysOrdered.find_refused`).
Once all slots are taken down, only long integers are left.

The values are sound here, not only plain: it is about multimaps that
cannot be encoded, and on sound values the ready-made comparators do not
contradict themselves.
-/
import Collation.Proofs.Wire.Reencoding

namespace Collation

open Json (Legible)

-- ======================================================= refused values

namespace Value

variable {v w : Value} {e : Fault} {place : String} {xs : List Value} {es : List (Value × Value)}

/-- The value is to blame for an error of encoding it. -/
inductive Refused (v : Value) : Fault → Prop where
  | notPlain (cause : Misuse) : ¬v.Plain → Refused v (.misuse cause)
  | tooLong : v.isShowable = false → Refused v .integerTooLong

private theorem isShowable_list_eq_false (hw : w ∈ xs) (h : w.isShowable = false) :
    (list xs).isShowable = false := by
  rw [isShowable, areShowable_eq, List.all_eq_false]
  exact ⟨w, hw, Bool.eq_false_iff.1 h⟩

private theorem isShowable_dict_eq_false {f : Value × Value} (hf : f ∈ es)
    (h : (f.1.isShowable && f.2.isShowable) = false) : (dict es).isShowable = false := by
  rw [isShowable, entriesShowable_eq, List.all_eq_false]
  exact ⟨f, hf, Bool.eq_false_iff.1 h⟩

private theorem Refused.list (hw : w ∈ xs) (h : w.Refused e) : (Value.list xs).Refused e := by
  cases h with
  | notPlain cause h => exact .notPlain cause fun hplain => h (hplain.of_list w hw)
  | tooLong h => exact .tooLong (isShowable_list_eq_false hw h)

private theorem Refused.dict {f : Value × Value} (hf : f ∈ es) (h : f.2.Refused e) :
    (Value.dict es).Refused e := by
  cases h with
  | notPlain cause h => exact .notPlain cause fun hplain => h (hplain.of_dict.2 f hf)
  | tooLong h => exact .tooLong (isShowable_dict_eq_false hf (by rw [h, Bool.and_false]))

/-- What cannot be shown is refused for a number in it that is too long. -/
private theorem checkShowable_refused (h : v.checkShowable = .error e) : v.Refused e := by
  unfold checkShowable at h
  split at h
  · cases h
  · next hshown =>
    cases h
    exact .tooLong (Bool.eq_false_iff.2 hshown)

/-- A value that is shown in the refusal may be too long for that. -/
theorem refusal_cases {cause : Misuse}
    (h : (do v.checkShowable; throw (.misuse cause) : Except Fault Unit) = .error e) :
    e = .misuse cause ∨ e = .integerTooLong ∧ v.isShowable = false := by
  unfold checkShowable at h
  cases hshown : v.isShowable with
  | true =>
    rw [hshown] at h
    cases h
    exact .inl rfl
  | false =>
    rw [hshown] at h
    cases h
    exact .inr ⟨rfl, rfl⟩

private theorem refused_of_refusal {cause : Misuse} (hplain : ¬v.Plain)
    (h : (do v.checkShowable; throw (.misuse cause) : Except Fault Unit) = .error e) :
    v.Refused e := by
  rcases refusal_cases h with rfl | ⟨rfl, hshown⟩
  · exact .notPlain cause hplain
  · exact .tooLong hshown

private theorem checkItems_refused (h : checkItems place xs = .error e) :
    ∃ x ∈ xs, x.checkEncodable place = .error e :=
  forM_eq_error ((checkItems_eq place xs).symm.trans h)

private theorem checkEntries_refused (h : checkEntries place es = .error e) :
    ∃ f ∈ es, checkEntry place f = .error e :=
  forM_eq_error ((checkEntries_eq place es).symm.trans h)

/-- An entry is refused for its name or for what stands under it. -/
theorem checkEntry_refused {f : Value × Value} (h : checkEntry place f = .error e) :
    f.2.checkEncodable place = .error e
      ∨ (∀ s, f.1 ≠ text s)
        ∧ ((∃ cause, e = .misuse cause) ∨ e = .integerTooLong ∧ f.1.isShowable = false) := by
  obtain ⟨k, v⟩ := f
  cases k with
  | text s => exact .inl h
  | _ => exact .inr ⟨(fun s hs => nomatch hs), (refusal_cases h).imp_left fun he => ⟨_, he⟩⟩

/-- What the check refuses is to blame. -/
theorem checkEncodable_refused (h : v.checkEncodable place = .error e) : v.Refused e := by
  induction v using nested with
  | step v ih =>
    cases v with
    | null | bool | int | text => cases h
    | float x =>
      unfold Value.checkEncodable at h
      split at h
      · cases h
      · next hx =>
        cases h
        refine .notPlain _ fun hplain => ?_
        cases hplain with
        | float hfinite => exact hx hfinite
    | list xs =>
      obtain ⟨x, hx, he⟩ := checkItems_refused h
      exact .list hx (ih x hx he)
    | dict es =>
      obtain ⟨f, hf, he⟩ := checkEntries_refused h
      rcases checkEntry_refused he with he | ⟨hname, ⟨cause, rfl⟩ | ⟨rfl, hshown⟩⟩
      · exact .dict hf (ih f.2 (mem_within_dict hf) he)
      · refine .notPlain cause fun hplain => ?_
        obtain ⟨s, hs⟩ := hplain.of_dict.1.texts f hf
        exact hname s hs
      · exact .tooLong (isShowable_dict_eq_false hf (by rw [hshown, Bool.false_and]))
    | label | bytes | tuple | set | iterator | object =>
      exact refused_of_refusal (by rintro ⟨⟩) h

/-- Nothing but long integers keeps a plain value from being written. -/
theorem Plain.legible (h : v.Plain) (hshown : v.isShowable = true) : Legible v := by
  induction h with
  | null => exact .null
  | bool b => exact .bool b
  | int n => exact .int (of_decide_eq_true hshown)
  | float hfinite => exact .of_isFinite hfinite
  | text s => exact .text s
  | list _ ih =>
    rw [isShowable, areShowable_eq, List.all_eq_true] at hshown
    exact .list fun x hx => ih x hx (hshown x hx)
  | dict hes _ ih =>
    rw [isShowable, entriesShowable_eq, List.all_eq_true] at hshown
    exact .dict hes fun e he => ih e he (Bool.and_eq_true_iff.1 (hshown e he)).2

/-- A plain value is not written only for a number in it that is too long. -/
private theorem Plain.written_refused (h : v.Plain) : ∀ {e : Fault}, Json.written v = .error e →
    e = .integerTooLong := by
  induction h with
  | null | bool | text | float => exact fun h => nomatch h
  | int n =>
    intro e h
    have h := map_eq_error.1 h
    unfold Json.integerText at h
    split at h
    · cases h
      rfl
    · cases h
  | list _ ih =>
    intro e h
    rw [Json.written_list, map_eq_error] at h
    obtain ⟨x, hx, he⟩ := mapM_eq_error h
    exact ih x hx he
  | dict hes _ ih =>
    intro e h
    rw [Json.written_dict hes, map_eq_error] at h
    obtain ⟨f, hf, he⟩ := mapM_eq_error h
    have hf := mem_byName.1 hf
    obtain ⟨s, hs⟩ := hes.texts f hf
    rw [hs] at he
    rcases bind_eq_error.1 he with he | ⟨name, -, he⟩
    · cases he
    · rcases bind_eq_error.1 he with he | ⟨t, -, he⟩
      · exact ih f hf he
      · cases he

/-- Of sound values only plain ones pass. -/
theorem Sound.plainIfEncodable (h : v.Sound) : v.PlainIfEncodable := by
  intro place
  induction h with
  | @atom v m hm =>
    have hproper : v.isProper = true := by
      cases v
      case list | tuple | dict | set | iterator | object => cases hm
      all_goals rfl
    exact fun h => plain_of_checkEncodable h hproper
  | nan _ => exact fun h => plain_of_checkEncodable h rfl
  | list _ ih => exact fun h => .list fun x hx => ih x hx (checkItems_eq_ok.1 h x hx)
  | dict hes _ _ _ ih =>
    intro h
    have hentries := fun e he => checkEntry_eq_ok.1 (checkEntries_eq_ok.1 h e he)
    exact .dict (named_of_pairwise (fun e he => (hentries e he).1) hes)
      fun e he => ih e he (hentries e he).2
  | tuple | set | iterator | object => exact fun h => absurd h (refusal_ne_ok _ _)

end Value

-- ================================================================ slots

namespace Multimap

open Wire

variable {registry : Registry} {keys values : Comparator} {K V : Value → Prop} {m : Multimap}
  {t : Slot OrderedSet} {e : Fault}

private theorem get_of_find_error {k : Value} (h : m.map.find k = .error e) :
    m.asMap.get k = .error e := by
  have hcontains : m.asMap.contains k = (m.map.find k).map Option.isSome := rfl
  rw [MapView.get, hcontains, h]
  rfl

/-- A slot of ordered keys is not taken down because its key cannot be
compared with itself, or because of its key, or of one of its values. -/
theorem KeysOrdered.ofKey_refused (h : KeysOrdered keys K m) (hk : keys.compare.ConsistentOn K)
    (ht : t ∈ m.map.slots) (hcounted : (recordOf t).Counted)
    (he : SlotRecord.ofKey m.asMap t.key = .error e) :
    keys.compare t.key t.key = .error e ∨ t.key.Refused e ∨ ∃ v ∈ t.value.items, v.Refused e := by
  rcases hk.itself (h.key_mem t ht) with hself | ⟨f, hf⟩
  · right
    obtain ⟨hget, hitems⟩ := h.get_slot hk ht hself
    have hcheck : SlotRecord.check (recordOf t).toValue = .ok (recordOf t) :=
      SlotRecord.check_toValue.2 ⟨rfl, hcounted⟩
    rw [SlotRecord.ofKey, hget] at he
    rcases bind_eq_error.1 he with he | ⟨_, ⟨⟩, he⟩
    · cases he
    rcases bind_eq_error.1 he with he | ⟨⟨⟩, -, he⟩
    · exact .inl (Value.checkShowable_refused he)
    rcases bind_eq_error.1 he with he | ⟨⟨⟩, -, he⟩
    · exact .inl (Value.checkEncodable_refused he)
    rw [hitems] at he
    rcases bind_eq_error.1 he with he | ⟨_, ⟨⟩, he⟩
    · cases he
    rcases bind_eq_error.1 he with he | ⟨⟨⟩, -, he⟩
    · obtain ⟨v, hv, he⟩ := Value.checkItems_refused he
      exact .inr ⟨v, hv, Value.checkEncodable_refused he⟩
    · change Checked.orInvalid _ (SlotRecord.check (recordOf t).toValue) = .error e at he
      rw [hcheck] at he
      cases he
  · have hget := get_of_find_error (h.find_refused hk ht hf)
    rw [SlotRecord.ofKey, hget] at he
    cases he
    exact .inl hf

-- ============================================================= documents

/-- Between comparators with texts for names, a document is not made because
a slot is not taken down, or because it has no digest. -/
theorem ofMultimap_refused {keyName valueName : Text}
    (hkeyName : registry.nameOf m.keyComparator = .ok (.text keyName))
    (hvalueName : registry.nameOf m.valueComparator = .ok (.text valueName))
    (he : Document.ofMultimap registry m = .error e) :
    m.keys.mapM (SlotRecord.ofKey m.asMap) = .error e
      ∨ ∃ slots, m.keys.mapM (SlotRecord.ofKey m.asMap) = .ok slots
        ∧ digestOf (Document.mk currentFormat keyName valueName slots.length slots "").entries
          = .error e := by
  rw [Document.ofMultimap, hkeyName, hvalueName] at he
  rcases bind_eq_error.1 he with he | ⟨_, ⟨⟩, he⟩
  · cases he
  rcases bind_eq_error.1 he with he | ⟨_, ⟨⟩, he⟩
  · cases he
  rcases bind_eq_error.1 he with he | ⟨slots, hslots, he⟩
  · exact .inl he
  -- the slots count their values, so the document is not refused for its form
  have hcounted : ∀ s ∈ slots, s.Counted := by
    intro s hs
    obtain ⟨k, -, hk⟩ := exists_of_mem_right (mapM_eq_ok.1 hslots) s hs
    exact (SlotRecord.ofKey_eq_ok.1 hk).2.1
  have hcheck : Document.check (.dict (Document.unsealed (.text keyName) (.text valueName) slots))
      = .ok ⟨currentFormat, keyName, valueName, slots.length, slots, ""⟩ :=
    Document.check_unsealed.2 ⟨rfl, hcounted, rfl, rfl, rfl, rfl, rfl⟩
  change (Checked.orInvalid _ (Document.check (.dict (Document.unsealed _ _ slots))) >>= _)
    = .error e at he
  rw [hcheck] at he
  rcases bind_eq_error.1 he with he | ⟨_, ⟨⟩, he⟩
  · cases he
  rcases bind_eq_error.1 he with he | ⟨_, -, he⟩
  · exact .inr ⟨slots, hslots, he⟩
  · cases he

/-- Nothing but long integers keeps plain values from having a digest. -/
theorem digestOf_refused {es : List (Value × Value)} (h : (Value.dict es).Plain)
    (he : digestOf es = .error e) : e = .integerTooLong := by
  obtain ⟨hnamed, hvalues⟩ := h.of_dict
  rw [digestOf_eq, map_eq_error] at he
  have hbody : (Value.dict (es.filter fun e => !Value.agree e.1 digestName)).Plain :=
    .dict (hnamed.filter _) fun e he => hvalues e (List.mem_of_mem_filter he)
  exact hbody.written_refused he

/-- A document that describes an encodable multimap is plain. -/
theorem Encodable.document_plain (h : Encodable keys values K V m) {d : Document}
    (hslots : d.slots = m.records) : d.toValue.Plain := by
  rw [d.plain_toValue, hslots]
  refine List.forall_mem_map.2 fun t ht => ?_
  rw [SlotRecord.plain_toValue]
  exact h.plain t ht

/-- The keys and values of a legible document are legible. -/
theorem legible_slots {d : Document} (h : Legible d.toValue) :
    ∀ s ∈ d.slots, Legible s.key ∧ ∀ v ∈ s.values, Legible v := by
  have hfields := h.of_dict.2
  simp only [Document.entries, List.forall_mem_cons] at hfields
  have hslots := List.forall_mem_map.1 hfields.2.2.2.2.1.of_list
  intro s hs
  have hrecord := (hslots s hs).of_dict.2
  simp only [SlotRecord.entries, List.forall_mem_cons] at hrecord
  exact ⟨hrecord.1, hrecord.2.2.1.of_list⟩

-- ============================================================= multimaps

private theorem mem_values_iff {v : Value} : v ∈ m.values ↔ ∃ t ∈ m.map.slots, v ∈ t.value.items :=
  List.mem_flatMap

section

variable (h : Ordered keys values K V m) (hk : keys.compare.ConsistentOn K) (hsifted : m.Sifted)
  (hsize : m.total < 10 ^ mostDigits) (hkeys : ∃ s, registry.nameOf keys = .ok (.text s))
  (hvalues : ∃ s, registry.nameOf values = .ok (.text s))

include h hk hsifted hsize hkeys hvalues

/-- An ordered multimap is encoded if and only if its keys and values have a
form in JSON, without long integers, and each key is equivalent to itself. -/
theorem Ordered.encode_iff : (∃ octets, (m.encode registry).result = .ok octets) ↔
    (∀ k ∈ m.keys, k.Plain ∧ k.isShowable = true ∧ keys.compare.Gives k k .eq)
      ∧ ∀ v ∈ m.values, v.Plain ∧ v.isShowable = true := by
  constructor
  · rintro ⟨octets, hencode⟩
    obtain ⟨d, text, hd, htext, -⟩ := encode_eq_ok.1 hencode
    obtain ⟨-, -, -, -, -, -, htaken, -⟩ := Document.ofMultimap_eq_ok.1 hd
    obtain ⟨hslots, hm⟩ := h.encodable htaken hk hsifted
    have hlegible := legible_slots (Json.legible_of_written (hm.document_plain hslots) htext)
    rw [hslots] at hlegible
    have hlegible := List.forall_mem_map.1 hlegible
    refine ⟨List.forall_mem_map.2 fun t ht => ?_, fun v hv => ?_⟩
    · exact ⟨(hm.plain t ht).1, hm.showable t ht, hm.itself t ht⟩
    · obtain ⟨t, ht, hv⟩ := mem_values_iff.1 hv
      exact ⟨(hm.plain t ht).2 v hv, ((hlegible t ht).2 v hv).isShowable⟩
  · rintro ⟨hall, hstored⟩
    have hall := List.forall_mem_map.1 hall
    have hplain : Within Value.Plain Value.Plain m := fun t ht =>
      ⟨(hall t ht).1, fun v hv => (hstored v (mem_values_iff.2 ⟨t, ht, hv⟩)).1⟩
    have hlegible : Within Legible Legible m := by
      refine fun t ht => ⟨(hall t ht).1.legible (hall t ht).2.1, fun v hv => ?_⟩
      obtain ⟨hv, hshown⟩ := hstored v (mem_values_iff.2 ⟨t, ht, hv⟩)
      exact hv.legible hshown
    have hm : Encodable keys values K V m :=
      ⟨h, fun t ht => (hall t ht).2.2, fun t ht => (hall t ht).2.1, hplain⟩
    exact hm.encodes hk hlegible hsize hkeys hvalues

/-- If all slots are taken down and the multimap is still not encoded, then
there is an integer somewhere that is too long. -/
theorem Ordered.too_long (hm : Encodable keys values K V m)
    (he : (m.encode registry).result = .error .integerTooLong) :
    ∃ v, (v ∈ m.keys ∨ v ∈ m.values) ∧ v.Refused .integerTooLong := by
  by_contra hnone
  have hshown : ∀ v, v ∈ m.keys ∨ v ∈ m.values → v.isShowable = true := by
    intro v hv
    by_contra hshown
    exact hnone ⟨v, hv, .tooLong (Bool.eq_false_iff.2 hshown)⟩
  obtain ⟨octets, hencode⟩ := (h.encode_iff hk hsifted hsize hkeys hvalues).2
    ⟨List.forall_mem_map.2 fun t ht =>
      ⟨(hm.plain t ht).1, hm.showable t ht, hm.itself t ht⟩, fun v hv => by
        obtain ⟨t, ht, hmem⟩ := mem_values_iff.1 hv
        exact ⟨(hm.plain t ht).2 v hmem, hshown v (.inr hv)⟩⟩
  rw [hencode] at he
  cases he

/-- What keeps an ordered multimap from being encoded: a key that cannot be
compared with itself, or a key or value that is refused. -/
theorem Ordered.encode_refused (he : (m.encode registry).result = .error e) :
    (∃ k ∈ m.keys, keys.compare k k = .error e)
      ∨ ∃ v, (v ∈ m.keys ∨ v ∈ m.values) ∧ v.Refused e := by
  obtain ⟨keyName, hkeyName⟩ := hkeys
  obtain ⟨valueName, hvalueName⟩ := hvalues
  rcases encode_eq_error.1 he with hdocument | ⟨d, hdocument, hwritten⟩
  · rcases ofMultimap_refused (h.keyComparator ▸ hkeyName) (h.valueComparator ▸ hvalueName)
      hdocument with htaken | ⟨slots, htaken, hdigest⟩
    · obtain ⟨k, hk', he⟩ := mapM_eq_error htaken
      obtain ⟨t, ht, rfl⟩ := List.mem_map.1 hk'
      rcases h.keysOrdered.ofKey_refused hk ht (h.counted_recordOf ht) he with
        he | he | ⟨v, hv, he⟩
      · exact .inl ⟨t.key, hk', he⟩
      · exact .inr ⟨t.key, .inl hk', he⟩
      · exact .inr ⟨v, .inr (mem_values_iff.2 ⟨t, ht, hv⟩), he⟩
    · obtain ⟨hslots, hm⟩ := h.encodable htaken hk hsifted
      obtain rfl :=
          digestOf_refused (hm.document_plain (d := ⟨_, _, _, _, slots, ""⟩) hslots) hdigest
      exact .inr (h.too_long hk hsifted hsize ⟨_, hkeyName⟩ ⟨_, hvalueName⟩ hm he)
  · obtain ⟨-, -, -, -, -, -, htaken, -⟩ := Document.ofMultimap_eq_ok.1 hdocument
    obtain ⟨hslots, hm⟩ := h.encodable htaken hk hsifted
    obtain rfl := (hm.document_plain hslots).written_refused hwritten
    exact .inr (h.too_long hk hsifted hsize ⟨_, hkeyName⟩ ⟨_, hvalueName⟩ hm he)

end

/-- Multimaps by ready-made comparators after any operations, failed ones
included, that put sound keys and values. Such a multimap is encoded if and
only if everything in it has a form in JSON, without integers of too many
digits, and each key is equivalent to itself. If it is not encoded, that is
for a misused argument, and something in it has no form in JSON; or for an
integer in it that is too long; or with the error of comparing a key with
itself, whatever that is. -/
theorem encoding_failures (hkeys : Registry.ReadyMade keys) (hvalues : Registry.ReadyMade values)
    {history : List Operation}
    (hputs : ∀ operation ∈ history, operation.Puts Value.Sound Value.Sound)
    (hsize : ((empty keys values).afterAll history).total < 10 ^ mostDigits) :
    let m := (empty keys values).afterAll history
    ((∃ octets, (m.encode .withBuiltins).result = .ok octets) ↔
        (∀ k ∈ m.keys, k.Plain ∧ k.isShowable = true ∧ keys.compare.Gives k k .eq)
          ∧ ∀ v ∈ m.values, v.Plain ∧ v.isShowable = true)
      ∧ ∀ e, (m.encode .withBuiltins).result = .error e →
        ((∃ cause, e = .misuse cause) ∧ ∃ v, (v ∈ m.keys ∨ v ∈ m.values) ∧ ¬v.Plain)
          ∨ (e = .integerTooLong ∧ ∃ v, (v ∈ m.keys ∨ v ∈ m.values) ∧ v.isShowable = false)
          ∨ ∃ k ∈ m.keys, keys.compare k k = .error e := by
  intro m
  have hk := hkeys.consistentOn_sound
  have hm : Ordered keys values Value.Sound Value.Sound m :=
    .afterAll hk hvalues.consistentOn_sound hputs
  -- sound values are plain if they can be encoded at all
  have hsifted : m.Sifted := fun t ht =>
    ⟨(hm.within t ht).1.plainIfEncodable, fun v hv => ((hm.within t ht).2 v hv).plainIfEncodable⟩
  have hkeyName := Registry.nameOf_readyMade hkeys
  have hvalueName := Registry.nameOf_readyMade hvalues
  refine ⟨hm.encode_iff hk hsifted hsize hkeyName hvalueName, fun e he => ?_⟩
  rcases hm.encode_refused hk hsifted hsize hkeyName hvalueName he with hself | ⟨v, hv, hrefused⟩
  · exact .inr (.inr hself)
  · cases hrefused with
    | notPlain cause hplain => exact .inl ⟨⟨cause, rfl⟩, v, hv, hplain⟩
    | tooLong hshown => exact .inr (.inl ⟨rfl, v, hv, hshown⟩)

/-- A tuple among the values, and an operation that failed. -/
theorem encoding_failures_tuple :
    let history : List Operation := [.put (.text "a") (.tuple [.int 1]), .removeAll (.dict [])]
    let m := (empty .natural .natural).afterAll history
    Registry.ReadyMade .natural ∧ (∀ o ∈ history, o.Puts Value.Sound Value.Sound)
      ∧ m.total < 10 ^ mostDigits ∧ m.keys = [.text "a"] ∧ m.values = [.tuple [.int 1]]
      ∧ ∃ cause, (m.encode .withBuiltins).result = .error (.misuse cause) := by
  intro history m
  have hready : Registry.ReadyMade .natural :=
    ⟨("natural", .natural), by simp [Comparator.builtins], rfl⟩
  have hputs : ∀ o ∈ history, o.Puts Value.Sound Value.Sound := by
    simp only [history, List.forall_mem_cons, Operation.Puts, true_and]
    refine ⟨⟨.atom rfl, .tuple ?_⟩, fun _ h => absurd h List.not_mem_nil⟩
    exact List.forall_mem_singleton.2 (.atom rfl)
  have hsize : m.total < 10 ^ mostDigits := by
    rw [show m.total = 1 from rfl]
    exact Nat.lt_of_lt_of_le (by decide : 1 < 10) (Nat.le_self_pow (by decide) 10)
  have hkeys : m.keys = [.text "a"] := rfl
  have hvalues : m.values = [.tuple [.int 1]] := rfl
  have hstored : ∀ v, v ∈ m.keys ∨ v ∈ m.values → v.isShowable = true := by
    rw [hkeys, hvalues]
    rintro v (hv | hv)
    · rw [List.mem_singleton.1 hv]
      rfl
    · rw [List.mem_singleton.1 hv]
      decide
  have hself : ∀ k ∈ m.keys, Comparator.natural.compare k k = .ok (.int 0) := by
    rw [hkeys]
    exact List.forall_mem_singleton.2 rfl
  obtain ⟨hiff, hfailed⟩ := encoding_failures hready hready hputs hsize
  refine ⟨hready, hputs, hsize, hkeys, hvalues, ?_⟩
  cases hencode : (m.encode .withBuiltins).result with
  | ok octets =>
    have hmem : Value.tuple [.int 1] ∈ m.values := by
      rw [hvalues]
      exact List.mem_cons_self
    have hplain := ((hiff.1 ⟨octets, hencode⟩).2 _ hmem).1
    cases hplain
  | error e =>
    rcases hfailed e hencode with ⟨⟨cause, rfl⟩, -⟩ | ⟨-, v, hv, hlong⟩ | ⟨k, hk, he⟩
    · exact ⟨cause, rfl⟩
    · rw [hstored v hv] at hlong
      cases hlong
    · rw [hself k hk] at he
      cases he

/-- The empty dictionary as the only key, in natural order: it has a form in
JSON, and encoding fails as two dictionaries cannot be compared. -/
theorem unordered_key_not_encoded :
    let m := (empty .natural .natural).afterAll [.put (.dict []) (.int 1)]
    m.keys = [.dict []] ∧ m.values = [.int 1] ∧ (∀ k ∈ m.keys, k.Plain) ∧ (∀ v ∈ m.values, v.Plain)
      ∧ (m.encode .withBuiltins).result = .error (.incomparable "<" "dict" "dict")
      ∧ (Fault.incomparable "<" "dict" "dict").kind = "TypeError" := by
  intro m
  have hkeys : m.keys = [.dict []] := rfl
  have hvalues : m.values = [.int 1] := rfl
  have hplain : (Value.dict []).Plain :=
    .dict ⟨fun _ h => absurd h List.not_mem_nil, List.nodup_nil⟩
      fun _ h => absurd h List.not_mem_nil
  refine ⟨hkeys, hvalues, ?_, ?_, rfl, rfl⟩
  · rw [hkeys]
    exact List.forall_mem_singleton.2 hplain
  · rw [hvalues]
    exact List.forall_mem_singleton.2 (.int 1)

end Multimap

end Collation
