/-
Comparators by their names, across an encoding. What is written names the
comparators of the multimap, and with the same registry the names lead
back (`names_lead_back`), whatever was registered before. They lead to
comparators that are equal to those of the multimap. If no other one in use
is equal they are the multimap's own, but a registry that was asked for the
name of a comparator answers with the name of any equal one, though it was
never given the comparator itself (`name_of_another`). The names that lead
back are those that are read as they were written: octets are written as
the text they spell, and the halves of a surrogate pair are read as one
character.

The other way round there is a gap. A multimap that was decoded has
comparators that some name led to, but the registry need not have a name
for them: exactly those lack one that lost a name to a comparator which is
not equal, and were not registered since (`names_unless_bereft`), and a
multimap by such a comparator can be decoded and not encoded.
-/
import Collation.Proofs.Registry.Histories
import Collation.Proofs.Wire.Tampering

namespace Collation

open Wire Registry

variable {C : Comparator → Prop} {start registry : Registry} {m : Multimap} {d d' : Document}
  {verify : Bool} {data name : Value} {octets : List UInt8} {c : Comparator} {t : List Char}

namespace Registry

/-- A comparator that the name of another may lead to: one of the kind that
is equal to it, and none but itself if no other one is. -/
structure Counterpart (C : Comparator → Prop) (c d : Comparator) : Prop where
  ofKind : C d
  likeness : d.likeness = c.likeness
  itself : Unmatched C c → d = c

/-- The name of a comparator leads to a counterpart of it. -/
theorem Coherent.exists_counterpart (h : Coherent C registry) (hname : registry.nameOf c = .ok name)
    (hitself : name.agree name = true) :
    ∃ d, registry.resolve name = .ok d ∧ Counterpart C c d := by
  obtain ⟨d, hd, hresolve, hlikeness⟩ := h.resolve_nameOf hname hitself
  exact ⟨d, hresolve, hd, hlikeness, fun hc => hc d hd hlikeness⟩

end Registry

namespace Wire

/-- A document is replayed by the comparators that it names. -/
theorem Document.comparators_of_toMultimap (h : (d.toMultimap registry).result = .ok m) :
    d.comparators registry = .ok (m.keyComparator, m.valueComparator) := by
  obtain ⟨keys, values, hcomparators, -, rfl⟩ := toMultimap_eq_ok.1 h
  have hreplay : Multimap.Intact keys values (replay (.empty keys values) d.slots).state :=
    replay_kept (fun s _ v _ _ hm => hm.put s.key v) (.empty keys values)
  rw [hreplay.keyComparator, hreplay.valueComparator]
  exact hcomparators

/-- The comparators are those that the two names lead to. -/
private theorem Document.resolve_of_comparators {keys values : Comparator}
    (h : d.comparators registry = .ok (keys, values)) :
    registry.resolve (.text d.keyComparator) = .ok keys
      ∧ registry.resolve (.text d.valueComparator) = .ok values := by
  obtain ⟨keys', hkeys, h⟩ := bind_eq_ok.1 h
  obtain ⟨values', hvalues, h⟩ := bind_eq_ok.1 h
  cases h
  exact ⟨hkeys, hvalues⟩

end Wire

namespace Multimap

/-- A multimap that was decoded has comparators that names lead to. -/
theorem resolve_of_decode (h : (decode registry verify data).result = .ok m) :
    (∃ s, registry.resolve (.text s) = .ok m.keyComparator)
      ∧ ∃ s, registry.resolve (.text s) = .ok m.valueComparator := by
  obtain ⟨d, -, hd⟩ := decode_eq_ok.1 h
  obtain ⟨hkeys, hvalues⟩ :=
    Document.resolve_of_comparators (Document.comparators_of_toMultimap hd)
  exact ⟨⟨_, hkeys⟩, ⟨_, hvalues⟩⟩

/-- What has no name for a comparator is not written. -/
theorem encode_of_nameless {c : Comparator} {e : Fault} (hc : c = m.keyComparator ∨
      c = m.valueComparator ∧ ∃ name, registry.nameOf m.keyComparator = .ok name)
    (h : registry.nameOf c = .error e) : (m.encode registry).result = .error e := by
  have hdocument : Document.ofMultimap registry m = .error e := by
    unfold Document.ofMultimap
    rcases hc with rfl | ⟨rfl, name, hname⟩
    · rw [h]
      rfl
    · rw [hname, h]
      rfl
  rw [encode, hdocument]
  rfl

/-- A name for every comparator, but for those that lost one. After any calls
that register comparators which can be look-up keys, every name that is
listed leads to a comparator. The registry has a name for it, which leads
back to a counterpart, unless a name of it or of an equal one was given to a
comparator that is not equal, and none of the equal ones was registered
since: then it has no name at all, whatever others it was registered under.
A multimap that was decoded is written by the names of its comparators if
neither is bereft so, and not at all if one is. -/
theorem names_unless_bereft (hhashable : ∀ c, C c → c.unhashableAs = none)
    (hstart : Started C start) (history : List Registration) (hhistory : Confined C history) :
    let r := start.afterAll history
    ((∀ g ∈ history, ∃ s, g.name = .text s) →
        ∃ ns, r.names = .ok ns ∧ ∀ n ∈ ns, ∃ c, r.resolve n = .ok c)
      ∧ (∀ n c, r.resolve n = .ok c →
        (¬Bereft start c history → ∃ name, r.nameOf c = .ok name
            ∧ (name.agree name = true → ∃ d, r.resolve name = .ok d ∧ Counterpart C c d))
          ∧ (Bereft start c history → r.nameOf c = .error (.misuse (.unregistered c.display))))
      ∧ ∀ verify data m, (decode r verify data).result = .ok m →
        (¬Bereft start m.keyComparator history → ¬Bereft start m.valueComparator history →
            ∃ keyName valueName, r.nameOf m.keyComparator = .ok keyName
              ∧ r.nameOf m.valueComparator = .ok valueName)
          ∧ (Bereft start m.keyComparator history ∨ Bereft start m.valueComparator history →
            ∃ shown, (m.encode r).result = .error (.misuse (.unregistered shown))) := by
  intro r
  have h : Coherent C r := hstart.coherent_afterAll hhistory
  have hnamed : ∀ n c, r.resolve n = .ok c → ¬Bereft start c history →
      ∃ name, r.nameOf c = .ok name
        ∧ (name.agree name = true → ∃ d, r.resolve name = .ok d ∧ Counterpart C c d) := by
    intro n c hresolve hkept
    obtain ⟨e, he, rfl⟩ := mem_of_resolve hresolve
    obtain ⟨name, hlookup⟩ := named_unless_bereft hstart hhistory hhashable he hkept
    have hname := nameOf_of_lookup (hhashable e.2 (h.registered e he)) hlookup
    exact ⟨name, hname, h.exists_counterpart hname⟩
  have hnameless : ∀ c, Bereft start c history →
      r.nameOf c = .error (.misuse (.unregistered c.display)) :=
    fun c hbereft => nameOf_of_lookup_none hbereft.nameless
  refine ⟨fun htexts => (hstart.textual.afterAll htexts).names,
    fun n c hresolve => ⟨hnamed n c hresolve, hnameless c⟩, ?_⟩
  intro verify data m hm
  obtain ⟨⟨s, hkeys⟩, t, hvalues⟩ := resolve_of_decode hm
  constructor
  · intro hkeptKeys hkeptValues
    obtain ⟨keyName, hkeyName, -⟩ := hnamed _ _ hkeys hkeptKeys
    obtain ⟨valueName, hvalueName, -⟩ := hnamed _ _ hvalues hkeptValues
    exact ⟨keyName, valueName, hkeyName, hvalueName⟩
  · intro hbereft
    -- the name of the keys' comparator is asked for first
    by_cases hkeysBereft : Bereft start m.keyComparator history
    · exact ⟨_, encode_of_nameless (.inl rfl) (hnameless _ hkeysBereft)⟩
    · obtain ⟨keyName, hkeyName, -⟩ := hnamed _ _ hkeys hkeysBereft
      have hvaluesBereft := hbereft.resolve_left hkeysBereft
      exact ⟨_, encode_of_nameless (.inr ⟨rfl, keyName, hkeyName⟩) (hnameless _ hvaluesBereft)⟩

/-- A second name for the natural order, given to another comparator. -/
theorem names_unless_bereft_alias :
    let history : List Registration :=
      [⟨.text "alias", some .natural, false⟩, ⟨.text "alias", some .caseFold, true⟩]
    let r := Registry.withBuiltins.afterAll history
    (∃ ns, r.names = .ok ns ∧ ∀ n ∈ ns, ∃ c, r.resolve n = .ok c)
      ∧ Bereft .withBuiltins .natural history
      ∧ r.nameOf .natural = .error (.misuse (.unregistered "<comparator>"))
      ∧ ¬Bereft .withBuiltins .caseFold history
      ∧ ∃ name, r.nameOf .caseFold = .ok name := by
  intro history r
  have hhistory : Confined ReadyMade history := by
    intro g hg c hc
    simp only [history, List.mem_cons, List.not_mem_nil, or_false] at hg
    rcases hg with rfl | rfl <;> cases hc
    · exact ⟨("natural", .natural), by simp [Comparator.builtins], rfl⟩
    · exact ⟨("casefold", .caseFold), by simp [Comparator.builtins], rfl⟩
  have hhashable : ∀ c, ReadyMade c → c.unhashableAs = none := by
    rintro c ⟨b, hb, rfl⟩
    revert b
    decide
  have htexts : ∀ g ∈ history, ∃ s, g.name = .text s := by
    intro g hg
    simp only [history, List.mem_cons, List.not_mem_nil, or_false] at hg
    rcases hg with rfl | rfl <;> exact ⟨_, rfl⟩
  obtain ⟨hnames, hnamed, -⟩ := names_unless_bereft hhashable
    (.withBuiltins fun _ h => h) history hhistory
  have hbereft : Bereft .withBuiltins .natural history :=
    @Bereft.taken _ _ [_] ⟨.text "alias", some .caseFold, true⟩ .natural .caseFold rfl rfl rfl
      (by decide) rfl
  have hcaseFold := hnamed (.text "casefold") .caseFold rfl
  have hkept : ¬Bereft .withBuiltins .caseFold history := fun h => by cases hcaseFold.2 h
  obtain ⟨name, hname, -⟩ := hcaseFold.1 hkept
  exact ⟨hnames htexts, hbereft, (hnamed (.text "natural") .natural rfl).2 hbereft, hkept, name,
    hname⟩

/-- The natural order is still found under its name, but has none itself, and
what was decoded by it is not encoded. -/
theorem alias_taken :
    let r := Registry.withBuiltins.afterAll
      [⟨.text "alias", some .natural, false⟩, ⟨.text "alias", some .caseFold, true⟩]
    let data := Value.text <| String.join
      ["\x7b\"key_comparator\":\"natural\",", "\"value_comparator\":\"natural\",",
        "\"key_count\":0,\"slots\":[]\x7d"]
    (∃ ns, r.names = .ok ns ∧ .text "natural" ∈ ns)
      ∧ r.resolve (.text "natural") = .ok .natural
      ∧ r.nameOf .natural = .error (.misuse (.unregistered "<comparator>"))
      ∧ ∃ m, (decode r false data).result = .ok m ∧ ∀ octets, (m.encode r).result ≠ .ok octets := by
  intro r data
  have hnames : r.byName.map Prod.fst = ["natural", "reverse", "natural_nulls_first",
      "natural_nulls_last", "casefold", "alias"].map fun s : String => .text s := rfl
  obtain ⟨ns, hns, hperm⟩ := Value.sort_texts (r.byName.map Prod.fst) <| by
    rw [hnames]
    exact List.forall_mem_map.2 fun s _ => ⟨_, rfl⟩
  have hmem : .text "natural" ∈ ns := by
    rw [hperm.mem_iff, hnames]
    exact List.mem_cons_self
  refine ⟨⟨ns, hns, hmem⟩, rfl, rfl, ?_⟩
  have hrun : (decode r false data).result.toOption.map
      (fun m => (m.encode r).result.isOk) = some false := by decide +kernel
  clear_value data
  cases hdecode : (decode r false data).result with
  | error e =>
    rw [hdecode] at hrun
    cases hrun
  | ok m =>
    rw [hdecode] at hrun
    refine ⟨m, rfl, fun octets hencode => ?_⟩
    rw [Except.toOption, Option.map_some, hencode] at hrun
    cases hrun

end Multimap

end Collation
