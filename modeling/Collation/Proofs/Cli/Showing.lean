/-
What showing a multimap tells of its keys. The rows are made key by key:
each key is looked up anew, and the loop stops at the first one whose
index has come to the limit, so the rows are those of as many slots as the
limit allows (`rowsOf_eq`). The line about the other keys does not ask
what the loop did; it takes the limit from the number of keys. From zero
on the two agree, and the rows and the keys that are announced are all the
keys. Below zero they do not: there is no row, and the line adds to the
number of keys what the limit lacks to zero.
-/
import Collation.Cli.Commands
import Collation.Proofs.Files
import Collation.Proofs.Views.Reading
import Collation.Proofs.Wire.Reencoding

namespace Collation

open Bisect (Ascends)

namespace Multimap

variable {registry : Registry} {verify : Bool} {path : Path} {folder : Folder} {data : Value}
  {m : Multimap} {K V : Value → Prop}

/-- Loading is reading and decoding. -/
private theorem load_eq_ok :
    (load registry verify path folder).result = .ok m ↔
      ∃ octets, folder.read path = .ok octets
        ∧ (decode registry verify (.bytes octets)).result = .ok m := by
  unfold load
  cases folder.read path with
  | error e => exact iff_of_false (fun h => nomatch h) fun ⟨_, h, _⟩ => nomatch h
  | ok octets =>
    constructor
    · exact fun h => ⟨octets, rfl, h⟩
    · rintro ⟨_, ⟨⟩, h⟩
      exact h

/-- A multimap that was decoded is in order, if the comparators are total
preorders on what it holds. What collapsed on the way need not be of their
domains. -/
theorem ordered_of_decode (h : (decode registry verify data).result = .ok m)
    (hw : Within K V m) (hk : m.keyComparator.compare.TotalOn K)
    (hv : m.valueComparator.compare.TotalOn V) :
    Ordered m.keyComparator m.valueComparator K V m := by
  obtain ⟨d, -, hd⟩ := decode_eq_ok.1 h
  obtain ⟨keys, values, -, -, rfl⟩ := Wire.Document.toMultimap_eq_ok.1 hd
  have hintact : Intact keys values (Wire.replay (.empty keys values) d.slots).state :=
    Wire.replay_kept (fun s _ v _ _ hm => hm.put s.key v) (.empty keys values)
  rw [hintact.keyComparator] at hk ⊢
  rw [hintact.valueComparator] at hv ⊢
  have harranged : Arranged keys values K V (Wire.replay (.empty keys values) d.slots).state :=
    Wire.arranged_replay hk.consistentOn hv.consistentOn (.empty keys values K V)
  exact harranged.ordered hw

/-- What a multimap holds is within what it holds. -/
theorem within_itself (m : Multimap) : Within (· ∈ m.keys) (· ∈ m.values) m :=
  fun s hs => ⟨List.mem_map.2 ⟨s, hs, rfl⟩, fun _ hw => List.mem_flatMap.2 ⟨s, hs, hw⟩⟩

end Multimap

namespace Cli

variable {registry : Registry} {settings : Settings} {folder : Folder} {source : Path}
  {m : Multimap} {keys values : Comparator} {K V : Value → Prop}

-- ================================================================ rows

/-- The row of a slot: the key, how many values there are, and the values. -/
def rowOf (s : Slot OrderedSet) : List String :=
  [shown s.key.display, toString s.value.items.length,
    shown (Value.commaSeparated (s.value.items.map Value.display))]

/-- The rows from an index on are those of the slots before the limit. All
that it takes is that each key can be compared with itself. -/
theorem rowsOf_eq (h : Multimap.KeysOrdered keys K m) (hk : keys.compare.ConsistentOn K)
    (limit : Int) {slots : List (Slot OrderedSet)}
    (hslots : ∀ t ∈ slots, t ∈ m.map.slots ∧ keys.compare.Gives t.key t.key .eq) (index : Nat) :
    rowsOf m.asMap limit index (slots.map Slot.key)
      = .ok ((slots.take (limit - index).toNat).map rowOf) := by
  induction slots generalizing index with
  | nil => simp [rowsOf]
  | cons t slots ih =>
    obtain ⟨⟨ht, hself⟩, hrest⟩ := List.forall_mem_cons.1 hslots
    obtain ⟨hget, hitems⟩ := h.get_slot hk ht hself
    rw [List.map_cons, rowsOf, hget]
    dsimp only [bind, Except.bind]
    by_cases hend : limit ≤ index
    · have hnone : (limit - index).toNat = 0 := by omega
      rw [if_pos hend, hnone]
      rfl
    · have hmore : (limit - index).toNat = (limit - (index + 1 : Nat)).toNat + 1 := by omega
      rw [if_neg hend, hitems, ih hrest (index + 1), hmore, List.take_succ_cons, List.map_cons]
      rfl

-- =========================================================== the others

/-- The number of keys that are announced as left out, if any are. -/
def announced? (limit : Int) (size : Nat) : Option Int :=
  if limit < size then some (size - limit) else none

/-- What is announced makes up for the rows that are not there, unless the
limit is below zero. -/
theorem rows_and_announced (limit : Int) (size : Nat) :
    (min limit.toNat size : Nat) + (announced? limit size).getD 0 = size + (-limit).toNat := by
  unfold announced?
  split
  · rw [Option.getD_some]
    omega
  · rw [Option.getD_none]
    omega

/-- The line that announces keys. -/
def moreKeys (n : Int) : Printed := .line ("... and " ++ toString n ++ " more keys")

/-- What is printed of a multimap that holds something. -/
theorem runShow_eq (h : Multimap.KeysOrdered keys K m) (hk : keys.compare.ConsistentOn K)
    (hself : ∀ t ∈ m.map.slots, keys.compare.Gives t.key t.key .eq)
    (hload : (Multimap.load registry settings.verifyPayloadHash source folder).result = .ok m)
    (hfilled : m.isEmpty = false) (limit : Int) :
    runShow registry settings folder source limit
      = .finished folder (.table (shown source.name) ["Key", "Count", "Values"]
          ((m.map.slots.take limit.toNat).map rowOf)
        :: (announced? limit m.map.size).toList.map moreKeys) := by
  obtain ⟨octets, hread, -⟩ := Multimap.load_eq_ok.1 hload
  have hrows : rowsOf m.asMap limit 0 m.keys = .ok ((m.map.slots.take limit.toNat).map rowOf) := by
    have hall := rowsOf_eq h hk limit (fun t ht => ⟨ht, hself t ht⟩) 0
    rwa [Int.ofNat_zero, Int.sub_zero] at hall
  unfold runShow withSource announced?
  rw [Folder.holds_of_read hread, hload]
  dsimp only
  rw [hfilled, if_neg Bool.false_ne_true, hrows]
  dsimp only
  split <;> rfl

-- ============================================================== showing

/-- Every key is accounted for, up to any limit that is not below zero. A
multimap that was loaded, holds something and has comparators that are
total preorders on it is shown, by a row for each slot before the limit:
keys ascend from row to row, and values in a row. The rows and the keys
that are announced are as many as there are keys. Below zero there is no
row, and more keys are announced than there are. -/
theorem showing_accounted
    (hload : (Multimap.load registry settings.verifyPayloadHash source folder).result = .ok m)
    (hfilled : m.isEmpty = false) (hk : m.keyComparator.compare.TotalOn (· ∈ m.keys))
    (hv : m.valueComparator.compare.TotalOn (· ∈ m.values)) (limit : Int) :
    let rows := (m.map.slots.take limit.toNat).map rowOf
    let more := announced? limit m.keys.length
    (Command.inspect source limit).run registry settings folder
        = .finished folder (.table (shown source.name) ["Key", "Count", "Values"] rows
          :: more.toList.map moreKeys)
      ∧ Ascends m.keyComparator.compare Slot.key m.map.slots
      ∧ (∀ s ∈ m.map.slots, Ascends m.valueComparator.compare id s.value.items)
      ∧ (0 ≤ limit → rows.length + more.getD 0 = m.keys.length)
      ∧ (limit < 0 → rows = [] ∧ more = some (m.keys.length - limit)) := by
  intro rows more
  obtain ⟨octets, -, hdecode⟩ := Multimap.load_eq_ok.1 hload
  have hordered := Multimap.ordered_of_decode hdecode m.within_itself hk hv
  have hsize : m.keys.length = m.map.size := List.length_map _
  have hlength : rows.length = min limit.toNat m.keys.length := by
    rw [List.length_map, List.length_take, hsize]
    rfl
  refine ⟨?_, hordered.ascends, fun s hs => (hordered.ordered s hs).ascends, fun hlimit => ?_,
    fun hlimit => ⟨?_, ?_⟩⟩
  · have hrun := runShow_eq hordered.keysOrdered hk.consistentOn
      (fun t ht => hk.refl (hordered.key_mem t ht)) hload hfilled limit
    rwa [← hsize] at hrun
  · rw [hlength, rows_and_announced]
    omega
  · exact List.eq_nil_of_length_eq_zero (by omega)
  · exact if_pos (by omega)

/-- Two keys that are not in order, one of them with values that are not. -/
def twoKeys : List UInt8 :=
  Wire.asciiOctets <| [
    "\x7b\"key_comparator\":\"casefold\",\"value_comparator\":\"casefold\",\"key_count\":2,",
    "\"slots\":[\x7b\"key\":\"b\",\"value_count\":2,\"values\":[\"y\",\"x\"]\x7d,",
    "\x7b\"key\":\"A\",\"value_count\":1,\"values\":[\"z\"]\x7d],\"payload_hash\":",
    "\"e5df106561e9a7fdea8f9d03e7b06340e8431edddf902468c412eb8ad4a0f780\"\x7d"].flatMap String.toList

private theorem twoKeys_loaded :
    let source : Path := ⟨["m.json"]⟩
    ∃ m, (Multimap.load .withBuiltins true source (.holding source twoKeys)).result = .ok m
      ∧ m.isEmpty = false ∧ m.keys.length = 2
      ∧ m.keyComparator.compare.TotalOn (· ∈ m.keys)
      ∧ m.valueComparator.compare.TotalOn (· ∈ m.values) := by
  intro source
  have hrun :
      (Multimap.load .withBuiltins true source (.holding source twoKeys)).result.toOption.map
      (fun m => (m.isEmpty, m.keys.length, m.keys.all (·.text?.isSome),
        m.values.all (·.text?.isSome), m.keyComparator.likeness, m.valueComparator.likeness))
      = some (false, 2, true, true, Comparator.caseFold.likeness,
          Comparator.caseFold.likeness) := by
    decide +kernel
  obtain ⟨m, hm, heq⟩ := Option.map_eq_some_iff.1 hrun
  have hload := eq_ok_of_toOption hm
  simp only [Prod.mk.injEq] at heq
  obtain ⟨hfilled, hlength, hkeyTexts, hvalueTexts, hkeys, hvalues⟩ := heq
  obtain ⟨octets, -, hdecode⟩ := Multimap.load_eq_ok.1 hload
  obtain ⟨keys, values, h⟩ := Multimap.exists_decoded hdecode
  have hcaseFold : Registry.ReadyMade .caseFold :=
    ⟨("casefold", .caseFold), by simp [Comparator.builtins], rfl⟩
  have htotal : ∀ {vs : List Value}, vs.all (·.text?.isSome) = true →
      Comparator.caseFold.compare.TotalOn (· ∈ vs) := fun hall =>
    Comparator.caseFold_totalOn.mono fun v hv =>
      Option.isSome_iff_exists.1 (List.all_eq_true.1 hall v hv)
  refine ⟨m, hload, hfilled, hlength, ?_, ?_⟩
  · rw [h.keyComparator] at hkeys ⊢
    rw [Registry.readyMade_identified _ hcaseFold _ h.readyKeys hkeys]
    exact htotal hkeyTexts
  · rw [h.valueComparator] at hvalues ⊢
    rw [Registry.readyMade_identified _ hcaseFold _ h.readyValues hvalues]
    exact htotal hvalueTexts

/-- One row, and one key announced. -/
theorem showing_accounted_one :
    let source : Path := ⟨["m.json"]⟩
    ∃ m, (Multimap.load .withBuiltins true source (.holding source twoKeys)).result = .ok m
      ∧ m.isEmpty = false ∧ m.keyComparator.compare.TotalOn (· ∈ m.keys)
      ∧ m.valueComparator.compare.TotalOn (· ∈ m.values)
      ∧ let rows := (m.map.slots.take 1).map rowOf
        (Command.inspect source 1).run .withBuiltins {} (.holding source twoKeys)
            = .finished (.holding source twoKeys)
              [.table (shown source.name) ["Key", "Count", "Values"] rows, moreKeys 1]
          ∧ rows.length + 1 = m.keys.length := by
  intro source
  obtain ⟨m, hload, hfilled, hlength, hk, hv⟩ := twoKeys_loaded
  obtain ⟨hrun, -, -, hall, -⟩ := @showing_accounted _ {} _ _ _ hload hfilled hk hv 1
  rw [hlength] at hrun hall
  refine ⟨m, hload, hfilled, hk, hv, hrun, ?_⟩
  rw [hlength]
  exact Int.ofNat.inj (hall (by decide))

/-- Of two keys none is shown and three are announced. -/
theorem keys_overannounced :
    let source : Path := ⟨["m.json"]⟩
    ∃ m, (Multimap.load .withBuiltins true source (.holding source twoKeys)).result = .ok m
      ∧ m.isEmpty = false ∧ m.keyComparator.compare.TotalOn (· ∈ m.keys)
      ∧ m.valueComparator.compare.TotalOn (· ∈ m.values) ∧ m.keys.length = 2
      ∧ (Command.inspect source (-1)).run .withBuiltins {} (.holding source twoKeys)
        = .finished (.holding source twoKeys)
          [.table (shown source.name) ["Key", "Count", "Values"] [], moreKeys 3] := by
  intro source
  obtain ⟨m, hload, hfilled, hlength, hk, hv⟩ := twoKeys_loaded
  obtain ⟨octets, -, hdecode⟩ := Multimap.load_eq_ok.1 hload
  have hordered := Multimap.ordered_of_decode hdecode m.within_itself hk hv
  have hrun := @runShow_eq .withBuiltins {} _ source _ _ _ hordered.keysOrdered hk.consistentOn
    (fun t ht => hk.refl (hordered.key_mem t ht)) hload hfilled (-1)
  have hsize : m.map.size = 2 := (List.length_map _).symm.trans hlength
  rw [hsize] at hrun
  exact ⟨m, hload, hfilled, hk, hv, hlength, hrun⟩

end Cli

end Collation
