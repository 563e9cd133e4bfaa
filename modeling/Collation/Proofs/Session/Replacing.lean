/-
Replacing the values under a key, as a call in a session. The new values are
collected first, and a failure there changes nothing. Then the former values
are taken out and the new ones are put one by one. Only the removal and all
puts together are what was asked for: if one of the new values cannot be
put, the former ones are gone, and what stands under the key is the new
values before that one (`Multimap.ReplacedInTurn`).
-/
import Collation.Proofs.Multimap.Replacement
import Collation.Proofs.Session.Bulk

namespace Collation

open Collation.Action
open Multimap (Replacing ReplacedInTurn)

namespace Session

variable {s : Session} {r : Ref} {m : Multimap} {keys values : Comparator}

/-- The call, step by step: the key, the values, the replacement. -/
private theorem runOn_replace_values (hm : s.Holds r m) (key source : Ref) :
    (callOn r "replace_values" ⟨[key, source], []⟩).runOn s
      = (do
          let k ← value key
          let vs ← valuesFor k source
          changeMultimap r (·.replaceValues k vs) >>= fun former =>
            add (.orderedSet former)).runOn s := by
  unfold callOn
  rw [runOn_bind_ok (runOn_thing_of hm)]
  rfl

/-- What replacing the values under a key of a multimap comes to, from any
source, if the multimap has the given history. -/
structure Replacement (keys values : Comparator) (history : List Operation) (s : Session) (r : Ref)
    (m : Multimap) (k : Value) (key source : Ref) : Prop where
  asked : (value key).runOn s = (.ok k, s)
  call : AfterCollecting s r .orderedSet (fun _ => Replacing m k) ((valuesFor k source).runOn s)
    ((callOn r "replace_values" ⟨[key, source], []⟩).runOn s)
  /-- Where keys and values have an order, all that was put is of them, and
  so is what is to be put. -/
  effect : ∀ K V, keys.compare.CongruentOn K → values.compare.ConsistentOn V →
    (∀ operation ∈ history, operation.Puts K V) → K k → ∀ vs m' result, (∀ v ∈ vs, V v) →
    Replacing m k vs m' result → ReplacedInTurn values k vs m m' result

/-- Under any two comparators and after any operations: a call that fails has
changed nothing, or has taken the former values out and put the new ones
before one that cannot be put. Where keys and values have an order, one that
succeeds answers with the former values, in order, and leaves the new ones
in their place, gathered in order, and all other slots; and after a failure
halfway the same is true of the new values that were put. -/
theorem replacement {history : List Operation}
    (hm : s.Holds r ((Multimap.empty keys values).afterAll history)) (key source : Ref) :
    ∃ k, Replacement keys values history s r ((Multimap.empty keys values).afterAll history) k
      key source := by
  obtain ⟨k, hk⟩ := value_peeks key s
  refine ⟨k, hk, ?_, fun K V hkeys hvalues hputs hK vs m' result hvs hreplacing => ?_⟩
  · rw [runOn_replace_values hm, runOn_bind_ok hk]
    exact afterCollecting_change hm (valuesFor_reads k source) .orderedSet _
      (Multimap.replaceValues_replacing _ k)
  · have h := Multimap.Ordered.afterAll hkeys.toConsistentOn hvalues hputs
    exact h.replacing hkeys hvalues hK hvs hreplacing

/-- By case folds all keys and values have an order, so `effect` holds of
whatever is put. Here the second of three new values cannot be put. -/
theorem replacement_caseFold :
    let history : List Operation :=
      [.put (.text "pear") (.text "b"), .put (.text "PEAR") (.text "A"),
        .put (.text "fig") (.text "x")]
    let m := (Multimap.empty .caseFold .caseFold).afterAll history
    let s : Session :=
      { things := #[.multimap m, .plain (.text "Pear"),
          .plain (.list [.text "d", .int 5, .text "C"])]
        names := []
        settings := {} }
    s.Holds 0 m ∧ ∃ k, Replacement .caseFold .caseFold history s 0 m k 1 2
      ∧ ∀ vs m' result, Replacing m k vs m' result →
        ReplacedInTurn .caseFold k vs m m' result := by
  intro history m s
  have hm : s.Holds 0 m := rfl
  obtain ⟨k, h⟩ := replacement hm 1 2
  refine ⟨hm, k, h, fun vs m' result hreplacing => ?_⟩
  exact h.effect (fun _ => True) (fun _ => True) Comparator.caseFold_congruentOn
    Comparator.caseFold_consistent (fun operation _ => operation.puts_any) trivial vs m' result
    (fun _ _ => trivial) hreplacing

/-- Null is no value in the natural order, but that shows only when the
former values are gone. -/
theorem former_values_lost :
    let m := (Multimap.empty .natural .natural).afterAll
      [.put (.int 3) (.text "a"), .put (.int 3) (.text "b")]
    let s : Session :=
      { things := #[.multimap m, .plain (.int 3), .plain (.list [.null])]
        names := []
        settings := {} }
    m.total = 2 ∧ ∃ e t m', (callOn 0 "replace_values" ⟨[1, 2], []⟩).runOn s = (.error e, t)
      ∧ e.kind = "NullRejectedError" ∧ t.Holds 0 m' ∧ m'.total = 0 := by
  intro m s
  have hsize : m.total = 2 := by decide +kernel
  have hkind : ((m.replaceValues (.int 3) [.null]).result.map fun _ => ()).mapError Fault.kind
      = .error "NullRejectedError" := by
    decide +kernel
  have hgone : (m.replaceValues (.int 3) [.null]).state.total = 0 := by decide +kernel
  have hm : s.Holds 0 m := rfl
  have hk : (value 1).runOn s = (.ok (.int 3), s) := rfl
  have hvs : (valuesFor (.int 3) 2).runOn s = (.ok [.null], s) := rfl
  have hanswers := answers_change hm (·.replaceValues (.int 3) [.null]) .orderedSet
  have hcall := runOn_replace_values hm 1 2
  rw [runOn_bind_ok hk, runOn_bind_ok hvs] at hcall
  rw [← hcall] at hanswers
  generalize (callOn 0 "replace_values" ⟨[1, 2], []⟩).runOn s = out at hanswers ⊢
  obtain ⟨answer, t⟩ := out
  cases hresult : (m.replaceValues (.int 3) [.null]).result with
  | ok former =>
    rw [hresult] at hkind
    cases hkind
  | error e =>
    rw [hresult] at hkind hanswers
    obtain rfl : answer = .error e := hanswers.fails e rfl
    refine ⟨hsize, e, t, _, rfl, ?_, hanswers.holds, hgone⟩
    injection hkind

end Session

end Collation
