import Mathlib.Logic.Function.Iterate
import QualityScale.Checker

/-!
# Repeated runs

A registry may be checked again and again.  Each run adds to every entry what is found about its
integration, and nothing else happens: `checkAll_iterate_entries` says what a registry looks like
after any number of runs.

What a run adds to an entry is a function of the integration.  It takes no notice of what was
reported before, so all runs add the same, and none of the other entries, so an integration fares
in a registry as it does alone.
-/

namespace QualityScale

variable {c : Checker} {config : Config} {files : FileTree}

/-! ### One entry -/

theorem Checker.category_of_mem_findings {i : Integration} {f : Finding}
    (h : f ∈ c.findings config files i) : f.category = checkerCategory := by
  obtain ⟨message, -, rfl⟩ := List.mem_map.mp h
  rfl

theorem Checker.check_report (e : Entry) (fs : List Finding) :
    c.check config files (e.report fs) = e.report (fs ++ c.findings config files e.integration) :=
  Entry.report_report e fs _

theorem Checker.check_iterate (e : Entry) (k : Nat) :
    (c.check config files)^[k] e =
      e.report (List.replicate k (c.findings config files e.integration)).flatten := by
  induction k with
  | zero => exact (Entry.report_nil e).symm
  | succ k ih =>
    -- What the last check adds does not depend on the findings of those before it.
    rw [Function.iterate_succ_apply', ih, Checker.check_report, List.replicate_succ',
      List.flatten_append, List.flatten_singleton]

/-! ### A registry -/

/-- A run on a registry is a check of each entry by itself, and so are `k` of them. -/
theorem Checker.checkAll_iterate (r : Registry) (k : Nat) :
    (c.checkAll config files)^[k] r = r.map (c.check config files)^[k] := by
  induction k with
  | zero => exact (NameMap.map_id r).symm
  | succ k ih =>
    rw [Function.iterate_succ_apply', ih, Checker.checkAll, NameMap.map_map,
      Function.iterate_succ']

/-- **Runs only add findings, and to each integration the ones that it gets alone.**  There is one
list of findings for every integration, that of a check with nothing reported before, and all of
them have the checker's category.  After `k` runs a registry has the same keys with the same
integrations, and each entry has its findings and after them `k` times the list. -/
theorem checkAll_iterate_entries (c : Checker) (config : Config) (files : FileTree) :
    ∃ found : Integration → List Finding,
      (∀ i, c.check config files ⟨i, []⟩ = ⟨i, found i⟩ ∧
        ∀ f ∈ found i, f.category = checkerCategory) ∧
      ∀ (r : Registry) (k : Nat),
        ((c.checkAll config files)^[k] r).entries = r.entries.map fun e =>
          (e.1, ⟨e.2.integration,
            e.2.findings ++ (List.replicate k (found e.2.integration)).flatten⟩) := by
  refine ⟨c.findings config files, fun i => ⟨rfl, fun f => c.category_of_mem_findings⟩, ?_⟩
  intro r k
  rw [Checker.checkAll_iterate, NameMap.entries_map]
  refine List.map_congr_left fun e _ => ?_
  rw [Checker.check_iterate]
  rfl

end QualityScale
