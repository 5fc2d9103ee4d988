import QualityScale.Catalog

/-!
# Running validators

The validators of the rules declared done, in the order of the rules' names.  Every one of them
runs, whatever the others return.
-/

namespace QualityScale

/-- A rule whose validator ran, with the messages it returned. -/
structure RuleRun where
  rule : String
  messages : List String
  deriving DecidableEq, Repr

/-- Where the documentation of the rules is. -/
def rulesAddress : String :=
  "https://developers.home-assistant.io/docs/core/integration-quality-scale/rules"

/-- The line that refers to the documentation of a rule. -/
def documentationLine (rule : String) : String :=
  s!"Please check the documentation at {rulesAddress}/{rule}/"

namespace RuleRun

/-- Whether the validator found something. -/
def failed (r : RuleRun) : Bool :=
  !r.messages.isEmpty

/-- What is reported for a failed rule: each message under the rule's name, and where to read. -/
def report (r : RuleRun) : List String :=
  r.messages.map (fun message => s!"[{r.rule}] {message}") ++ [documentationLine r.rule]

end RuleRun

/-- The runs of the validators of all rules declared done. -/
def validatorRuns (c : Catalog) (config : Config) (files : FileTree) (i : Integration)
    (done : NameSet) : List RuleRun :=
  done.toList.filterMap fun rule =>
    (c.validator? rule).map fun validate => ⟨rule, validate config files i done⟩

/-- A run is that of the validator of a rule declared done. -/
theorem mem_validatorRuns_iff {c : Catalog} {config : Config} {files : FileTree}
    {i : Integration} {done : NameSet} {run : RuleRun} :
    run ∈ validatorRuns c config files i done ↔
      ∃ r ∈ c.rules, ∃ validate, r.validator = some validate ∧ r.name ∈ done ∧
        run = ⟨r.name, validate config files i done⟩ := by
  simp only [validatorRuns, List.mem_filterMap, Option.map_eq_some_iff,
    Catalog.validator?_eq_some_iff]
  constructor
  · rintro ⟨name, hdone, validate, ⟨r, hr, rfl, hv⟩, rfl⟩
    exact ⟨r, hr, validate, hv, hdone, rfl⟩
  · rintro ⟨r, hr, validate, hv, hdone, rfl⟩
    exact ⟨r.name, hdone, validate, ⟨r, hr, rfl, hv⟩, rfl⟩

/-- The rules declared done whose validators found something. -/
def failures (c : Catalog) (config : Config) (files : FileTree) (i : Integration)
    (done : NameSet) : List RuleRun :=
  (validatorRuns c config files i done).filter RuleRun.failed

end QualityScale
