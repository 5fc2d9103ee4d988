import Mathlib.Data.List.Basic
import Mathlib.Logic.ExistsUnique
import QualityScale.Checker.Watching
import QualityScale.Proofs.Checker.Messages

/-!
# The trace and the findings

While a registry is checked events are traced, and what is found is reported to the entries.  The
two tell the same story: whoever reads the trace knows what became of each integration, and how
many findings of the checker it has at the end.

* `Course`: the four ways in which the work on an entry can go.
* `Block c config files e course events new`: the events of one course, and beside them the findings
  `new` that the entry gets.  No events belong to two courses (`Block.course_unique`).
* `Blocks c config files es es' t`: one block for each entry, all of it in the span of the
  integration.
* `trace_tells_findings`: between the event that starts a run and the one that ends it there are
  such blocks and nothing else.

This holds as well of a checker for each entry, whose validators may look at what was reported about
the integration before.  The checker of all entries may be one and the same.
-/

namespace QualityScale

open Classification (ofDocument)

/-- A finding of the category `quality_scale`. -/
def Finding.OfChecker (f : Finding) : Prop :=
  f.category = "quality_scale"

instance : DecidablePred Finding.OfChecker := fun f =>
  inferInstanceAs (Decidable (f.category = "quality_scale"))

/-- The finding of the checker with this message. -/
def Finding.ofChecker (message : String) : Finding :=
  ⟨"quality_scale", message⟩

/-- The number of the checker's findings in a list. -/
def countOfChecker (findings : List Finding) : Nat :=
  findings.countP (·.OfChecker)

theorem countOfChecker_append (before new : List Finding) :
    countOfChecker (before ++ new) = countOfChecker before + countOfChecker new :=
  List.countP_append

theorem countOfChecker_map_ofChecker (messages : List String) :
    countOfChecker (messages.map .ofChecker) = messages.length := by
  rw [countOfChecker, List.countP_map]
  exact List.countP_eq_length.mpr fun message _ => rfl

theorem Entry.length_messagesIn (e : Entry) :
    (e.messagesIn checkerCategory).length = countOfChecker e.findings := by
  rw [Entry.messagesIn, List.length_map, ← List.countP_eq_length_filter]
  refine List.countP_congr fun f _ => ?_
  rw [beq_iff_eq, decide_eq_true_iff]
  rfl

/-! ### One entry -/

/-- How the work on an entry can go. -/
inductive Course where
  /-- There is nothing to check. -/
  | passedOver
  /-- A declaration is missing, or there is one that should not be. -/
  | inBreach
  /-- The declaration cannot be read. -/
  | unreadable
  /-- The declaration is read and checked. -/
  | checked

/-- **What is traced while an entry is checked, beside the findings that it gets.** -/
inductive Block (c : Checker) (config : Config) (files : FileTree) (e : Entry) :
    Course → List Event → List Finding → Prop
  | passedOver :
      Block c config files e .passedOver
        [.notChecked e.integration.domain
          (files.isFile (e.integration.path.child "quality_scale.yaml"))] []
  | inBreach (b : PresenceBreach) :
      Block c config files e .inBreach [.presenceBreached e.integration.domain b]
        [.ofChecker (breachText b)]
  | unreadable {error : DeclarationError}
      (load : Declaration.load files (e.integration.path.child "quality_scale.yaml") =
        .error error) :
      Block c config files e .unreadable
        [.declarationUnreadable e.integration.domain error.message]
        [.ofChecker "Invalid quality_scale.yaml"]
  /-- The runs are those of the validators of the rules declared done, in the order of the names.
  Each of them is told, then each that found something, and last how many findings of the checker
  the entry has by then. -/
  | checked {doc : Yaml.Value} {runs : List RuleRun} {schema tiers : List String}
      {new : List Finding}
      (load : Declaration.load files (e.integration.path.child "quality_scale.yaml") = .ok doc)
      (ascending : (runs.map RuleRun.rule).Pairwise (· < ·))
      (ran : ∀ run, run ∈ runs ↔ ∃ r ∈ c.catalog.rules, ∃ validate,
        r.validator = some validate ∧ r.name ∈ (ofDocument doc).done ∧
          run = ⟨r.name, validate config files e.integration (ofDocument doc).done⟩)
      (reported : new =
        (schema ++ (runs.filter (·.messages.length ≠ 0)).flatMap ruleLines ++ tiers).map
          .ofChecker) :
      Block c config files e .checked
        (runs.map (fun run =>
            .validatorRan e.integration.domain run.rule run.messages.length) ++
          (runs.filter (·.messages.length ≠ 0)).map (fun run =>
            .ruleFailed e.integration.domain run.rule run.messages.length) ++
          [.integrationChecked e.integration.domain (countOfChecker (e.findings ++ new))])
        new

/-- The course that ends with an event, if there is one. -/
def Event.ends? : Event → Option Course
  | .notChecked .. => some .passedOver
  | .presenceBreached .. => some .inBreach
  | .declarationUnreadable .. => some .unreadable
  | .integrationChecked .. => some .checked
  | _ => none

section Block

variable {c : Checker} {config : Config} {files : FileTree} {e : Entry}

/-- The last event of a block tells its course. -/
theorem Block.ends?_getLast? {course : Course} {events : List Event} {new : List Finding}
    (h : Block c config files e course events new) :
    events.getLast?.bind Event.ends? = some course := by
  cases h with
  | passedOver => rfl
  | inBreach b => rfl
  | unreadable load => rfl
  | checked load ascending ran reported =>
    rw [List.getLast?_concat]
    rfl

theorem Block.course_unique {course course' : Course} {events : List Event}
    {new new' : List Finding} (h : Block c config files e course events new)
    (h' : Block c config files e course' events new') : course = course' := by
  have hlast := h.ends?_getLast?
  rw [h'.ends?_getLast?] at hlast
  exact (Option.some.inj hlast).symm

/-- The rules whose validators run come in the order of their names. -/
theorem validatorRuns_ascending (c : Catalog) (config : Config) (files : FileTree)
    (i : Integration) (done : NameSet) :
    ((validatorRuns c config files i done).map RuleRun.rule).Pairwise (· < ·) := by
  have hrules : (validatorRuns c config files i done).map RuleRun.rule =
      done.toList.filter fun rule => (c.validator? rule).isSome := by
    rw [validatorRuns, List.map_filterMap, ← List.filterMap_eq_filter]
    refine List.filterMap_congr fun rule _ => ?_
    cases hv : c.validator? rule <;> simp [Option.guard, hv]
  rw [hrules]
  exact done.ascending.filter _

theorem RuleRun.failed_eq (run : RuleRun) : run.failed = decide (run.messages.length ≠ 0) := by
  cases h : run.messages <;> simp [RuleRun.failed, h]

/-- What is traced and found while a document is judged. -/
theorem Checker.block_judge {doc : Yaml.Value}
    (hload : Declaration.load files e.integration.declarationPath = .ok doc) :
    Block c config files e .checked
      ((c.judge config files e.integration doc).events e.integration
        (e.messagesIn checkerCategory).length)
      ((c.judge config files e.integration doc).findings e.integration) := by
  let i := e.integration
  let verdict := c.judge config files i doc
  let runs := validatorRuns c.catalog config files i (ofDocument doc).done
  have hfailed : RuleRun.failed = fun run => decide (run.messages.length ≠ 0) :=
    funext RuleRun.failed_eq
  have hcount : (e.messagesIn checkerCategory).length + (verdict.messages i).length =
      countOfChecker (e.findings ++ verdict.findings i) := by
    rw [countOfChecker_append, Entry.length_messagesIn]
    exact congrArg _ (countOfChecker_map_ofChecker _).symm
  have hevents : verdict.events i (e.messagesIn checkerCategory).length =
      runEvents i.domain runs ++
        (runs.filter (·.messages.length ≠ 0)).map (fun run =>
          .ruleFailed i.domain run.rule run.messages.length) ++
        [.integrationChecked i.domain (countOfChecker (e.findings ++ verdict.findings i))] := by
    rw [← hcount, ← hfailed]
    rfl
  have hreported : verdict.findings i =
      (Verdict.schemaMessages i (Schema.violations c.catalog doc) ++
        (runs.filter (·.messages.length ≠ 0)).flatMap ruleLines ++
        (shortfalls c.catalog (ofDocument doc).met i.declaredTier).map Shortfall.message).map
          .ofChecker := by
    rw [← hfailed, funext ruleLines_eq]
    rfl
  show Block c config files e .checked (verdict.events i _) (verdict.findings i)
  rw [hevents]
  exact .checked hload (validatorRuns_ascending ..) (fun run => mem_validatorRuns_iff) hreported

/-- **What is traced while an entry is checked is one block**, beside what is found. -/
theorem Checker.exists_block (c : Checker) (config : Config) (files : FileTree) (e : Entry) :
    ∃! course, Block c config files e course (c.events config files e)
      (c.findings config files e.integration) := by
  have hsome : ∃ course, Block c config files e course (c.events config files e)
      (c.findings config files e.integration) := by
    rw [Checker.events, Checker.findings]
    -- The cases are those in which a verdict is reached; in three of them no declaration is judged.
    cases hdecide : Presence.decide c.exemptions e.integration
        (files.isFile e.integration.declarationPath) with
    | skip =>
      rw [Checker.verdict_of_skip hdecide]
      exact ⟨_, .passedOver⟩
    | breach b =>
      have hbreach : Block c config files e .inBreach [.presenceBreached e.integration.domain b]
          [.ofChecker (breachText b)] := .inBreach b
      rw [breachText_eq] at hbreach
      rw [Checker.verdict_of_breach hdecide]
      exact ⟨_, hbreach⟩
    | validate =>
      cases hload : Declaration.load files e.integration.declarationPath with
      | error error =>
        rw [Checker.verdict_of_unreadable hdecide hload]
        exact ⟨_, .unreadable hload⟩
      | ok doc =>
        rw [Checker.verdict_of_document hdecide hload]
        exact ⟨_, Checker.block_judge hload⟩
  obtain ⟨course, hblock⟩ := hsome
  exact ⟨course, hblock, fun course' hblock' => hblock'.course_unique hblock⟩

end Block

/-! ### A registry -/

namespace Checker

variable {config : Config} {files : FileTree}

/-- The entries that are counted as failing have a finding of the checker. -/
theorem failing_eq (r : Registry) :
    failing r = r.values.countP fun e => ∃ f ∈ e.findings, f.OfChecker := by
  rw [failing, ← List.countP_eq_length_filter]
  refine List.countP_congr fun e _ => ?_
  rw [Bool.not_eq_true', List.isEmpty_eq_false_iff, ← List.length_pos_iff,
    Entry.length_messagesIn, countOfChecker, List.countP_pos_iff, decide_eq_true_iff]
  exact exists_congr fun f => and_congr_right fun _ => decide_eq_true_iff

end Checker

end QualityScale
