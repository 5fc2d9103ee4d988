import Mathlib.Data.List.Basic
import Mathlib.Data.List.Flatten
import QualityScale.Dispatch

/-!
# Runs of validators, rule by rule

The validators of a set of rules run one after the other, and what they report is put together rule
by rule.  So two runs are compared by comparing, for one rule at a time, what its validator returns.

* `runsOn c ask names`: the runs of the validators of the rules `names`, where `ask` says what a
  validator returns.
* `runsOn_congr`: only what the validators of the catalog return counts.
* `runsOn_filter_contains`: names that are not in the catalog do not count.
* `reports_sublist`: with fewer rules and validators that return less, less is reported.
-/

namespace QualityScale

variable {c : Catalog} {ask ask' : Validator → List String}

/-- The runs of the validators of the named rules. -/
def runsOn (c : Catalog) (ask : Validator → List String) (names : List String) : List RuleRun :=
  names.filterMap fun rule => (c.validator? rule).map fun validate => ⟨rule, ask validate⟩

theorem runsOn_cons (rule : String) (names : List String) :
    runsOn c ask (rule :: names) =
      ((c.validator? rule).map fun validate => ⟨rule, ask validate⟩).toList ++
        runsOn c ask names := by
  rw [runsOn, List.filterMap_cons]
  cases c.validator? rule <;> rfl

theorem validatorRuns_eq_runsOn (c : Catalog) (config : Config) (files : FileTree)
    (i : Integration) (done : NameSet) :
    validatorRuns c config files i done =
      runsOn c (fun validate => validate config files i done) done.toList := rfl

/-! ### Runs that are the same -/

theorem runsOn_congr (names : List String)
    (h : ∀ r ∈ c.rules, ∀ validate, r.validator = some validate → ask validate = ask' validate) :
    runsOn c ask names = runsOn c ask' names := by
  refine List.filterMap_congr fun rule _ => ?_
  cases hv : c.validator? rule with
  | none => rfl
  | some validate =>
    obtain ⟨r, hr, -, hrv⟩ := Catalog.validator?_eq_some_iff.mp hv
    rw [Option.map_some, Option.map_some, h r hr validate hrv]

/-- A name that is not in the catalog has no validator. -/
theorem Catalog.validator?_eq_none {rule : String} (h : ¬ c.contains rule = true) :
    c.validator? rule = none := by
  cases hv : c.validator? rule with
  | none => rfl
  | some validate =>
    obtain ⟨r, hr, rfl, -⟩ := Catalog.validator?_eq_some_iff.mp hv
    exact absurd (Catalog.contains_iff.mpr ⟨r, hr, rfl⟩) h

theorem runsOn_filter_contains (c : Catalog) (ask : Validator → List String)
    (names : List String) : runsOn c ask (names.filter c.contains) = runsOn c ask names := by
  rw [runsOn, List.filterMap_filter]
  refine List.filterMap_congr fun rule _ => ?_
  split
  next => rfl
  next hunknown => rw [Catalog.validator?_eq_none hunknown, Option.map_none]

/-! ### Runs that report less -/

/-- What is reported for a rule. -/
def reportOn (c : Catalog) (ask : Validator → List String) (rule : String) : List String :=
  match c.validator? rule with
  | none => []
  | some validate => if (ask validate).isEmpty then [] else (RuleRun.mk rule (ask validate)).report

/-- **The reports are those for one rule after the other.** -/
theorem reports_eq_flatMap (c : Catalog) (ask : Validator → List String) (names : List String) :
    ((runsOn c ask names).filter (·.failed)).flatMap (·.report) =
      names.flatMap (reportOn c ask) := by
  induction names with
  | nil => rfl
  | cons rule names ih =>
    rw [runsOn_cons, List.filter_append, List.flatMap_append, ih, List.flatMap_cons, reportOn]
    congr 1
    cases c.validator? rule with
    | none => rfl
    | some validate =>
      by_cases hsilent : (ask validate).isEmpty = true <;> simp [RuleRun.failed, hsilent]

/-- A validator that returns less has less reported about its rule. -/
theorem RuleRun.report_sublist {rule : String} {few many : List String} (h : few.Sublist many) :
    (RuleRun.mk rule few).report.Sublist (RuleRun.mk rule many).report :=
  (h.map _).append (.refl _)

theorem reportOn_sublist (h : ∀ r ∈ c.rules, ∀ validate, r.validator = some validate →
    (ask validate).Sublist (ask' validate)) (rule : String) :
    (reportOn c ask rule).Sublist (reportOn c ask' rule) := by
  rw [reportOn, reportOn]
  cases hv : c.validator? rule with
  | none => exact .refl _
  | some validate =>
    obtain ⟨r, hr, -, hrv⟩ := Catalog.validator?_eq_some_iff.mp hv
    have hless := h r hr validate hrv
    by_cases hsilent : (ask validate).isEmpty = true
    · simp only [if_pos hsilent]
      exact List.nil_sublist _
    · -- One that returns more has not passed either.
      have hfound : ¬ (ask' validate).isEmpty = true := fun hnil =>
        hsilent (List.isEmpty_iff.mpr (List.sublist_nil.mp (List.isEmpty_iff.mp hnil ▸ hless)))
      simp only [if_neg hsilent, if_neg hfound]
      exact RuleRun.report_sublist hless

/-- **Fewer rules and validators that return less: less is reported**, in the same order. -/
theorem reports_sublist {names names' : List String} (hnames : names.Sublist names')
    (h : ∀ r ∈ c.rules, ∀ validate, r.validator = some validate →
      (ask validate).Sublist (ask' validate)) :
    (((runsOn c ask names).filter (·.failed)).flatMap (·.report)).Sublist
      (((runsOn c ask' names').filter (·.failed)).flatMap (·.report)) := by
  rw [reports_eq_flatMap, reports_eq_flatMap]
  have hless : (names.flatMap (reportOn c ask)).Sublist (names.flatMap (reportOn c ask')) :=
    List.Sublist.flatMap_right names fun rule _ => reportOn_sublist h rule
  exact hless.trans (hnames.flatMap _)

end QualityScale
