import QualityScale.Proofs.Checker.FindingsInOrder

/-!
# The validators of the rules declared done

Each rule that is declared done and has a validator is looked at by itself.  Its validator sees the
whole set of rules declared done, and what it returns is listed unless there is nothing.

* `Dispatched`: the list says just that, rule by rule, in the order of the names' bytes.
* `BoundAlike c c' name`: two catalogs bind the same validator to a name, or both none.
* `failures_dispatched`: the failures are the one list that is dispatched.  What is listed about a
  rule depends on its own validator only, and the whole list on those of the rules declared done.
-/

namespace QualityScale

/-- **The list says what the validators of the rules declared done return**: a run for each rule of
the catalog that is declared done and has a validator, if this returns something, and no other. -/
structure Dispatched (c : Catalog) (config : Config) (files : FileTree) (i : Integration)
    (done : NameSet) (runs : List RuleRun) : Prop where
  ascending : (runs.map RuleRun.rule).Pairwise fun a b => Text.bytes a < Text.bytes b
  mem : ∀ run, run ∈ runs ↔
    ∃ r ∈ c.rules, ∃ validate, r.validator = some validate ∧ r.name ∈ done ∧
      run = ⟨r.name, validate config files i done⟩ ∧ validate config files i done ≠ []

/-- The catalogs bind the same validator to the name, or both bind none. -/
def BoundAlike (c c' : Catalog) (name : String) : Prop :=
  ∀ validate, (∃ r ∈ c.rules, r.name = name ∧ r.validator = some validate) ↔
    ∃ r ∈ c'.rules, r.name = name ∧ r.validator = some validate

section Dispatch

variable {c c' : Catalog} {config : Config} {files : FileTree} {i : Integration} {done : NameSet}
  {runs : List RuleRun} {name : String}

theorem dispatched_failures : Dispatched c config files i done (failures c config files i done) := by
  refine ⟨?_, fun run => ?_⟩
  · have hruns : ((failures c config files i done).map RuleRun.rule).Pairwise (· < ·) :=
      (validatorRuns_ascending c config files i done).sublist (List.filter_sublist.map _)
    exact hruns.imp Text.lt_iff_bytes_lt.mp
  · rw [mem_failures_iff]
    constructor
    · rintro ⟨⟨r, hr, validate, hv, hdone, rfl⟩, hsome⟩
      exact ⟨r, hr, validate, hv, hdone, rfl, hsome⟩
    · rintro ⟨r, hr, validate, hv, hdone, rfl, hsome⟩
      exact ⟨⟨r, hr, validate, hv, hdone, rfl⟩, hsome⟩

/-- There is one dispatched list. -/
theorem Dispatched.unique {runs' : List RuleRun} (h : Dispatched c config files i done runs)
    (h' : Dispatched c config files i done runs') : runs = runs' := by
  have hascending := h.ascending.imp Text.lt_iff_bytes_lt.mpr
  have hascending' := h'.ascending.imp Text.lt_iff_bytes_lt.mpr
  exact eq_of_ascending_of_mem_iff String.lt_irrefl String.lt_trans _ hascending hascending'
    fun run => (h.mem run).trans (h'.mem run).symm

namespace BoundAlike

theorem validator?_eq (h : BoundAlike c c' name) : c.validator? name = c'.validator? name := by
  refine Option.ext fun validate => ?_
  rw [Catalog.validator?_eq_some_iff, Catalog.validator?_eq_some_iff]
  exact h validate

theorem symm (h : BoundAlike c c' name) : BoundAlike c' c name :=
  fun validate => (h validate).symm

theorem mem_failures (h : BoundAlike c c' name) {messages : List String}
    (hmem : ⟨name, messages⟩ ∈ failures c config files i done) :
    ⟨name, messages⟩ ∈ failures c' config files i done := by
  rw [dispatched_failures.mem] at hmem ⊢
  obtain ⟨r, hr, validate, hv, hdone, heq, hsome⟩ := hmem
  obtain ⟨rfl, rfl⟩ := RuleRun.mk.inj heq
  obtain ⟨r', hr', hname, hv'⟩ := (h validate).mp ⟨r, hr, rfl, hv⟩
  rw [← hname] at hdone ⊢
  exact ⟨r', hr', validate, hv', hdone, rfl, hsome⟩

end BoundAlike

/-- **Validators of other rules are never asked.** -/
theorem validatorRuns_eq_of_boundAlike (h : ∀ name ∈ done, BoundAlike c c' name) :
    validatorRuns c config files i done = validatorRuns c' config files i done := by
  refine List.filterMap_congr fun name hname => ?_
  rw [(h name hname).validator?_eq]

end Dispatch

/-- **Dispatch is exact, and confined to the rules declared done.**  The failures are the one list
that says what the validators of these rules return.  What a rule's validator returns is listed
whatever the others return, and catalogs that bind the same validators to the rules declared done
lead to the same list. -/
theorem failures_dispatched (c : Catalog) (config : Config) (files : FileTree) (i : Integration)
    (done : NameSet) :
    (∀ runs, Dispatched c config files i done runs ↔ runs = failures c config files i done) ∧
      (∀ c' name, BoundAlike c c' name → ∀ messages,
        ⟨name, messages⟩ ∈ failures c config files i done ↔
          ⟨name, messages⟩ ∈ failures c' config files i done) ∧
      ∀ c', (∀ name ∈ done, BoundAlike c c' name) →
        failures c config files i done = failures c' config files i done := by
  refine ⟨fun runs => ⟨fun h => h.unique dispatched_failures, ?_⟩, ?_, fun c' h => ?_⟩
  · rintro rfl
    exact dispatched_failures
  · exact fun c' name h messages => ⟨h.mem_failures, h.symm.mem_failures⟩
  · rw [failures, failures, validatorRuns_eq_of_boundAlike h]

/-- A validator that says whether the other rule of a pair is declared done. -/
def tellsPartner : Validator := fun _ _ _ done =>
  if done.contains "rule-a" then ["rule-a is done too"] else []

/-- Four rules, one of which has no validator.  The validators of two others are given. -/
def fourRules (a d : Option Validator) : Catalog where
  rules := [⟨"rule-b", .silver, some tellsPartner⟩, ⟨"rule-a", .bronze, a⟩,
    ⟨"rule-c", .bronze, none⟩, ⟨"rule-d", .gold, d⟩]
  kebab := by
    have hnames : ∀ name ∈ ["rule-b", "rule-a", "rule-c", "rule-d"], isKebab name = true := by
      decide
    exact fun r hr => hnames r.name (List.mem_map_of_mem (f := Rule.name) hr)
  distinct := by
    show ["rule-b", "rule-a", "rule-c", "rule-d"].Nodup
    decide

/-- Three of these rules, and a name that is no rule. -/
def threeDone : NameSet := .ofList ["rule-c", "rule-b", "made-up", "rule-a"]

/-- A validator that always returns two messages. -/
def refuses : Validator := fun _ _ _ _ => ["first problem", "second problem"]

/-- What is listed when three of the rules are declared done. -/
def fourRulesFailures (a d : Option Validator) : List RuleRun :=
  failures (fourRules a d) ⟨⟨"."⟩, none⟩ unprovenTree unproven.integration threeDone

theorem failures_dispatched_fourRules :
    ((∀ name ∈ threeDone, BoundAlike (fourRules (some refuses) none)
        (fourRules (some refuses) (some refuses)) name) ∧
      BoundAlike (fourRules (some refuses) none) (fourRules none none) "rule-b") ∧
    fourRulesFailures (some refuses) none =
      [⟨"rule-a", ["first problem", "second problem"]⟩, ⟨"rule-b", ["rule-a is done too"]⟩] ∧
    fourRulesFailures (some refuses) none = fourRulesFailures (some refuses) (some refuses) ∧
    ⟨"rule-b", ["rule-a is done too"]⟩ ∈ fourRulesFailures none none := by
  obtain ⟨-, hown, hdone⟩ := failures_dispatched (fourRules (some refuses) none) ⟨⟨"."⟩, none⟩
    unprovenTree unproven.integration threeDone
  have hfound : fourRulesFailures (some refuses) none =
      [⟨"rule-a", ["first problem", "second problem"]⟩, ⟨"rule-b", ["rule-a is done too"]⟩] := by
    decide +kernel
  have halike : ∀ name ∈ threeDone, BoundAlike (fourRules (some refuses) none)
      (fourRules (some refuses) (some refuses)) name := by
    intro name hname validate
    have hother : name ≠ "rule-d" := by
      rintro rfl
      revert hname
      decide
    simp [fourRules, hother.symm]
  have hpartner : BoundAlike (fourRules (some refuses) none) (fourRules none none) "rule-b" := by
    intro validate
    simp [fourRules]
  have hlisted : ⟨"rule-b", ["rule-a is done too"]⟩ ∈ fourRulesFailures (some refuses) none := by
    rw [hfound]
    exact List.mem_cons_of_mem _ List.mem_cons_self
  exact ⟨⟨halike, hpartner⟩, hfound, hdone _ halike, (hown _ _ hpartner _).mp hlisted⟩

end QualityScale
