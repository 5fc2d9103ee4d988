import QualityScale.Catalog.Standard
import QualityScale.Completion
import QualityScale.Proofs.Checker.Dispatch
import QualityScale.Proofs.Declaration.Edits

/-!
# Rules that are not in the catalog

A document may name a rule that the catalog does not have.  That is one violation, at the place of
the entry.  Otherwise the entry goes unseen, although its name is among those of the rules that are
done if it says so, and every validator is handed these.

* `Catalog.SameKnown c s t`: the sets of names `s` and `t` hold the same rules of the catalog `c`.
* `Catalog.IgnoresUnknown`: the validators of a catalog take no notice of other names.  Those of the
  standard catalog do not (`Catalog.standard_ignoresUnknown`).
* `SameKnown.validatorRuns_eq`, `SameKnown.shortfalls_eq`: so other names change neither what the
  validators return nor what the tiers lack.
* `unknown_rule_adds_one_violation`: an unknown rule in a document hides and changes nothing.
-/

namespace QualityScale

open Grammar
open Yaml (Value)
open Classification (ofDocument)

/-! ### Names that count -/

/-- The two sets hold the same rules of the catalog. -/
def Catalog.SameKnown (c : Catalog) (s t : NameSet) : Prop :=
  ∀ r ∈ c.rules, r.name ∈ s ↔ r.name ∈ t

/-- The validators of a catalog take no notice of names that are not in it. -/
def Catalog.IgnoresUnknown (c : Catalog) : Prop :=
  ∀ r ∈ c.rules, ∀ validate, r.validator = some validate → ∀ config files i s t,
    c.SameKnown s t → validate config files i s = validate config files i t

/-- The rule for strict typing, which another rule's validator asks about, is in the catalog. -/
theorem Catalog.standard_contains_strictTyping :
    Catalog.standard.contains "strict-typing" = true := by decide +kernel

theorem Catalog.standard_ignoresUnknown : Catalog.standard.IgnoresUnknown := by
  rw [Catalog.IgnoresUnknown, Catalog.forall_standard_validator]
  refine ⟨?_, ?_, ?_, ?_, ?_, ?_, ?_, ?_, ?_, ?_⟩ <;> intro config files i s t h
  case refine_2 =>
    have htyping : s.contains "strict-typing" = t.contains "strict-typing" := by
      obtain ⟨r, hr, hname⟩ := Catalog.contains_iff.mp Catalog.standard_contains_strictTyping
      rw [Bool.eq_iff_iff, NameSet.contains_eq_true, NameSet.contains_eq_true, ← hname]
      exact h r hr
    unfold Evidence.runtimeData
    rw [htyping]
  all_goals rfl

namespace Catalog.SameKnown

variable {c : Catalog} {s t : NameSet}

theorem filter_eq (h : c.SameKnown s t) : s.filter c.contains = t.filter c.contains := by
  refine NameSet.ext fun name => ?_
  rw [NameSet.mem_filter, NameSet.mem_filter]
  refine and_congr_left fun hname => ?_
  obtain ⟨r, hr, rfl⟩ := Catalog.contains_iff.mp hname
  exact h r hr

theorem validatorRuns_eq (h : c.SameKnown s t) (hc : c.IgnoresUnknown) (config : Config)
    (files : FileTree) (i : Integration) :
    validatorRuns c config files i s = validatorRuns c config files i t := by
  have hnames : s.toList.filter c.contains = t.toList.filter c.contains :=
    congrArg NameSet.toList h.filter_eq
  rw [validatorRuns_eq_runsOn, validatorRuns_eq_runsOn, ← runsOn_filter_contains, hnames,
    runsOn_filter_contains]
  exact runsOn_congr _ fun r hr validate hv => hc r hr validate hv config files i s t h

theorem failures_eq (h : c.SameKnown s t) (hc : c.IgnoresUnknown) (config : Config)
    (files : FileTree) (i : Integration) :
    failures c config files i s = failures c config files i t := by
  rw [failures, failures, h.validatorRuns_eq hc]

theorem shortfalls_eq (h : c.SameKnown s t) (declared : Option Tier) :
    shortfalls c s declared = shortfalls c t declared :=
  shortfalls_congr h declared

end Catalog.SameKnown

/-! ### An unknown rule in a document -/

section Document

variable {c : Catalog} {doc : Value} {before after : List (Value × Value)} {name : String}

/-- An entry for a name that is not in the catalog is a violation, whatever it says. -/
theorem ruleViolations_of_unknown (hunknown : ∀ r ∈ c.rules, r.name ≠ name) (entry : Value) :
    Schema.ruleViolations c (.string name, entry) =
      [⟨[.string Schema.rulesKey, .string name], .extraKey, some entry⟩] := by
  have hkey : ¬ (Value.string name).asString?.any c.contains = true := by
    intro h
    obtain ⟨r, hr, hname⟩ := namesRule_iff.mpr h
    exact hunknown r hr (Value.string.inj hname).symm
  rw [Schema.ruleViolations, if_neg hkey]

/-- Another entry changes nothing about the rules that have a property by an entry of theirs. -/
theorem exists_entry_insert_iff (p : Value → Prop) {entry : Value} {rule : String}
    (hne : rule ≠ name) :
    (∃ e ∈ before ++ (.string name, entry) :: after, e.1.untag = .string rule ∧ p e.2) ↔
      ∃ e ∈ before ++ after, e.1.untag = .string rule ∧ p e.2 := by
  have hother : ¬ (Value.string name).untag = .string rule := fun h => hne (Value.string.inj h).symm
  simp only [List.mem_append, List.mem_cons, or_and_right, exists_or, exists_eq_left, hother,
    false_and, false_or]

theorem sameKnown_done_insert (hrules : RulesOf doc (before ++ after))
    (hunknown : ∀ r ∈ c.rules, r.name ≠ name) (entry : Value) :
    c.SameKnown (ofDocument (withRules (before ++ (.string name, entry) :: after) doc)).done
      (ofDocument doc).done := by
  intro r hr
  rw [mem_done_iff, mem_done_iff, hrules.ruleEntries_withRules, hrules.ruleEntries_eq]
  exact exists_entry_insert_iff (fun v => Status.ofEntry? v = some .done) (hunknown r hr)

theorem sameKnown_met_insert (hrules : RulesOf doc (before ++ after))
    (hunknown : ∀ r ∈ c.rules, r.name ≠ name) (entry : Value) :
    c.SameKnown (ofDocument (withRules (before ++ (.string name, entry) :: after) doc)).met
      (ofDocument doc).met := by
  intro r hr
  rw [mem_met_iff, mem_met_iff, hrules.ruleEntries_withRules, hrules.ruleEntries_eq]
  exact exists_entry_insert_iff
    (fun v => Status.ofEntry? v = some .done ∨ Status.ofEntry? v = some .exempt) (hunknown r hr)

end Document

/-- **An unknown rule hides and changes nothing.**  Wherever among the rules of a document an entry
for a name is put that is not in the catalog, and whatever the entry says, there is one violation
more, which is about that entry.  The others and their order are as before, and so are the failures
of validators and the tiers that fall short, for every integration in every checkout. -/
theorem unknown_rule_adds_one_violation {doc : Value} {before after : List (Value × Value)}
    (hrules : RulesOf doc (before ++ after)) {name : String}
    (hunknown : ∀ r ∈ Catalog.standard.rules, r.name ≠ name) (entry : Value) :
    let doc' := withRules (before ++ (.string name, entry) :: after) doc
    (∃ earlier later extra,
      Schema.violations Catalog.standard doc = earlier ++ later ∧
      Schema.violations Catalog.standard doc' = earlier ++ extra :: later ∧
      extra.location = ["rules", name] ∧ extra.problem.message = "extra keys not allowed" ∧
      extra.got = some entry) ∧
    ∀ (config : Config) (files : FileTree) (i : Integration),
      failures Catalog.standard config files i (ofDocument doc').done =
          failures Catalog.standard config files i (ofDocument doc).done ∧
        shortfalls Catalog.standard (ofDocument doc').met i.declaredTier =
          shortfalls Catalog.standard (ofDocument doc).met i.declaredTier := by
  intro doc'
  have hdone := sameKnown_done_insert hrules hunknown entry
  have hmet := sameKnown_met_insert hrules hunknown entry
  refine ⟨?_, fun config files i => ⟨?_, ?_⟩⟩
  · refine ⟨topViolations doc ++ before.flatMap (Schema.ruleViolations Catalog.standard),
      after.flatMap (Schema.ruleViolations Catalog.standard),
      ⟨[.string Schema.rulesKey, .string name], .extraKey, some entry⟩, ?_, ?_, rfl, rfl, rfl⟩
    · rw [hrules.violations_eq, List.flatMap_append, List.append_assoc]
    · rw [hrules.violations_withRules, List.flatMap_append, List.flatMap_cons,
        ruleViolations_of_unknown hunknown, List.append_assoc, List.singleton_append]
  · exact hdone.failures_eq Catalog.standard_ignoresUnknown config files i
  · exact hmet.shortfalls_eq i.declaredTier

/-- The entry of a rule whose validator may fail. -/
def flowDone : Value × Value := (.string "config-flow", .string "done")

/-- An entry with a violation of its own. -/
def brandsMaybe : Value × Value := (.string "brands", .string "maybe")

/-- A document with these entries, and a key that it may not have. -/
def faultyDeclaration : Value :=
  .tagged "scale"
    (.mapping [(.string "owner", .null), (.string "rules", .mapping [flowDone, brandsMaybe])])

/-- The same document with an unknown rule between the two. -/
def faultyWithUnknown : Value :=
  withRules ([flowDone] ++ (.string "made-up-rule", .string "done") :: [brandsMaybe])
    faultyDeclaration

theorem unknown_rule_adds_one_violation_faultyDeclaration :
    (RulesOf faultyDeclaration ([flowDone] ++ [brandsMaybe]) ∧
      ∀ r ∈ Catalog.standard.rules, r.name ≠ "made-up-rule") ∧
    ((∃ earlier later extra,
      Schema.violations Catalog.standard faultyDeclaration = earlier ++ later ∧
      Schema.violations Catalog.standard faultyWithUnknown = earlier ++ extra :: later ∧
      extra.location = ["rules", "made-up-rule"] ∧
      extra.problem.message = "extra keys not allowed" ∧ extra.got = some (.string "done")) ∧
    ∀ (config : Config) (files : FileTree) (i : Integration),
      failures Catalog.standard config files i (ofDocument faultyWithUnknown).done =
          failures Catalog.standard config files i (ofDocument faultyDeclaration).done ∧
        shortfalls Catalog.standard (ofDocument faultyWithUnknown).met i.declaredTier =
          shortfalls Catalog.standard (ofDocument faultyDeclaration).met i.declaredTier) ∧
    (Schema.violations Catalog.standard faultyDeclaration).length = 2 ∧
    "made-up-rule" ∈ (ofDocument faultyWithUnknown).done := by
  have hrules : RulesOf faultyDeclaration ([flowDone] ++ [brandsMaybe]) :=
    ⟨_, rfl, .later (by decide) .here⟩
  have hunknown : ∀ r ∈ Catalog.standard.rules, r.name ≠ "made-up-rule" := by decide +kernel
  exact ⟨⟨hrules, hunknown⟩, unknown_rule_adds_one_violation hrules hunknown (.string "done"),
    by decide +kernel, by decide +kernel⟩

end QualityScale
