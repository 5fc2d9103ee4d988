import QualityScale.Checker
import QualityScale.Proofs.Declaration.Agreement

/-!
# The clean verdict

When does the checker find nothing?  There are three ways, and `Clean` lists them.

* The integration is not part of the core.
* It is free of the duty to carry a declaration, carries none and claims no tier.
* It has the duty, and its declaration fulfils it: `Fulfils` says what the document has to look
  like, which rules it has to declare and what their validators have to return.

`check_findings_eq_iff` says that these are all.  Each stage of the check has a lemma that says when
that stage is silent, and `messages_judge_eq_nil_iff` puts together the stages that read the
document.
-/

namespace QualityScale

open Grammar
open Yaml (Value)
open Classification (ofDocument)

/-! ### The duty to carry a declaration -/

/-- The integration is free of the duty to carry a declaration: it is virtual, or one of the sets
of exemptions has its domain. -/
def FreeOfDuty (x : Exemptions) (i : Integration) : Prop :=
  i.kind = .virtual ∨ i.domain ∈ x.forbidden ∨ i.domain ∈ x.grandfathered

/-- The manifest claims the tier `t`: it has the name of `t` for a quality scale. -/
def Integration.Claims (i : Integration) (t : Tier) : Prop :=
  i.qualityScale = some t.name

theorem Integration.declaredTier_eq_some_iff {i : Integration} {t : Tier} :
    i.declaredTier = some t ↔ i.Claims t := by
  rw [Integration.declaredTier, Option.bind_eq_some_iff]
  constructor
  · rintro ⟨s, hs, ht⟩
    rw [Integration.Claims, hs, Tier.ofName?_eq_some_iff.mp ht]
  · exact fun h => ⟨t.name, h, Tier.ofName?_eq_some_iff.mpr rfl⟩

theorem Integration.declaredTier_eq_none_iff {i : Integration} :
    i.declaredTier = none ↔ ∀ t, ¬ i.Claims t := by
  rw [Option.eq_none_iff_forall_ne_some]
  exact forall_congr' fun t => not_congr declaredTier_eq_some_iff

section Presence

variable {x : Exemptions} {i : Integration}

theorem Presence.decide_of_not_core (hc : i.core = false) (hasFile : Bool) :
    Presence.decide x i hasFile = .skip := by
  rw [Presence.decide, Presence.classify, hc]
  rfl

/-- An integration with the duty is required to carry a declaration. -/
theorem Presence.classify_of_duty (hc : i.core = true) (hf : ¬ FreeOfDuty x i) :
    Presence.classify x i = .required := by
  rw [FreeOfDuty, not_or, not_or] at hf
  obtain ⟨hv, hd, hg⟩ := hf
  rw [Presence.classify, hc, if_neg (by decide), if_neg hv, Exemptions.isForbidden,
    NameSet.contains_eq_false.mpr hd, if_neg (by decide), Exemptions.isGrandfathered,
    NameSet.contains_eq_false.mpr hg, if_neg (by decide)]

/-- An integration without the duty is told not to carry a declaration. -/
theorem Presence.classify_of_free (hc : i.core = true) (hf : FreeOfDuty x i) :
    (∃ reason, Presence.classify x i = .forbidden reason) ∨
      Presence.classify x i = .grandfathered := by
  rw [Presence.classify, hc, if_neg (by decide)]
  by_cases hv : i.kind = .virtual
  · rw [if_pos hv]
    exact .inl ⟨_, rfl⟩
  · rw [if_neg hv]
    by_cases hd : x.isForbidden i.domain = true
    · rw [if_pos hd]
      exact .inl ⟨_, rfl⟩
    · have hg : x.isGrandfathered i.domain = true := by
        rcases hf with h | h | h
        · exact absurd h hv
        · exact absurd (NameSet.contains_eq_true.mpr h) hd
        · exact NameSet.contains_eq_true.mpr h
      rw [if_neg hd, if_pos hg]
      exact .inr rfl

theorem Presence.decide_of_duty (hc : i.core = true) (hf : ¬ FreeOfDuty x i) (hasFile : Bool) :
    Presence.decide x i hasFile = if hasFile then .validate else .breach .missingRequired := by
  rw [Presence.decide, Presence.classify_of_duty hc hf]
  cases hasFile <;> rfl

/-- What happens to an integration without the duty: it passes without a file and a claim, and any
other way it is in breach. -/
theorem Presence.decide_of_free (hc : i.core = true) (hf : FreeOfDuty x i) (hasFile : Bool) :
    (Presence.decide x i hasFile = .skip ∧ hasFile = false ∧ ∀ t, ¬ i.Claims t) ∨
      ((∃ b, Presence.decide x i hasFile = .breach b) ∧
        ¬ (hasFile = false ∧ ∀ t, ¬ i.Claims t)) := by
  rw [← Integration.declaredTier_eq_none_iff, Presence.decide]
  rcases classify_of_free hc hf with ⟨reason, h⟩ | h
  · rw [h]
    cases reason <;> cases hasFile <;> cases i.declaredTier <;> simp [Presence.check]
  · rw [h]
    cases hasFile <;> cases i.declaredTier <;> simp [Presence.check]

end Presence

/-! ### The stages that read the document -/

/-- **The document of a declaration fulfils the duty.** -/
structure Fulfils (c : Checker) (config : Config) (files : FileTree) (i : Integration)
    (doc : Value) : Prop where
  /-- It is a declaration over the rules of the catalog. -/
  conforms : Conforms c.catalog doc
  /-- Every rule up to a claimed tier is declared done, or exempt for a reason. -/
  complete : ∀ t, i.Claims t → ∀ r ∈ c.catalog.rules, r.tier ≤ t →
    Declares doc r.name .done ∨ Excuses doc r.name
  /-- Where a rule is declared done, its validator finds nothing against it.  The validator sees the
  names of all rules that are declared done. -/
  borneOut : ∃ done : NameSet, (∀ name, name ∈ done ↔ Declares doc name .done) ∧
    ∀ r ∈ c.catalog.rules, ∀ validate, r.validator = some validate →
      Declares doc r.name .done → validate config files i done = []

section Stages

variable {c : Checker} {config : Config} {files : FileTree} {i : Integration} {doc : Value}

theorem Verdict.schemaMessages_eq_nil_iff {violations : List Violation} :
    Verdict.schemaMessages i violations = [] ↔ violations = [] := by
  cases violations with
  | nil => exact ⟨fun _ => rfl, fun _ => rfl⟩
  | cons v vs => exact ⟨nofun, nofun⟩

/-- The reports of the failed runs are empty exactly if no run has a message. -/
theorem reports_eq_nil_iff {runs : List RuleRun} :
    (runs.filter (·.failed)).flatMap (·.report) = [] ↔ ∀ run ∈ runs, run.messages = [] := by
  rw [List.flatMap_eq_nil_iff]
  constructor
  · intro h run hrun
    by_cases hm : run.messages = []
    · exact hm
    · -- A failed run is reported with at least the line that refers to the documentation.
      have hfailed : run.failed = true := by simpa [RuleRun.failed] using hm
      have hnil := h run (List.mem_filter.mpr ⟨hrun, hfailed⟩)
      simp [RuleRun.report] at hnil
  · intro h run hrun
    obtain ⟨hmem, hfailed⟩ := List.mem_filter.mp hrun
    simp [RuleRun.failed, h run hmem] at hfailed

/-- No validator finds anything exactly if each returns nothing whose rule is done. -/
theorem runs_silent_iff {done : NameSet} :
    (∀ run ∈ validatorRuns c.catalog config files i done, run.messages = []) ↔
      ∀ r ∈ c.catalog.rules, ∀ validate, r.validator = some validate → r.name ∈ done →
        validate config files i done = [] := by
  constructor
  · intro h r hr validate hv hdone
    exact h ⟨r.name, _⟩ (mem_validatorRuns_iff.mpr ⟨r, hr, validate, hv, hdone, rfl⟩)
  · intro h run hrun
    obtain ⟨r, hr, validate, hv, hdone, rfl⟩ := mem_validatorRuns_iff.mp hrun
    exact h r hr validate hv hdone

/-- **Nothing is found out from a document exactly if it fulfils the duty.** -/
theorem messages_judge_eq_nil_iff :
    (c.judge config files i doc).messages i = [] ↔ Fulfils c config files i doc := by
  rw [Checker.judge, Verdict.messages, List.append_eq_nil_iff, List.append_eq_nil_iff,
    Verdict.schemaMessages_eq_nil_iff, reports_eq_nil_iff, runs_silent_iff,
    List.map_eq_nil_iff, shortfalls_eq_nil_iff]
  constructor
  · rintro ⟨⟨hschema, hruns⟩, hmet⟩
    have hconf := conforms_of_violations_eq_nil hschema
    refine ⟨hconf, ?_, (ofDocument doc).done, fun name => hconf.mem_done_iff, ?_⟩
    · intro t ht r hr hle
      exact hconf.mem_met_iff.mp (hmet t (Integration.declaredTier_eq_some_iff.mpr ht) r hr hle)
    · intro r hr validate hv hdone
      exact hruns r hr validate hv (hconf.mem_done_iff.mpr hdone)
  · rintro ⟨hconf, hcomplete, done, hdone, hborne⟩
    obtain rfl : done = (ofDocument doc).done :=
      NameSet.ext fun name => (hdone name).trans hconf.mem_done_iff.symm
    refine ⟨⟨hconf.violations_eq_nil, ?_⟩, ?_⟩
    · intro r hr validate hv hmem
      exact hborne r hr validate hv ((hdone r.name).mp hmem)
    · intro t ht r hr hle
      have hclaims : i.Claims t := Integration.declaredTier_eq_some_iff.mp ht
      exact hconf.mem_met_iff.mpr (hcomplete t hclaims r hr hle)

end Stages

/-! ### The verdict -/

/-- **The ways in which an integration passes.** -/
inductive Clean (c : Checker) (config : Config) (files : FileTree) (i : Integration) : Prop
  /-- It is not part of the core. -/
  | foreign (core : i.core = false)
  /-- It is free of the duty, carries no declaration and claims no tier. -/
  | free (core : i.core = true) (free : FreeOfDuty c.exemptions i)
      (noFile : files.isFile (i.path.child "quality_scale.yaml") = false)
      (noTier : ∀ t, ¬ i.Claims t)
  /-- Its declaration is a file in UTF-8 with a document that fulfils the duty. -/
  | fulfilled {text : String} {doc : Value} (core : i.core = true)
      (duty : ¬ FreeOfDuty c.exemptions i)
      (file : files.bytes (i.path.child "quality_scale.yaml") = .ok text.toByteArray)
      (reads : Value.read? text = .ok doc) (fulfils : Fulfils c config files i doc)

variable {c : Checker} {config : Config} {files : FileTree} {i : Integration}

theorem messages_verdict_of_free (hc : i.core = true) (hf : FreeOfDuty c.exemptions i) :
    (c.verdict config files i).messages i = [] ↔
      files.isFile i.declarationPath = false ∧ ∀ t, ¬ i.Claims t := by
  rcases Presence.decide_of_free hc hf (files.isFile i.declarationPath) with
    ⟨hskip, hpass⟩ | ⟨⟨b, hbreach⟩, hpass⟩
  · rw [Checker.verdict_of_skip hskip]
    exact ⟨fun _ => hpass, fun _ => rfl⟩
  · rw [Checker.verdict_of_breach hbreach]
    exact ⟨fun h => absurd h (List.cons_ne_nil _ _), fun h => absurd h hpass⟩

theorem messages_verdict_of_duty (hc : i.core = true) (hf : ¬ FreeOfDuty c.exemptions i) :
    (c.verdict config files i).messages i = [] ↔
      ∃ doc, Declaration.load files i.declarationPath = .ok doc ∧
        Fulfils c config files i doc := by
  have hdecide := Presence.decide_of_duty hc hf (files.isFile i.declarationPath)
  by_cases hfile : files.isFile i.declarationPath = true
  · have hvalidate := hdecide.trans (if_pos hfile)
    cases hload : Declaration.load files i.declarationPath with
    | error e =>
      rw [Checker.verdict_of_unreadable hvalidate hload]
      refine ⟨fun h => absurd h (List.cons_ne_nil _ _), ?_⟩
      rintro ⟨doc, hdoc, -⟩
      cases hdoc
    | ok doc =>
      rw [Checker.verdict_of_document hvalidate hload]
      simp only [Except.ok.injEq, exists_eq_left', messages_judge_eq_nil_iff]
  · rw [Checker.verdict_of_breach (hdecide.trans (if_neg hfile))]
    refine ⟨fun h => absurd h (List.cons_ne_nil _ _), ?_⟩
    rintro ⟨doc, hload, -⟩
    -- What loads is read from a file.
    obtain ⟨text, hbytes, -⟩ := Declaration.load_eq_ok_iff.mp hload
    exact absurd (FileTree.isFile_iff.mpr ⟨_, hbytes⟩) hfile

theorem messages_verdict_eq_nil_iff :
    (c.verdict config files i).messages i = [] ↔ Clean c config files i := by
  constructor
  · intro h
    by_cases hc : i.core = true
    · by_cases hf : FreeOfDuty c.exemptions i
      · obtain ⟨hfile, htier⟩ := (messages_verdict_of_free hc hf).mp h
        exact .free hc hf hfile htier
      · obtain ⟨doc, hload, hfulfils⟩ := (messages_verdict_of_duty hc hf).mp h
        obtain ⟨text, hbytes, hread⟩ := Declaration.load_eq_ok_iff.mp hload
        exact .fulfilled hc hf hbytes (Declaration.read_eq_ok_iff.mp hread).1 hfulfils
    · exact .foreign (Bool.not_eq_true _ ▸ hc)
  · intro h
    cases h with
    | foreign hc =>
      rw [Checker.verdict, Presence.decide_of_not_core hc]
      rfl
    | free hc hf hfile htier => exact (messages_verdict_of_free hc hf).mpr ⟨hfile, htier⟩
    | @fulfilled text doc hc hf hbytes hread hfulfils =>
      obtain ⟨top, htop, -⟩ := hfulfils.conforms.onlyRules
      have hload : Declaration.load files i.declarationPath = .ok doc :=
        Declaration.load_eq_ok_iff.mpr ⟨text, hbytes,
          Declaration.read_eq_ok_iff.mpr ⟨hread, top, htop⟩⟩
      exact (messages_verdict_of_duty hc hf).mpr ⟨doc, hload, hfulfils⟩

/-- **The checker reports nothing exactly about the integrations that pass.** -/
theorem check_findings_eq_iff (c : Checker) (config : Config) (files : FileTree) (e : Entry) :
    (c.check config files e).findings = e.findings ↔ Clean c config files e.integration := by
  rw [Checker.check, Entry.findings_report, List.append_right_eq_self, Checker.findings,
    Verdict.findings, List.map_eq_nil_iff, messages_verdict_eq_nil_iff]

end QualityScale
