import QualityScale.Proofs.Checker.Dispatch
import QualityScale.Proofs.Checker.OwnFiles
import QualityScale.Proofs.Declaration.Edits
import QualityScale.Proofs.Evidence.EntryData

/-!
# From done to exempt

To declare a rule exempt that was declared done asks less of an integration.  The rule is met as
before, so no tier falls short that did not; its validator no longer runs; and a validator that
still runs is handed fewer names.  None finds more for that: `Catalog.Monotone`.  So an exemption
never brings up a finding (`findings_sublist_of_excuse`).

The two declarations are those of two checkouts, which hold the same evidence otherwise:
`Redeclared`.
-/

namespace QualityScale

open Grammar
open Yaml (Value)
open Classification (ofDocument)

/-! ### Fewer rules that are done -/

/-- The validators of a catalog find no more where fewer rules are done. -/
def Catalog.Monotone (c : Catalog) : Prop :=
  ∀ r ∈ c.rules, ∀ validate, r.validator = some validate → ∀ config files i s t,
    (∀ name ∈ s, name ∈ t) → (validate config files i s).Sublist (validate config files i t)

theorem Catalog.standard_monotone : Catalog.standard.Monotone := by
  rw [Catalog.Monotone, Catalog.forall_standard_validator]
  refine ⟨?_, ?_, ?_, ?_, ?_, ?_, ?_, ?_, ?_, ?_⟩ <;> intro config files i s t h
  case refine_2 => exact Evidence.runtimeData_sublist_of_subset config h
  all_goals exact .refl _

/-! ### The entry of an exemption -/

/-- The entry that declares a rule exempt for a reason. -/
def excuse (comment : String) : Value :=
  .mapping [(.string Status.key, .string Status.exempt.name),
    (.string Status.commentKey, .string comment)]

theorem ofEntry?_excuse (comment : String) : Status.ofEntry? (excuse comment) = some .exempt := by
  rfl

theorem entryForm_excuse (comment : String) : EntryForm (excuse comment) := by
  have hnone : Schema.entryViolations [] (excuse comment) = [] := rfl
  exact entryViolations_eq_nil_iff.mp hnone

section Document

variable {c : Catalog} {doc key entry : Value} {before after : List (Value × Value)}

/-- An accepted document stays accepted. -/
theorem violations_excuse (hrules : RulesOf doc (before ++ (key, entry) :: after))
    (haccepted : Schema.violations c doc = []) (comment : String) :
    Schema.violations c (withRules (before ++ (key, excuse comment) :: after) doc) = [] := by
  rw [hrules.violations_eq, List.flatMap_append, List.flatMap_cons] at haccepted
  rw [hrules.violations_withRules, List.flatMap_append, List.flatMap_cons]
  simp only [List.append_eq_nil_iff] at haccepted ⊢
  obtain ⟨htop, hbefore, hentry, hafter⟩ := haccepted
  have hkey : NamesRule c key := (ruleViolations_eq_nil_iff.mp hentry).1
  exact ⟨htop, hbefore, ruleViolations_eq_nil_iff.mpr ⟨hkey, entryForm_excuse comment⟩, hafter⟩

/-- The rules that are met stay the same. -/
theorem met_excuse (hrules : RulesOf doc (before ++ (key, entry) :: after))
    (hdone : Status.ofEntry? entry = some .done) (comment : String) :
    (ofDocument (withRules (before ++ (key, excuse comment) :: after) doc)).met =
      (ofDocument doc).met := by
  refine NameSet.ext fun name => ?_
  rw [mem_met_iff, mem_met_iff, hrules.ruleEntries_withRules, hrules.ruleEntries_eq]
  simp [or_and_right, exists_or, hdone, ofEntry?_excuse]

/-- What is done now was done before. -/
theorem done_of_done_excuse (hrules : RulesOf doc (before ++ (key, entry) :: after))
    {comment name : String}
    (h : name ∈ (ofDocument (withRules (before ++ (key, excuse comment) :: after) doc)).done) :
    name ∈ (ofDocument doc).done := by
  rw [mem_done_iff, hrules.ruleEntries_withRules] at h
  rw [mem_done_iff, hrules.ruleEntries_eq]
  obtain ⟨e, he, hname, hstatus⟩ := h
  refine ⟨e, ?_, hname, hstatus⟩
  rcases List.mem_append.mp he with he | he
  · exact List.mem_append_left _ he
  · rcases List.mem_cons.mp he with rfl | he
    · rw [ofEntry?_excuse] at hstatus
      exact absurd hstatus (by decide)
    · exact List.mem_append_right _ (List.mem_cons_of_mem _ he)

end Document

/-! ### Two checkouts with different declarations -/

/-- **Another declaration for an integration.**  The declaration in `files` reads as `doc` and that
in `files'` as `doc'`, and the evidence is the same in both. -/
structure Redeclared (config : Config) (i : Integration) (files files' : FileTree)
    (doc doc' : Value) : Prop where
  before : Declaration.load files i.declarationPath = .ok doc
  after : Declaration.load files' i.declarationPath = .ok doc'
  evidence : SameEvidence config i files files'

section Findings

variable {c : Checker} {config : Config} {i : Integration} {files files' : FileTree}
  {doc doc' : Value}

/-- A declaration that loads is in a file. -/
theorem isFile_of_load (h : Declaration.load files i.declarationPath = .ok doc) :
    files.isFile i.declarationPath = true := by
  obtain ⟨text, hbytes, -⟩ := Declaration.load_eq_ok_iff.mp h
  exact FileTree.isFile_iff.mpr ⟨_, hbytes⟩

/-- What is found out differs only where the documents are judged. -/
theorem Redeclared.findings_sublist (h : Redeclared config i files files' doc doc')
    (hjudged : ((c.judge config files' i doc').messages i).Sublist
      ((c.judge config files i doc).messages i)) :
    (c.findings config files' i).Sublist (c.findings config files i) := by
  refine List.Sublist.map _ ?_
  have hsame : Presence.decide c.exemptions i (files'.isFile i.declarationPath) =
      Presence.decide c.exemptions i (files.isFile i.declarationPath) := by
    rw [isFile_of_load h.before, isFile_of_load h.after]
  cases houtcome : Presence.decide c.exemptions i (files.isFile i.declarationPath) with
  | skip =>
    rw [Checker.verdict_of_skip (hsame.trans houtcome)]
    exact List.nil_sublist _
  | breach b =>
    rw [Checker.verdict_of_breach houtcome, Checker.verdict_of_breach (hsame.trans houtcome)]
  | validate =>
    rw [Checker.verdict_of_document houtcome h.before,
      Checker.verdict_of_document (hsame.trans houtcome) h.after]
    exact hjudged

end Findings

/-- The findings from a document that is accepted either way, where fewer rules are done and the
same are met. -/
theorem messages_judge_sublist {c : Checker} (hc : c.catalog.Monotone) (config : Config)
    (files : FileTree) (i : Integration) {doc doc' : Value}
    (haccepted : Schema.violations c.catalog doc' = [])
    (hdone : ∀ name ∈ (ofDocument doc').done, name ∈ (ofDocument doc).done)
    (hmet : (ofDocument doc').met = (ofDocument doc).met) :
    ((c.judge config files i doc').messages i).Sublist ((c.judge config files i doc).messages i) := by
  simp only [Checker.judge, Verdict.messages, haccepted, hmet, validatorRuns_eq_runsOn]
  refine .append (.append (List.nil_sublist _) ?_) (.refl _)
  refine reports_sublist (NameSet.toList_sublist hdone) fun r hr validate hv => ?_
  exact hc r hr validate hv config files i _ _ hdone

/-- **To declare a rule exempt that was done never brings up a finding.** -/
theorem findings_sublist_of_excuse (x : Exemptions) {config : Config} {i : Integration}
    {files files' : FileTree} {doc key entry : Value} {before after : List (Value × Value)}
    (hrules : RulesOf doc (before ++ (key, entry) :: after))
    (haccepted : Schema.violations Catalog.standard doc = [])
    (hdone : Status.ofEntry? entry = some .done) (comment : String)
    (hredeclared : Redeclared config i files files' doc
      (withRules (before ++ (key, excuse comment) :: after) doc)) :
    (Checker.findings ⟨Catalog.standard, x⟩ config files' i).Sublist
      (Checker.findings ⟨Catalog.standard, x⟩ config files i) := by
  refine hredeclared.findings_sublist ?_
  rw [← judge_eq_of_sameEvidence (c := ⟨Catalog.standard, x⟩) Catalog.standard_readsEvidence
    hredeclared.evidence]
  exact messages_judge_sublist (c := ⟨Catalog.standard, x⟩) Catalog.standard_monotone config files i
    (violations_excuse hrules haccepted comment) (fun _ => done_of_done_excuse hrules)
    (met_excuse hrules hdone comment)

/-- A checkout with one integration and this declaration. -/
def typedTree (declaration : String) : FileTree :=
  ⟨.directory [("hue", .directory [
    ("__init__.py", .file "entry.runtime_data = None\n".toByteArray),
    ("quality_scale.yaml", .file declaration.toByteArray)])], []⟩

/-- The integration in it. -/
def typedIntegration : Integration where
  domain := "hue"
  path := ⟨"hue"⟩
  core := true

/-- A declaration by which two rules are done, one of which asks more for the other. -/
def strictDeclaration : String :=
  "rules:\n  strict-typing: done\n  runtime-data: done\n"

/-- The same declaration with one of the rules exempt. -/
def excusedDeclaration : String :=
  "rules:\n  strict-typing: \x7bstatus: exempt, comment: It has no types.\x7d\n" ++
    "  runtime-data: done\n"

/-- The rule that the one in question asks more of. -/
def dataDone : Value × Value := (.string "runtime-data", .string "done")

/-- The document of `strictDeclaration`. -/
def strictDocument : Value :=
  .mapping [(.string "rules", .mapping [(.string "strict-typing", .string "done"), dataDone])]

theorem findings_sublist_of_excuse_strictDeclaration :
    (RulesOf strictDocument ([] ++ (.string "strict-typing", .string "done") :: [dataDone]) ∧
      Schema.violations Catalog.standard strictDocument = [] ∧
      Status.ofEntry? (.string "done") = some .done ∧
      Redeclared ⟨⟨"."⟩, none⟩ typedIntegration (typedTree strictDeclaration)
        (typedTree excusedDeclaration) strictDocument
        (withRules ([] ++ (.string "strict-typing", excuse "It has no types.") :: [dataDone])
          strictDocument)) ∧
    (Checker.findings ⟨Catalog.standard, .empty⟩ ⟨⟨"."⟩, none⟩ (typedTree excusedDeclaration)
      typedIntegration).Sublist (Checker.findings ⟨Catalog.standard, .empty⟩ ⟨⟨"."⟩, none⟩
        (typedTree strictDeclaration) typedIntegration) ∧
    (Checker.findings ⟨Catalog.standard, .empty⟩ ⟨⟨"."⟩, none⟩ (typedTree excusedDeclaration)
      typedIntegration).length = 0 ∧
    (Checker.findings ⟨Catalog.standard, .empty⟩ ⟨⟨"."⟩, none⟩ (typedTree strictDeclaration)
      typedIntegration).length = 4 := by
  have hrules : RulesOf strictDocument
      ([] ++ (.string "strict-typing", .string "done") :: [dataDone]) := ⟨_, rfl, .here⟩
  have haccepted : Schema.violations Catalog.standard strictDocument = [] := rfl
  have hevidence : ∀ p ∈ typedIntegration.evidenceFiles ⟨⟨"."⟩, none⟩,
      (typedTree strictDeclaration).bytes p = (typedTree excusedDeclaration).bytes p := by
    decide +kernel
  have hredeclared : Redeclared ⟨⟨"."⟩, none⟩ typedIntegration (typedTree strictDeclaration)
      (typedTree excusedDeclaration) strictDocument
      (withRules ([] ++ (.string "strict-typing", excuse "It has no types.") :: [dataDone])
        strictDocument) :=
    ⟨by decide +kernel, by decide +kernel, fun p hp => .of_bytes_eq (hevidence p hp)⟩
  exact ⟨⟨hrules, haccepted, rfl, hredeclared⟩,
    findings_sublist_of_excuse .empty hrules haccepted rfl _ hredeclared,
    by decide +kernel, by decide +kernel⟩

end QualityScale
