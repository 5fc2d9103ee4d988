import Mathlib.Data.List.Basic
import QualityScale.Catalog.Standard
import QualityScale.Checker
import QualityScale.Proofs.Checker.Dispatch
import QualityScale.Proofs.FileTree.Removal

/-!
# The files that an integration is judged by

A checkout holds many files, but what is found out about an integration depends on few of them: its
declaration, those of its modules that evidence is taken from, and the list of strictly typed
modules.  Two checkouts in which these are the same lead to the same findings and the same events,
whatever else they hold.  That is `check_eq_of_own_files`.

* `AgreeAt files files' p`: the trees hold the same at the path `p`.
* `Integration.evidenceFiles`, `Integration.ownFiles`: the paths of those few files.
* `Catalog.ReadsEvidence`: the validators of a catalog look at no other files.  Those of the
  standard catalog do not (`Catalog.standard_readsEvidence`).
-/

namespace QualityScale

/-! ### Trees that agree -/

/-- **Two trees hold the same at a path**: files with the same bytes, or no file in either. -/
def AgreeAt (files files' : FileTree) (p : Path) : Prop :=
  ∀ b, files.bytes p = .ok b ↔ files'.bytes p = .ok b

namespace AgreeAt

variable {files files' : FileTree} {p : Path}

theorem of_bytes_eq (h : files.bytes p = files'.bytes p) : AgreeAt files files' p := fun b => by
  rw [h]

theorem isFile_eq (h : AgreeAt files files' p) : files.isFile p = files'.isFile p := by
  rw [Bool.eq_iff_iff, FileTree.isFile_iff, FileTree.isFile_iff]
  exact exists_congr h

theorem text_eq_ok_iff (h : AgreeAt files files' p) (s : String) :
    files.text p = .ok s ↔ files'.text p = .ok s := by
  rw [FileTree.text_eq_ok_iff, FileTree.text_eq_ok_iff, h]

theorem text_toOption_eq (h : AgreeAt files files' p) :
    (files.text p).toOption = (files'.text p).toOption := by
  refine Option.ext fun s => ?_
  have hok : ∀ x : Except FileError String, x.toOption = some s ↔ x = .ok s := by
    intro x
    cases x <;> simp [Except.toOption]
  rw [hok, hok, h.text_eq_ok_iff]

/-- Where there is a file, reading it ends alike, also if it is no text. -/
theorem text_eq (h : AgreeAt files files' p) (hfile : files.isFile p = true) :
    files.text p = files'.text p := by
  obtain ⟨b, hb⟩ := FileTree.isFile_iff.mp hfile
  rw [FileTree.text, FileTree.text, hb, (h b).mp hb]

theorem load_eq (h : AgreeAt files files' p) (hfile : files.isFile p = true) :
    Declaration.load files p = Declaration.load files' p := by
  rw [Declaration.load, Declaration.load, h.text_eq hfile]

end AgreeAt

/-! ### The files of an integration -/

/-- The modules that evidence is taken from. -/
def evidenceModules : List String :=
  ["__init__", "config_flow", "coordinator", "models", "const", "diagnostics"] ++ entityPlatforms

namespace Integration

/-- The files that evidence about an integration is taken from. -/
def evidenceFiles (i : Integration) (config : Config) : List Path :=
  config.strictTypingFile :: evidenceModules.map i.moduleFile

/-- The files that an integration is judged by. -/
def ownFiles (i : Integration) (config : Config) : List Path :=
  i.declarationPath :: i.evidenceFiles config

end Integration

/-- The trees hold the same evidence about an integration. -/
def SameEvidence (config : Config) (i : Integration) (files files' : FileTree) : Prop :=
  ∀ p ∈ i.evidenceFiles config, AgreeAt files files' p

section Modules

variable {config : Config} {i : Integration} {files files' : FileTree} {name : String}

theorem SameEvidence.agreeAt_module (h : SameEvidence config i files files')
    (hm : name ∈ evidenceModules) : AgreeAt files files' (i.moduleFile name) :=
  h _ (List.mem_cons_of_mem _ (List.mem_map_of_mem hm))

theorem SameEvidence.hasModule_eq (h : SameEvidence config i files files')
    (hm : name ∈ evidenceModules) : i.hasModule files name = i.hasModule files' name :=
  (h.agreeAt_module hm).isFile_eq

theorem SameEvidence.moduleText?_eq (h : SameEvidence config i files files')
    (hm : name ∈ evidenceModules) : i.moduleText? files name = i.moduleText? files' name :=
  (h.agreeAt_module hm).text_toOption_eq

theorem SameEvidence.moduleShows_eq (h : SameEvidence config i files files')
    (hm : name ∈ evidenceModules) (question : List Char → Bool) :
    i.moduleShows files name question = i.moduleShows files' name question := by
  rw [Integration.moduleShows, Integration.moduleShows, h.moduleText?_eq hm]

theorem SameEvidence.declaresEntryType_eq (h : SameEvidence config i files files') :
    Evidence.declaresEntryType files i = Evidence.declaresEntryType files' i := by
  rw [Evidence.declaresEntryType, Evidence.declaresEntryType, Bool.eq_iff_iff, List.any_eq_true,
    List.any_eq_true]
  refine exists_congr fun name => and_congr_right fun hm => ?_
  have hmem : name ∈ evidenceModules := by
    revert name
    decide
  rw [h.moduleShows_eq hmem]

end Modules

/-! ### Validators that look at nothing else -/

/-- The validators of a catalog look at no files but those that evidence is taken from. -/
def Catalog.ReadsEvidence (c : Catalog) : Prop :=
  ∀ r ∈ c.rules, ∀ validate, r.validator = some validate → ∀ config i files files' done,
    SameEvidence config i files files' → validate config files i done = validate config files' i done

theorem Catalog.standard_readsEvidence : Catalog.standard.ReadsEvidence := by
  rw [Catalog.ReadsEvidence, Catalog.forall_standard_validator]
  have hflow : Evidence.flowModule ∈ evidenceModules := by decide
  have hsetup : Evidence.setupModule ∈ evidenceModules := by decide
  refine ⟨?_, ?_, ?_, ?_, ?_, ?_, ?_, ?_, ?_, ?_⟩ <;> intro config i files files' done h
  · simp only [Evidence.configFlow, h.hasModule_eq hflow]
  · unfold Evidence.runtimeData
    rw [h.moduleText?_eq hsetup, h.declaresEntryType_eq]
  · simp only [Evidence.uniqueConfigEntry, h.moduleShows_eq hflow]
  · simp only [Evidence.configEntryUnloading, h.moduleShows_eq hsetup]
  · refine List.filterMap_congr fun platform hp => ?_
    rw [h.moduleText?_eq (List.mem_append_right _ hp)]
  · simp only [Evidence.reauthenticationFlow, Evidence.flowStep, h.moduleShows_eq hflow]
  · have hm : "diagnostics" ∈ evidenceModules := by decide
    unfold Evidence.diagnostics
    rw [h.moduleText?_eq hm]
  · simp only [Evidence.discovery, h.moduleShows_eq hflow]
  · simp only [Evidence.reconfigurationFlow, Evidence.flowStep, h.moduleShows_eq hflow]
  · have hlist := (h _ List.mem_cons_self).text_toOption_eq
    simp only [Evidence.strictTyping, hlist]

/-! ### The verdict -/

section Verdict

variable {c : Checker} {config : Config} {i : Integration} {files files' : FileTree}

theorem validatorRuns_eq_of_sameEvidence {c : Catalog} (hc : c.ReadsEvidence)
    (h : SameEvidence config i files files') (done : NameSet) :
    validatorRuns c config files i done = validatorRuns c config files' i done := by
  rw [validatorRuns_eq_runsOn, validatorRuns_eq_runsOn]
  exact runsOn_congr _ fun r hr validate hrv => hc r hr validate hrv config i files files' done h

/-- A document is judged by the evidence. -/
theorem judge_eq_of_sameEvidence (hc : c.catalog.ReadsEvidence)
    (h : SameEvidence config i files files') (doc : Yaml.Value) :
    c.judge config files i doc = c.judge config files' i doc := by
  rw [Checker.judge, Checker.judge, validatorRuns_eq_of_sameEvidence hc h]

/-- Only a declaration that is there is read. -/
theorem Presence.hasFile_of_decide_eq_validate {x : Exemptions} {hasFile : Bool}
    (h : Presence.decide x i hasFile = .validate) : hasFile = true := by
  cases hasFile with
  | true => rfl
  | false =>
    rw [Presence.decide] at h
    revert h
    rcases Presence.classify x i with _ | (_ | _) | _ | _ <;> cases i.declaredTier <;>
      simp [Presence.check]

/-- **An integration is judged by its own files.** -/
theorem verdict_eq_of_own_files (hc : c.catalog.ReadsEvidence)
    (h : ∀ p ∈ i.ownFiles config, AgreeAt files files' p) :
    c.verdict config files i = c.verdict config files' i := by
  have hdeclaration : AgreeAt files files' i.declarationPath := h _ List.mem_cons_self
  have hevidence : SameEvidence config i files files' := fun p hp =>
    h p (List.mem_cons_of_mem _ hp)
  have hisFile := hdeclaration.isFile_eq
  cases houtcome : Presence.decide c.exemptions i (files.isFile i.declarationPath) with
  | skip =>
    rw [Checker.verdict_of_skip houtcome, Checker.verdict_of_skip (hisFile ▸ houtcome), hisFile]
  | breach b =>
    rw [Checker.verdict_of_breach houtcome, Checker.verdict_of_breach (hisFile ▸ houtcome)]
  | validate =>
    have hload := hdeclaration.load_eq (Presence.hasFile_of_decide_eq_validate houtcome)
    cases hdoc : Declaration.load files i.declarationPath with
    | error e =>
      rw [Checker.verdict_of_unreadable houtcome hdoc,
        Checker.verdict_of_unreadable (hisFile ▸ houtcome) (hload ▸ hdoc)]
    | ok doc =>
      rw [Checker.verdict_of_document houtcome hdoc,
        Checker.verdict_of_document (hisFile ▸ houtcome) (hload ▸ hdoc),
        judge_eq_of_sameEvidence hc hevidence]

end Verdict

/-- **What is found out about an integration depends on its own files only.**  Two checkouts in which
these are the same lead to the same findings and the same events. -/
theorem check_eq_of_own_files (x : Exemptions) (config : Config) (e : Entry)
    {files files' : FileTree}
    (h : ∀ p ∈ e.integration.ownFiles config, AgreeAt files files' p) :
    Checker.check ⟨Catalog.standard, x⟩ config files e =
        Checker.check ⟨Catalog.standard, x⟩ config files' e ∧
      Checker.events ⟨Catalog.standard, x⟩ config files e =
        Checker.events ⟨Catalog.standard, x⟩ config files' e := by
  have hverdict := verdict_eq_of_own_files (c := ⟨Catalog.standard, x⟩)
    Catalog.standard_readsEvidence h
  refine ⟨?_, ?_⟩
  · rw [Checker.check, Checker.check, Checker.findings, Checker.findings, hverdict]
  · rw [Checker.events, Checker.events, hverdict]

/-- The files of an integration that declares two rules done and shows evidence for one of them. -/
def halfProven : FileEntries :=
  [("__init__.py", .file "async def async_unload_entry(hass, entry):\n".toByteArray),
    ("quality_scale.yaml",
      .file "rules:\n  config-entry-unloading: done\n  diagnostics: done\n".toByteArray)]

/-- The integration with the files `halfProven`. -/
def halfProvenEntry : Entry where
  integration := { domain := "hue", path := ⟨"hue"⟩, core := true, qualityScale := some "bronze" }

/-- A checkout with this integration, a further file in its directory, and another integration. -/
def crowdedTree : FileTree :=
  ⟨.directory [("lamp", .directory [("diagnostics.py", .file "pass\n".toByteArray)]),
    ("hue", .directory (("helpers.py", .file "pass\n".toByteArray) :: halfProven))], []⟩

/-- The checkout when the other integration is removed. -/
def lamplessTree : FileTree :=
  crowdedTree.remove ⟨"lamp"⟩

/-- And when the further file is removed too. -/
def loneTree : FileTree :=
  lamplessTree.remove ⟨"hue/helpers.py"⟩

theorem check_eq_of_own_files_crowdedTree :
    (crowdedTree.isFile ⟨"hue/helpers.py"⟩ = true ∧ loneTree.isFile ⟨"hue/helpers.py"⟩ = false) ∧
    (crowdedTree.isFile ⟨"lamp/diagnostics.py"⟩ = true ∧
      loneTree.isFile ⟨"lamp/diagnostics.py"⟩ = false) ∧
    (∀ p ∈ halfProvenEntry.integration.ownFiles ⟨⟨"."⟩, none⟩, AgreeAt loneTree crowdedTree p) ∧
    (Checker.check ⟨Catalog.standard, .empty⟩ ⟨⟨"."⟩, none⟩ loneTree halfProvenEntry =
        Checker.check ⟨Catalog.standard, .empty⟩ ⟨⟨"."⟩, none⟩ crowdedTree halfProvenEntry ∧
      Checker.events ⟨Catalog.standard, .empty⟩ ⟨⟨"."⟩, none⟩ loneTree halfProvenEntry =
        Checker.events ⟨Catalog.standard, .empty⟩ ⟨⟨"."⟩, none⟩ crowdedTree halfProvenEntry) ∧
    (Checker.check ⟨Catalog.standard, .empty⟩ ⟨⟨"."⟩, none⟩ loneTree halfProvenEntry).findings.length
      = 3 := by
  have hlamp : ∀ p ∈ halfProvenEntry.integration.ownFiles ⟨⟨"."⟩, none⟩,
      crowdedTree.Avoids ⟨"lamp"⟩ p := by decide +kernel
  have hhelpers : ∀ p ∈ halfProvenEntry.integration.ownFiles ⟨⟨"."⟩, none⟩,
      lamplessTree.Avoids ⟨"hue/helpers.py"⟩ p := by decide +kernel
  have hagree : ∀ p ∈ halfProvenEntry.integration.ownFiles ⟨⟨"."⟩, none⟩,
      AgreeAt loneTree crowdedTree p := fun p hp b =>
    (hhelpers p hp).bytes_remove_iff.trans (hlamp p hp).bytes_remove_iff
  exact ⟨by decide +kernel, by decide +kernel, hagree, check_eq_of_own_files .empty _ _ hagree,
    by decide +kernel⟩

end QualityScale
