import Mathlib.Data.List.Sort
import QualityScale.Command.Run
import QualityScale.Proofs.Registry.Loading

/-!
# What a run of the program tells

The command that validates loads a registry, checks it and reports on it.  Its exit code and what
it prints tell the state of the registry then.

* `InForce files file x`: with this file of exemptions, if any, the exemptions `x` are in force.
* `Validates files root wanted file r`: a run with these arguments ends with the registry `r`.  There
  is one exactly if the exemptions can be taken from the file and there is a components directory
  (`exists_validates_iff`).
* `Reports r report`: the report says all there is to say about the registry.  There is only one
  that does (`Reports.unique`).
* `blockLines`: the lines that are printed about one integration.  A report is printed as the lines
  about its integrations (`Report.text_eq`).
* `validate_tells_registry`: the run succeeds exactly if nothing was found about any integration,
  and what it prints are the lines of such a report and the right totals.
-/

namespace QualityScale

/-! ### Reports -/

/-- **A report on a registry.** -/
structure Reports (r : Registry) (report : Report) : Prop where
  checked : report.checked = r.size
  /-- The integrations come in the order of their domains, and none comes twice. -/
  ascending : (report.integrations.map (·.domain)).Pairwise (· < ·)
  /-- They are those about which something was found, each with all that was found, in order. -/
  listed : ∀ i, i ∈ report.integrations ↔
    ∃ e ∈ r.values, e.findings ≠ [] ∧ i = ⟨e.integration.domain, e.findings⟩

/-- There is one report on a registry. -/
theorem Reports.unique {r : Registry} {report report' : Report} (h : Reports r report)
    (h' : Reports r report') : report = report' := by
  obtain ⟨checked, integrations⟩ := report
  obtain ⟨checked', integrations'⟩ := report'
  have hsame : integrations = integrations' := by
    have hlist := List.pairwise_map.mp h.ascending
    have hlist' := List.pairwise_map.mp h'.ascending
    have : Std.Irrefl fun i j : IntegrationReport => i.domain < j.domain :=
      ⟨fun i => String.lt_irrefl i.domain⟩
    have : Std.Antisymm fun i j : IntegrationReport => i.domain < j.domain :=
      ⟨fun _ _ hij hji => absurd (String.lt_trans hij hji) (String.lt_irrefl _)⟩
    exact hlist.eq_of_mem_iff hlist' fun i => (h.listed i).trans (h'.listed i).symm
  rw [show checked = checked' from h.checked.trans h'.checked.symm, hsame]

namespace Registry

/-- The number of integrations about which something was found. -/
def faulty (r : Registry) : Nat :=
  (r.values.filter fun e => !e.findings.isEmpty).length

/-- The number of findings about all integrations together. -/
def totalFindings (r : Registry) : Nat :=
  r.values.foldr (fun e n => e.findings.length + n) 0

end Registry

/-- **The lines about one integration**: its domain, a line for each finding, and an empty line. -/
def blockLines (i : IntegrationReport) : List String :=
  ("Integration " ++ i.domain ++ ":") ::
    (i.findings.map fun f => " * [" ++ f.category ++ "] " ++ f.message) ++ [""]

/-- Lines as they are printed. -/
def printed (lines : List String) : String :=
  String.join (lines.map fun line => line ++ "\n")

theorem printed_singleton (line : String) : printed [line] = line ++ "\n" := by
  rw [printed, List.map_singleton, String.join_cons, String.join_nil, String.append_empty]

theorem printed_append (lines rest : List String) :
    printed (lines ++ rest) = printed lines ++ printed rest := by
  rw [printed, List.map_append, String.join_append]
  rfl

namespace Report

theorem block_eq (i : IntegrationReport) : block i = printed (blockLines i) := by
  have hdomain : "Integration " ++ i.domain ++ ":" ++ "\n" = s!"Integration {i.domain}:\n" :=
    String.append_assoc
  rw [blockLines, printed_append, printed, List.map_cons, String.join_cons, hdomain, List.map_map]
  rfl

/-- **A report is printed as the lines about its integrations**, one after the other. -/
theorem text_eq (r : Report) : r.text = printed (r.integrations.flatMap blockLines) := by
  rw [text]
  induction r.integrations with
  | nil => rfl
  | cons i is ih =>
    rw [List.map_cons, String.join_cons, ih, block_eq, List.flatMap_cons, printed_append]

variable {r : Registry}

/-- Where entries stand under the domains of their integrations, the report on a registry is one. -/
theorem reports_ofRegistry (h : r.keys = r.values.map (·.integration.domain)) :
    Reports r (ofRegistry r) := by
  refine ⟨rfl, ?_, fun i => ?_⟩
  · have hascending : (r.values.map (·.integration.domain)).Pairwise (· < ·) := h ▸ r.ascending
    rw [ofRegistry, List.map_map]
    exact hascending.sublist (List.filter_sublist.map _)
  · rw [ofRegistry, List.mem_map]
    constructor
    · rintro ⟨e, he, rfl⟩
      obtain ⟨hmem, hfound⟩ := List.mem_filter.mp he
      exact ⟨e, hmem, by simpa using hfound, rfl⟩
    · rintro ⟨e, hmem, hfound, rfl⟩
      exact ⟨e, List.mem_filter.mpr ⟨hmem, by simpa using hfound⟩, rfl⟩

theorem hasFindings_ofRegistry_eq_false_iff :
    (ofRegistry r).hasFindings = false ↔ ∀ e ∈ r.values, e.findings = [] := by
  rw [hasFindings, ofRegistry, Bool.not_eq_false', List.isEmpty_iff, List.map_eq_nil_iff,
    List.filter_eq_nil_iff]
  exact forall₂_congr fun e _ => by simp

theorem length_integrations_ofRegistry : (ofRegistry r).integrations.length = r.faulty := by
  rw [ofRegistry, List.length_map, Registry.faulty]

/-- Entries without findings add nothing to the count. -/
theorem count_ofRegistry : (ofRegistry r).count = r.totalFindings := by
  rw [count, ofRegistry, Registry.totalFindings]
  induction r.values with
  | nil => rfl
  | cons e es ih =>
    rw [List.foldr_cons, ← ih, List.filter_cons]
    by_cases hnone : e.findings = []
    · simp [hnone]
    · simp [hnone]

end Report

namespace Command

/-! ### Registries that a run ends with -/

/-- The exemptions in force, given a file of further ones or none. -/
inductive InForce (files : FileTree) : Option Path → Exemptions → Prop
  | builtin : InForce files none .builtin
  | merged {file : Path} {x : Exemptions} :
      Exemptions.load files file = .ok x → InForce files (some file) (Exemptions.builtin.merge x)

theorem exemptionsInForce_eq_ok_iff {files : FileTree} {file : Option Path} {x : Exemptions} :
    exemptionsInForce files file = .ok x ↔ InForce files file x := by
  cases file with
  | none =>
    rw [exemptionsInForce, Except.ok.injEq]
    exact ⟨fun h => h ▸ .builtin, fun h => by cases h; rfl⟩
  | some file =>
    rw [exemptionsInForce]
    constructor
    · intro h
      cases hload : Exemptions.load files file with
      | error e =>
        rw [hload] at h
        cases h
      | ok extra =>
        rw [hload] at h
        cases h
        exact .merged hload
    · intro h
      cases h with
      | merged hload =>
        rw [hload]
        rfl

/-- The settings of a run about the integrations that are asked for. -/
def settings (root : Path) (wanted : List String) : Config :=
  ({ root } : Config).withSpecific wanted

/-- **A run ends with this registry**: it is loaded, and checked with the exemptions in force. -/
inductive Validates (files : FileTree) (root : Path) (wanted : List String)
    (file : Option Path) : Registry → Prop
  | intro {x : Exemptions} {loaded : Registry} {loading : Trace} (inForce : InForce files file x)
      (load : Registry.load files (settings root wanted).componentsDirectory true
        (settings root wanted) = .ok (loaded, loading)) :
      Validates files root wanted file
        (Checker.checkAll ⟨Catalog.standard, x⟩ (settings root wanted) files loaded)

section Validates

variable {files : FileTree} {root : Path} {wanted : List String} {file : Option Path}
  {r : Registry}

theorem exists_validates_iff (files : FileTree) (root : Path) (wanted : List String)
    (file : Option Path) :
    (∃ r, Validates files root wanted file r) ↔
      (∃ x, InForce files file x) ∧
        files.isDirectory (root.child "homeassistant/components") = true := by
  constructor
  · rintro ⟨_, inForce, load⟩
    exact ⟨⟨_, inForce⟩, Registry.isDirectory_of_load load⟩
  · rintro ⟨⟨x, inForce⟩, hdir⟩
    exact ⟨_, .intro inForce (if_pos hdir)⟩

theorem Validates.keys_eq_domains (h : Validates files root wanted file r) :
    r.keys = r.values.map (·.integration.domain) := by
  obtain ⟨-, load⟩ := h
  -- A check leaves the keys and the integrations as they were loaded.
  rw [Checker.checkAll, NameMap.keys_map, Registry.keys_eq_domains load, NameMap.values_map,
    List.map_map]
  rfl

/-- What is found while loading is found at the end. -/
theorem Validates.findings_isPrefix (h : Validates files root wanted file r) {loaded : Registry}
    {loading : Trace}
    (hload : Registry.load files (settings root wanted).componentsDirectory true
      (settings root wanted) = .ok (loaded, loading)) {e : Entry} (he : e ∈ loaded.values) :
    ∃ e' ∈ r.values, e.findings <+: e'.findings := by
  obtain ⟨-, load⟩ := h
  obtain ⟨rfl, -⟩ := Prod.mk.inj (Except.ok.inj (load.symm.trans hload))
  rw [Checker.checkAll, NameMap.values_map]
  exact ⟨_, List.mem_map_of_mem he, List.prefix_append ..⟩

/-- **A run is through with loading and checking exactly if it ends with a registry.** -/
theorem validateRegistry_eq_ok_iff :
    (∃ trace, validateRegistry files root wanted file = .ok (r, trace)) ↔
      Validates files root wanted file r := by
  constructor
  · rintro ⟨trace, h⟩
    rw [validateRegistry] at h
    cases hx : exemptionsInForce files file with
    | error e =>
      rw [hx] at h
      cases h
    | ok x =>
      rw [hx] at h
      cases hload : Registry.load files (settings root wanted).componentsDirectory true
          (settings root wanted) with
      | error e =>
        simp only [settings] at hload
        simp only [Except.mapError, bind, Except.bind, hload] at h
        cases h
      | ok loaded =>
        have hvalidates := Validates.intro (exemptionsInForce_eq_ok_iff.mp hx) hload
        simp only [settings] at hload
        simp only [Except.mapError, bind, Except.bind, hload] at h
        cases h
        exact hvalidates
  · rintro ⟨inForce, load⟩
    rw [validateRegistry, exemptionsInForce_eq_ok_iff.mpr inForce]
    simp only [settings] at load
    simp only [Except.mapError, bind, Except.bind, load]
    exact ⟨_, rfl⟩

end Validates

/-! ### The run -/

/-- The output of a run that ends with a registry, and its exit code. -/
theorem validate_of_validates {files : FileTree} {root : Path} {wanted : List String}
    {file : Option Path} {r : Registry} (h : Validates files root wanted file r) (json : Bool) :
    (validate files root wanted file json).output = printReport json (Report.ofRegistry r) ∧
      ((validate files root wanted file json).code = 0 ↔ ∀ e ∈ r.values, e.findings = []) := by
  obtain ⟨trace, hok⟩ := validateRegistry_eq_ok_iff.mpr h
  rw [validate, hok, ← Report.hasFindings_ofRegistry_eq_false_iff]
  cases hfound : (Report.ofRegistry r).hasFindings <;> simp [hfound, failureCode]

theorem validate_code_of_not_validates {files : FileTree} {root : Path} {wanted : List String}
    {file : Option Path} (h : ¬ ∃ r, Validates files root wanted file r) (json : Bool) :
    (validate files root wanted file json).code = failureCode := by
  rw [validate]
  cases hok : validateRegistry files root wanted file with
  | error failure => rfl
  | ok ended => exact absurd ⟨ended.1, validateRegistry_eq_ok_iff.mp ⟨ended.2, hok⟩⟩ h

/-- **A validation succeeds exactly if it ends with a registry about which nothing was found.** -/
theorem validate_code_eq_zero_iff (files : FileTree) (root : Path) (wanted : List String)
    (file : Option Path) (json : Bool) :
    (validate files root wanted file json).code = 0 ↔
      (∃ x, InForce files file x) ∧
        files.isDirectory (root.child "homeassistant/components") = true ∧
        ∀ r, Validates files root wanted file r → ∀ e ∈ r.values, e.findings = [] := by
  rw [← and_assoc, ← exists_validates_iff files root wanted file]
  constructor
  · intro hcode
    by_cases hends : ∃ r, Validates files root wanted file r
    · refine ⟨hends, fun r hr => ?_⟩
      exact (validate_of_validates hr json).2.mp hcode
    · exact absurd (hcode.symm.trans (validate_code_of_not_validates hends json)) (by decide)
  · rintro ⟨⟨r, hr⟩, hclean⟩
    exact (validate_of_validates hr json).2.mpr (hclean r hr)

theorem printReport_ofRegistry (r : Registry) (json : Bool) :
    printReport json (Report.ofRegistry r) =
      if json then (Report.ofRegistry r).toJson.prettyText ++ "\n"
      else printed ((Report.ofRegistry r).integrations.flatMap blockLines ++
        [s!"Checked {r.size} integrations: {r.faulty} with errors ({r.totalFindings} errors)"]) := by
  rw [printReport, Report.summary, Report.length_integrations_ofRegistry, Report.count_ofRegistry,
    Report.text_eq, printed_append, printed_singleton]
  cases json with
  | true => rfl
  | false => exact String.append_assoc

/-- **The exit code and the output of a validation tell the state of the registry.**  It succeeds
exactly if the exemptions can be had, there is a components directory, and nothing is found about
any integration.  With the exemptions and the directory it prints the lines of a report on the
registry, and the totals after them count what the registry holds.  Any command line that asks for
the validation has this exit code and this output. -/
theorem validate_tells_registry (files : FileTree) (root : Path) (wanted : List String)
    (file : Option Path) (json : Bool) :
    let result := perform files json (.validate root wanted file)
    (result.code = 0 ↔
      (∃ x, InForce files file x) ∧
        files.isDirectory (root.child "homeassistant/components") = true ∧
        ∀ r, Validates files root wanted file r → ∀ e ∈ r.values, e.findings = []) ∧
    ((∃ x, InForce files file x) →
      files.isDirectory (root.child "homeassistant/components") = true →
      ∃ r report, Validates files root wanted file r ∧ Reports r report ∧
        result.output =
          if json then report.toJson.prettyText ++ "\n"
          else printed (report.integrations.flatMap blockLines ++
            [s!"Checked {r.size} integrations: {r.faulty} with errors ({r.totalFindings} errors)"])) ∧
    ∀ environment arguments verbose,
      Request.ofArguments? environment arguments =
          some ⟨.validate root wanted file, json, verbose⟩ →
        (run files environment arguments).code = result.code ∧
          (run files environment arguments).output = result.output := by
  intro result
  refine ⟨?_, fun hx hdir => ?_, fun environment arguments verbose h => ?_⟩
  · exact validate_code_eq_zero_iff files root wanted file json
  · obtain ⟨r, hr⟩ := (exists_validates_iff files root wanted file).mpr ⟨hx, hdir⟩
    exact ⟨r, _, hr, Report.reports_ofRegistry hr.keys_eq_domains,
      (validate_of_validates hr json).1.trans (printReport_ofRegistry r json)⟩
  · rw [run, h]
    exact ⟨rfl, rfl⟩

/-- A checkout with three integrations, and a file of exemptions beside it.  The manifest of `b`
gives the domain `lamp`, that of `c` is no object, and that of `d` gives the domain `a`, under which
a rule is declared done. -/
def faultyCheckout : FileTree :=
  ⟨.directory [
    ("extra.yaml", .file "no_quality_scale: [zone2]\nwithout_file: [lamp]\n".toByteArray),
    ("repo", .directory [("homeassistant", .directory [("components", .directory [
      ("b", .directory [("manifest.json", .file "\x7b\"domain\": \"lamp\"\x7d".toByteArray)]),
      ("c", .directory [("manifest.json", .file "[]".toByteArray)]),
      ("d", .directory [("manifest.json", .file "\x7b\"domain\": \"a\"\x7d".toByteArray),
        ("quality_scale.yaml", .file "rules:\n  diagnostics: done\n".toByteArray)])])])])], []⟩

theorem inForce_faultyCheckout : ∃ x, InForce faultyCheckout (some ⟨"extra.yaml"⟩) x := by
  have hloads : (exemptionsInForce faultyCheckout (some ⟨"extra.yaml"⟩)).isOk = true := by
    decide +kernel
  cases hforce : exemptionsInForce faultyCheckout (some ⟨"extra.yaml"⟩) with
  | error e =>
    rw [hforce] at hloads
    cases hloads
  | ok x => exact ⟨x, exemptionsInForce_eq_ok_iff.mp hforce⟩

/-- The settings of a run about all integrations of `faultyCheckout`. -/
def faultySettings : Config := settings ⟨"repo"⟩ []

/-- The registry loaded from `faultyCheckout`, and what happens meanwhile. -/
def faultyLoaded : Registry × Trace :=
  Registry.loadListing faultyCheckout faultySettings.componentsDirectory true faultySettings
    (faultyCheckout.names faultySettings.componentsDirectory)

theorem load_faultyCheckout :
    Registry.load faultyCheckout faultySettings.componentsDirectory true faultySettings =
      .ok faultyLoaded :=
  if_pos (by decide +kernel)

/-- The command line that asks for its validation with the further exemptions. -/
def faultyArguments : List String :=
  ["validate", "--root", "repo", "--exemptions", "extra.yaml"]

theorem ofArguments?_faultyArguments :
    Request.ofArguments? {} faultyArguments =
      some ⟨.validate ⟨"repo"⟩ [] (some ⟨"extra.yaml"⟩), false, false⟩ := by
  decide +kernel

theorem validate_tells_registry_faultyCheckout :
    (∃ x, InForce faultyCheckout (some ⟨"extra.yaml"⟩) x) ∧
    faultyCheckout.isDirectory (Path.child ⟨"repo"⟩ "homeassistant/components") = true ∧
    (∃ r report, Validates faultyCheckout ⟨"repo"⟩ [] (some ⟨"extra.yaml"⟩) r ∧ Reports r report ∧
      (run faultyCheckout {} faultyArguments).output =
        printed (report.integrations.flatMap blockLines ++
          [s!"Checked {r.size} integrations: {r.faulty} with errors ({r.totalFindings} errors)"])) ∧
    ¬ (run faultyCheckout {} faultyArguments).code = 0 := by
  have hdir : faultyCheckout.isDirectory (Path.child ⟨"repo"⟩ "homeassistant/components") = true := by
    decide +kernel
  have htells := validate_tells_registry faultyCheckout ⟨"repo"⟩ [] (some ⟨"extra.yaml"⟩) false
  obtain ⟨hcode, houtput⟩ := htells.2.2 {} faultyArguments false ofArguments?_faultyArguments
  obtain ⟨r, report, hr, hreports, hprinted⟩ := htells.2.1 inForce_faultyCheckout hdir
  refine ⟨inForce_faultyCheckout, hdir, ⟨r, report, hr, hreports, houtput.trans hprinted⟩,
    fun hzero => ?_⟩
  -- What is wrong with a manifest is found while loading.
  have hloaded : ∃ e ∈ faultyLoaded.1.values, e.findings ≠ [] := by decide +kernel
  obtain ⟨e, he, hfound⟩ := hloaded
  obtain ⟨e', he', hprefix⟩ := hr.findings_isPrefix load_faultyCheckout he
  have hnone : e'.findings = [] := (htells.1.mp (hcode.symm.trans hzero)).2.2 r hr e' he'
  rw [hnone] at hprefix
  exact hfound (List.prefix_nil.mp hprefix)

end Command

end QualityScale
