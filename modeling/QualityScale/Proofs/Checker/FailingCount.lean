import QualityScale.Proofs.Checker.CleanVerdict
import QualityScale.Proofs.Checker.EventTrace
import QualityScale.Proofs.Checker.RepeatedRuns
import QualityScale.Proofs.Command.Validation

/-!
# Two counts of failing integrations

The event that ends a run counts the integrations that have a finding of the checker.  The report on
the registry lists those that have a finding of any kind, and a finding about the manifest is one
that the checker did not make.  So the report lists more where a faulty manifest is all that is
wrong with an integration, as far as the checker can see.

* `Integration.category_of_mem_load`: what is found while loading is about the manifest.
* `failing_add_overlooked`: the listed integrations are those counted, and those with a faulty
  manifest that pass the check.  The counts agree exactly if there are none of these.
* `failing_ne_listed`: a checkout with one.
-/

namespace QualityScale

/-! ### Findings of loading and of checking -/

theorem Integration.category_of_mem_load {files : FileTree} {directory : Path} {core : Bool}
    {f : Finding} (h : f ∈ (load files directory core).findings) : f.category = "manifest" := by
  obtain ⟨fault, -, rfl⟩ := List.mem_map.mp h
  rfl

theorem Registry.category_of_loaded {files : FileTree} {components : Path} {core : Bool}
    {config : Config} {r : Registry} {loading : Trace}
    (h : load files components core config = .ok (r, loading)) {e : Entry} (he : e ∈ r.values)
    {f : Finding} (hf : f ∈ e.findings) : f.category = "manifest" := by
  obtain ⟨⟨domain, _⟩, hentry, rfl⟩ := List.mem_map.mp he
  obtain ⟨name, -, -, rfl⟩ := (mem_entries_iff h).mp hentry
  exact Integration.category_of_mem_load hf

section Entry

variable {c : Checker} {config : Config} {files : FileTree} {e : Entry}

theorem Checker.findings_eq_nil_iff :
    c.findings config files e.integration = [] ↔ Clean c config files e.integration := by
  rw [Checker.findings, Verdict.findings, List.map_eq_nil_iff, messages_verdict_eq_nil_iff]

/-- Where nothing is found before, or all of it is about the manifest, an entry has a finding of the
checker exactly if the check finds something. -/
theorem Checker.exists_ofChecker_iff (hbefore : ∀ f ∈ e.findings, f.category = "manifest") :
    (∃ f ∈ (c.check config files e).findings, f.OfChecker) ↔
      c.findings config files e.integration ≠ [] := by
  constructor
  · rintro ⟨f, hf, hchecker⟩
    rcases List.mem_append.mp hf with hold | hnew
    · have hsame : "manifest" = "quality_scale" := (hbefore f hold).symm.trans hchecker
      exact absurd hsame (by decide)
    · exact List.ne_nil_of_mem hnew
  · intro hfound
    obtain ⟨f, hf⟩ := List.exists_mem_of_ne_nil _ hfound
    exact ⟨f, List.mem_append_right _ hf, Checker.category_of_mem_findings hf⟩

end Entry

/-! ### The counts -/

/-- The entry has findings, and the check finds nothing about it. -/
structure Checker.Overlooks (c : Checker) (config : Config) (files : FileTree) (e : Entry) :
    Prop where
  faulty : e.findings ≠ []
  passes : c.findings config files e.integration = []

instance (c : Checker) (config : Config) (files : FileTree) :
    DecidablePred (c.Overlooks config files) := fun e =>
  decidable_of_iff (e.findings ≠ [] ∧ c.findings config files e.integration = [])
    ⟨fun h => ⟨h.1, h.2⟩, fun h => ⟨h.faulty, h.passes⟩⟩

/-- The number of entries that the checker overlooks. -/
def Checker.overlooked (c : Checker) (config : Config) (files : FileTree) (r : Registry) : Nat :=
  r.values.countP fun e => c.Overlooks config files e

section Counts

variable {files : FileTree} {components : Path} {core : Bool} {config : Config} {r : Registry}
  {loading : Trace}

theorem Checker.overlooked_eq_zero_iff {c : Checker} :
    c.overlooked config files r = 0 ↔
      ∀ e ∈ r.values, e.findings ≠ [] → ¬ Clean c config files e.integration := by
  rw [overlooked, List.countP_eq_zero]
  refine forall₂_congr fun e _ => ?_
  rw [decide_eq_true_iff, ← Checker.findings_eq_nil_iff]
  constructor
  · intro hnot hfaulty hpasses
    exact hnot ⟨hfaulty, hpasses⟩
  · intro hfound hoverlooks
    exact hfound hoverlooks.faulty hoverlooks.passes

/-- In a registry that was just loaded, those are failing about which the check finds something. -/
theorem Checker.failing_checkAll (c : Checker)
    (h : Registry.load files components core config = .ok (r, loading)) :
    failing (c.checkAll config files r) =
      r.values.countP fun e => c.findings config files e.integration ≠ [] := by
  rw [failing_eq, checkAll, NameMap.values_map, List.countP_map]
  refine List.countP_congr fun e he => ?_
  rw [decide_eq_true_iff]
  show decide (∃ f ∈ (c.check config files e).findings, f.OfChecker) = true ↔ _
  rw [decide_eq_true_iff]
  exact Checker.exists_ofChecker_iff fun f hf => Registry.category_of_loaded h he hf

/-- The entries with findings after a check are those about which it finds something, and those
that it overlooks. -/
theorem Checker.faulty_checkAll (c : Checker) (r : Registry) :
    (c.checkAll config files r).faulty =
      r.values.countP (fun e => c.findings config files e.integration ≠ []) +
        c.overlooked config files r := by
  let found := fun e : Entry => decide (c.findings config files e.integration ≠ [])
  let faulty := fun e : Entry => !(c.check config files e).findings.isEmpty
  have hfaulty (e : Entry) : faulty e = true ↔ e.findings ≠ [] ∨ found e = true := by
    rw [Bool.not_eq_true', List.isEmpty_eq_false_iff, Checker.check, Entry.findings_report,
      ne_eq, List.append_eq_nil_iff, not_and_or, decide_eq_true_iff]
  -- An entry has findings afterwards for one of two reasons, and both may hold of it.  So the
  -- entries are first divided by whether the check finds something.
  have hsplit : r.values.countP faulty =
      (r.values.filter found).countP faulty + (r.values.filter (!found ·)).countP faulty :=
    List.countP_eq_countP_filter_add r.values faulty found
  have hfound : (r.values.filter found).countP faulty = r.values.countP found := by
    rw [List.countP_filter]
    refine List.countP_congr fun e _ => ?_
    rw [Bool.and_eq_true, hfaulty]
    exact ⟨And.right, fun hf => ⟨.inr hf, hf⟩⟩
  have hoverlooked : (r.values.filter (!found ·)).countP faulty = c.overlooked config files r := by
    rw [List.countP_filter, Checker.overlooked]
    refine List.countP_congr fun e _ => ?_
    rw [Bool.and_eq_true, hfaulty, Bool.not_eq_true', decide_eq_true_iff, decide_eq_false_iff_not,
      decide_eq_true_iff, not_not]
    constructor
    · rintro ⟨hf, hnone⟩
      exact ⟨hf.resolve_right (not_not_intro hnone), hnone⟩
    · intro hoverlooks
      exact ⟨.inl hoverlooks.faulty, hoverlooks.passes⟩
  rw [Registry.faulty, ← List.countP_eq_length_filter, checkAll, NameMap.values_map,
    List.countP_map]
  calc r.values.countP faulty
      = (r.values.filter found).countP faulty + (r.values.filter (!found ·)).countP faulty :=
        hsplit
    _ = r.values.countP found + c.overlooked config files r := by rw [hfound, hoverlooked]

end Counts

/-- **The counts differ by the integrations that only loading finds fault with.**  The event that
ends the check of a loaded registry counts the listed integrations less those that have a faulty
manifest and pass the check; there are none of these exactly if the two counts agree. -/
theorem failing_add_overlooked (c : Checker) {files : FileTree} {components : Path} {core : Bool}
    {config : Config} {r : Registry} {loading : Trace}
    (h : Registry.load files components core config = .ok (r, loading)) :
    let listed := (Report.ofRegistry (c.checkAll config files r)).integrations.length
    ∃ failing,
      (c.trace config files r).getLast? = some ⟨none, .validationFinished r.size failing⟩ ∧
      failing + c.overlooked config files r = listed ∧
      (failing = listed ↔
        ∀ e ∈ r.values, e.findings ≠ [] → ¬ Clean c config files e.integration) := by
  intro listed
  have hlast : (c.trace config files r).getLast? = some ⟨none,
      .validationFinished r.size (Checker.failing (c.checkAll config files r))⟩ :=
    List.getLast?_concat
  have hsum : Checker.failing (c.checkAll config files r) + c.overlooked config files r =
      listed := by
    rw [c.failing_checkAll h, ← c.faulty_checkAll, ← Report.length_integrations_ofRegistry]
  refine ⟨_, hlast, hsum, ?_⟩
  rw [← Checker.overlooked_eq_zero_iff]
  omega

/-! ### A faulty manifest that only loading finds fault with -/

/-- A checkout in which the manifests of `abode` and `hue` are no JSON, and `lamp` has nothing but a
manifest. -/
def brokenManifests : FileTree :=
  ⟨.directory [("components", .directory [
    ("abode", .directory [("manifest.json", .file "\x7b not json".toByteArray)]),
    ("hue", .directory [("manifest.json", .file "\x7b not json".toByteArray)]),
    ("lamp", .directory [("manifest.json", .file "\x7b\x7d".toByteArray)])])], []⟩

/-- The checker of the standard rules that lets the given domains go without a declaration. -/
def lenient (domains : List String) : Checker :=
  ⟨Catalog.standard, .empty, .ofList domains⟩

/-- The settings of a run about the named integrations. -/
def about (wanted : List String) : Config :=
  ⟨⟨"."⟩, some wanted⟩

/-- The registry of the named integrations of `brokenManifests`, and what happens while it is
loaded. -/
def brokenRegistry (wanted : List String) : Registry × Trace :=
  Registry.loadListing brokenManifests ⟨"components"⟩ true (about wanted)
    (brokenManifests.names ⟨"components"⟩)

theorem load_brokenManifests (wanted : List String) :
    Registry.load brokenManifests ⟨"components"⟩ true (about wanted) =
      .ok ((brokenRegistry wanted).1, (brokenRegistry wanted).2) :=
  if_pos (by decide +kernel)

/-- With `abode` free of the duty, its manifest is all that is wrong with it; of the others one is
counted and listed with a faulty manifest and one without. -/
theorem failing_add_overlooked_brokenManifests :
    let wanted := ["abode", "hue", "lamp"]
    let r := (brokenRegistry wanted).1
    let listed := (Report.ofRegistry
      ((lenient ["abode"]).checkAll (about wanted) brokenManifests r)).integrations.length
    Registry.load brokenManifests ⟨"components"⟩ true (about wanted) =
      .ok (r, (brokenRegistry wanted).2) ∧
    (lenient ["abode"]).overlooked (about wanted) brokenManifests r = 1 ∧ listed = 3 ∧
    ∃ failing,
      ((lenient ["abode"]).trace (about wanted) brokenManifests r).getLast? =
        some ⟨none, .validationFinished r.size failing⟩ ∧
      failing + (lenient ["abode"]).overlooked (about wanted) brokenManifests r = listed ∧
      (failing = listed ↔ ∀ e ∈ r.values, e.findings ≠ [] →
        ¬ Clean (lenient ["abode"]) (about wanted) brokenManifests e.integration) := by
  intro wanted r listed
  exact ⟨load_brokenManifests wanted, by decide +kernel, by decide +kernel,
    failing_add_overlooked (lenient ["abode"]) (load_brokenManifests wanted)⟩

/-- **The counts can differ**: with a domain that is free of the duty, a manifest that is no JSON is
listed in the report and not counted at the end of the check. -/
theorem failing_ne_listed :
    let r := (brokenRegistry ["abode"]).1
    Registry.load brokenManifests ⟨"components"⟩ true (about ["abode"]) =
      .ok (r, (brokenRegistry ["abode"]).2) ∧
    ((lenient ["abode"]).trace (about ["abode"]) brokenManifests r).getLast? =
      some ⟨none, .validationFinished 1 0⟩ ∧
    (Report.ofRegistry
      ((lenient ["abode"]).checkAll (about ["abode"]) brokenManifests r)).integrations.length =
        1 := by
  exact ⟨load_brokenManifests ["abode"], by decide +kernel, by decide +kernel⟩

end QualityScale
