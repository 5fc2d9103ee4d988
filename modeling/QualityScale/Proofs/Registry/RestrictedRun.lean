import QualityScale.Proofs.Checker.Dispatch
import QualityScale.Proofs.Config.PathRequest

/-!
# Runs about some integrations

A run can be asked to look at some integrations only.  It leaves out directories before they are
loaded, and integrations are stored by their domains, so another directory may win a domain than in
a run about all of them.  Nothing else can differ: `restricted_run_agrees`.

* `EndsWith x files root core wanted r`: the run about the integrations `wanted` ends with `r`.
* `Catalog.IgnoresRequest`: the validators of a catalog do not ask which integrations a run is about.
* `EndsWith.mem_entries_iff`: the entries at the end of a run, of which only the choice of the
  directories depends on what was asked for.
-/

namespace QualityScale

open Command (settings)
open Registry (Loads Kept domainAt)

/-- **The run about these integrations ends with this registry.**  An empty list asks for all. -/
inductive EndsWith (x : Exemptions) (files : FileTree) (root : Path) (core : Bool)
    (wanted : List String) : Registry → Prop
  | intro {loaded : Registry} {loading : Trace}
      (load : Registry.load files (root.child "homeassistant/components") core
        (settings root wanted) = .ok (loaded, loading)) :
      EndsWith x files root core wanted
        (Checker.checkAll ⟨Catalog.standard, x⟩ (settings root wanted) files loaded)

theorem exists_endsWith_iff (x : Exemptions) (files : FileTree) (root : Path) (core : Bool)
    (wanted : List String) :
    (∃ r, EndsWith x files root core wanted r) ↔
      files.isDirectory (root.child "homeassistant/components") = true := by
  constructor
  · rintro ⟨_, ⟨load⟩⟩
    exact Registry.isDirectory_of_load load
  · intro hdir
    exact ⟨_, .intro (if_pos hdir)⟩

/-! ### What a check takes from the settings -/

/-- The validators of a catalog take no notice of what a run is asked for. -/
def Catalog.IgnoresRequest (c : Catalog) : Prop :=
  ∀ r ∈ c.rules, ∀ validate, r.validator = some validate → ∀ root wanted files i done,
    validate (settings root wanted) files i done = validate (settings root []) files i done

theorem Catalog.standard_ignoresRequest : Catalog.standard.IgnoresRequest := by
  rw [Catalog.IgnoresRequest, Catalog.forall_standard_validator]
  refine ⟨?_, ?_, ?_, ?_, ?_, ?_, ?_, ?_, ?_, ?_⟩ <;> intro root wanted files i done <;> rfl

section Check

variable {c : Checker} {files : FileTree}

theorem judge_settings (hc : c.catalog.IgnoresRequest) (root : Path) (wanted : List String)
    (i : Integration) (doc : Yaml.Value) :
    c.judge (settings root wanted) files i doc = c.judge (settings root []) files i doc := by
  rw [Checker.judge, Checker.judge, validatorRuns_eq_runsOn, validatorRuns_eq_runsOn,
    runsOn_congr _ fun r hr validate hv => hc r hr validate hv root wanted files i _]

theorem check_settings (hc : c.catalog.IgnoresRequest) (root : Path) (wanted : List String)
    (e : Entry) :
    c.check (settings root wanted) files e = c.check (settings root []) files e := by
  have hverdict : c.verdict (settings root wanted) files e.integration =
      c.verdict (settings root []) files e.integration := by
    simp only [Checker.verdict, judge_settings hc root wanted]
  rw [Checker.check, Checker.check, Checker.findings, Checker.findings, hverdict]

end Check

/-! ### The entries at the end of a run -/

section Runs

variable {x : Exemptions} {files : FileTree} {root : Path} {core : Bool} {wanted : List String}

/-- The entry of the directory of this name at the end of a run. -/
def finalEntry (x : Exemptions) (files : FileTree) (root : Path) (core : Bool) (name : String) :
    Entry :=
  Checker.check ⟨Catalog.standard, x⟩ (settings root []) files
    (Integration.load files ((root.child "homeassistant/components").child name) core)

theorem path_finalEntry (name : String) :
    (finalEntry x files root core name).integration.path =
      (root.child "homeassistant/components").child name := by
  rw [finalEntry, Checker.check, Entry.integration_report, Integration.path_load]

/-- **The entries at the end of a run** are those of the directories that are kept.  What becomes of
such a directory is the same whatever the run is asked for. -/
theorem EndsWith.mem_entries_iff {r : Registry} (h : EndsWith x files root core wanted r)
    {p : String × Entry} :
    p ∈ r.entries ↔
      ∃ name, Kept files (root.child "homeassistant/components") core (settings root wanted) name ∧
        p = (domainAt files (root.child "homeassistant/components") core name,
          finalEntry x files root core name) := by
  obtain ⟨load⟩ := h
  have hcheck : ∀ e : Entry, Checker.check ⟨Catalog.standard, x⟩ (settings root wanted) files e =
      Checker.check ⟨Catalog.standard, x⟩ (settings root []) files e :=
    fun e => check_settings Catalog.standard_ignoresRequest root wanted e
  rw [Checker.checkAll, NameMap.entries_map, List.mem_map]
  constructor
  · rintro ⟨⟨domain, e⟩, hentry, rfl⟩
    obtain ⟨name, hkept, rfl, rfl⟩ := (Registry.mem_entries_iff load).mp hentry
    refine ⟨name, hkept, ?_⟩
    rw [hcheck, finalEntry]
  · rintro ⟨name, hkept, rfl⟩
    refine ⟨_, (Registry.mem_entries_iff load).mpr ⟨name, hkept, rfl, rfl⟩, ?_⟩
    rw [hcheck, finalEntry]

/-- Where one directory is looked at in two runs, the same becomes of it. -/
theorem EndsWith.entry_eq {wanted' : List String} {r r' : Registry}
    (h : EndsWith x files root core wanted r) (h' : EndsWith x files root core wanted' r')
    {p q : String × Entry} (hp : p ∈ r.entries) (hq : q ∈ r'.entries)
    (hpath : p.2.integration.path = q.2.integration.path) : p = q := by
  obtain ⟨n, -, rfl⟩ := h.mem_entries_iff.mp hp
  obtain ⟨m, -, rfl⟩ := h'.mem_entries_iff.mp hq
  rw [path_finalEntry, path_finalEntry] at hpath
  -- All that is known of a directory is taken from its path.
  rw [domainAt, domainAt, finalEntry, finalEntry, hpath]

/-- A directory that is asked for and kept among all directories is kept among fewer. -/
theorem kept_of_kept {components : Path} {name : String}
    (h : Kept files components core (settings root []) name)
    (hincluded : (settings root wanted).includes (components.child name) = true) :
    Kept files components core (settings root wanted) name := by
  refine ⟨Registry.loads_settings_iff.mpr ⟨h.loads, hincluded⟩, fun later hlater => ?_⟩
  exact h.last later (Registry.loads_settings_iff.mp hlater).1

/-- A directory whose domain no other one is loaded under is kept. -/
theorem kept_of_unique {components : Path} {name : String}
    (h : Loads files components (settings root []) name)
    (honly : ∀ other, Loads files components (settings root []) other → other ≠ name →
      domainAt files components core other ≠ domainAt files components core name) :
    Kept files components core (settings root []) name := by
  refine ⟨h, fun later hlater hlt => honly later hlater ?_⟩
  rintro rfl
  exact String.lt_irrefl _ hlt

end Runs

/-- **A run about some integrations tells the same about them as a run about all.**  One ends with a
registry exactly if the other does.  Then a directory that has an entry in both has the same entry,
under the same domain.  A run about some has entries only of directories that were asked for, and of
these all that have one in the full run.  If a directory that is asked for is loaded from, and no
other one under its domain, it has an entry in both. -/
theorem restricted_run_agrees (x : Exemptions) (files : FileTree) (root : Path) (core : Bool)
    (wanted : List String) :
    let components := root.child "homeassistant/components"
    ((∃ full, EndsWith x files root core [] full) ↔
      ∃ part, EndsWith x files root core wanted part) ∧
    ∀ full part, EndsWith x files root core [] full → EndsWith x files root core wanted part →
      (∀ p ∈ full.entries, ∀ q ∈ part.entries,
        p.2.integration.path = q.2.integration.path → p = q) ∧
      (∀ q ∈ part.entries, (settings root wanted).includes q.2.integration.path = true) ∧
      (∀ p ∈ full.entries, (settings root wanted).includes p.2.integration.path = true →
        p ∈ part.entries) ∧
      ∀ name, Loads files components (settings root []) name →
        (settings root wanted).includes (components.child name) = true →
        (∀ other, Loads files components (settings root []) other → other ≠ name →
          domainAt files components core other ≠ domainAt files components core name) →
        ∃ p, p ∈ full.entries ∧ p ∈ part.entries ∧
          p.2.integration.path = components.child name := by
  intro components
  refine ⟨by rw [exists_endsWith_iff, exists_endsWith_iff], fun full part hfull hpart => ?_⟩
  have hstays : ∀ p ∈ full.entries, (settings root wanted).includes p.2.integration.path = true →
      p ∈ part.entries := by
    intro p hp hincluded
    obtain ⟨name, hkept, rfl⟩ := hfull.mem_entries_iff.mp hp
    rw [path_finalEntry] at hincluded
    exact hpart.mem_entries_iff.mpr ⟨name, kept_of_kept hkept hincluded, rfl⟩
  refine ⟨fun p hp q hq => hfull.entry_eq hpart hp hq, fun q hq => ?_, hstays,
    fun name hloads hincluded honly => ?_⟩
  · obtain ⟨name, hkept, rfl⟩ := hpart.mem_entries_iff.mp hq
    rw [path_finalEntry]
    exact hkept.loads.included
  · have hentry := hfull.mem_entries_iff.mpr ⟨name, kept_of_unique hloads honly, rfl⟩
    refine ⟨_, hentry, hstays _ hentry ?_, path_finalEntry name⟩
    rw [path_finalEntry]
    exact hincluded

/-- A checkout in which the manifests of `hue` and `hue_sync` lead to one domain: that of `hue` is no
JSON.  Nothing is wrong with the manifest of `alpha`. -/
def crossedCheckout : FileTree :=
  ⟨.directory [("homeassistant", .directory [("components", .directory [
    ("hue_sync", .directory [("manifest.json", .file "\x7b\"domain\": \"hue\"\x7d".toByteArray)]),
    ("hue", .directory [("manifest.json", .file "\x7b not json".toByteArray)]),
    ("alpha", .directory [("manifest.json", .file "\x7b\x7d".toByteArray)])])])], []⟩

/-- The registry that is loaded from it for a run about these integrations. -/
def crossedLoaded (wanted : List String) : Registry × Trace :=
  Registry.loadListing crossedCheckout ⟨"homeassistant/components"⟩ true (settings ⟨""⟩ wanted)
    (crossedCheckout.names ⟨"homeassistant/components"⟩)

/-- The registry at the end of a run about these integrations. -/
def crossedRegistry (wanted : List String) : Registry :=
  Checker.checkAll ⟨Catalog.standard, .empty⟩ (settings ⟨""⟩ wanted) crossedCheckout
    (crossedLoaded wanted).1

theorem endsWith_crossedRegistry (wanted : List String) :
    EndsWith .empty crossedCheckout ⟨""⟩ true wanted (crossedRegistry wanted) := by
  have hcomponents : Path.child ⟨""⟩ "homeassistant/components" = ⟨"homeassistant/components"⟩ := by
    decide +kernel
  have hload : Registry.load crossedCheckout ⟨"homeassistant/components"⟩ true
      (settings ⟨""⟩ wanted) = .ok (crossedLoaded wanted) :=
    if_pos (by decide +kernel)
  rw [← hcomponents] at hload
  exact .intro hload

theorem restricted_run_agrees_crossedCheckout :
    EndsWith .empty crossedCheckout ⟨""⟩ true [] (crossedRegistry []) ∧
    EndsWith .empty crossedCheckout ⟨""⟩ true ["hue", "alpha"] (crossedRegistry ["hue", "alpha"]) ∧
    (∃ p, p ∈ (crossedRegistry []).entries ∧ p ∈ (crossedRegistry ["hue", "alpha"]).entries ∧
      p.2.integration.path = ⟨"homeassistant/components/alpha"⟩) ∧
    (crossedRegistry []).values.map (·.integration.path) =
      [⟨"homeassistant/components/alpha"⟩, ⟨"homeassistant/components/hue_sync"⟩] ∧
    (crossedRegistry ["hue", "alpha"]).values.map (·.integration.path) =
      [⟨"homeassistant/components/alpha"⟩, ⟨"homeassistant/components/hue"⟩] := by
  have hfull := endsWith_crossedRegistry []
  have hpart := endsWith_crossedRegistry ["hue", "alpha"]
  obtain ⟨-, hagree⟩ :=
    restricted_run_agrees .empty crossedCheckout ⟨""⟩ true ["hue", "alpha"]
  have hloads : Loads crossedCheckout ⟨"homeassistant/components"⟩ (settings ⟨""⟩ []) "alpha" := by
    constructor <;> decide +kernel
  have hdomains : ∀ other ∈ crossedCheckout.names ⟨"homeassistant/components"⟩, other ≠ "alpha" →
      domainAt crossedCheckout ⟨"homeassistant/components"⟩ true other ≠
        domainAt crossedCheckout ⟨"homeassistant/components"⟩ true "alpha" := by
    decide +kernel
  have hentry := (hagree _ _ hfull hpart).2.2.2 "alpha" hloads (by decide +kernel)
    fun other hother => hdomains other hother.listed
  exact ⟨hfull, hpart, hentry, by decide +kernel, by decide +kernel⟩

end QualityScale
