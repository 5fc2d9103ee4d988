import Mathlib.Data.Set.Card
import QualityScale.Registry

/-!
# What loading keeps

Integrations are found by their directories and stored by their domains, and a manifest may give
any domain.  So an integration can be loaded and leave no entry: that of a directory with a later
name is stored under the same domain and takes its place.

* `Loads files components config name`: the run loads an integration from the directory `name`.
* `Kept files components core config name`: and none from a later one under the same domain.
* `mem_entries_iff`: the entries are those of the directories that are kept.
* `has_entry_iff_kept`: so a directory has an entry exactly if it is kept, and there are as many
  entries as directories exactly if all of them are.
* `entry_lost`: a checkout in which one is not.
-/

namespace QualityScale.Registry

/-- **The run loads an integration from the directory of this name.** -/
structure Loads (files : FileTree) (components : Path) (config : Config) (name : String) :
    Prop where
  listed : name ∈ files.names components
  directory : files.isDirectory (components.child name) = true
  noCache : name ≠ "__pycache__"
  included : config.includes (components.child name) = true
  manifest : files.has ((components.child name).child "manifest.json") = true

/-- The domain that the integration in the directory of this name is loaded under. -/
def domainAt (files : FileTree) (components : Path) (core : Bool) (name : String) : String :=
  (Integration.load files (components.child name) core).integration.domain

/-- **The entry of the directory of this name is kept**: no directory with a later name is loaded
under the same domain. -/
structure Kept (files : FileTree) (components : Path) (core : Bool) (config : Config)
    (name : String) : Prop where
  loads : Loads files components config name
  last : ∀ later, Loads files components config later → name < later →
    domainAt files components core later ≠ domainAt files components core name

/-! ### Entries by domain -/

theorem ofEntries_concat (es : List Entry) (e : Entry) :
    ofEntries (es ++ [e]) = (ofEntries es).insert e.integration.domain e := by
  rw [ofEntries, List.foldl_append]
  rfl

/-- Of the entries made for ascending names, one stays if no later one has its domain. -/
theorem mem_entries_ofEntries {f : String → Entry} {names : List String}
    (h : names.Pairwise (· < ·)) {domain : String} {e : Entry} :
    (domain, e) ∈ (ofEntries (names.map f)).entries ↔
      ∃ n ∈ names, f n = e ∧ (f n).integration.domain = domain ∧
        ∀ m ∈ names, n < m → (f m).integration.domain ≠ domain := by
  induction names using List.reverseRecOn with
  | nil => simp [ofEntries, NameMap.empty]
  | append_singleton ns last ih =>
    obtain ⟨hns, -, hlast⟩ := List.pairwise_append.mp h
    have hlast : ∀ n ∈ ns, n < last := fun n hn => hlast n hn last List.mem_cons_self
    rw [List.map_append, List.map_singleton, ofEntries_concat, NameMap.mem_entries_insert, ih hns]
    constructor
    · rintro (⟨rfl, rfl⟩ | ⟨hne, n, hn, rfl, hdomain, hlater⟩)
      · refine ⟨last, List.mem_append_right _ List.mem_cons_self, rfl, rfl, fun m hm hlt => ?_⟩
        -- Nothing comes after the last name.
        rcases List.mem_append.mp hm with hm | hm
        · exact absurd (String.lt_trans hlt (hlast m hm)) (String.lt_irrefl _)
        · exact absurd (List.mem_singleton.mp hm ▸ hlt) (String.lt_irrefl _)
      · refine ⟨n, List.mem_append_left _ hn, rfl, hdomain, fun m hm hlt => ?_⟩
        rcases List.mem_append.mp hm with hm | hm
        · exact hlater m hm hlt
        · rw [List.mem_singleton.mp hm]
          exact hne.symm
    · rintro ⟨n, hn, rfl, hdomain, hlater⟩
      rcases List.mem_append.mp hn with hn | hn
      · have hne := hlater last (List.mem_append_right _ List.mem_cons_self) (hlast n hn)
        exact .inr ⟨hne.symm, n, hn, rfl, hdomain,
          fun m hm => hlater m (List.mem_append_left _ hm)⟩
      · rw [List.mem_singleton.mp hn] at hdomain ⊢
        exact .inl ⟨hdomain.symm, rfl⟩

/-! ### The directories that are loaded from -/

/-- The names of the directories that are loaded from, ascending. -/
def loadedNames (files : FileTree) (components : Path) (config : Config) : NameSet :=
  (NameSet.ofList ((files.names components).filter fun name =>
    name ≠ cacheName ∧ files.isDirectory (components.child name))).filter fun name =>
      hasManifest files (components.child name) && config.includes (components.child name)

variable {files : FileTree} {components : Path} {core : Bool} {config : Config}

theorem mem_loadedNames {name : String} :
    name ∈ loadedNames files components config ↔ Loads files components config name := by
  rw [loadedNames, NameSet.mem_filter, NameSet.mem_ofList, List.mem_filter, decide_eq_true_iff,
    Bool.and_eq_true]
  exact ⟨fun ⟨⟨hlisted, hcache, hdir⟩, hman, hinc⟩ => ⟨hlisted, hdir, hcache, hinc, hman⟩,
    fun ⟨hlisted, hdir, hcache, hinc, hman⟩ => ⟨⟨hlisted, hcache, hdir⟩, hman, hinc⟩⟩

/-- What is found in a components directory, name by name. -/
theorem found_candidates :
    found files core (candidates files components config (files.names components)) =
      (loadedNames files components config).toList.map fun name =>
        Integration.load files (components.child name) core := by
  rw [found, candidates, List.filter_map, List.filter_map, List.filter_filter, List.map_map]
  rfl

/-! ### The loaded registry -/

section Load

variable {r : Registry} {trace : Trace}

theorem load_eq_ok (h : load files components core config = .ok (r, trace)) :
    r = ofEntries ((loadedNames files components config).toList.map fun name =>
      Integration.load files (components.child name) core) := by
  rw [load] at h
  split at h
  · rw [loadListing, Except.ok.injEq, Prod.mk.injEq] at h
    rw [← h.1, found_candidates]
  · cases h

theorem isDirectory_of_load (h : load files components core config = .ok (r, trace)) :
    files.isDirectory components = true := by
  by_cases hdir : files.isDirectory components = true
  · exact hdir
  · rw [load, if_neg hdir] at h
    cases h

/-- **The entries of a loaded registry** are those of the directories that are kept. -/
theorem mem_entries_iff (h : load files components core config = .ok (r, trace))
    {domain : String} {e : Entry} :
    (domain, e) ∈ r.entries ↔
      ∃ name, Kept files components core config name ∧
        domainAt files components core name = domain ∧
        Integration.load files (components.child name) core = e := by
  rw [load_eq_ok h, mem_entries_ofEntries (loadedNames files components config).ascending]
  constructor
  · rintro ⟨name, hname, he, rfl, hlast⟩
    refine ⟨name, ⟨mem_loadedNames.mp hname, fun later hlater => ?_⟩, rfl, he⟩
    exact hlast later (mem_loadedNames.mpr hlater)
  · rintro ⟨name, ⟨hloads, hlast⟩, rfl, he⟩
    refine ⟨name, mem_loadedNames.mpr hloads, he, rfl, fun later hlater => ?_⟩
    exact hlast later (mem_loadedNames.mp hlater)

/-- Every entry stands under the domain of its integration. -/
theorem keys_eq_domains (h : load files components core config = .ok (r, trace)) :
    r.keys = r.values.map (·.integration.domain) := by
  rw [NameMap.keys, NameMap.values, List.map_map]
  refine List.map_congr_left fun p hp => ?_
  obtain ⟨domain, e⟩ := p
  obtain ⟨name, -, hdomain, rfl⟩ := (mem_entries_iff h).mp hp
  exact hdomain.symm

theorem exists_entry_iff (h : load files components core config = .ok (r, trace))
    (directory : Path) :
    (∃ e ∈ r.values, e.integration.path = directory) ↔
      ∃ name, components.child name = directory ∧ Kept files components core config name := by
  constructor
  · rintro ⟨e, he, rfl⟩
    obtain ⟨⟨domain, _⟩, hentry, rfl⟩ := List.mem_map.mp he
    obtain ⟨name, hkept, -, rfl⟩ := (mem_entries_iff h).mp hentry
    exact ⟨name, (Integration.path_load ..).symm, hkept⟩
  · rintro ⟨name, rfl, hkept⟩
    have hentry := (mem_entries_iff h).mpr ⟨name, hkept, rfl, rfl⟩
    exact ⟨_, List.mem_map_of_mem hentry, Integration.path_load ..⟩

/-- Directories that are kept are loaded under different domains. -/
theorem domainAt_injOn :
    Set.InjOn (domainAt files components core) {name | Kept files components core config name} := by
  intro n hn m hm hsame
  refine String.le_antisymm (String.not_lt.mp fun hlt => ?_) (String.not_lt.mp fun hlt => ?_)
  · exact hm.last n hn.loads hlt hsame
  · exact hn.last m hm.loads hlt hsame.symm

theorem size_eq_ncard (h : load files components core config = .ok (r, trace)) :
    r.size = {name | Kept files components core config name}.ncard := by
  have hkeys : (r.keys.toFinset : Set String) =
      domainAt files components core '' {name | Kept files components core config name} := by
    ext domain
    rw [Finset.mem_coe, List.mem_toFinset, NameMap.keys, List.mem_map]
    constructor
    · rintro ⟨⟨_, e⟩, hentry, rfl⟩
      obtain ⟨name, hkept, hdomain, -⟩ := (mem_entries_iff h).mp hentry
      exact ⟨name, hkept, hdomain⟩
    · rintro ⟨name, hkept, hdomain⟩
      exact ⟨_, (mem_entries_iff h).mpr ⟨name, hkept, hdomain, rfl⟩, rfl⟩
  rw [← domainAt_injOn.ncard_image, ← hkeys, Set.ncard_coe_finset,
    List.toFinset_card_of_nodup r.nodup_keys, NameMap.length_keys]

end Load

/-- **A directory has an entry exactly if it is kept.**  So there are as many entries as directories
that are loaded from exactly if all of these are kept. -/
theorem has_entry_iff_kept {r : Registry} {trace : Trace}
    (h : load files components core config = .ok (r, trace)) :
    (∀ directory, (∃ e ∈ r.values, e.integration.path = directory) ↔
      ∃ name, components.child name = directory ∧ Kept files components core config name) ∧
    (r.size = {name | Loads files components config name}.ncard ↔
      ∀ name, Loads files components config name → Kept files components core config name) := by
  refine ⟨exists_entry_iff h, ?_⟩
  have hfinite : {name | Loads files components config name}.Finite := by
    refine (loadedNames files components config).toList.finite_toSet.subset fun name hname => ?_
    exact mem_loadedNames.mpr hname
  rw [size_eq_ncard h]
  constructor
  · intro hsize name hloads
    have hall := Set.eq_of_subset_of_ncard_le (fun _ hn => hn.loads) hsize.ge hfinite
    exact hall.ge hloads
  · intro hkept
    exact congrArg Set.ncard (Set.ext fun name => ⟨fun hn => hn.loads, hkept name⟩)

/-! ### Directories with one domain -/

/-- A checkout in which the manifest of `hue` is no JSON, so that its domain is the directory's
name, and the manifest of `hue_sync` gives that domain too. -/
def sharedDomain : FileTree :=
  ⟨.directory [("components", .directory [
    ("hue_sync", .directory [("manifest.json", .file "\x7b\"domain\": \"hue\"\x7d".toByteArray)]),
    ("hue", .directory [("manifest.json", .file "\x7b not json".toByteArray)]),
    ("__pycache__", .directory [("manifest.json", .file "\x7b\x7d".toByteArray)]),
    ("alpha", .directory [("manifest.json", .file "\x7b\x7d".toByteArray)])])], []⟩

/-- The settings of a run about all integrations. -/
def everything : Config := ⟨⟨"."⟩, none⟩

/-- The registry of `sharedDomain`, and what happens while it is loaded. -/
def sharedRegistry : Registry × Trace :=
  loadListing sharedDomain ⟨"components"⟩ true everything (sharedDomain.names ⟨"components"⟩)

theorem load_sharedDomain :
    load sharedDomain ⟨"components"⟩ true everything = .ok sharedRegistry :=
  if_pos (by decide +kernel)

theorem has_entry_iff_kept_sharedDomain :
    load sharedDomain ⟨"components"⟩ true everything = .ok (sharedRegistry.1, sharedRegistry.2) ∧
    (∀ directory, (∃ e ∈ sharedRegistry.1.values, e.integration.path = directory) ↔
      ∃ name, Path.child ⟨"components"⟩ name = directory ∧
        Kept sharedDomain ⟨"components"⟩ true everything name) ∧
    (sharedRegistry.1.size = {name | Loads sharedDomain ⟨"components"⟩ everything name}.ncard ↔
      ∀ name, Loads sharedDomain ⟨"components"⟩ everything name →
        Kept sharedDomain ⟨"components"⟩ true everything name) :=
  ⟨load_sharedDomain, has_entry_iff_kept load_sharedDomain⟩

/-- **A directory that is loaded from can be lost**, and with it what is wrong with its manifest. -/
theorem entry_lost :
    ∃ r trace, load sharedDomain ⟨"components"⟩ true everything = .ok (r, trace) ∧
      Loads sharedDomain ⟨"components"⟩ everything "alpha" ∧
      Loads sharedDomain ⟨"components"⟩ everything "hue" ∧
      Loads sharedDomain ⟨"components"⟩ everything "hue_sync" ∧ r.size = 2 ∧
      (¬ ∃ e ∈ r.values, e.integration.path = ⟨"components/hue"⟩) ∧
      (Integration.load sharedDomain ⟨"components/hue"⟩ true).findings ≠ [] ∧
      ∀ e ∈ r.values, e.findings = [] := by
  refine ⟨_, _, load_sharedDomain, ?_, ?_, ?_, by decide +kernel, by decide +kernel,
    by decide +kernel, by decide +kernel⟩
  all_goals constructor <;> decide +kernel

end QualityScale.Registry
