import QualityScale.Proofs.Completion.Shortfalls
import QualityScale.Proofs.Path.Order
import QualityScale.Proofs.Registry.Loading

/-!
# The order of a listing

The names in the components directory come in any order, and several directories may be loaded under
one domain.  Still there is one registry that a run can end up with.  `Reflects` says what the tree
demands of it: every entry is that of a directory, every domain has one, and of several directories
the last one counts.

* `loadListing_congr`: what is loaded depends on the names that are listed only.
* `Reflects.unique`: no two registries reflect one tree.
* `load_determined_by_tree`: so every order of the names leads to the registry that reflects the
  tree.  The last directory is the last one in the order of paths.
-/

namespace QualityScale

namespace Registry

variable {files : FileTree} {components : Path} {core : Bool} {config : Config}

/-! ### Listings -/

theorem candidates_congr {listing listing' : List String}
    (h : ∀ name, name ∈ listing ↔ name ∈ listing') :
    candidates files components config listing = candidates files components config listing' := by
  have hdirectories :
      NameSet.ofList (listing.filter fun name =>
        name ≠ cacheName ∧ files.isDirectory (components.child name)) =
      NameSet.ofList (listing'.filter fun name =>
        name ≠ cacheName ∧ files.isDirectory (components.child name)) := by
    refine NameSet.ext fun name => ?_
    rw [NameSet.mem_ofList, NameSet.mem_ofList, List.mem_filter, List.mem_filter, h]
  rw [candidates, candidates, hdirectories]

/-- **What is loaded, and what happens meanwhile, depends on the listed names only.** -/
theorem loadListing_congr {listing listing' : List String}
    (h : ∀ name, name ∈ listing ↔ name ∈ listing') :
    loadListing files components core config listing =
      loadListing files components core config listing' := by
  rw [loadListing, loadListing, candidates_congr h]

/-! ### Domains -/

theorem mem_keys_ofEntries {es : List Entry} {domain : String} :
    domain ∈ (ofEntries es).keys ↔ ∃ e ∈ es, e.integration.domain = domain := by
  induction es using List.reverseRecOn with
  | nil => simp [ofEntries, NameMap.empty, NameMap.keys]
  | append_singleton es e ih =>
    rw [ofEntries_concat, NameMap.mem_keys_insert, ih]
    simp only [List.mem_append, List.mem_singleton]
    constructor
    · rintro (rfl | ⟨e', he', hdomain⟩)
      · exact ⟨e, .inr rfl, rfl⟩
      · exact ⟨e', .inl he', hdomain⟩
    · rintro ⟨e', he' | rfl, hdomain⟩
      · exact .inr ⟨e', he', hdomain⟩
      · exact .inl hdomain.symm

/-- Every domain that is loaded has a last directory. -/
theorem exists_kept (core : Bool) {name : String} (h : Loads files components config name) :
    ∃ last, Kept files components core config last ∧
      domainAt files components core last = domainAt files components core name := by
  have hkey : domainAt files components core name ∈
      (ofEntries ((loadedNames files components config).toList.map fun name =>
        Integration.load files (components.child name) core)).keys :=
    mem_keys_ofEntries.mpr ⟨_, List.mem_map_of_mem (mem_loadedNames.mpr h), rfl⟩
  obtain ⟨⟨_, e⟩, hentry, hdomain⟩ := List.mem_map.mp hkey
  obtain ⟨last, hlast, -, hsame, hlater⟩ :=
    (mem_entries_ofEntries (loadedNames files components config).ascending).mp hentry
  refine ⟨last, ⟨mem_loadedNames.mp hlast, fun later hloads hlt => ?_⟩, hsame.trans hdomain⟩
  intro heq
  exact hlater later (mem_loadedNames.mpr hloads) hlt (heq.trans hsame)

/-! ### What the tree demands -/

/-- **The registry reflects the tree.** -/
structure Reflects (files : FileTree) (components : Path) (core : Bool) (config : Config)
    (r : Registry) : Prop where
  /-- Every key is the domain of its integration. -/
  keys : ∀ domain e, (domain, e) ∈ r.entries → domain = e.integration.domain
  /-- Every entry is loaded from a directory. -/
  values : ∀ e ∈ r.values, ∃ name, Loads files components config name ∧
    Integration.load files (components.child name) core = e
  /-- Every domain that is loaded is a key. -/
  domains : ∀ name, Loads files components config name →
    domainAt files components core name ∈ r.keys
  /-- The entry of a domain is that of the last directory that is loaded under it. -/
  last : ∀ name, Kept files components core config name →
    (domainAt files components core name, Integration.load files (components.child name) core) ∈
      r.entries

theorem reflects_of_load {r : Registry} {trace : Trace}
    (h : load files components core config = .ok (r, trace)) :
    Reflects files components core config r where
  keys domain e hentry := by
    obtain ⟨name, -, hdomain, rfl⟩ := (mem_entries_iff h).mp hentry
    exact hdomain.symm
  values e he := by
    obtain ⟨⟨domain, _⟩, hentry, rfl⟩ := List.mem_map.mp he
    obtain ⟨name, hkept, -, hload⟩ := (mem_entries_iff h).mp hentry
    exact ⟨name, hkept.loads, hload⟩
  domains name hloads := by
    obtain ⟨last, hkept, hdomain⟩ := exists_kept core hloads
    have hentry := (mem_entries_iff h).mpr ⟨last, hkept, hdomain, rfl⟩
    exact NameMap.mem_keys_of_mem hentry
  last name hkept := (mem_entries_iff h).mpr ⟨name, hkept, rfl, rfl⟩

/-- The entries of such a registry are those of the directories that are kept. -/
theorem Reflects.mem_entries_iff {r : Registry} (h : Reflects files components core config r)
    {domain : String} {e : Entry} :
    (domain, e) ∈ r.entries ↔
      ∃ name, Kept files components core config name ∧
        domainAt files components core name = domain ∧
        Integration.load files (components.child name) core = e := by
  constructor
  · intro hentry
    obtain ⟨name, hloads, hload⟩ := h.values e (List.mem_map_of_mem hentry)
    obtain ⟨last, hkept, hsame⟩ := exists_kept core hloads
    have hdomain : domainAt files components core last = domain := by
      rw [hsame, h.keys domain e hentry, domainAt, hload]
    -- The last directory of the domain has an entry too, and the key has one value.
    have hlast := h.last last hkept
    rw [hdomain] at hlast
    exact ⟨last, hkept, hdomain, NameMap.value_unique hlast hentry⟩
  · rintro ⟨name, hkept, rfl, rfl⟩
    exact h.last name hkept

theorem Reflects.unique {r r' : Registry} (h : Reflects files components core config r)
    (h' : Reflects files components core config r') : r = r' := by
  refine NameMap.ext (eq_of_ascending_of_mem_iff String.lt_irrefl String.lt_trans Prod.fst
    r.ascending r'.ascending fun ⟨domain, e⟩ => ?_)
  rw [h.mem_entries_iff, h'.mem_entries_iff]

/-- **The tree determines the registry.**  Loading fails exactly if there is no components
directory.  Otherwise it ends with the one registry that reflects the tree, in whatever order the
directory is listed.  Where names decide which directory is the last one, paths decide the same. -/
theorem load_determined_by_tree (files : FileTree) (components : Path) (core : Bool)
    (config : Config) :
    (∀ e, load files components core config = .error e ↔
      files.isDirectory components = false ∧ e = ⟨components⟩) ∧
    (files.isDirectory components = true →
      ∃ r trace, load files components core config = .ok (r, trace) ∧
        (∀ listing, listing.Perm (files.names components) →
          loadListing files components core config listing = (r, trace)) ∧
        ∀ r', Reflects files components core config r' ↔ r' = r) ∧
    ∀ n m, Path.IsName n → Path.IsName m →
      ((components.child n).Before (components.child m) ↔ n < m) := by
  refine ⟨fun e => ?_, fun hdir => ?_, fun n m hn hm =>
    Path.child_before_child_iff hn hm components⟩
  · rw [load]
    cases files.isDirectory components with
    | true => simp
    | false => simp [eq_comm]
  · have hload : load files components core config =
        .ok (loadListing files components core config (files.names components)) := if_pos hdir
    refine ⟨_, _, hload, fun listing hperm => ?_, fun r' => ⟨fun h => ?_, ?_⟩⟩
    · exact loadListing_congr fun name => hperm.mem_iff
    · exact h.unique (reflects_of_load hload)
    · rintro rfl
      exact reflects_of_load hload

/-- The directories of `sharedDomain` in another order. -/
theorem load_determined_by_tree_sharedDomain :
    sharedDomain.isDirectory ⟨"components"⟩ = true ∧
    ["alpha", "hue", "__pycache__", "hue_sync"].Perm (sharedDomain.names ⟨"components"⟩) ∧
    loadListing sharedDomain ⟨"components"⟩ true everything
      ["alpha", "hue", "__pycache__", "hue_sync"] = sharedRegistry ∧
    Reflects sharedDomain ⟨"components"⟩ true everything sharedRegistry.1 ∧
    (Path.child ⟨"components"⟩ "hue").Before (Path.child ⟨"components"⟩ "hue_sync") ∧
    sharedRegistry.1.entries.map (fun p => (p.1, p.2.integration.path)) =
      [("alpha", ⟨"components/alpha"⟩), ("hue", ⟨"components/hue_sync"⟩)] := by
  have hdir : sharedDomain.isDirectory ⟨"components"⟩ = true := by decide +kernel
  have hperm : ["alpha", "hue", "__pycache__", "hue_sync"].Perm
      (sharedDomain.names ⟨"components"⟩) := by decide +kernel
  have hnames : Path.IsName "hue" ∧ Path.IsName "hue_sync" := by
    constructor <;> constructor <;> decide
  obtain ⟨-, hloaded, hbefore⟩ :=
    load_determined_by_tree sharedDomain ⟨"components"⟩ true everything
  obtain ⟨r, trace, hload, hlisting, hreflects⟩ := hloaded hdir
  have hsame : (r, trace) = sharedRegistry := Except.ok.inj (hload.symm.trans load_sharedDomain)
  have hreflected : Reflects sharedDomain ⟨"components"⟩ true everything sharedRegistry.1 :=
    (hreflects sharedRegistry.1).mpr (congrArg Prod.fst hsame).symm
  have hlater : (Path.child ⟨"components"⟩ "hue").Before (Path.child ⟨"components"⟩ "hue_sync") :=
    (hbefore "hue" "hue_sync" hnames.1 hnames.2).mpr (by decide)
  have hentries : sharedRegistry.1.entries.map (fun p => (p.1, p.2.integration.path)) =
      [("alpha", ⟨"components/alpha"⟩), ("hue", ⟨"components/hue_sync"⟩)] := by decide +kernel
  exact ⟨hdir, hperm, (hlisting _ hperm).trans hsame, hreflected, hlater, hentries⟩

end Registry

end QualityScale
