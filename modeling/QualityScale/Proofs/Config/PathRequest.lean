import Mathlib.Data.List.TakeWhile
import QualityScale.Proofs.Command.Validation
import QualityScale.Proofs.Path.Spelling

/-!
# Requests by path

A run can be asked to look at some integrations only, and an integration can be named by the path of
its directory.  The path that it is compared with is made from the root of the checkout.  So it has
a `.` at its start if the root has one, as the default root does, and then a request has to be
spelled with one too.

* `directoryIn root name`: the path of an integration's directory, as it is made while loading.
* `isFor_iff`: a path of the same place is a request for the directory exactly if it starts with a
  `.` where the root does.
* `request_selects_iff_startsAlike`: so a run that is asked for such a path alone looks at that
  directory if the two start alike, and at nothing if they do not.
* `request_by_path_missed`: a run that finds nothing wrong because it looks at nothing.
-/

namespace QualityScale

open QualityScale.Path (IsName SamePlace)

/-- The directory of the integration of this name in the checkout with this root. -/
def directoryIn (root : Path) (name : String) : Path :=
  (root.child "homeassistant/components").child name

theorem names_directoryIn {name : String} (hn : IsName name) (root : Path) :
    (directoryIn root name).names = root.names ++ ["homeassistant", "components", name] := by
  have hcomponents : (root.child "homeassistant/components").names =
      root.names ++ ["homeassistant", "components"] := Path.names_join (by decide)
  rw [directoryIn, Path.names_child hn, hcomponents, List.append_assoc]
  rfl

theorem startsHere_directoryIn {name : String} (hn : IsName name) (root : Path) :
    (directoryIn root name).startsHere = root.startsHere := by
  have hcomponents : (root.child "homeassistant/components").startsHere = root.startsHere :=
    Path.startsHere_join (by decide) (by decide)
  rw [← hcomponents]
  exact Path.startsHere_join hn.isAbsolute_eq hn.startsHere_eq

/-! ### One request -/

namespace Config

/-- Only slashes are taken away. -/
theorem exists_eq_trimSlashes (w : String) : ∃ k, w = trimSlashes w ++ Path.slashes k := by
  let last := w.toList.reverse.takeWhile (· == '/')
  have hlast : last = List.replicate last.length '/' := by
    refine List.eq_replicate_of_mem fun c hc => ?_
    have hslash : (c == '/') = true := List.mem_takeWhile_imp (p := (· == '/')) hc
    exact beq_iff_eq.mp hslash
  refine ⟨last.length, ?_⟩
  rw [trimSlashes, Path.slashes, ← String.ofList_append, ← List.reverse_replicate, ← hlast,
    ← List.reverse_append, List.takeWhile_append_dropWhile, List.reverse_reverse,
    String.ofList_toList]

/-- **A path of the same place is a request for the directory if the two start alike**, and it is
one for no other directory. -/
theorem isFor_iff {root : Path} {d w name : String} (hd : IsName d) (hn : IsName name)
    (hw : SamePlace ⟨w⟩ (directoryIn root d)) :
    isFor w (directoryIn root name) = true ↔
      name = d ∧ (Path.mk w).startsHere = root.startsHere := by
  obtain ⟨k, hk⟩ := exists_eq_trimSlashes w
  have hnames : (Path.mk w).names = root.names ++ ["homeassistant", "components", d] :=
    hw.2.trans (names_directoryIn hd root)
  have hsome : (Path.mk (trimSlashes w ++ Path.slashes k)).names ≠ [] := by
    rw [← hk, hnames]
    exact List.append_ne_nil_of_right_ne_nil _ (List.cons_ne_nil _ _)
  obtain ⟨hplace, hstart⟩ := Path.samePlace_append_slashes hsome
  rw [← hk] at hplace hstart
  have hfile : (directoryIn root name).fileName = name := Path.fileName_child hn _
  have hname : ¬ trimSlashes w = name := by
    intro heq
    -- A name is one part, and the path of the directory has three parts below the root.
    have hone : (Path.mk w).names = [name] := by rw [← hplace.2, heq, hn.names_eq]
    have hlength := congrArg List.length (hnames.symm.trans hone)
    simp at hlength
  rw [isFor, hfile, Bool.or_eq_true, beq_iff_eq, or_iff_right hname, Path.sameAs_iff, hstart,
    startsHere_directoryIn hn]
  refine and_congr_left fun _ => ?_
  constructor
  · intro hsame
    have hlists := (hsame.2.symm.trans hplace.2).trans hnames
    rw [names_directoryIn hn] at hlists
    have hlast := List.append_cancel_left hlists
    simpa using hlast
  · rintro rfl
    exact ⟨hplace.1.trans hw.1, hplace.2.trans hw.2⟩

end Config

/-! ### A run -/

theorem Config.includes_of_mem {root : Path} {wanted : List String} {w : String}
    {directory : Path} (hmem : w ∈ wanted) (hw : Config.isFor w directory = true) :
    (Command.settings root wanted).includes directory = true := by
  have hne : ¬ wanted.isEmpty = true := fun hempty => by
    rw [List.isEmpty_iff.mp hempty] at hmem
    cases hmem
  rw [Command.settings, Config.withSpecific, if_neg hne]
  exact List.any_eq_true.mpr ⟨w, hmem, hw⟩

theorem Config.includes_singleton (root : Path) (w : String) (directory : Path) :
    (Command.settings root [w]).includes directory = Config.isFor w directory :=
  Bool.or_false _

/-- A request changes nothing about a directory but whether it is asked for. -/
theorem Registry.loads_settings_iff {files : FileTree} {components root : Path}
    {wanted : List String} {name : String} :
    Loads files components (Command.settings root wanted) name ↔
      Loads files components (Command.settings root []) name ∧
        (Command.settings root wanted).includes (components.child name) = true := by
  constructor
  · rintro ⟨listed, directory, noCache, included, manifest⟩
    exact ⟨⟨listed, directory, noCache, rfl, manifest⟩, included⟩
  · rintro ⟨⟨listed, directory, noCache, -, manifest⟩, included⟩
    exact ⟨listed, directory, noCache, included, manifest⟩

theorem FileTree.isDirectory_of_mem_names {files : FileTree} {p : Path} {name : String}
    (h : name ∈ files.names p) : files.isDirectory p = true := by
  rw [names] at h
  rw [isDirectory]
  split at h
  next => rfl
  next => cases h

/-- **A path names the integration in its directory exactly if it starts with a `.` where the root
does.**  A run that is asked for that path alone includes that directory then, and otherwise none;
so it has the integration there in its registry, or no integration at all. -/
theorem request_selects_iff_startsAlike {root : Path} {d w : String} (hd : IsName d)
    (hw : SamePlace ⟨w⟩ (directoryIn root d)) :
    let components := root.child "homeassistant/components"
    let alike := (Path.mk w).startsHere = root.startsHere
    (∀ name, IsName name →
      ((Command.settings root [w]).includes (components.child name) = true ↔ name = d ∧ alike)) ∧
    (alike → ∀ wanted, w ∈ wanted →
      (Command.settings root wanted).includes (components.child d) = true) ∧
    ∀ files : FileTree, (∀ name ∈ files.names components, IsName name) →
      Registry.Loads files components (Command.settings root []) d →
      ∃ r loading,
        Registry.load files components true (Command.settings root [w]) = .ok (r, loading) ∧
        ∀ directory, (∃ e ∈ r.values, e.integration.path = directory) ↔
          directory = components.child d ∧ alike := by
  intro components alike
  have hincludes (name : String) (hn : IsName name) :
      (Command.settings root [w]).includes (components.child name) = true ↔ name = d ∧ alike := by
    rw [Config.includes_singleton]
    exact Config.isFor_iff hd hn hw
  refine ⟨hincludes, fun halike wanted hmem => ?_, fun files hnames hloads => ?_⟩
  · exact Config.includes_of_mem hmem ((Config.isFor_iff hd hd hw).mpr ⟨rfl, halike⟩)
  · have hload : Registry.load files components true (Command.settings root [w]) =
        .ok (Registry.loadListing files components true (Command.settings root [w])
          (files.names components)) :=
      if_pos (FileTree.isDirectory_of_mem_names hloads.listed)
    refine ⟨_, _, hload, fun directory => ?_⟩
    -- No other directory is included, so none can take this one's place.
    have honly (name : String)
        (h : Registry.Loads files components (Command.settings root [w]) name) :
        name = d ∧ alike :=
      (hincludes name (hnames name h.listed)).mp h.included
    rw [Registry.exists_entry_iff hload]
    constructor
    · rintro ⟨name, rfl, hkept⟩
      obtain ⟨rfl, halike⟩ := honly name hkept.loads
      exact ⟨rfl, halike⟩
    · rintro ⟨rfl, halike⟩
      have hasked : Registry.Loads files components (Command.settings root [w]) d :=
        Registry.loads_settings_iff.mpr ⟨hloads, (hincludes d hd).mpr ⟨rfl, halike⟩⟩
      refine ⟨d, rfl, hasked, fun later hlater hlt => ?_⟩
      rw [(honly later hlater).1] at hlt
      exact absurd hlt (String.lt_irrefl d)

/-- A checkout with one integration, whose manifest is no object. -/
def hueCheckout : FileTree :=
  ⟨.directory [("homeassistant", .directory [("components", .directory [
    ("hue", .directory [("manifest.json", .file "[]".toByteArray)])])])], []⟩

theorem isName_hue : IsName "hue" := by
  constructor <;> decide

/-- The root is written with a slash and a `.` too many, and the request with some others. -/
theorem request_selects_iff_startsAlike_spellings :
    (IsName "hue" ∧ SamePlace ⟨"./homeassistant//./components/hue/"⟩ (directoryIn ⟨".//."⟩ "hue")) ∧
    (Command.settings ⟨".//."⟩ ["zha", "./homeassistant//./components/hue/"]).includes
      (directoryIn ⟨".//."⟩ "hue") = true ∧
    ∃ r loading,
      Registry.load hueCheckout (Path.child ⟨".//."⟩ "homeassistant/components") true
        (Command.settings ⟨".//."⟩ ["./homeassistant//./components/hue/"]) = .ok (r, loading) ∧
      ∃ e ∈ r.values, e.integration.path = directoryIn ⟨".//."⟩ "hue" := by
  have hplace : SamePlace ⟨"./homeassistant//./components/hue/"⟩ (directoryIn ⟨".//."⟩ "hue") := by
    decide +kernel
  have halike : (Path.mk "./homeassistant//./components/hue/").startsHere =
      (Path.mk ".//.").startsHere := by decide +kernel
  obtain ⟨-, hincludes, hruns⟩ := request_selects_iff_startsAlike isName_hue hplace
  have hnames : ∀ name ∈ hueCheckout.names (Path.child ⟨".//."⟩ "homeassistant/components"),
      IsName name := by
    intro name hname
    have hlisted : hueCheckout.names (Path.child ⟨".//."⟩ "homeassistant/components") =
        ["hue"] := by decide +kernel
    rw [hlisted] at hname
    rw [List.mem_singleton.mp hname]
    exact isName_hue
  have hloads : Registry.Loads hueCheckout (Path.child ⟨".//."⟩ "homeassistant/components")
      (Command.settings ⟨".//."⟩ []) "hue" := by
    constructor <;> decide +kernel
  obtain ⟨r, loading, hload, hpaths⟩ := hruns hueCheckout hnames hloads
  exact ⟨⟨isName_hue, hplace⟩, hincludes halike _ (by decide), r, loading, hload,
    (hpaths _).mpr ⟨rfl, halike⟩⟩

/-- **A request by path can be missed**: from the root that a run has if none is given, the path of
a directory below it names no integration.  The run ends well, whatever is wrong there. -/
theorem request_by_path_missed :
    IsName "hue" ∧ SamePlace ⟨"homeassistant/components/hue"⟩ (directoryIn ⟨"."⟩ "hue") ∧
    (Command.settings ⟨"."⟩ ["homeassistant/components/hue"]).includes
      (directoryIn ⟨"."⟩ "hue") = false ∧
    (Command.run hueCheckout {} ["validate", "-i", "homeassistant/components/hue"]).output =
      "Checked 0 integrations: 0 with errors (0 errors)\n" ∧
    (Command.run hueCheckout {} ["validate", "-i", "homeassistant/components/hue"]).code = 0 ∧
    (Command.run hueCheckout {} ["validate", "-i", "hue"]).code = 1 := by
  exact ⟨isName_hue, by decide +kernel, by decide +kernel, by decide +kernel, by decide +kernel,
    by decide +kernel⟩

end QualityScale
