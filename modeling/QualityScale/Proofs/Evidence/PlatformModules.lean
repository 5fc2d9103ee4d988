import Mathlib.Data.List.Basic
import QualityScale.Evidence.Platforms

/-!
# Platform modules without a number of updates

Every entity platform that an integration ships has a module, which is to say how many updates are
made at a time.  A message names each that does not, in the order of the platforms.  Modules are read
as text, and one that holds no text is passed over as if it were not there.

* `setsUpdates`: the module of a platform is text and has the assignment.
* `NotText files p`: there is a file at the path `p`, and its bytes encode no text.
* `platforms_told_iff_text`: which platforms are told of, and that they are those that are shipped
  without the assignment exactly if no module of a platform is no text.
-/

namespace QualityScale

/-- There is a file at the path, and its bytes encode no text. -/
def NotText (files : FileTree) (p : Path) : Prop :=
  ∃ b, files.bytes p = .ok b ∧ ∀ text : String, b ≠ text.toByteArray

namespace Evidence

/-- Whether the module of a platform is text and assigns a number of updates. -/
def setsUpdates (files : FileTree) (i : Integration) (platform : String) : Bool :=
  i.moduleShows files platform (Source.assigns · "PARALLEL_UPDATES".toList)

/-- What is said about a platform whose module does not assign a number of updates. -/
def updatesMessage (platform : String) : String :=
  "Integration does not set `PARALLEL_UPDATES` in " ++ platform

section Platforms

variable {files : FileTree} {i : Integration} {platform : String}

theorem isSome_moduleText?_iff :
    (i.moduleText? files platform).isSome = true ↔
      i.hasModule files platform = true ∧ ¬ NotText files (i.moduleFile platform) := by
  rw [Integration.moduleText?, Integration.hasModule, FileTree.isFile_iff]
  constructor
  · intro h
    cases htext : files.text (i.moduleFile platform) with
    | error e =>
      rw [htext] at h
      cases h
    | ok text =>
      have hbytes := FileTree.text_eq_ok_iff.mp htext
      refine ⟨⟨_, hbytes⟩, ?_⟩
      rintro ⟨b, hb, hdiffers⟩
      exact hdiffers text (Except.ok.inj (hb.symm.trans hbytes))
  · rintro ⟨⟨b, hb⟩, htext⟩
    have hsome : ∃ text : String, b = text.toByteArray := by
      by_contra hnone
      exact htext ⟨b, hb, fun text heq => hnone ⟨text, heq⟩⟩
    obtain ⟨text, rfl⟩ := hsome
    rw [FileTree.text_eq_ok_iff.mpr hb]
    rfl

theorem parallelUpdates_eq (config : Config) (files : FileTree) (i : Integration)
    (done : NameSet) :
    parallelUpdates config files i done =
      (entityPlatforms.filter fun platform =>
        (i.moduleText? files platform).isSome && !setsUpdates files i platform).map
          updatesMessage := by
  rw [parallelUpdates, ← List.filterMap_eq_map, List.filterMap_filter]
  refine List.filterMap_congr fun platform _ => ?_
  rw [setsUpdates, Integration.moduleShows]
  cases i.moduleText? files platform with
  | none => rfl
  | some text =>
    rw [Option.any_some, Option.isSome_some, Bool.true_and]
    cases hset : Source.assigns text.toList "PARALLEL_UPDATES".toList with
    | false =>
      simp only [hset]
      rfl
    | true =>
      simp only [hset]
      rfl

theorem setsUpdates_of_none (h : (i.moduleText? files platform).isSome = false) :
    setsUpdates files i platform = false := by
  rw [setsUpdates, Integration.moduleShows]
  cases htext : i.moduleText? files platform with
  | none => rfl
  | some text =>
    rw [htext] at h
    cases h

theorem updatesMessage_injective : Function.Injective updatesMessage := by
  intro p q h
  exact (String.append_right_inj _).mp h

end Platforms

/-- **The platforms that are told of**, in the order of the platforms, are those whose modules are
text and have no assignment.  They are all those that are shipped without one exactly if the module
of every platform that is shipped is text, and none is told of exactly if every module that is text
has the assignment. -/
theorem platforms_told_iff_text (config : Config) (files : FileTree) (i : Integration)
    (done : NameSet) :
    parallelUpdates config files i done =
        (entityPlatforms.filter fun platform =>
          (i.moduleText? files platform).isSome && !setsUpdates files i platform).map
            updatesMessage ∧
      (parallelUpdates config files i done =
          (entityPlatforms.filter fun platform =>
            i.hasModule files platform && !setsUpdates files i platform).map updatesMessage ↔
        ∀ platform ∈ entityPlatforms, ¬ NotText files (i.moduleFile platform)) ∧
      (parallelUpdates config files i done = [] ↔
        ∀ platform ∈ entityPlatforms, i.hasModule files platform = true →
          setsUpdates files i platform = true ∨ NotText files (i.moduleFile platform)) := by
  refine ⟨parallelUpdates_eq config files i done, ⟨fun htold platform hplatform htext => ?_,
    fun htext => ?_⟩, ?_⟩
  · rw [parallelUpdates_eq] at htold
    have hlists := List.map_injective_iff.mpr updatesMessage_injective htold
    -- A module that is no text has no assignment, so its platform is in the second list only.
    have hnone : (i.moduleText? files platform).isSome = false := by
      rw [← Bool.not_eq_true, isSome_moduleText?_iff]
      exact fun h => h.2 htext
    have hshipped : i.hasModule files platform = true := by
      obtain ⟨b, hb, -⟩ := htext
      exact FileTree.isFile_iff.mpr ⟨b, hb⟩
    have hunset : setsUpdates files i platform = false := setsUpdates_of_none hnone
    have hmem : platform ∈ entityPlatforms.filter fun platform =>
        i.hasModule files platform && !setsUpdates files i platform :=
      List.mem_filter.mpr ⟨hplatform, by rw [hshipped, hunset]; rfl⟩
    rw [← hlists, List.mem_filter, hnone] at hmem
    cases hmem.2
  · rw [parallelUpdates_eq]
    congr 1
    refine List.filter_congr fun platform hplatform => ?_
    have hsame : (i.moduleText? files platform).isSome = i.hasModule files platform := by
      rw [Bool.eq_iff_iff, isSome_moduleText?_iff]
      exact and_iff_left (htext platform hplatform)
    rw [hsame]
  · rw [parallelUpdates_eq, List.map_eq_nil_iff, List.filter_eq_nil_iff]
    refine forall₂_congr fun platform _ => ?_
    rw [Bool.and_eq_true, isSome_moduleText?_iff, Bool.not_eq_true', ← Bool.not_eq_true]
    grind

/-- A checkout with one integration, whose only platform has a module that is no text. -/
def undecodableTree : FileTree :=
  ⟨.directory [("hue", .directory [("sensor.py", .file ⟨#[0xff]⟩)])], []⟩

/-- The integration in `undecodableTree`. -/
def undecodable : Integration where
  domain := "hue"
  path := ⟨"hue"⟩
  core := true

/-- The module of a platform is there and assigns nothing, and no message says so. -/
theorem platform_passed_over :
    "sensor" ∈ entityPlatforms ∧ undecodable.hasModule undecodableTree "sensor" = true ∧
      setsUpdates undecodableTree undecodable "sensor" = false ∧
      parallelUpdates ⟨⟨"."⟩, none⟩ undecodableTree undecodable .empty = [] := by
  decide +kernel

end Evidence

end QualityScale
