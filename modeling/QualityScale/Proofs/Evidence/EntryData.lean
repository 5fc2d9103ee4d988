import QualityScale.Evidence.Setup
import QualityScale.Proofs.Evidence.PlatformModules
import QualityScale.Proofs.Source.EntryTypes

/-!
# Where an entry keeps its data

The setup of an integration is to keep the data of an entry in the entry.  Where strict typing is
declared done as well, the type of the entry has to be declared in one of four modules.

* `setupMessage`, `storageMessage`, `typeMessage`: what is said.
* `StoresData text`: the setup uses the attribute of the entry.
* `DeclaresEntryType files i`: one of the modules that can be read declares the type of the entry.
* `ToldIf p message told`: the message is told exactly if the condition holds.
* `runtimeData_tells_missing`: what is said is what is missing, and it is the more the more rules are
  declared done.
-/

namespace QualityScale.Evidence

open Source (StartsComment)

/-- What is said where there is no setup to be read. -/
def setupMessage : String := "Integration does not have an __init__.py"

/-- What is said where the setup does not keep data in the entry. -/
def storageMessage : String :=
  "Integration does not store its data in entry.runtime_data (no use of " ++
    "`runtime_data` in __init__.py)"

/-- What is said where no module declares the type of the entry. -/
def typeMessage : String :=
  "Integration uses strict typing but does not declare a typed config entry " ++
    "(`type XConfigEntry = ConfigEntry[...]`)"

/-- A line of the setup that is no comment uses the attribute of the entry. -/
def StoresData (text : String) : Prop :=
  ∃ line ∈ Text.lines text.toList, ¬ StartsComment line ∧ ".runtime_data".toList <:+: line

/-- **One of the modules that can be read declares the type of the entry**, in a line of its own. -/
def DeclaresEntryType (files : FileTree) (i : Integration) : Prop :=
  ∃ module ∈ ["__init__", "coordinator", "models", "const"], ∃ text : String,
    files.bytes (i.moduleFile module) = .ok text.toByteArray ∧
      ∃ line ∈ Text.lines text.toList, Source.DeclaresEntryType line

/-- The message is told exactly if the condition holds. -/
inductive ToldIf (p : Prop) (message : String) : List String → Prop
  | told : p → ToldIf p message [message]
  | silent : ¬ p → ToldIf p message []

section EntryData

variable {files : FileTree} {i : Integration} {module : String} {text : String} {done more : NameSet}

theorem toldIf_ite {p : Prop} {b : Bool} {message : String} (h : b = true ↔ p) :
    ToldIf p message (if b then [message] else []) := by
  split
  next hb => exact .told (h.mp hb)
  next hb => exact .silent fun hp => hb (h.mpr hp)

theorem moduleText?_eq_some_iff :
    i.moduleText? files module = some text ↔
      files.bytes (i.moduleFile module) = .ok text.toByteArray := by
  rw [Integration.moduleText?, ← FileTree.text_eq_ok_iff]
  cases files.text (i.moduleFile module) <;> simp [Except.toOption]

theorem declaresEntryType_iff : declaresEntryType files i = true ↔ DeclaresEntryType files i := by
  rw [declaresEntryType, List.any_eq_true]
  refine exists_congr fun module => and_congr_right fun _ => ?_
  rw [Integration.moduleShows, Option.any_eq_true]
  refine exists_congr fun text => ?_
  rw [moduleText?_eq_some_iff, Source.declaresTypedEntry_iff]

theorem runtimeData_of_none (config : Config) (h : i.moduleText? files setupModule = none) :
    runtimeData config files i done = [setupMessage] := by
  unfold runtimeData
  rw [h]
  rfl

theorem runtimeData_of_some (config : Config) (h : i.moduleText? files setupModule = some text) :
    runtimeData config files i done =
      (if !Source.mentions text.toList ".runtime_data".toList then [storageMessage] else []) ++
        if done.contains "strict-typing" && !declaresEntryType files i then [typeMessage]
        else [] := by
  unfold runtimeData
  rw [h]
  change (if Source.mentions text.toList ".runtime_data".toList then [] else [storageMessage]) ++ _ = _
  cases Source.mentions text.toList ".runtime_data".toList <;> rfl

theorem runtimeData_eq_setup_iff (config : Config) :
    runtimeData config files i done = [setupMessage] ↔
      i.hasModule files setupModule = false ∨ NotText files (i.moduleFile setupModule) := by
  have hread : (i.moduleText? files setupModule).isSome = true ↔
      i.hasModule files setupModule = true ∧ ¬ NotText files (i.moduleFile setupModule) :=
    isSome_moduleText?_iff
  cases h : i.moduleText? files setupModule with
  | none =>
    rw [h, Option.isSome_none] at hread
    refine iff_of_true (runtimeData_of_none config h) ?_
    by_contra hnone
    rw [not_or, Bool.not_eq_false] at hnone
    exact Bool.false_ne_true (hread.mpr hnone)
  | some text =>
    rw [h, Option.isSome_some] at hread
    obtain ⟨hmodule, htext⟩ := hread.mp rfl
    refine iff_of_false ?_ ?_
    · rw [runtimeData_of_some config h]
      split <;> split <;> decide
    · rw [hmodule]
      exact fun h => h.elim nofun htext

/-- **The more rules are done, the more is said.** -/
theorem runtimeData_sublist_of_subset (config : Config) (h : ∀ rule ∈ done, rule ∈ more) :
    (runtimeData config files i done).Sublist (runtimeData config files i more) := by
  cases htext : i.moduleText? files setupModule with
  | none => rw [runtimeData_of_none config htext, runtimeData_of_none config htext]
  | some text =>
    rw [runtimeData_of_some config htext, runtimeData_of_some config htext]
    refine .append (.refl _) ?_
    split
    next hasked =>
      obtain ⟨hstrict, huntyped⟩ := Bool.and_eq_true_iff.mp hasked
      have hstrict' := NameSet.contains_eq_true.mpr (h _ (NameSet.contains_eq_true.mp hstrict))
      rw [hstrict', huntyped]
      exact .refl _
    next => exact List.nil_sublist _

end EntryData

/-- **What is said is what is missing**: the setup, if it cannot be read; or else the use of the
entry's attribute in it, and after that the type of the entry where strict typing is done. -/
theorem runtimeData_tells_missing (config : Config) (files : FileTree) (i : Integration)
    (done : NameSet) :
    (runtimeData config files i done = [setupMessage] ↔
        i.hasModule files setupModule = false ∨ NotText files (i.moduleFile setupModule)) ∧
      (∀ text : String, files.bytes (i.moduleFile setupModule) = .ok text.toByteArray →
        ∃ storage entryType, runtimeData config files i done = storage ++ entryType ∧
          ToldIf (¬ StoresData text) storageMessage storage ∧
          ToldIf ("strict-typing" ∈ done ∧ ¬ DeclaresEntryType files i) typeMessage entryType) ∧
      ∀ more : NameSet, (∀ rule ∈ done, rule ∈ more) →
        (runtimeData config files i done).Sublist (runtimeData config files i more) := by
  refine ⟨runtimeData_eq_setup_iff config, fun text htext => ?_,
    fun more => runtimeData_sublist_of_subset config⟩
  refine ⟨_, _, runtimeData_of_some config (moduleText?_eq_some_iff.mpr htext), toldIf_ite ?_,
    toldIf_ite ?_⟩
  · rw [Bool.not_eq_true', ← Bool.not_eq_true, Source.mentions_iff, StoresData]
  · rw [Bool.and_eq_true, NameSet.contains_eq_true, Bool.not_eq_true', ← Bool.not_eq_true,
      declaresEntryType_iff]

/-- A setup that keeps its data in the entry and declares its type in a comment. -/
def untypedSetup : String :=
  "entry.runtime_data = data\n# type HueConfigEntry = ConfigEntry[Data]\n"

/-- A checkout with one integration, whose models declare a name that is no longer than its end. -/
def untypedTree : FileTree :=
  ⟨.directory [("hue", .directory [("__init__.py", .file untypedSetup.toByteArray),
    ("models.py", .file "type ConfigEntry = ConfigEntry[Data]\n".toByteArray)])], []⟩

/-- The integration in `untypedTree`. -/
def untyped : Integration where
  domain := "hue"
  path := ⟨"hue"⟩
  core := true

/-- Only when strict typing is done, the type of the entry is missing. -/
theorem runtimeData_tells_missing_untyped :
    let typed := NameSet.ofList ["strict-typing"]
    (untypedTree.bytes (untyped.moduleFile setupModule) = .ok untypedSetup.toByteArray ∧
      ∀ rule ∈ NameSet.empty, rule ∈ typed) ∧
    (∃ storage entryType, runtimeData ⟨⟨"."⟩, none⟩ untypedTree untyped typed = storage ++ entryType ∧
      ToldIf (¬ StoresData untypedSetup) storageMessage storage ∧
      ToldIf ("strict-typing" ∈ typed ∧ ¬ DeclaresEntryType untypedTree untyped) typeMessage
        entryType) ∧
    (runtimeData ⟨⟨"."⟩, none⟩ untypedTree untyped .empty).Sublist
      (runtimeData ⟨⟨"."⟩, none⟩ untypedTree untyped typed) ∧
    runtimeData ⟨⟨"."⟩, none⟩ untypedTree untyped .empty = [] ∧
    runtimeData ⟨⟨"."⟩, none⟩ untypedTree untyped typed = [typeMessage] := by
  intro typed
  have hread : untyped.moduleText? untypedTree setupModule = some untypedSetup := by decide +kernel
  have hbytes := moduleText?_eq_some_iff.mp hread
  have hmore : ∀ rule ∈ NameSet.empty, rule ∈ typed := fun rule hrule =>
    absurd hrule (NameSet.not_mem_empty rule)
  refine ⟨⟨hbytes, hmore⟩, ?_, ?_, by decide +kernel, by decide +kernel⟩
  · exact (runtimeData_tells_missing _ untypedTree untyped typed).2.1 _ hbytes
  · exact (runtimeData_tells_missing _ untypedTree untyped .empty).2.2 _ hmore

end QualityScale.Evidence
