import QualityScale.FileTree
import QualityScale.Yaml.Document

/-!
# Declaration files

The document that says which rules an integration follows.  It is a YAML text whose top level is a
mapping; everything else about it is up to the schema.
-/

namespace QualityScale

/-- The name of the file with an integration's declaration. -/
def declarationFile : String := "quality_scale.yaml"

/-- Why a declaration cannot be read. -/
inductive DeclarationError where
  | file (e : FileError)
  | yaml (e : Yaml.ReadError)
  | notAMapping
  deriving DecidableEq, Repr

/-- What is said about a declaration that cannot be read. -/
def DeclarationError.message : DeclarationError → String
  | file e => "io error: " ++ e.message
  | yaml e => "yaml error: " ++ e.message
  | notAMapping => "top level is not a mapping"

namespace Declaration

/-- The document of a declaration. -/
def read (text : String) : Except DeclarationError Yaml.Value :=
  match Yaml.Value.read? text with
  | .error e => .error (.yaml e)
  | .ok doc => if doc.asMapping?.isSome then .ok doc else .error .notAMapping

/-- The document of the declaration at a path. -/
def load (files : FileTree) (path : Path) : Except DeclarationError Yaml.Value :=
  match files.text path with
  | .error e => .error (.file e)
  | .ok text => read text

/-- A text reads as a declaration exactly if it reads as a document that is a mapping, tags
aside. -/
theorem read_eq_ok_iff {text : String} {doc : Yaml.Value} :
    read text = .ok doc ↔
      Yaml.Value.read? text = .ok doc ∧ ∃ entries, doc.untag = .mapping entries := by
  rw [read]
  cases Yaml.Value.read? text with
  | error e => exact ⟨nofun, nofun⟩
  | ok doc' =>
    have hmapping : doc'.asMapping?.isSome = true ↔ ∃ entries, doc'.untag = .mapping entries := by
      simp only [Option.isSome_iff_exists, Yaml.Value.asMapping?_eq_some_iff]
    simp only [Except.ok.injEq]
    by_cases hm : doc'.asMapping?.isSome = true
    · rw [if_pos hm, Except.ok.injEq]
      exact ⟨fun h => ⟨h, h ▸ hmapping.mp hm⟩, fun h => h.1⟩
    · rw [if_neg hm]
      refine ⟨nofun, ?_⟩
      rintro ⟨rfl, h⟩
      exact absurd (hmapping.mpr h) hm

/-- A declaration loads exactly if there is a file at its path whose bytes encode its text. -/
theorem load_eq_ok_iff {files : FileTree} {path : Path} {doc : Yaml.Value} :
    load files path = .ok doc ↔
      ∃ text : String, files.bytes path = .ok text.toByteArray ∧ read text = .ok doc := by
  simp only [← FileTree.text_eq_ok_iff]
  rw [load]
  cases files.text path with
  | error e => exact ⟨nofun, nofun⟩
  | ok text => simp only [Except.ok.injEq, exists_eq_left']

end Declaration

end QualityScale
