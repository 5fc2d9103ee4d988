import QualityScale.Exemption
import QualityScale.FileTree
import QualityScale.Yaml.Document

/-!
# Exemption files

Further exemptions can be given in a YAML file with one list of domains for each of the two kinds.
A list that is missing or empty holds no domain.  Every scalar is taken as a text here, whatever
it would stand for elsewhere, and what else the file holds is passed over.

A file must not contradict itself: no domain may be in both of its lists.
-/

namespace QualityScale

/-- Why exemptions cannot be taken from a file. -/
inductive ExemptionError where
  | file (e : FileError)
  | yaml (path : Path) (e : Yaml.ReadError)
  | contradiction (path : Path) (domain : String)
  deriving DecidableEq, Repr

/-- What is said about a file that exemptions cannot be taken from. -/
def ExemptionError.message : ExemptionError → String
  | file e => "io error: " ++ e.message
  | yaml path e => s!"invalid exemption list {path.text}: {e.message}"
  | contradiction path domain =>
    s!"invalid exemption list {path.text}: {domain} is listed as both forbidden and grandfathered"

namespace Exemptions

open Yaml (Aliases Node ReadError)

/-- The key of the domains that must not carry a declaration. -/
def forbiddenKey : String := "no_quality_scale"

/-- The key of the domains that may lack one. -/
def grandfatheredKey : String := "without_file"

/-- The node itself, or the one that an alias stands for. -/
def target (aliases : Aliases) : Node → Node
  | .aliasOf id => (aliases.targets.lookup id).getD (.aliasOf id)
  | n => n

/-- A scalar as a text. -/
def readText (aliases : Aliases) (n : Node) : Except ReadError String :=
  match target aliases n with
  | .scalar _ text _ => .ok text
  | _ => .error .unexpectedKind

/-- A list of names; an empty scalar is an empty list. -/
def readNames (aliases : Aliases) (n : Node) : Except ReadError NameSet :=
  match target aliases n with
  | .sequence _ items => (items.mapM (readText aliases)).map .ofList
  | .scalar _ "" true => .ok .empty
  | _ => .error .unexpectedKind

/-- The list under a key, which may come once. -/
def readField (aliases : Aliases) (fields : List (String × Node)) (key : String) :
    Except ReadError NameSet :=
  match fields.filter (·.1 == key) with
  | [] => .ok .empty
  | [field] => readNames aliases field.2
  | _ => .error .duplicateField

/-- The exemptions in the entries of a mapping. -/
def readEntries (aliases : Aliases) (entries : List (Node × Node)) :
    Except ReadError Exemptions := do
  let fields ← entries.mapM fun e => (readText aliases e.1).map (·, e.2)
  return ⟨← readField aliases fields forbiddenKey, ← readField aliases fields grandfatheredKey⟩

/-- The exemptions in a text. -/
def read (text : String) : Except ReadError Exemptions := do
  match ← Node.read? text with
  | none => return empty
  | some (.scalar _ "" true) => return empty
  | some (.mapping p entries) => readEntries (.ofNode (.mapping p entries)) entries
  | some _ => throw .unexpectedKind

/-- The exemptions in the file at a path, which must not contradict themselves. -/
def load (files : FileTree) (path : Path) : Except ExemptionError Exemptions :=
  match files.text path with
  | .error e => .error (.file e)
  | .ok text =>
    match read text with
    | .error e => .error (.yaml path e)
    | .ok exemptions =>
      match exemptions.contradiction? with
      | some domain => .error (.contradiction path domain)
      | none => .ok exemptions

end Exemptions

end QualityScale
