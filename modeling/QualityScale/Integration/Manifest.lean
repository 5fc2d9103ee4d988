import QualityScale.FileTree
import QualityScale.Integration
import QualityScale.Json.Printer
import QualityScale.Text.Quoted

/-!
# Manifests

What is taken from the manifest of an integration: its domain, its kind and its quality scale.
They are taken together or not at all.  An integration whose manifest cannot be read is named
after its directory and bears a finding, so the run goes on.
-/

namespace QualityScale

/-- What is taken from a manifest. -/
structure ManifestFields where
  domain : Option String := none
  kind : IntegrationKind := .hub
  qualityScale : Option String := none
  deriving DecidableEq, Repr

/-- What is expected at a place of a manifest. -/
inductive Expectation where
  | text
  | nameOrMap
  | nothing
  | fields
  deriving DecidableEq, Repr

/-- How an expectation is named. -/
def Expectation.name : Expectation → String
  | text => "a string"
  | nameOrMap => "string or map"
  | nothing => "unit"
  | fields => "struct ManifestFields"

/-- How a JSON value is named where it is not expected. -/
def Json.Value.kindText : Json.Value → String
  | .null => "null"
  | .bool b => s!"boolean \x60{b}\x60"
  | .number (.whole n) => s!"integer \x60{String.ofList (Number.writeWhole n)}\x60"
  | .number (.real x) => s!"floating point \x60{String.ofList (Json.numberStyle.write x)}\x60"
  | .string s => "string " ++ Text.quote s
  | .array _ => "sequence"
  | .object _ => "map"

/-- Why a manifest does not have the fields that are to be taken from it. -/
inductive ManifestError where
  | wrongKind (found : Json.Value) (expected : Expectation)
  | notSingleKey
  | tooFew (count : Nat)
  | tooMany (count : Nat)

/-- What is said about a manifest that does not have the fields. -/
def ManifestError.message : ManifestError → String
  | wrongKind found expected => s!"invalid type: {found.kindText}, expected {expected.name}"
  | notSingleKey => "invalid value: map, expected map with a single key"
  | tooFew count => s!"invalid length {count}, expected struct ManifestFields with 3 elements"
  | tooMany count => s!"invalid length {count}, expected fewer elements in array"

namespace ManifestFields

open Json (Value)

/-- A text, or nothing. -/
def optionalText : Value → Except ManifestError (Option String)
  | .null => .ok none
  | .string s => .ok (some s)
  | v => .error (.wrongKind v .text)

/-- A kind of integration: its name, or an object with the name as its only key. -/
def kindOf : Value → Except ManifestError IntegrationKind
  | .string s => .ok (.ofName s)
  | .object [(name, .null)] => .ok (.ofName name)
  | .object [(_, v)] => .error (.wrongKind v .nothing)
  | .object _ => .error .notSingleKey
  | v => .error (.wrongKind v .nameOrMap)

/-- The fields of an object, taken in the order of their names. -/
def ofObject (v : Value) : Except ManifestError ManifestFields := do
  let domain ← optionalText ((v.get? "domain").getD .null)
  let kind ← match v.get? "integration_type" with
    | some k => kindOf k
    | none => pure .hub
  let qualityScale ← optionalText ((v.get? "quality_scale").getD .null)
  return { domain, kind, qualityScale }

/-- The fields from the items of an array, in order. -/
def ofItems : List Value → Except ManifestError ManifestFields
  | [] => .error (.tooFew 0)
  | [domain] => do
    let _ ← optionalText domain
    throw (.tooFew 2)
  | [domain, kind] => do
    let _ ← optionalText domain
    let _ ← kindOf kind
    throw (.tooFew 2)
  | domain :: kind :: qualityScale :: more => do
    let domain ← optionalText domain
    let kind ← kindOf kind
    let qualityScale ← optionalText qualityScale
    if more.isEmpty then return { domain, kind, qualityScale }
    else throw (.tooMany (3 + more.length))

/-- The fields of a manifest. -/
def ofValue : Value → Except ManifestError ManifestFields
  | .object fields => ofObject (.object fields)
  | .array items => ofItems items
  | v => .error (.wrongKind v .fields)

end ManifestFields

/-! ## Loading -/

/-- What can be wrong with a manifest. -/
inductive ManifestFault where
  | unreadable (e : FileError)
  | notJson (message : String)
  | invalid (e : ManifestError)

/-- What is reported for a manifest. -/
def ManifestFault.message : ManifestFault → String
  | unreadable e => "Manifest file not readable: " ++ e.message
  | notJson message => "Manifest contains invalid JSON: " ++ message
  | invalid e => "Invalid manifest: " ++ e.message

namespace Integration

/-- The category of findings about manifests. -/
def manifestCategory : String := "manifest"

/-- The file with an integration's manifest. -/
def manifestFile (directory : Path) : Path :=
  directory.child "manifest.json"

/-- The integration in a directory, as it is known before its manifest is read. -/
def ofDirectory (directory : Path) (core : Bool) : Integration where
  domain := directory.fileName
  path := directory
  core := core

/-- The integration with what is taken from its manifest. -/
def withFields (i : Integration) (fields : ManifestFields) : Integration :=
  { i with
    domain := fields.domain.getD i.domain
    kind := fields.kind
    qualityScale := fields.qualityScale }

/-- The integration as its manifest describes it, and what is wrong with the manifest. -/
def describe (i : Integration) (manifest : Except FileError String) :
    Integration × Option ManifestFault :=
  match manifest with
  | .error e => (i, some (.unreadable e))
  | .ok text =>
    match Json.Value.read text with
    | .error stop => (i, some (.notJson (stop.message text.toList)))
    | .ok value =>
      match ManifestFields.ofValue value with
      | .ok fields => ({ i.withFields fields with manifest := value }, none)
      | .error e => ({ i with manifest := value }, some (.invalid e))

/-- The integration in a directory, with a finding if its manifest is faulty. -/
def load (files : FileTree) (directory : Path) (core : Bool) : Entry :=
  let (i, fault) := (ofDirectory directory core).describe (files.text (manifestFile directory))
  ⟨i, fault.toList.map fun f => ⟨manifestCategory, f.message⟩⟩

/-- Whatever a manifest says, the integration stays in its directory. -/
theorem path_describe (i : Integration) (manifest : Except FileError String) :
    (i.describe manifest).1.path = i.path := by
  unfold describe
  split
  · rfl
  · split
    · rfl
    · split <;> rfl

@[simp] theorem path_load (files : FileTree) (directory : Path) (core : Bool) :
    (load files directory core).integration.path = directory :=
  path_describe (ofDirectory directory core) _

end Integration

end QualityScale
