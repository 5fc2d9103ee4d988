import QualityScale.Integration.Manifest
import QualityScale.Trace

/-!
# The registry

The integrations of a checkout by their domains.  A registry is loaded from the directories below
the components directory.  Of several directories that load to one domain the last one in the
order of names stays.
-/

namespace QualityScale

/-- Integrations with their findings, by domain. -/
abbrev Registry := NameMap Entry

/-- The components directory of a checkout is missing. -/
structure ComponentsNotFound where
  path : Path
  deriving DecidableEq, Repr

/-- What is said about a checkout without a components directory. -/
def ComponentsNotFound.message (e : ComponentsNotFound) : String :=
  "components directory not found: " ++ e.path.text

namespace Registry

/-- A name below the components directory that never belongs to an integration. -/
def cacheName : String := "__pycache__"

/-- The directories that a run looks at, given the names in the components directory. -/
def candidates (files : FileTree) (components : Path) (config : Config) (listing : List String) :
    List Path :=
  let directories := listing.filter fun name =>
    name ≠ cacheName ∧ files.isDirectory (components.child name)
  ((NameSet.ofList directories).toList.map components.child).filter config.includes

/-- Whether a directory has a manifest. -/
def hasManifest (files : FileTree) (directory : Path) : Bool :=
  files.has (Integration.manifestFile directory)

/-- The integrations that are found, in the order of their directories. -/
def found (files : FileTree) (core : Bool) (directories : List Path) : List Entry :=
  (directories.filter (hasManifest files)).map fun d => Integration.load files d core

/-- A registry of the entries; of two with one domain the last one stays. -/
def ofEntries (entries : List Entry) : Registry :=
  entries.foldl (fun r e => r.insert e.integration.domain e) .empty

/-- What happens when a directory is looked at. -/
def visit (files : FileTree) (core : Bool) (directory : Path) : Event :=
  if hasManifest files directory then
    .integrationLoaded (Integration.load files directory core).integration.domain
  else .directorySkipped directory

/--
The registry of a components directory and what happens while it is loaded.  The listing holds the
names in that directory in any order.
-/
def loadListing (files : FileTree) (components : Path) (core : Bool) (config : Config)
    (listing : List String) : Registry × Trace :=
  let directories := candidates files components config listing
  (ofEntries (found files core directories), Trace.plain (directories.map (visit files core)))

/-- The registry of a components directory. -/
def load (files : FileTree) (components : Path) (core : Bool) (config : Config) :
    Except ComponentsNotFound (Registry × Trace) :=
  if files.isDirectory components then
    .ok (loadListing files components core config (files.names components))
  else .error ⟨components⟩

end Registry

end QualityScale
