import QualityScale.Path

/-!
# Configuration of a run

Where the checkout is, and which integrations the run is about.
-/

namespace QualityScale

/-- The settings that every check of a run shares. -/
structure Config where
  /-- The root of the checkout. -/
  root : Path
  /-- The integrations asked for, by name or by path; `none` asks for all. -/
  specific : Option (List String) := none
  deriving DecidableEq, Repr

namespace Config

/-- Restricts the run to the given integrations; an empty list asks for all. -/
def withSpecific (c : Config) (wanted : List String) : Config :=
  { c with specific := if wanted.isEmpty then none else some wanted }

/-- The directory that holds the integrations. -/
def componentsDirectory (c : Config) : Path :=
  c.root.child "homeassistant/components"

/-- The list of strictly typed modules. -/
def strictTypingFile (c : Config) : Path :=
  c.root.child ".strict-typing"

/-- A request without the slashes at its end. -/
def trimSlashes (wanted : String) : String :=
  String.ofList ((wanted.toList.reverse.dropWhile (· == '/')).reverse)

/-- Whether a request is for this directory: it is the directory's name, or the same path. -/
def isFor (wanted : String) (directory : Path) : Bool :=
  let wanted := trimSlashes wanted
  wanted == directory.fileName || (Path.mk wanted).sameAs directory

/-- Whether the run is about the integration in this directory. -/
def includes (c : Config) (directory : Path) : Bool :=
  match c.specific with
  | none => true
  | some wanted => wanted.any (isFor · directory)

end Config

end QualityScale
