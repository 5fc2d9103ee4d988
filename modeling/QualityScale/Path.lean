import QualityScale.Text.Split

/-!
# Paths

A path is the text it was written as.  Two paths are the same place on paper when their parts
agree: repeated and trailing slashes do not count, and neither does a `.` after the first part.
A `..` is a part like any other; nothing is looked up here.
-/

namespace QualityScale

/-- A path, as written. -/
structure Path where
  text : String
  deriving DecidableEq, Repr, Inhabited

namespace Path

/-- The pieces of the path between its slashes, empty ones included. -/
def pieces (p : Path) : List String :=
  (Text.splitAt '/' p.text.toList).map String.ofList

/-- An absolute path starts with a slash. -/
def isAbsolute (p : Path) : Bool :=
  p.text.toList.head? == some '/'

/-- One part of a path. -/
inductive Part where
  /-- The slash that starts an absolute path. -/
  | root
  /-- A `.` that starts a relative path. -/
  | here
  /-- A `..`. -/
  | up
  /-- Any other name. -/
  | name (name : String)
  deriving DecidableEq, Repr

/-- The parts of a path that count: no empty ones, and `.` only where a relative path starts. -/
def parts (p : Path) : List Part :=
  let named := (p.pieces.filter fun s => s ≠ "" ∧ s ≠ ".").map fun s =>
    if s = ".." then Part.up else Part.name s
  if p.isAbsolute then .root :: named
  else if p.pieces.head? = some "." then .here :: named
  else named

/-- The pieces up to the last one that counts; the first one is always kept. -/
def trimPieces : List String → List String
  | [] => []
  | first :: rest => first :: (rest.reverse.dropWhile fun s => s = "" ∨ s = ".").reverse

/--
The path without its last part, as written; nothing is above the empty path and the top directory.
-/
def parent? (p : Path) : Option Path :=
  if p.parts.all (· == .root) then none
  else
    let above := trimPieces (trimPieces p.pieces).dropLast
    some (if p.isAbsolute && above.length ≤ 1 then ⟨"/"⟩ else ⟨"/".intercalate above⟩)

/-- The last piece that is not empty. -/
def lastPiece? (p : Path) : Option String :=
  (p.pieces.filter (· ≠ "")).getLast?

/-- Whether two paths have the same parts. -/
def sameAs (p q : Path) : Bool :=
  p.parts == q.parts

/-- The name at the end of the path, if its last part is a name. -/
def fileName? (p : Path) : Option String :=
  match p.parts.getLast? with
  | some (.name s) => some s
  | _ => none

/-- The name at the end of the path, or the empty text. -/
def fileName (p : Path) : String :=
  p.fileName?.getD ""

/-- `q` as seen from `p`.  An absolute `q` stands for itself, and no slash is doubled. -/
def join (p q : Path) : Path :=
  if q.isAbsolute then q
  else if p.text.toList.getLast?.all (· == '/') then ⟨p.text ++ q.text⟩
  else ⟨p.text ++ "/" ++ q.text⟩

/-- The path of the name `s` below `p`. -/
def child (p : Path) (s : String) : Path :=
  p.join ⟨s⟩

end Path

end QualityScale
