import QualityScale.Path

/-!
# File trees

The files that a run may look at, as a value.  A tree holds directories and files with their
bytes; paths are followed through it part by part, with `..` leading to the directory above.  A
relative path starts at the tree's home.

Reading is one function, `FileTree.bytes`, and everything else that is asked about a file follows
from it or from `FileTree.node`.  No run changes a tree.  Between runs it changes as a checkout does,
by `FileTree.makeDirectory`, `FileTree.write` and `FileTree.remove`.
-/

namespace QualityScale

/-- Why a file could not be read. -/
inductive FileError where
  | notFound
  | notADirectory
  | isADirectory
  | nameTooLong
  | nulInPath
  | notText
  deriving DecidableEq, Repr

/-- What is said when a file could not be read. -/
def FileError.message : FileError → String
  | notFound => "No such file or directory (os error 2)"
  | notADirectory => "Not a directory (os error 20)"
  | isADirectory => "Is a directory (os error 21)"
  | nameTooLong => "File name too long (os error 36)"
  | nulInPath => "file name contained an unexpected NUL byte"
  | notText => "stream did not contain valid UTF-8"

/-- A file, or a directory with its entries. -/
inductive FileNode where
  | file (bytes : ByteArray)
  | directory (entries : List (String × FileNode))
  deriving Inhabited

/-- The entries of a directory: the node of each name that occurs in it. -/
abbrev FileEntries := List (String × FileNode)

namespace FileNode

/-- The entries with `name` leading to `node`. -/
def withEntry (name : String) (node : FileNode) : FileEntries → FileEntries
  | [] => [(name, node)]
  | e :: es => if e.1 = name then (name, node) :: es else e :: withEntry name node es

/-- The longest name of a directory entry, in bytes. -/
def nameLimit : Nat := 255

/--
Follows names from `here`, with the directories above it at hand, nearest first.  The name `.`
and the empty name stay, `..` goes up, and the top directory is above itself.
-/
def follow (here : FileNode) (above : List FileNode) : List String → Except FileError FileNode
  | [] => .ok here
  | name :: names =>
    match here with
    | file _ => .error .notADirectory
    | directory entries =>
      if name = "" ∨ name = "." then follow here above names
      else if name = ".." then
        match above with
        | [] => follow here [] names
        | up :: rest => follow up rest names
      else if name.utf8ByteSize > nameLimit then .error .nameTooLong
      else
        match entries.lookup name with
        | none => .error .notFound
        | some node => follow node (here :: above) names

/-- Directories along the names, made where they are missing; `none` if a file is in the way. -/
def withDirectory : FileNode → List String → Option FileNode
  | file _, _ => none
  | directory entries, [] => some (directory entries)
  | directory entries, name :: names =>
    ((entries.lookup name).getD (directory [])).withDirectory names |>.map fun node =>
      directory (withEntry name node entries)

/-- The file at the end of the names; `none` if its directory is missing or a directory is there. -/
def withFile (bytes : ByteArray) : FileNode → List String → Option FileNode
  | file _, _ => none
  | directory _, [] => none
  | directory entries, [name] =>
    match entries.lookup name with
    | some (directory _) => none
    | _ => some (directory (withEntry name (file bytes) entries))
  | directory entries, name :: names =>
    match entries.lookup name with
    | none => none
    | some node => (node.withFile bytes names).map fun node =>
        directory (withEntry name node entries)

/--
Directories along the parts of a path, made where they are missing, from the directory at `route`
on.  What comes after a name that cannot be a directory is not made.
-/
def withDirectories (top : FileNode) (route : List String) : List Path.Part → FileNode
  | [] => top
  | .root :: parts => withDirectories top [] parts
  | .here :: parts => withDirectories top route parts
  | .up :: parts => withDirectories top route.dropLast parts
  | .name s :: parts =>
    if s.utf8ByteSize > nameLimit then top
    else
      match top.withDirectory (route ++ [s]) with
      | none => top
      | some top => withDirectories top (route ++ [s]) parts

/-- The tree with nothing in the directory that the names lead to. -/
def emptied : FileNode → List String → FileNode
  | file bytes, _ => file bytes
  | directory _, [] => directory []
  | directory entries, name :: names =>
    directory (entries.map fun e => if e.1 = name then (e.1, e.2.emptied names) else e)

/-- The tree without what the names lead to. -/
def without : FileNode → List String → FileNode
  | file bytes, _ => file bytes
  | directory entries, [] => directory entries
  | directory entries, [name] => directory (entries.filter fun e => e.1 ≠ name)
  | directory entries, name :: names =>
    directory (entries.map fun e => if e.1 = name then (e.1, e.2.without names) else e)

end FileNode

/-- A tree of files with the directory that relative paths start from. -/
structure FileTree where
  /-- The top directory. -/
  top : FileNode
  /-- The names that lead from the top directory to the home directory. -/
  home : List String

namespace FileTree

/-- The longest path, in bytes, with the byte that ends it. -/
def pathLimit : Nat := 4096

/-- Why a path cannot lead anywhere, whatever the tree holds. -/
def pathFault? (p : Path) : Option FileError :=
  if p.text.toList.contains '\x00' then some .nulInPath
  else if p.text = "" then some .notFound
  else if p.text.utf8ByteSize ≥ pathLimit then some .nameTooLong
  else none

/-- The names to follow from the top directory for a path. -/
def steps (t : FileTree) (p : Path) : List String :=
  if p.isAbsolute then p.pieces else t.home ++ p.pieces

/-- What a path leads to. -/
def node (t : FileTree) (p : Path) : Except FileError FileNode :=
  match pathFault? p with
  | some e => .error e
  | none => t.top.follow [] (t.steps p)

/-- The bytes of the file at a path. -/
def bytes (t : FileTree) (p : Path) : Except FileError ByteArray := do
  match ← t.node p with
  | .file bytes => return bytes
  | .directory _ => throw .isADirectory

/-- The text of the file at a path. -/
def text (t : FileTree) (p : Path) : Except FileError String := do
  match String.fromUTF8? (← t.bytes p) with
  | some s => return s
  | none => throw .notText

/-- Whether a path leads to a file. -/
def isFile (t : FileTree) (p : Path) : Bool :=
  match t.node p with
  | .ok (.file _) => true
  | _ => false

/-- Whether a path leads to a directory. -/
def isDirectory (t : FileTree) (p : Path) : Bool :=
  match t.node p with
  | .ok (.directory _) => true
  | _ => false

/-- Whether a path leads anywhere. -/
def has (t : FileTree) (p : Path) : Bool :=
  (t.node p).toOption.isSome

/-- The names in the directory at a path; none if there is no directory. -/
def names (t : FileTree) (p : Path) : List String :=
  match t.node p with
  | .ok (.directory entries) => entries.map Prod.fst
  | _ => []

theorem bytes_eq_ok_iff {t : FileTree} {p : Path} {b : ByteArray} :
    t.bytes p = .ok b ↔ t.node p = .ok (.file b) := by
  unfold bytes
  cases h : t.node p with
  | error e => simp [bind, Except.bind]
  | ok n => cases n <;> simp [bind, Except.bind, pure, Except.pure, throw, throwThe,
      MonadExceptOf.throw]

/-- The text of a file is the one that its bytes encode. -/
theorem text_eq_ok_iff {t : FileTree} {p : Path} {s : String} :
    t.text p = .ok s ↔ t.bytes p = .ok s.toByteArray := by
  rw [text]
  cases t.bytes p with
  | error e => exact ⟨nofun, nofun⟩
  | ok b =>
    simp only [bind, Except.bind, pure, Except.pure, Except.ok.injEq]
    by_cases hb : b.IsValidUTF8
    · rw [String.fromUTF8?, dif_pos hb, Except.ok.injEq, ← String.toByteArray_inj]
      rfl
    · rw [String.fromUTF8?, dif_neg hb]
      refine ⟨nofun, fun h => absurd ?_ hb⟩
      exact h ▸ s.isValidUTF8

/-- A file has no text if its bytes cannot be had or encode none. -/
theorem text_eq_error_iff {t : FileTree} {p : Path} {e : FileError} :
    t.text p = .error e ↔
      t.bytes p = .error e ∨ ∃ b, t.bytes p = .ok b ∧ ¬ b.IsValidUTF8 ∧ e = .notText := by
  rw [text]
  cases t.bytes p with
  | error f => simp [bind, Except.bind]
  | ok b =>
    simp only [bind, Except.bind, pure, Except.pure]
    by_cases hb : b.IsValidUTF8
    · rw [String.fromUTF8?, dif_pos hb]
      simp [hb]
    · rw [String.fromUTF8?, dif_neg hb]
      simp [hb, throw, throwThe, MonadExceptOf.throw, eq_comm]

/-- A path leads to a file exactly if that file's bytes can be had. -/
theorem isFile_iff {t : FileTree} {p : Path} : t.isFile p = true ↔ ∃ b, t.bytes p = .ok b := by
  simp only [bytes_eq_ok_iff, isFile]
  cases t.node p with
  | error e => simp
  | ok n => cases n <;> simp

/-- The tree with nothing but its home directory. -/
def empty (home : List String) : FileTree :=
  ⟨((FileNode.directory []).withDirectory home).getD (.directory []), home⟩

/-- The names from the top directory that a path stands for, with every `..` taken back. -/
def route (t : FileTree) (p : Path) : List String :=
  let start := if p.isAbsolute then [] else t.home
  p.pieces.foldl (fun names s =>
    if s = "" ∨ s = "." then names else if s = ".." then names.dropLast else names ++ [s]) start

/--
The tree with a directory at the path and all above it, as far as no file is in the way.  A path
that ends in `.` names a directory that has to be there already, so only those above it are made.
-/
def makeDirectory (t : FileTree) (p : Path) : FileTree :=
  if (pathFault? p).isSome then t
  else
    let parts := if p.lastPiece? = some "." then p.parts.dropLast else p.parts
    { t with top := t.top.withDirectories t.home parts }

/--
The tree with a file at the path and directories above it, as far as no directory is there and no
file in the way.  A path that ends in a slash, in `.` or in `..` names no file.
-/
def write (t : FileTree) (p : Path) (bytes : ByteArray) : FileTree :=
  match p.parent? with
  | none => t
  | some parent =>
    let t := t.makeDirectory parent
    let name := p.pieces.getLast?.getD ""
    if name ∈ ["", ".", ".."] ∨ FileNode.nameLimit < name.utf8ByteSize ∨ (pathFault? p).isSome
    then t
    else
      match t.top.follow [] (t.steps p).dropLast with
      | .ok (.directory _) => { t with top := (t.top.withFile bytes (t.route p)).getD t.top }
      | _ => t

/--
The tree without the file or directory at the path.  A directory whose path ends in `.` or `..` is
emptied and stays.
-/
def remove (t : FileTree) (p : Path) : FileTree :=
  match t.node p with
  | .error _ => t
  | .ok (.file _) => { t with top := t.top.without (t.route p) }
  | .ok (.directory _) =>
    if p.lastPiece? ∈ [none, some ".", some ".."] then { t with top := t.top.emptied (t.route p) }
    else { t with top := t.top.without (t.route p) }

end FileTree

end QualityScale
