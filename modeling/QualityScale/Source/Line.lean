import QualityScale.Source.Pattern
import QualityScale.Text.Blank
import QualityScale.Text.Word

/-!
# What a line of source shows

Modules are not parsed.  A module is a list of lines, lines whose first character that is not
blank is `#` are comments, and every question about a module is whether some other line looks a
certain way.
-/

namespace QualityScale.Source

open Text (isBlank isWord)

/-- Whether a line is a comment. -/
def isComment (line : List Char) : Bool :=
  (Text.trimStart line).head? == some '#'

/-- The lines of a module that are not comments. -/
def codeLines (source : List Char) : List (List Char) :=
  (Text.lines source).filter fun line => !isComment line

/-- A run, possibly empty, of blanks. -/
def gap : Pattern := .many isBlank

/-- A run of at least one blank. -/
def space : Pattern := .many1 isBlank

/-- A definition of a function of this name, at any indentation. -/
def definition (name : List Char) : Pattern :=
  .all [gap, .optional (.all [.literal "async".toList, space]), .literal "def".toList, space,
    .literal name, gap, .literal ['(']]

/-- An assignment to this name at the start of a line, with or without an annotation. -/
def assignment (name : List Char) : Pattern :=
  .all [.literal name, gap, .optional (.all [.literal [':'], .many1 (· != '=')]), .literal ['='],
    .one (· != '=')]

/-- This name and an opening parenthesis. -/
def application (name : List Char) : Pattern :=
  .all [.literal name, gap, .literal ['(']]

/-- A type alias for a typed configuration entry, at the start of a line. -/
def typedEntryAlias : Pattern :=
  .all [.literal "type".toList, space, .many1 isWord, .literal "ConfigEntry".toList, gap,
    .literal ['='], gap, .literal "ConfigEntry[".toList]

/-- Whether a word ends or starts between a character and what follows it. -/
def isWordBoundary (before : Option Char) (after : List Char) : Bool :=
  before.any isWord != after.head?.any isWord

/-- Whether the pattern occurs at a word boundary, `before` being the character that precedes. -/
def occursAtBoundary (p : Pattern) (before : Option Char) (line : List Char) : Bool :=
  isWordBoundary before line && p.startsIn line ||
    match line with
    | [] => false
    | c :: rest => occursAtBoundary p (some c) rest

/-- Whether the text occurs somewhere in a line. -/
def occurs (needle : List Char) (line : List Char) : Bool :=
  needle.isPrefixOf line ||
    match line with
    | [] => false
    | _ :: rest => occurs needle rest

/-- Whether some line defines a function of this name. -/
def defines (source name : List Char) : Bool :=
  (codeLines source).any (definition name).startsIn

/-- Whether some line assigns to this name at module level. -/
def assigns (source name : List Char) : Bool :=
  (codeLines source).any (assignment name).startsIn

/-- Whether some line has this name, from a word boundary on, before an opening parenthesis. -/
def calls (source name : List Char) : Bool :=
  (codeLines source).any (occursAtBoundary (application name) none)

/-- Whether some line holds this text. -/
def mentions (source needle : List Char) : Bool :=
  (codeLines source).any (occurs needle)

/-- Whether some line, comment or not, declares an alias for a typed configuration entry. -/
def declaresTypedEntry (source : List Char) : Bool :=
  (Text.lines source).any typedEntryAlias.startsIn

theorem occurs_iff {needle line : List Char} :
    occurs needle line = true ↔ ∃ before rest, line = before ++ (needle ++ rest) := by
  induction line with
  | nil =>
    unfold occurs
    cases needle <;> simp
  | cons c line ih =>
    unfold occurs
    rw [Bool.or_eq_true, ih, List.isPrefixOf_iff_prefix]
    constructor
    · rintro (⟨rest, h⟩ | ⟨before, rest, rfl⟩)
      · exact ⟨[], rest, h.symm⟩
      · exact ⟨c :: before, rest, rfl⟩
    · rintro ⟨before, rest, h⟩
      cases before with
      | nil => exact .inl ⟨rest, h.symm⟩
      | cons d before => exact .inr ⟨before, rest, (List.cons.inj h).2⟩

end QualityScale.Source
