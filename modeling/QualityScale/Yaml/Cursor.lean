import QualityScale.Yaml.Error

/-!
# Places in a YAML text

Character classes of YAML, and a cursor that knows its line and column.  Five characters break
lines; a carriage return and a line feed together are one break.
-/

namespace QualityScale.Yaml

/-- Whether a YAML text may contain the character. -/
def isAllowed (c : Char) : Bool :=
  let n := c.toNat
  n == 0x09 || n == 0x0a || n == 0x0d || (0x20 ≤ n && n ≤ 0x7e) || n == 0x85 ||
    (0xa0 ≤ n && n ≤ 0xd7ff) || (0xe000 ≤ n && n ≤ 0xfffd) || 0x10000 ≤ n

/-- Whether the character breaks a line. -/
def isBreak (c : Char) : Bool :=
  c == '\n' || c == '\r' || c == '\u0085' || c == '\u2028' || c == '\u2029'

/-- Whether the character is a space or a tab. -/
def isSpaceOrTab (c : Char) : Bool :=
  c == ' ' || c == '\t'

/-- Whether the character ends a word: a space, a tab or a line break. -/
def isSpacing (c : Char) : Bool :=
  isSpaceOrTab c || isBreak c

/-- Whether a word ends here: at a spacing character or at the end of the text. -/
def endsWord (cs : List Char) : Bool :=
  cs.head?.all isSpacing

/-- Whether a line ends here. -/
def endsLine (cs : List Char) : Bool :=
  cs.head?.all isBreak

/-- The characters of the names of anchors, directives and tag handles. -/
def isNameChar (c : Char) : Bool :=
  c.isAlphanum || c == '_' || c == '-'

/-- A place in a text: what is left of it, and how far from its start this is. -/
structure Cursor where
  rest : List Char
  column : Nat := 0
  line : Nat := 0
  /-- The number of characters before this place. -/
  index : Nat := 0

namespace Cursor

/-- The place `n` characters on, in the same line. -/
def advance (c : Cursor) (n : Nat) : Cursor :=
  { c with rest := c.rest.drop n, column := c.column + n, index := c.index + n }

/-- The place after all characters of a class, none of which breaks a line. -/
def advanceWhile (c : Cursor) (p : Char → Bool) : Cursor :=
  c.advance (c.rest.takeWhile p).length

/-- The place after a comment, if one starts here. -/
def skipComment (c : Cursor) : Cursor :=
  if c.rest.head? == some '#' then c.advanceWhile fun c => !isBreak c else c

/-- The place after a byte order mark, if one starts the line here. -/
def skipOrderMark (c : Cursor) : Cursor :=
  if c.column == 0 && c.rest.head? == some '\ufeff' then c.advance 1 else c

/-- The start of the next line, `n` characters on. -/
def nextLine (c : Cursor) (n : Nat) : Cursor :=
  { rest := c.rest.drop n, column := 0, line := c.line + 1, index := c.index + n }

/--
The line break that starts here, as it counts in a scalar, and the place after it.  All breaks
count as a line feed but for the two separators, which stand for themselves.
-/
def takeBreak (c : Cursor) : List Char × Cursor :=
  match c.rest with
  | '\r' :: '\n' :: _ => (['\n'], c.nextLine 2)
  | b :: _ =>
    if b == '\u2028' || b == '\u2029' then ([b], c.nextLine 1)
    else if isBreak b then (['\n'], c.nextLine 1)
    else ([], c)
  | [] => ([], c)

/-- The place after the line break that starts here. -/
def skipBreak (c : Cursor) : Cursor :=
  c.takeBreak.2

/-- Whether these three characters stand at the start of a line and alone. -/
def isAtMark (c : Cursor) (mark : List Char) : Bool :=
  c.column == 0 && mark.isPrefixOf c.rest && endsWord (c.rest.drop 3)

/-- Whether a document starts or ends here. -/
def isAtDocumentMark (c : Cursor) : Bool :=
  c.isAtMark ['-', '-', '-'] || c.isAtMark ['.', '.', '.']

end Cursor

end QualityScale.Yaml
