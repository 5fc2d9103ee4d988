/-!
# Blank characters and lines

Which characters count as blank when names and lines are trimmed, and how a text is cut into
lines.  Everything is stated on lists of characters; `String` appears only at the edges.

`lines_append` says that lines can be read piece by piece: a text that ends with a line break adds
its lines to those of the text after it.
-/

namespace QualityScale.Text

/-- The characters with the Unicode property White_Space, in code order. -/
def blanks : List Char :=
  ['\t', '\n', '\x0b', '\x0c', '\r', ' ', '\u0085', '\u00a0', '\u1680',
   '\u2000', '\u2001', '\u2002', '\u2003', '\u2004', '\u2005', '\u2006', '\u2007', '\u2008',
   '\u2009', '\u200a', '\u2028', '\u2029', '\u202f', '\u205f', '\u3000']

/-- A character is blank if it has the Unicode property White_Space. -/
def isBlank (c : Char) : Bool :=
  blanks.contains c

/-- The text without the blanks at its start. -/
def trimStart (cs : List Char) : List Char :=
  cs.dropWhile isBlank

/-- The text without the blanks at its end. -/
def trimEnd (cs : List Char) : List Char :=
  (trimStart cs.reverse).reverse

/-- The text without the blanks at either end. -/
def trim (cs : List Char) : List Char :=
  trimEnd (trimStart cs)

/-- A carriage return at the end of a line belongs to the line break. -/
def dropReturn (line : List Char) : List Char :=
  if line.getLast? = some '\r' then line.dropLast else line

/--
The lines of a text.  A line ends at a line feed, and a carriage return right before that line
feed goes with it; what follows the last line feed is a line too, unless it is empty, and keeps
its carriage return.
-/
def linesFrom (line : List Char) : List Char → List (List Char)
  | [] => if line.isEmpty then [] else [line.reverse]
  | '\n' :: rest => dropReturn line.reverse :: linesFrom [] rest
  | c :: rest => linesFrom (c :: line) rest

/-- The lines of a text, without their line breaks. -/
def lines (text : List Char) : List (List Char) :=
  linesFrom [] text

/-- The lines up to a line feed do not depend on what follows it. -/
theorem linesFrom_append (line s t : List Char) :
    linesFrom line (s ++ '\n' :: t) = linesFrom line (s ++ ['\n']) ++ lines t := by
  induction s generalizing line with
  | nil => simp [linesFrom, lines]
  | cons c s ih =>
    by_cases hc : c = '\n'
    · subst hc
      simp [linesFrom, ih]
    · simp [linesFrom, ih]

/-- **Lines are read piece by piece.** -/
theorem lines_append (s t : List Char) :
    lines (s ++ '\n' :: t) = lines (s ++ ['\n']) ++ lines t :=
  linesFrom_append [] s t

end QualityScale.Text
