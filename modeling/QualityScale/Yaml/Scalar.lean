import QualityScale.Text.Hex
import QualityScale.Yaml.Cursor

/-!
# Scalars

The three ways to write a scalar: plain, quoted, and as a block.  Each reader starts right at the
scalar and returns its text and the place after it.

Line breaks within plain and quoted scalars are folded.  A `Fold` is the white space that has been
passed since the last word; what becomes of it is known only when the next word comes.
-/

namespace QualityScale.Yaml

/-! ## Folding -/

/-- White space between two words of a scalar; texts are kept reversed. -/
structure Fold where
  /-- Spaces and tabs before any line break. -/
  spaces : List Char := []
  /-- The first line break. -/
  first : List Char := []
  /-- The further line breaks. -/
  further : List Char := []
  /-- Whether a line was broken. -/
  broken : Bool := false

/-- What a fold leaves between the two words, reversed. -/
def Fold.text (f : Fold) : List Char :=
  if f.broken then
    if f.first = ['\n'] then (if f.further.isEmpty then [' '] else f.further)
    else f.further ++ f.first
  else f.spaces

/--
Passes white space.  Within a line that was broken into, tabs left of the column `margin` are
refused.
-/
def takeFold (margin : Nat) : Nat → Cursor → Fold → Except ReadError (Fold × Cursor)
  | 0, c, f => .ok (f, c)
  | fuel + 1, c, f =>
    match c.rest with
    | [] => .ok (f, c)
    | x :: _ =>
      if isSpaceOrTab x then
        if f.broken then
          if x == '\t' && c.column < margin then .error .tabIndentation
          else takeFold margin fuel (c.advance 1) f
        else takeFold margin fuel (c.advance 1) { f with spaces := x :: f.spaces }
      else if isBreak x then
        let (b, c) := c.takeBreak
        if f.broken then takeFold margin fuel c { f with further := b ++ f.further }
        else takeFold margin fuel c { f with spaces := [], first := b, broken := true }
      else .ok (f, c)

/-! ## Plain scalars -/

/-- The characters that end a plain scalar within brackets. -/
def isFlowIndicator (c : Char) : Bool :=
  c == ',' || c == '[' || c == ']' || c == '\x7b' || c == '\x7d'

/-- The characters of a plain scalar up to the next spacing or indicator. -/
def plainWord (inFlow : Bool) : List Char → Except ReadError (List Char)
  | [] => .ok []
  | c :: cs =>
    if isSpacing c then .ok []
    else if inFlow && c == ':' && cs.head?.any fun d => isFlowIndicator d || d == '?' then
      .error .ambiguousColon
    else if (c == ':' && endsWord cs) || (inFlow && isFlowIndicator c) then .ok []
    else (plainWord inFlow cs).map (c :: ·)

/--
A plain scalar, word after word.  Outside brackets every line of it starts at the column `margin`
or further right.  The last result says whether a line break was passed after the last word.
-/
def plainFrom (inFlow : Bool) (margin : Nat) : Nat → Cursor → List Char → Fold →
    Except ReadError (List Char × Cursor × Bool)
  | 0, c, text, fold => .ok (text.reverse, c, fold.broken)
  | fuel + 1, c, text, fold =>
    if c.isAtDocumentMark || c.rest.head? == some '#' then .ok (text.reverse, c, fold.broken)
    else do
      let word ← plainWord inFlow c.rest
      let (text, fold) :=
        if word.isEmpty then (text, fold) else (word.reverse ++ (fold.text ++ text), {})
      let c := c.advance word.length
      if !c.rest.head?.any isSpacing then return (text.reverse, c, fold.broken)
      let (fold, c) ← takeFold margin c.rest.length c fold
      if !inFlow && c.column < margin then return (text.reverse, c, fold.broken)
      plainFrom inFlow margin fuel c text fold

/-- A plain scalar: its text, the place after it, and whether a line break was passed at its end. -/
def readPlain (inFlow : Bool) (margin : Nat) (c : Cursor) :
    Except ReadError (List Char × Cursor × Bool) :=
  plainFrom inFlow margin c.rest.length c [] {}

/-! ## Quoted scalars -/

/-- The character that a backslash and one letter stand for. -/
def escapedChar? : Char → Option Char
  | '0' => some '\x00'
  | 'a' => some '\x07'
  | 'b' => some '\x08'
  | 't' => some '\t'
  | '\t' => some '\t'
  | 'n' => some '\n'
  | 'v' => some '\x0b'
  | 'f' => some '\x0c'
  | 'r' => some '\r'
  | 'e' => some '\x1b'
  | ' ' => some ' '
  | '"' => some '"'
  | '/' => some '/'
  | '\\' => some '\\'
  | 'N' => some '\u0085'
  | '_' => some '\u00a0'
  | 'L' => some '\u2028'
  | 'P' => some '\u2029'
  | _ => none

/-- How many hexadecimal digits follow a backslash and this letter. -/
def escapeLength? : Char → Option Nat
  | 'x' => some 2
  | 'u' => some 4
  | 'U' => some 8
  | _ => none

/-- The character that an escape stands for, and the number of characters it is written with. -/
def readEscape (cs : List Char) : Except ReadError (Char × Nat) :=
  match cs with
  | [] => .error .badEscape
  | e :: rest =>
    match escapedChar? e, escapeLength? e with
    | some c, _ => .ok (c, 2)
    | none, none => .error .badEscape
    | none, some n =>
      let digits := rest.take n
      match Text.hexNumber? digits with
      | none => .error .badEscape
      | some code =>
        if digits.length = n ∧ code.isValidChar then .ok (Char.ofNat code, n + 2)
        else .error .badEscape

/--
The characters of a quoted scalar up to the next spacing or the closing quote, reversed.  The last
result says whether a line break was passed under a backslash.
-/
def quotedWord (single : Bool) : Nat → Cursor → List Char →
    Except ReadError (List Char × Cursor × Bool)
  | 0, c, text => .ok (text, c, false)
  | fuel + 1, c, text =>
    match c.rest with
    | [] => .ok (text, c, false)
    | x :: rest =>
      if isSpacing x then .ok (text, c, false)
      else if single then
        if x == '\'' then
          if rest.head? == some '\'' then quotedWord single fuel (c.advance 2) ('\'' :: text)
          else .ok (text, c, false)
        else quotedWord single fuel (c.advance 1) (x :: text)
      else if x == '"' then .ok (text, c, false)
      else if x == '\\' then
        if rest.head?.any isBreak then .ok (text, (c.advance 1).skipBreak, true)
        else do
          let (e, n) ← readEscape rest
          quotedWord single fuel (c.advance n) (e :: text)
      else quotedWord single fuel (c.advance 1) (x :: text)

/-- A quoted scalar after its opening quote, word after word. -/
def quotedFrom (single : Bool) : Nat → Cursor → List Char → Except ReadError (List Char × Cursor)
  | 0, _, _ => .error .unclosedQuote
  | fuel + 1, c, text =>
    if c.isAtDocumentMark then .error .unexpectedDocumentMark
    else if c.rest.isEmpty then .error .unclosedQuote
    else do
      let (text, c, broken) ← quotedWord single c.rest.length c text
      if c.rest.head? == some (if single then '\'' else '"') then
        return (text.reverse, c.advance 1)
      let (fold, c) ← takeFold 0 c.rest.length c { broken }
      quotedFrom single fuel c (fold.text ++ text)

/-- A quoted scalar: its text and the place after it. -/
def readQuoted (single : Bool) (c : Cursor) : Except ReadError (List Char × Cursor) :=
  quotedFrom single c.rest.length (c.advance 1) []

/-! ## Block scalars -/

/-- What becomes of the line breaks at the end of a block scalar. -/
inductive Chomp where
  /-- None stays. -/
  | strip
  /-- The first stays. -/
  | clip
  /-- All stay. -/
  | keep
  deriving DecidableEq

/-- The chomping that a character asks for. -/
def chompOf? : Char → Option Chomp
  | '+' => some .keep
  | '-' => some .strip
  | _ => none

/-- The header of a block scalar: chomping and indentation, each at most once, in any order. -/
def readBlockHeader (c : Cursor) : Except ReadError (Chomp × Option Nat × Cursor) :=
  let indentAt (c : Cursor) : Except ReadError (Option Nat × Cursor) :=
    match c.rest with
    | d :: _ =>
      if d == '0' then .error .badBlockHeader
      else if d.isDigit then .ok (some (d.toNat - '0'.toNat), c.advance 1)
      else .ok (none, c)
    | [] => .ok (none, c)
  match c.rest.head?.bind chompOf? with
  | some chomp => do
    let (indent, c) ← indentAt (c.advance 1)
    return (chomp, indent, c)
  | none => do
    let (indent, c) ← indentAt c
    match if indent.isSome then c.rest.head?.bind chompOf? else none with
    | some chomp => return (chomp, indent, c.advance 1)
    | none => return (.clip, indent, c)

/--
Passes empty lines and indentation before a line of a block scalar, with the column of its text if
that is known.  Returns the line breaks, reversed, and the rightmost column that was reached.
-/
def takeIndent (indent : Option Nat) : Nat → Cursor → List Char → Nat →
    Except ReadError (List Char × Nat × Cursor)
  | 0, c, breaks, widest => .ok (breaks, widest, c)
  | fuel + 1, c, breaks, widest =>
    let spaces := (c.rest.takeWhile (· == ' ')).length
    let c := c.advance (match indent with
      | some n => min spaces (n - c.column)
      | none => spaces)
    let widest := max widest c.column
    if indent.all (c.column < ·) && c.rest.head? == some '\t' then .error .tabIndentation
    else if c.rest.head?.any isBreak then
      let (b, c) := c.takeBreak
      takeIndent indent fuel c (b ++ breaks) widest
    else .ok (breaks, widest, c)

/-- The state of a block scalar between two of its lines; texts are kept reversed. -/
structure BlockState where
  text : List Char := []
  /-- The break at the end of the last line. -/
  first : List Char := []
  /-- The breaks of the empty lines after it. -/
  further : List Char := []
  /-- Whether the last line starts with a space or a tab. -/
  indented : Bool := false

/-- The lines of a block scalar, whose text starts at the column `indent`. -/
def blockLines (literal : Bool) (indent : Nat) : Nat → Cursor → BlockState →
    Except ReadError (BlockState × Cursor)
  | 0, c, s => .ok (s, c)
  | fuel + 1, c, s =>
    if c.column ≠ indent ∨ c.rest.isEmpty then .ok (s, c)
    else do
      let indented := c.rest.head?.any isSpaceOrTab
      let joint :=
        if !literal && s.first == ['\n'] && !s.indented && !indented then
          if s.further.isEmpty then [' '] else []
        else s.first
      let line := c.rest.takeWhile fun x => !isBreak x
      let text := line.reverse ++ (s.further ++ (joint ++ s.text))
      let (first, c) := (c.advance line.length).takeBreak
      let (further, _, c) ← takeIndent (some indent) (c.rest.length + 1) c [] 0
      blockLines literal indent fuel c { text, first, further, indented }

/-- A block scalar in a node indented to the column `parent`: its text and the place after it. -/
def readBlock (literal : Bool) (parent : Int) (c : Cursor) :
    Except ReadError (List Char × Cursor) := do
  let (chomp, explicit, c) ← readBlockHeader (c.advance 1)
  let c := (c.advanceWhile isSpaceOrTab).skipComment
  if !endsLine c.rest then throw .badBlockHeader
  let c := c.skipBreak
  let given := explicit.map fun n => (max parent 0).toNat + n
  let (further, widest, c) ← takeIndent given (c.rest.length + 1) c [] 0
  let indent := given.getD (max (max widest (parent + 1).toNat) 1)
  let (s, c) ← blockLines literal indent (c.rest.length + 1) c { further }
  let text := match chomp with
    | .strip => s.text
    | .clip => s.first ++ s.text
    | .keep => s.further ++ (s.first ++ s.text)
  return (text.reverse, c)

end QualityScale.Yaml
