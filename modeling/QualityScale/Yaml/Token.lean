import QualityScale.Yaml.Scalar
import QualityScale.Yaml.Tag

/-!
# Tokens

A YAML text as a list of tokens, in which indentation has become brackets.

A mapping key is recognised only by the colon after it.  So at every place where a key may start,
the place is kept as a `PossibleKey`, and when the colon comes, the tokens that announce the key
are put in at that place.  There is one such place for each open bracket and one outside of all.
-/

namespace QualityScale.Yaml

/-- A token. -/
inductive Token where
  | version (major minor : Nat)
  | handle (name : List Char) (start : List UInt8)
  | documentStart
  | documentEnd
  | blockSequenceStart
  | blockMappingStart
  | blockEnd
  | flowSequenceStart
  | flowSequenceEnd
  | flowMappingStart
  | flowMappingEnd
  | blockEntry
  | flowEntry
  | key
  | value
  | aliasOf (name : List Char)
  | anchor (name : List Char)
  | tag (tag : TagText)
  | scalar (text : List Char) (plain : Bool)
  deriving DecidableEq, Repr

/-- A place where a key may have started. -/
structure PossibleKey where
  /-- The number of tokens before it. -/
  count : Nat
  /-- Whether it can be nothing but a key. -/
  required : Bool
  line : Nat
  column : Nat
  index : Nat

/-- The longest key that needs no mark of its own, in characters. -/
def keyLimit : Nat := 1024

/-- What is known on the way through a text. -/
structure ScanState where
  cursor : Cursor
  /-- The tokens so far, last first. -/
  tokens : List Token := []
  /-- The column of the innermost block, or -1. -/
  indent : Int := -1
  /-- The columns of the blocks around it, innermost first. -/
  outer : List Int := []
  /-- Whether a key may start here. -/
  keyAllowed : Bool := true
  /-- The possible key within the innermost bracket. -/
  possible : Option PossibleKey := none
  /-- The possible keys around it, one for each open bracket, innermost first. -/
  around : List (Option PossibleKey) := []

namespace ScanState

/-- Whether a bracket is open. -/
def inFlow (s : ScanState) : Bool :=
  !s.around.isEmpty

/-- The state after one more token. -/
def push (s : ScanState) (t : Token) : ScanState :=
  { s with tokens := t :: s.tokens }

/-- The state with a token put in after the first `count` ones. -/
def insertAt (s : ScanState) (count : Nat) (t : Token) : ScanState :=
  let late := s.tokens.length - count
  { s with tokens := s.tokens.take late ++ t :: s.tokens.drop late }

/-- The state moved on by some characters of the line. -/
def advance (s : ScanState) (n : Nat) : ScanState :=
  { s with cursor := s.cursor.advance n }

/-! ## Possible keys -/

/-- Whether a key that started there cannot be finished here. -/
def isOverdue (s : ScanState) (k : PossibleKey) : Bool :=
  k.line < s.cursor.line || k.index + keyLimit < s.cursor.index

/-- Forgets keys that cannot be finished any more; a required one is missed. -/
def dropOverdue (s : ScanState) : Except ReadError ScanState :=
  let overdue (k : Option PossibleKey) : Bool := k.any s.isOverdue
  if (s.possible :: s.around).any fun k => overdue k && k.any (·.required) then
    .error .unfinishedKey
  else
    .ok { s with
      possible := if overdue s.possible then none else s.possible
      around := s.around.map fun k => if overdue k then none else k }

/-- Forgets the possible key; a required one is missed. -/
def dropKey (s : ScanState) : Except ReadError ScanState :=
  if s.possible.any (·.required) then .error .unfinishedKey else .ok { s with possible := none }

/-- Notes that a key may start here. -/
def saveKey (s : ScanState) : Except ReadError ScanState :=
  if !s.keyAllowed then .ok s
  else do
    let s ← s.dropKey
    return { s with
      possible := some {
        count := s.tokens.length
        required := !s.inFlow && s.indent == s.cursor.column
        line := s.cursor.line
        column := s.cursor.column
        index := s.cursor.index } }

/-! ## Blocks -/

/-- Closes the blocks right of a column, with fuel for each of them. -/
def closeBlocksFrom (column : Int) : List Int → ScanState → ScanState
  | [], s => s
  | o :: outer, s =>
    if column < s.indent then
      closeBlocksFrom column outer { s.push .blockEnd with indent := o, outer }
    else s

/-- Closes the blocks right of a column. -/
def closeBlocks (s : ScanState) (column : Int) : ScanState :=
  if s.inFlow then s else closeBlocksFrom column s.outer s

/-- Opens a block at a column right of the innermost one; its token goes after the first `count`. -/
def openBlock (s : ScanState) (column count : Nat) (t : Token) : ScanState :=
  if !s.inFlow && s.indent < column then
    { s.insertAt count t with indent := column, outer := s.indent :: s.outer }
  else s

/-! ## Between tokens -/

/--
Passes the white space and comments before the next token.  A byte order mark at the start of a
line is passed as well, and what follows it does not stand at the start of the line.
-/
def skipBlanks : Nat → ScanState → ScanState
  | 0, s => s
  | fuel + 1, s =>
    let tabs := s.inFlow || !s.keyAllowed
    let cursor := (s.cursor.skipOrderMark.advanceWhile fun c =>
      c == ' ' || (tabs && c == '\t')).skipComment
    if cursor.rest.head?.any isBreak then
      skipBlanks fuel
        { s with cursor := cursor.skipBreak, keyAllowed := s.keyAllowed || !s.inFlow }
    else { s with cursor }

/-- The state before the next token: blocks that end before it are closed. -/
def toNextToken (s : ScanState) : Except ReadError ScanState := do
  let s ← (s.skipBlanks (s.cursor.rest.length + 1)).dropOverdue
  return s.closeBlocks s.cursor.column

/-! ## Single tokens -/

/-- What a plain token of one character does to the state, after its possible key is settled. -/
def single (s : ScanState) (t : Token) (keyAllowed : Bool) : ScanState :=
  { (s.advance 1).push t with keyAllowed }

/-- An opening bracket. -/
def openBracket (s : ScanState) (t : Token) : Except ReadError ScanState := do
  let s ← s.saveKey
  return ({ s with possible := none, around := s.possible :: s.around }).single t true

/-- A closing bracket. -/
def closeBracket (s : ScanState) (t : Token) : Except ReadError ScanState := do
  let s ← s.dropKey
  let s := match s.around with
    | [] => s
    | possible :: around => { s with possible, around }
  return s.single t false

/-- A hyphen before an item of a block. -/
def blockEntry (s : ScanState) : Except ReadError ScanState := do
  if !s.inFlow && !s.keyAllowed then throw .misplacedBlockEntry
  let s ← (s.openBlock s.cursor.column s.tokens.length .blockSequenceStart).dropKey
  return s.single .blockEntry true

/-- A question mark before a key. -/
def keyMark (s : ScanState) : Except ReadError ScanState := do
  if !s.inFlow && !s.keyAllowed then throw .misplacedKey
  let s ← (s.openBlock s.cursor.column s.tokens.length .blockMappingStart).dropKey
  return s.single .key !s.inFlow

/-- A colon before a value. -/
def valueMark (s : ScanState) : Except ReadError ScanState :=
  match s.possible with
  | some k =>
    let s := (s.insertAt k.count .key).openBlock k.column k.count .blockMappingStart
    .ok (({ s with possible := none }).single .value false)
  | none => do
    if !s.inFlow && !s.keyAllowed then throw .misplacedValue
    let s := s.openBlock s.cursor.column s.tokens.length .blockMappingStart
    return s.single .value !s.inFlow

/-- The end of all blocks, before a directive or the mark of a document. -/
def endBlocks (s : ScanState) : Except ReadError ScanState := do
  return { ← (s.closeBlocks (-1)).dropKey with keyAllowed := false }

/-- The mark at which a document starts or ends. -/
def documentMark (s : ScanState) (t : Token) : Except ReadError ScanState := do
  return (← s.endBlocks).advance 3 |>.push t

/-- The name of an anchor after its mark. -/
def anchorName (s : ScanState) (token : List Char → Token) : Except ReadError ScanState := do
  let s ← s.saveKey
  let rest := s.cursor.rest.drop 1
  let name := rest.takeWhile isNameChar
  if name.isEmpty ||
      !(rest.dropWhile isNameChar).head?.all fun c =>
        isSpacing c || ['?', ':', ',', ']', '\x7d', '%', '@', '\x60'].contains c then
    throw .badAnchor
  return { (s.advance (name.length + 1)).push (token name) with keyAllowed := false }

/-- A tag before its node. -/
def tag (s : ScanState) : Except ReadError ScanState := do
  let s ← s.saveKey
  let (tag, cursor) ← readTag s.inFlow s.cursor
  return { s.push (.tag tag) with cursor, keyAllowed := false }

/-- A block scalar. -/
def blockScalar (s : ScanState) (literal : Bool) : Except ReadError ScanState := do
  let s ← s.dropKey
  let (text, cursor) ← readBlock literal s.indent s.cursor
  return { s.push (.scalar text false) with cursor, keyAllowed := true }

/-- A quoted scalar. -/
def quotedScalar (s : ScanState) (single : Bool) : Except ReadError ScanState := do
  let s ← s.saveKey
  let (text, cursor) ← readQuoted single s.cursor
  return { s.push (.scalar text false) with cursor, keyAllowed := false }

/-- A plain scalar. -/
def plainScalar (s : ScanState) : Except ReadError ScanState := do
  let s ← s.saveKey
  let (text, cursor, broken) ← readPlain s.inFlow (s.indent + 1).toNat s.cursor
  return { s.push (.scalar text true) with cursor, keyAllowed := broken }

/-! ## Directives -/

/-- A number of at most nine digits. -/
def versionNumber (c : Cursor) : Except ReadError (Nat × Cursor) :=
  let digits := c.rest.takeWhile Char.isDigit
  if digits.isEmpty || digits.length > 9 then .error .badDirective
  else .ok (digits.foldl (fun n d => 10 * n + (d.toNat - '0'.toNat)) 0, c.advance digits.length)

/-- The two numbers of a version, after the directive's name. -/
def versionDirective (c : Cursor) : Except ReadError (Token × Cursor) := do
  let (major, c) ← versionNumber (c.advanceWhile isSpaceOrTab)
  if c.rest.head? ≠ some '.' then throw .badDirective
  let (minor, c) ← versionNumber (c.advance 1)
  return (.version major minor, c)

/-- A handle and what it stands for, after the directive's name. -/
def handleDirective (c : Cursor) : Except ReadError (Token × Cursor) := do
  let c := c.advanceWhile isSpaceOrTab
  if c.rest.head? ≠ some '!' then throw .badDirective
  let handle := takeHandle c.rest
  if handle ≠ ['!'] && !isClosedHandle handle then throw .badDirective
  let c := c.advance handle.length
  if !c.rest.head?.any isSpaceOrTab then throw .badDirective
  let (start, c) ← readAddress true (c.advanceWhile isSpaceOrTab)
  if !endsWord c.rest then throw .badDirective
  return (.handle handle start, c)

/-- A directive, starting at its mark, and the start of the next line. -/
def directive (s : ScanState) : Except ReadError ScanState := do
  let s ← s.endBlocks
  let name := (s.cursor.rest.drop 1).takeWhile isNameChar
  let c := s.cursor.advance (name.length + 1)
  if name.isEmpty || !endsWord c.rest then throw .badDirective
  let (t, c) ←
    if name = "YAML".toList then versionDirective c
    else if name = "TAG".toList then handleDirective c
    else throw .badDirective
  let c := (c.advanceWhile isSpaceOrTab).skipComment
  if !endsLine c.rest then throw .badDirective
  return { s.push t with cursor := c.skipBreak }

/-! ## The next token -/

/-- The characters that mean something else at the start of a token. -/
def indicators : List Char :=
  ['-', '?', ':', ',', '[', ']', '\x7b', '\x7d', '#', '&', '*', '!', '|', '>', '\'', '"', '%', '@',
   '\x60']

/-- Whether a character can start a plain scalar wherever it stands. -/
def startsPlain (c : Char) : Bool :=
  !isSpacing c && !indicators.contains c

/-- One token, whose first character is `c`, followed by `rest`. -/
def token (s : ScanState) (c : Char) (rest : List Char) : Except ReadError ScanState :=
  let ends := s.inFlow || endsWord rest
  if c == '%' && s.cursor.column == 0 then s.directive
  else if s.cursor.isAtMark ['-', '-', '-'] then s.documentMark .documentStart
  else if s.cursor.isAtMark ['.', '.', '.'] then s.documentMark .documentEnd
  else if c == '[' then s.openBracket .flowSequenceStart
  else if c == '\x7b' then s.openBracket .flowMappingStart
  else if c == ']' then s.closeBracket .flowSequenceEnd
  else if c == '\x7d' then s.closeBracket .flowMappingEnd
  else if c == ',' then (s.dropKey).map (·.single .flowEntry true)
  else if c == '-' && endsWord rest then s.blockEntry
  else if c == '?' && ends then s.keyMark
  else if c == ':' && ends then s.valueMark
  else if c == '*' then s.anchorName .aliasOf
  else if c == '&' then s.anchorName .anchor
  else if c == '!' then s.tag
  else if c == '|' && !s.inFlow then s.blockScalar true
  else if c == '>' && !s.inFlow then s.blockScalar false
  else if c == '\'' then s.quotedScalar true
  else if c == '"' then s.quotedScalar false
  else if startsPlain c || (c == '-' && !rest.head?.any isSpaceOrTab) ||
      (!s.inFlow && (c == '?' || c == ':')) then
    s.plainScalar
  else .error .unexpectedCharacter

/-- The tokens of what is left of the text, after those that are there. -/
def run : Nat → ScanState → Except ReadError (List Token)
  | 0, s => .ok s.tokens.reverse
  | fuel + 1, s => do
    let s ← s.toNextToken
    match s.cursor.rest with
    | [] => return (← (s.closeBlocks (-1)).dropKey).tokens.reverse
    | c :: rest => run fuel (← s.token c rest)

end ScanState

/-- The tokens of a text. -/
def Token.scan (cs : List Char) : Except ReadError (List Token) :=
  if cs.all isAllowed then ScanState.run (cs.length + 1) { cursor := { rest := cs } }
  else .error .controlCharacter

end QualityScale.Yaml
