import QualityScale.Json.Fault
import QualityScale.Json.Node
import QualityScale.Text.Hex

/-!
# Reading JSON

`Node.read?` reads the tree of a text.  Where every part of a text has to have a value,
`Value.read` is used: it is strict, so it also stops at a number that is out of range, at half of a
pair, and at too many arrays and objects within each other.

Both are one reader.  It returns what it read and the text after it, or where and why it stopped.
-/

namespace QualityScale.Json

/-- How much is asked of a text. -/
inductive Rigour where
  /-- The text has a tree. -/
  | lenient
  /-- Every part of the tree has a value. -/
  | strict
  deriving DecidableEq, Repr

/-! ## Strings -/

/-- The character that a backslash and a letter stand for. -/
def escape? : Char → Option Char
  | '"' => some '"'
  | '\\' => some '\\'
  | '/' => some '/'
  | 'b' => some '\x08'
  | 'f' => some '\x0c'
  | 'n' => some '\n'
  | 'r' => some '\r'
  | 't' => some '\t'
  | _ => none

/-- How many bytes the digits of an escape take. -/
def escapeWidth : Nat := 4

/-- The stop at four digits that are none. -/
def badDigits (cs : List Char) : Stop :=
  if (Stop.bytesOf cs).length < escapeWidth then ⟨.endInString, [], 0⟩
  else ⟨.badEscape, cs, escapeWidth⟩

/-- Whether a code may not stand here, after the first half of a pair or not. -/
def isLoneHalf (afterHigh : Bool) (code : Nat) : Bool :=
  afterHigh != isLowHalf code

/--
The pieces of a string up to its closing quote.  `afterHigh` says whether the piece before is the
first half of a pair, so that the second half has to come next.
-/
def readPieces (rigour : Rigour) (afterHigh : Bool) :
    List Char → Except Stop (List Piece × List Char)
  | [] => .error ⟨.endInString, [], 0⟩
  | '\\' :: [] => .error ⟨.endInString, [], 0⟩
  | '\\' :: 'u' :: a :: b :: c :: d :: rest =>
    match Text.hexNumber? [a, b, c, d] with
    | none => .error (badDigits (a :: b :: c :: d :: rest))
    | some code =>
      if rigour = .strict ∧ isLoneHalf afterHigh code then .error ⟨.lonePairHalf, rest, 0⟩
      else do
        let (pieces, rest) ← readPieces rigour (rigour = .strict ∧ isHighHalf code) rest
        return (.unit code :: pieces, rest)
  | '\\' :: 'u' :: rest => .error (badDigits rest)
  | '\\' :: e :: rest =>
    if afterHigh then .error ⟨.unfinishedPair, e :: rest, 1⟩
    else
      match escape? e with
      | none => .error ⟨.badEscape, e :: rest, 1⟩
      | some c => do
        let (pieces, rest) ← readPieces rigour false rest
        return (.char c :: pieces, rest)
  | c :: rest =>
    if afterHigh then .error ⟨.unfinishedPair, c :: rest, 1⟩
    else if c = '"' then .ok ([], rest)
    else if c.toNat < 0x20 then .error ⟨.controlCharacter, c :: rest, 1⟩
    else do
      let (pieces, rest) ← readPieces rigour false rest
      return (.char c :: pieces, rest)

/-! ## Numbers -/

/-- Digits, of which there has to be one; a stop at another character has looked at it. -/
def readDigits (cs : List Char) : Except Stop (List Char × List Char) :=
  match cs.takeWhile Char.isDigit, cs with
  | [], [] => .error ⟨.endInValue, [], 0⟩
  | [], c :: rest => .error ⟨.badNumber, c :: rest, 1⟩
  | digits, cs => .ok (digits, cs.dropWhile Char.isDigit)

/-- The digits before the point: a zero alone, or digits that start with another one. -/
def readWhole (cs : List Char) : Except Stop (List Char × List Char) :=
  match cs with
  | '0' :: rest =>
    if rest.head?.any Char.isDigit then .error ⟨.badNumber, rest, 1⟩ else .ok (['0'], rest)
  | cs => readDigits cs

/-- The digits after a point, if there is one. -/
def readFraction : List Char → Except Stop (List Char × List Char)
  | '.' :: rest => readDigits rest
  | rest => .ok ([], rest)

/-- The sign and digits of an exponent, if there is one. -/
def readExponent : List Char → Except Stop (Option (Bool × List Char) × List Char)
  | e :: rest =>
    if e = 'e' ∨ e = 'E' then
      let (negative, rest) := match rest with
        | '+' :: rest => (false, rest)
        | '-' :: rest => (true, rest)
        | rest => (false, rest)
      (readDigits rest).map fun (digits, rest) => (some (negative, digits), rest)
    else .ok (none, e :: rest)
  | [] => .ok (none, [])

/-- The largest exponent that is looked at whole. -/
def exponentLimit : Nat := Nat.pow 2 31

/-- How many digits of an exponent are looked at: those that keep it below the limit, and one. -/
def exponentLooked (value : Nat) : List Char → Nat
  | [] => 0
  | d :: ds =>
    let value := 10 * value + digitValue d
    if exponentLimit ≤ value then 1 else exponentLooked value ds + 1

/-- The stop at a number out of range, with the text after it. -/
def outOfRange (n : Numeral) (rest : List Char) : Stop :=
  match n.exponent with
  | some (_, digits) => ⟨.numberOutOfRange, digits.drop (exponentLooked 0 digits) ++ rest, 0⟩
  | none => ⟨.numberOutOfRange, rest, 0⟩

/-- A number without its sign. -/
def readMagnitude (negative : Bool) (cs : List Char) : Except Stop (Numeral × List Char) := do
  let (whole, cs) ← readWhole cs
  let (fraction, cs) ← readFraction cs
  let (exponent, cs) ← readExponent cs
  return ({ negative, whole, fraction, exponent }, cs)

/-- A number. -/
def readNumeral (rigour : Rigour) (cs : List Char) : Except Stop (Numeral × List Char) := do
  let (n, rest) ← match cs with
    | '-' :: cs => readMagnitude true cs
    | cs => readMagnitude false cs
  if rigour = .strict ∧ n.number?.isNone then throw (outOfRange n rest)
  return (n, rest)

/-! ## Trees -/

/-- The characters between the parts of a text that do not count. -/
def isSpace (c : Char) : Bool :=
  c == ' ' || c == '\t' || c == '\n' || c == '\r'

/-- The text without the spaces at its start. -/
def skipSpace (cs : List Char) : List Char :=
  cs.dropWhile isSpace

/-- The rest of a word that stands for a value. -/
def readWord (node : Node) : List Char → List Char → Except Stop (Node × List Char)
  | [], cs => .ok (node, cs)
  | _ :: _, [] => .error ⟨.endInValue, [], 0⟩
  | w :: ws, c :: cs => if c = w then readWord node ws cs else .error ⟨.expectedWord, c :: cs, 1⟩

/-- The key of a field and the colon after it; the opening quote of the key is already read. -/
def readKey (rigour : Rigour) (cs : List Char) : Except Stop (List Piece × List Char) := do
  let (key, cs) ← readPieces rigour false cs
  match skipSpace cs with
  | ':' :: cs => return (key, cs)
  | [] => throw ⟨.endInObject, [], 0⟩
  | cs => throw ⟨.expectedColon, cs, 1⟩

mutual

/--
A tree in which `depth` arrays and objects may lie within each other.  The fuel bounds the number
of parts.
-/
def readNode (rigour : Rigour) : Nat → Nat → List Char → Except Stop (Node × List Char)
  | 0, _, _ => .error ⟨.endInValue, [], 0⟩
  | fuel + 1, depth, cs =>
    match skipSpace cs with
    | [] => .error ⟨.endInValue, [], 0⟩
    | 'n' :: rest => readWord .null ['u', 'l', 'l'] rest
    | 't' :: rest => readWord (.bool true) ['r', 'u', 'e'] rest
    | 'f' :: rest => readWord (.bool false) ['a', 'l', 's', 'e'] rest
    | '"' :: rest => (readPieces rigour false rest).map fun (pieces, rest) => (.string pieces, rest)
    | '[' :: rest =>
      if rigour = .strict ∧ depth = 0 then .error ⟨.nestedTooDeep, '[' :: rest, 1⟩
      else
        match skipSpace rest with
        | [] => .error ⟨.endInArray, [], 0⟩
        | ']' :: rest => .ok (.array [], rest)
        | rest =>
          (readItems rigour fuel (depth - 1) rest).map fun (items, rest) => (.array items, rest)
    | '\x7b' :: rest =>
      if rigour = .strict ∧ depth = 0 then .error ⟨.nestedTooDeep, '\x7b' :: rest, 1⟩
      else
        match skipSpace rest with
        | [] => .error ⟨.endInObject, [], 0⟩
        | '\x7d' :: rest => .ok (.object [], rest)
        | '"' :: rest =>
          (readFields rigour fuel (depth - 1) rest).map fun (fields, rest) => (.object fields, rest)
        | rest => .error ⟨.keyNotText, rest, 1⟩
    | c :: rest =>
      if c = '-' ∨ c.isDigit then
        (readNumeral rigour (c :: rest)).map fun (n, rest) => (.number n, rest)
      else .error ⟨.expectedValue, c :: rest, 1⟩

/-- The items of an array that has some, up to its closing bracket. -/
def readItems (rigour : Rigour) : Nat → Nat → List Char → Except Stop (List Node × List Char)
  | 0, _, _ => .error ⟨.endInArray, [], 0⟩
  | fuel + 1, depth, cs => do
    let (item, cs) ← readNode rigour fuel depth cs
    match skipSpace cs with
    | [] => throw ⟨.endInArray, [], 0⟩
    | ']' :: rest => return ([item], rest)
    | ',' :: rest =>
      match skipSpace rest with
      | [] => throw ⟨.endInValue, [], 0⟩
      | ']' :: rest => throw ⟨.trailingComma, ']' :: rest, 1⟩
      | rest =>
        let (items, rest) ← readItems rigour fuel depth rest
        return (item :: items, rest)
    | rest => throw ⟨.expectedArrayEnd, rest, 1⟩

/-- The fields of an object that has some, after the quote of the first key, up to its brace. -/
def readFields (rigour : Rigour) :
    Nat → Nat → List Char → Except Stop (List (List Piece × Node) × List Char)
  | 0, _, _ => .error ⟨.endInObject, [], 0⟩
  | fuel + 1, depth, cs => do
    let (key, cs) ← readKey rigour cs
    let (node, cs) ← readNode rigour fuel depth cs
    match skipSpace cs with
    | [] => throw ⟨.endInObject, [], 0⟩
    | '\x7d' :: rest => return ([(key, node)], rest)
    | ',' :: rest =>
      match skipSpace rest with
      | [] => throw ⟨.endInValue, [], 0⟩
      | '"' :: rest =>
        let (fields, rest) ← readFields rigour fuel depth rest
        return ((key, node) :: fields, rest)
      | '\x7d' :: rest => throw ⟨.trailingComma, '\x7d' :: rest, 1⟩
      | rest => throw ⟨.keyNotText, rest, 1⟩
    | rest => throw ⟨.expectedObjectEnd, rest, 1⟩

end

/-- How many arrays and objects may lie within each other in a value. -/
def nestingLimit : Nat := 127

/-- The tree of a text that holds one JSON value and nothing else. -/
def Node.ofChars (rigour : Rigour) (cs : List Char) : Except Stop Node := do
  let (node, rest) ← readNode rigour (2 * cs.length + 1) nestingLimit cs
  match skipSpace rest with
  | [] => return node
  | rest => throw ⟨.trailingText, rest, 1⟩

/-- The tree of a text that holds one JSON value and nothing else. -/
def Node.read? (text : String) : Option Node :=
  (Node.ofChars .lenient text.toList).toOption

/-- The value that a JSON text stands for.  A tree that was read strictly has one. -/
def Value.read (text : String) : Except Stop Value := do
  match (← Node.ofChars .strict text.toList).value? with
  | some v => return v
  | none => throw ⟨.expectedValue, text.toList, 1⟩

end QualityScale.Json
