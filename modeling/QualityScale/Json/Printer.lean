import QualityScale.Json.Node.Reader

/-!
# Writing JSON

The two layouts of a JSON text: everything on one line without spaces, or every item and field on
a line of its own, indented by two spaces for each level.
-/

namespace QualityScale.Json

/-- Floating-point numbers have a sign on a positive exponent. -/
def numberStyle : Decimal.Style where
  positionalFrom := -5
  positionalTo := 15
  signsExponent := true
  infinite := "inf"
  notANumber := "NaN"

/-- A hexadecimal digit. -/
def hexDigit (n : Nat) : Char :=
  Nat.digitChar n

/-- How one character is written within a string. -/
def writeChar (c : Char) : List Char :=
  if c = '"' then ['\\', '"']
  else if c = '\\' then ['\\', '\\']
  else if c = '\x08' then ['\\', 'b']
  else if c = '\x0c' then ['\\', 'f']
  else if c = '\n' then ['\\', 'n']
  else if c = '\r' then ['\\', 'r']
  else if c = '\t' then ['\\', 't']
  else if c.toNat < 0x20 then
    ['\\', 'u', '0', '0', hexDigit (c.toNat / 16), hexDigit (c.toNat % 16)]
  else [c]

/-- A string in its quotes. -/
def writeString (s : String) : List Char :=
  '"' :: s.toList.flatMap writeChar ++ ['"']

mutual

/-- A value on one line. -/
def Value.compact : Value → List Char
  | .null => "null".toList
  | .bool true => "true".toList
  | .bool false => "false".toList
  | .number n => n.write numberStyle
  | .string s => writeString s
  | .array items => '[' :: compactItems items ++ [']']
  | .object fields => '{' :: compactFields fields ++ ['}']

/-- Items with commas between them. -/
def compactItems : List Value → List Char
  | [] => []
  | [v] => v.compact
  | v :: vs => v.compact ++ ',' :: compactItems vs

/-- Fields with commas between them. -/
def compactFields : List (String × Value) → List Char
  | [] => []
  | [(k, v)] => writeString k ++ ':' :: v.compact
  | (k, v) :: fields => writeString k ++ ':' :: v.compact ++ ',' :: compactFields fields

end

/-- A line break and the spaces of a level. -/
def newLine (level : Nat) : List Char :=
  '\n' :: List.replicate (2 * level) ' '

mutual

/-- A value over several lines, at a level of indentation. -/
def Value.pretty (level : Nat) : Value → List Char
  | .null => "null".toList
  | .bool true => "true".toList
  | .bool false => "false".toList
  | .number n => n.write numberStyle
  | .string s => writeString s
  | .array [] => ['[', ']']
  | .array (v :: vs) =>
    '[' :: newLine (level + 1) ++ v.pretty (level + 1) ++ prettyItems (level + 1) vs
      ++ newLine level ++ [']']
  | .object [] => ['{', '}']
  | .object ((k, v) :: fields) =>
    '{' :: newLine (level + 1) ++ writeString k ++ ':' :: ' ' :: v.pretty (level + 1)
      ++ prettyFields (level + 1) fields ++ newLine level ++ ['}']

/-- Further items, each after a comma and on a line of its own. -/
def prettyItems (level : Nat) : List Value → List Char
  | [] => []
  | v :: vs => ',' :: newLine level ++ v.pretty level ++ prettyItems level vs

/-- Further fields, each after a comma and on a line of its own. -/
def prettyFields (level : Nat) : List (String × Value) → List Char
  | [] => []
  | (k, v) :: fields =>
    ',' :: newLine level ++ writeString k ++ ':' :: ' ' :: v.pretty level
      ++ prettyFields level fields

end

/-- A value as a text on one line. -/
def Value.compactText (v : Value) : String :=
  String.ofList v.compact

/-- A value as a text over several lines. -/
def Value.prettyText (v : Value) : String :=
  String.ofList (v.pretty 0)

end QualityScale.Json
