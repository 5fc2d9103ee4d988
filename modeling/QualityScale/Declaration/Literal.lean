import QualityScale.Yaml.Value

/-!
# Literals

How a value of a declaration is shown to the reader of a report: as a literal of the language that
integrations are written in.  Tags are not shown.
-/

namespace QualityScale.Yaml

/-- How floating-point numbers are shown. -/
def numberStyle : Decimal.Style where
  positionalFrom := -5
  positionalTo := 15
  signsExponent := false
  infinite := ".inf"
  notANumber := ".nan"

/-- A text in quotes: single ones, unless it has some itself and no double ones. -/
def quoteText (cs : List Char) : List Char :=
  if cs.contains '\'' && !cs.contains '"' then '"' :: cs ++ ['"']
  else '\'' :: cs.flatMap (fun c => if c = '\'' then ['\\', '\''] else [c]) ++ ['\'']

mutual

/-- A value as a literal. -/
def Value.literal : Value → List Char
  | .null => "None".toList
  | .bool true => "True".toList
  | .bool false => "False".toList
  | .number n => n.write numberStyle
  | .string s => quoteText s.toList
  | .sequence items => '[' :: literalItems items ++ [']']
  | .mapping entries => '\x7b' :: literalEntries entries ++ ['\x7d']
  | .tagged _ v => v.literal

/-- Items with commas between them. -/
def literalItems : List Value → List Char
  | [] => []
  | [v] => v.literal
  | v :: vs => v.literal ++ ',' :: ' ' :: literalItems vs

/-- Entries with commas between them. -/
def literalEntries : List (Value × Value) → List Char
  | [] => []
  | [(k, v)] => k.literal ++ ':' :: ' ' :: v.literal
  | (k, v) :: es => k.literal ++ ':' :: ' ' :: (v.literal ++ ',' :: ' ' :: literalEntries es)

end

/-- A key as a part of a path: a text as it is, anything else as a literal. -/
def Value.keyText : Value → String
  | .string s => s
  | v => String.ofList v.literal

/-- The longest text that is shown for a value. -/
def shownLimit : Nat := 500

/-- A text as it is shown: whole if it is short enough, else its start and three dots. -/
def abridge (cs : List Char) : List Char :=
  if cs.length ≤ shownLimit then cs else cs.take (shownLimit - 3) ++ ['.', '.', '.']

/-- A value as it is shown. -/
def Value.shown (v : Value) : String :=
  String.ofList (abridge v.literal)

end QualityScale.Yaml
