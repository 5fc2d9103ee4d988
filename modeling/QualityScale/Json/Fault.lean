/-!
# Faults of a JSON text

Why a text is no JSON, and where that was noticed.  A place is told as a line and a column; columns
are counted in bytes.
-/

namespace QualityScale.Json

/-- Why a text is no JSON. -/
inductive Fault where
  | endInArray
  | endInObject
  | endInString
  | endInValue
  | expectedColon
  | expectedArrayEnd
  | expectedObjectEnd
  | expectedWord
  | expectedValue
  | keyNotText
  | trailingComma
  | trailingText
  | badNumber
  | numberOutOfRange
  | badEscape
  | controlCharacter
  | lonePairHalf
  | unfinishedPair
  | nestedTooDeep
  deriving DecidableEq, Repr

/-- What is said about a fault. -/
def Fault.message : Fault → String
  | endInArray => "EOF while parsing a list"
  | endInObject => "EOF while parsing an object"
  | endInString => "EOF while parsing a string"
  | endInValue => "EOF while parsing a value"
  | expectedColon => "expected \x60:\x60"
  | expectedArrayEnd => "expected \x60,\x60 or \x60]\x60"
  | expectedObjectEnd => "expected \x60,\x60 or \x60\x7d\x60"
  | expectedWord => "expected ident"
  | expectedValue => "expected value"
  | keyNotText => "key must be a string"
  | trailingComma => "trailing comma"
  | trailingText => "trailing characters"
  | badNumber => "invalid number"
  | numberOutOfRange => "number out of range"
  | badEscape => "invalid escape"
  | controlCharacter =>
    "control character (\\u0000-\\u001F) found while parsing a string"
  | lonePairHalf => "lone leading surrogate in hex escape"
  | unfinishedPair => "unexpected end of hex escape"
  | nestedTooDeep => "recursion limit exceeded"

/-- Where and why the reading of a text stops. -/
structure Stop where
  fault : Fault
  /-- The text that is left. -/
  rest : List Char
  /-- How many bytes of what is left count as read. -/
  looked : Nat := 0
  deriving DecidableEq, Repr

namespace Stop

/-- The bytes of a text. -/
def bytesOf (cs : List Char) : List UInt8 :=
  (String.ofList cs).toUTF8.toList

/-- The bytes of a text up to the place where its reading stops. -/
def bytesRead (s : Stop) (text : List Char) : List UInt8 :=
  (bytesOf text).take ((bytesOf text).length - (bytesOf s.rest).length + s.looked)

/-- The byte that ends a line. -/
def lineEnd : UInt8 := 10

/-- What is said about the stop, with its line and column in the text. -/
def message (s : Stop) (text : List Char) : String :=
  let read := s.bytesRead text
  let column := (read.reverse.takeWhile (· != lineEnd)).length
  s!"{s.fault.message} at line {read.count lineEnd + 1} column {column}"

end Stop

end QualityScale.Json
