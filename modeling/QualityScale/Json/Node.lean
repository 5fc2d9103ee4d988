import QualityScale.Json.Numeral

/-!
# JSON trees

A text is first read into a tree that keeps what was written: digits of numbers, escapes of
strings, every field of an object in its order.  What a string or a number stands for is decided
where it is used, so a part that nobody asks for is never refused for its value.
-/

namespace QualityScale.Json

/-- One piece of a written string: a character, or the code of an escape. -/
inductive Piece where
  | char (c : Char)
  | unit (code : Nat)
  deriving DecidableEq, Repr

/-- The tree of a JSON text. -/
inductive Node where
  | null
  | bool (b : Bool)
  | number (n : Numeral)
  | string (pieces : List Piece)
  | array (items : List Node)
  | object (fields : List (List Piece × Node))
  deriving Inhabited

/-! ## Strings -/

/-- Whether a code is the first half of a pair. -/
def isHighHalf (code : Nat) : Bool :=
  0xd800 ≤ code && code < 0xdc00

/-- Whether a code is the second half of a pair. -/
def isLowHalf (code : Nat) : Bool :=
  0xdc00 ≤ code && code < 0xe000

/-- The characters of a written string; `none` if half of a pair stands alone. -/
def pieceChars? : List Piece → Option (List Char)
  | [] => some []
  | .char c :: rest => (pieceChars? rest).map (c :: ·)
  | .unit high :: .unit low :: rest =>
    if isHighHalf high then
      if isLowHalf low then
        let code := 0x10000 + (high - 0xd800) * 0x400 + (low - 0xdc00)
        (pieceChars? rest).map (Char.ofNat code :: ·)
      else none
    else if isLowHalf high then none
    else (pieceChars? (.unit low :: rest)).map (Char.ofNat high :: ·)
  | .unit code :: rest =>
    if isHighHalf code || isLowHalf code then none
    else (pieceChars? rest).map (Char.ofNat code :: ·)

/-- The text of a written string. -/
def pieceText? (pieces : List Piece) : Option String :=
  (pieceChars? pieces).map String.ofList

/-! ## Values -/

mutual

/-- The value of a tree, if every number and string of it has one. -/
def Node.value? : Node → Option Value
  | .null => some .null
  | .bool b => some (.bool b)
  | .number n => n.number?.map .number
  | .string pieces => (pieceText? pieces).map .string
  | .array items => (itemValues? items).map .array
  | .object fields => (fieldValues? fields).map Value.ofFields

/-- The values of the items of an array. -/
def itemValues? : List Node → Option (List Value)
  | [] => some []
  | item :: items => do
    let v ← item.value?
    let vs ← itemValues? items
    return v :: vs

/-- The keys and values of the fields of an object. -/
def fieldValues? : List (List Piece × Node) → Option (List (String × Value))
  | [] => some []
  | (key, node) :: fields => do
    let k ← pieceText? key
    let v ← node.value?
    let kvs ← fieldValues? fields
    return (k, v) :: kvs

end

end QualityScale.Json
