import QualityScale.Text.Hex
import QualityScale.Yaml.Error
import QualityScale.Yaml.Value

/-!
# Plain scalars

What a scalar without quotes stands for: nothing, a truth value, a number, or else its own text.

Whole numbers have to fit 64 bits, with or without a sign.  A numeral that is somewhat larger is
refused; one that is far larger, and has no marked base, is a floating-point number.
-/

namespace QualityScale.Yaml

/-- Whether a text stands for nothing. -/
def isNullText (s : String) : Bool :=
  ["null", "Null", "NULL", "~"].contains s

/-- The truth value that a text stands for. -/
def boolOf? (s : String) : Option Bool :=
  if ["true", "True", "TRUE"].contains s then some true
  else if ["false", "False", "FALSE"].contains s then some false
  else none

/-! ## Numerals -/

/-- Whether this is a row of digits, and not an empty one. -/
def isDigits (cs : List Char) : Bool :=
  !cs.isEmpty && cs.all Char.isDigit

/-- The value of a row of decimal digits. -/
def decimalValue (cs : List Char) : Nat :=
  cs.foldl (fun n c => 10 * n + (c.toNat - '0'.toNat)) 0

/-- Whether digits start with a zero that does not stand alone; such a numeral is a text. -/
def isPadded (cs : List Char) : Bool :=
  2 ≤ cs.length && cs.head? == some '0' && cs.all Char.isDigit

/-- The value of digits in a base of at most sixteen. -/
def valueInBase? (base : Nat) (cs : List Char) : Option Nat :=
  if cs.isEmpty then none
  else cs.foldlM (fun n c => do
    let d ← Text.hexValue? c
    if d < base then return base * n + d else none) 0

/-- The size of a whole numeral: decimal digits, or a marked base and digits of it. -/
def wholeSize? : List Char → Option Nat
  | '0' :: 'x' :: cs => valueInBase? 16 cs
  | '0' :: 'o' :: cs => valueInBase? 8 cs
  | '0' :: 'b' :: cs => valueInBase? 2 cs
  | cs => if isDigits cs && !isPadded cs then some (decimalValue cs) else none

/-- The text after its sign. -/
def dropSign : List Char → List Char
  | '-' :: cs | '+' :: cs => cs
  | cs => cs

/-- What a whole numeral is found to be. -/
inductive WholeReading where
  | fits (n : Int)
  /-- A whole number that is out of range. -/
  | tooLarge
  /-- No whole number, or one far out of range. -/
  | notWhole

/-- A whole number that may be too large. -/
def readWhole (cs : List Char) : WholeReading :=
  match cs with
  | '-' :: digits =>
    match wholeSize? digits with
    | none => .notWhole
    | some n =>
      if n ≤ Nat.pow 2 63 then .fits (-n) else if n ≤ Nat.pow 2 127 then .tooLarge else .notWhole
  | _ =>
    match wholeSize? (if cs.head? == some '+' then cs.drop 1 else cs) with
    | none => .notWhole
    | some n =>
      if n < Nat.pow 2 64 then .fits n else if n < Nat.pow 2 128 then .tooLarge else .notWhole

/-- The digits of an exponent with its sign. -/
def exponentOf? : List Char → Option Int
  | '-' :: cs => if isDigits cs then some (-(decimalValue cs)) else none
  | '+' :: cs => if isDigits cs then some (decimalValue cs) else none
  | cs => if isDigits cs then some (decimalValue cs) else none

/-- An unsigned decimal with an optional point and exponent, as digits and a power of ten. -/
def decimalOf? (cs : List Char) : Option (Nat × Int) :=
  let whole := cs.takeWhile Char.isDigit
  let rest := cs.dropWhile Char.isDigit
  let (fraction, rest) := match rest with
    | '.' :: rest => (rest.takeWhile Char.isDigit, rest.dropWhile Char.isDigit)
    | rest => ([], rest)
  let exponent? := match rest with
    | [] => some 0
    | e :: rest => if e = 'e' ∨ e = 'E' then exponentOf? rest else none
  if whole.isEmpty ∧ fraction.isEmpty then none
  else exponent?.map fun e => (decimalValue (whole ++ fraction), e - fraction.length)

/-- The floating-point number that a text stands for. -/
def realOf? (s : String) : Option Decimal.Binary64 :=
  let (negative, cs) := match s.toList with
    | '-' :: cs => (true, cs)
    | '+' :: cs => (false, cs)
    | cs => (false, cs)
  if [".inf", ".Inf", ".INF"].contains (String.ofList cs) then some (.infinite negative)
  else if [".nan", ".NaN", ".NAN"].contains s then some .notANumber
  else
    match decimalOf? cs with
    | none => none
    | some (digits, exponent) =>
      let x := Decimal.Binary64.ofDecimal negative digits exponent
      if x.isFinite then some x else none

/-! ## Values -/

/-- The number that a text stands for. -/
def numberOf? (s : String) : Except ReadError (Option Number) :=
  match readWhole s.toList with
  | .fits n => .ok (some (.whole n))
  | .tooLarge => .error .numberOutOfRange
  | .notWhole =>
    if isPadded (dropSign s.toList) then .ok none else .ok ((realOf? s).map .real)

/-- What a plain scalar stands for. -/
def Value.ofPlain (s : String) : Except ReadError Value :=
  if s.isEmpty || isNullText s then .ok .null
  else
    match boolOf? s with
    | some b => .ok (.bool b)
    | none => do
      match ← numberOf? s with
      | some n => return .number n
      | none => return .string s

end QualityScale.Yaml
