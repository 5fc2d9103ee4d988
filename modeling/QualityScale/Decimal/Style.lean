import QualityScale.Decimal.Shortest

/-!
# Ways to write a number

The same shortest digits are laid out differently in different formats.  A `Style` holds the
decisions of one format; `Style.write` is the one function that writes a number.
-/

namespace QualityScale.Decimal

/-- The decisions of a format about how numbers are written. -/
structure Style where
  /-- The lowest exponent of the leading digit that is still written positionally. -/
  positionalFrom : Int
  /-- The highest exponent of the leading digit that is still written positionally. -/
  positionalTo : Int
  /-- Whether a positive exponent has a sign. -/
  signsExponent : Bool
  /-- What is written for an infinite number, after its sign. -/
  infinite : String
  /-- What is written for what is not a number. -/
  notANumber : String

namespace Style

/-- Digits with their point among or beside them. -/
def positional (ds : List Char) (exponent : Int) : List Char :=
  let point : Int := ds.length + exponent
  if 0 ≤ exponent then ds ++ List.replicate exponent.toNat '0' ++ ['.', '0']
  else if 0 < point then ds.take point.toNat ++ '.' :: ds.drop point.toNat
  else '0' :: '.' :: List.replicate (-point).toNat '0' ++ ds

/-- Digits with the point after the first, and the exponent of that first digit. -/
def scientific (style : Style) (ds : List Char) (leading : Int) : List Char :=
  let mantissa := match ds with
    | d :: d' :: rest => d :: '.' :: d' :: rest
    | short => short
  let sign := if leading < 0 then ['-'] else if style.signsExponent then ['+'] else []
  mantissa ++ 'e' :: sign ++ Nat.toDigits 10 leading.natAbs

/-- The shortest text for a number in this style. -/
def write (style : Style) : Binary64 → List Char
  | .notANumber => style.notANumber.toList
  | .infinite negative => (if negative then ['-'] else []) ++ style.infinite.toList
  | .finite negative m e =>
    let d := shortest m e
    let ds := Nat.toDigits 10 d.digits
    let leading := ds.length - 1 + d.exponent
    (if negative then ['-'] else []) ++
      if style.positionalFrom ≤ leading ∧ leading ≤ style.positionalTo then
        positional ds d.exponent
      else style.scientific ds leading

end Style

end QualityScale.Decimal
