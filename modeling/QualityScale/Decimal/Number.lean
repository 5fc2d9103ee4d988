import QualityScale.Decimal.Style

/-!
# Numbers of a document

The numbers that a document can hold: whole ones, which are exact, and floating-point ones.
-/

namespace QualityScale

/-- A number: a whole one or a floating-point one. -/
inductive Number where
  | whole (n : Int)
  | real (x : Decimal.Binary64)
  deriving DecidableEq, Repr, Inhabited

namespace Number

/-- The digits of a whole number, after its sign. -/
def writeWhole (n : Int) : List Char :=
  if n < 0 then '-' :: Nat.toDigits 10 n.natAbs else Nat.toDigits 10 n.natAbs

/-- The text of a number, floating-point ones in the given style. -/
def write (style : Decimal.Style) : Number → List Char
  | whole n => writeWhole n
  | real x => style.write x

/-- Equality as values: a whole number never equals a floating-point one. -/
def same : Number → Number → Bool
  | whole m, whole n => m == n
  | real x, real y => x.same y
  | _, _ => false

end Number

end QualityScale
