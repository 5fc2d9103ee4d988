import QualityScale.Json.Value

/-!
# Numerals

How a written number becomes a number.  A whole numeral is exact while it fits 64 bits.  Any other
is computed in floating point: as many digits as fit 64 bits make the significand, and it is then
multiplied or divided by a power of ten, each step rounded.  The outcome may therefore differ in
its last place from the number nearest to the numeral.
-/

namespace QualityScale.Json

open Decimal (Binary64)

/-- A written number, cut into its parts; the digits are kept as they stand. -/
structure Numeral where
  negative : Bool
  whole : List Char
  /-- The digits after the point; empty without a point. -/
  fraction : List Char
  /-- The digits of the exponent, and whether it is negative. -/
  exponent : Option (Bool × List Char)
  deriving DecidableEq, Repr

/-- The value of a decimal digit. -/
def digitValue (c : Char) : Nat :=
  c.toNat - '0'.toNat

/-- The value of a run of decimal digits. -/
def digitsValue (cs : List Char) : Nat :=
  cs.foldl (fun n c => 10 * n + digitValue c) 0

/-- The largest significand. -/
def significandLimit : Nat := Nat.pow 2 64

/-- The significand grown by digits while it stays below the limit, and the digits left over. -/
def growSignificand (n : Nat) : List Char → Nat × List Char
  | [] => (n, [])
  | c :: cs =>
    let n' := 10 * n + digitValue c
    if n' < significandLimit then growSignificand n' cs else (n, c :: cs)

/-- The largest power of ten that is multiplied or divided by at once. -/
def powerStep : Nat := 308

/-- A power of ten, rounded. -/
def powerOfTen (k : Nat) : Binary64 :=
  .nearest false (Nat.pow 10 k) 1

/-- `x` times a power of ten, in steps; `none` if it leaves the range. -/
def scaleByTen (x : Binary64) (e : Int) : Nat → Option Binary64
  | 0 => some (.zero false)
  | steps + 1 =>
    if e.natAbs ≤ powerStep then
      let y := if 0 ≤ e then x.mul (powerOfTen e.toNat) else x.div (powerOfTen e.natAbs)
      if y.isFinite then some y else none
    else if x.same (.zero false) then some x
    else if 0 ≤ e then none
    else scaleByTen (x.div (powerOfTen powerStep)) (e + powerStep) steps

namespace Numeral

/-- The value of the written exponent. -/
def exponentValue (n : Numeral) : Int :=
  match n.exponent with
  | none => 0
  | some (negative, digits) => if negative then -(digitsValue digits : Int) else digitsValue digits

/-- The number that a numeral stands for; `none` if it is out of range. -/
def number? (n : Numeral) : Option Number :=
  let (significand, skipped) := growSignificand 0 n.whole
  if skipped.isEmpty ∧ n.fraction.isEmpty ∧ n.exponent.isNone ∧
      (n.negative → 0 < significand ∧ significand ≤ Nat.pow 2 63) then
    some (.whole (if n.negative then -(significand : Int) else significand))
  else
    let (grown, left) := growSignificand significand n.fraction
    let taken := n.fraction.length - left.length
    let scale := (skipped.length : Int) - taken + n.exponentValue
    (scaleByTen (.nearest false grown 1) scale 4).map fun x =>
      .real (if n.negative then x.neg else x)

end Numeral

end QualityScale.Json
