import QualityScale.Decimal.Binary64

/-!
# Shortest decimals

The shortest decimal that reads back as a given number.  The decimals that read back as
`m * 2 ^ e` fill the interval halfway to the numbers next to it, ends included exactly if `m` is
even.  For one digit, two digits and so on the value's two neighbours on that decimal grid are
tried; seventeen digits always suffice.
-/

namespace QualityScale.Decimal

/-- A decimal: `digits * 10 ^ exponent`. -/
structure Scaled where
  digits : Nat
  exponent : Int
  deriving DecidableEq, Repr, Inhabited

/-- The exponent of the leading decimal digit of `num / den`, which is not zero. -/
def leadingExponent (num den : Nat) : Int :=
  if den ≤ num then Binary64.digitCount (num / den) - 1
  else -(Binary64.digitCount ((den + num - 1) / num - 1) : Int)

/--
The interval of the decimals that read back as a number, on one decimal grid.  A grid point `c`
stands at `c * step`, and all fields are in one common unit.
-/
structure Rounding where
  step : Nat
  value : Nat
  low : Nat
  high : Nat
  /-- Whether the ends belong to the interval. -/
  closed : Bool

/-- The interval of `m * 2 ^ e` on the grid of multiples of `10 ^ k`. -/
def Rounding.of (m : Nat) (e k : Int) : Rounding :=
  let unit := Nat.pow 10 (-k).toNat * Nat.pow 2 (e - 2).toNat
  let below := if m = Binary64.mantissaFull ∧ e > Binary64.exponentLow then 1 else 2
  { step := Nat.pow 10 k.toNat * Nat.pow 2 (2 - e).toNat
    value := 4 * m * unit
    low := (4 * m - below) * unit
    high := (4 * m + 2) * unit
    closed := m % 2 = 0 }

/-- Whether the grid point reads back. -/
def Rounding.holds (r : Rounding) (c : Nat) : Bool :=
  if r.closed then r.low ≤ c * r.step && c * r.step ≤ r.high
  else r.low < c * r.step && c * r.step < r.high

/-- The grid point that reads back and lies nearest to the value; halfway, the even one. -/
def Rounding.best? (r : Rounding) : Option Nat :=
  let c := r.value / r.step
  match r.holds c, r.holds (c + 1) with
  | true, true =>
    let twice := 2 * r.value
    let middle := (2 * c + 1) * r.step
    if twice < middle then some c
    else if middle < twice then some (c + 1)
    else if c % 2 = 0 then some c else some (c + 1)
  | true, false => some c
  | false, true => some (c + 1)
  | false, false => none

/-- The first of the finer and finer grids, `tries` of them, on which a point reads back. -/
def firstGrid (m : Nat) (e k : Int) : Nat → Scaled
  | 0 => ⟨m, e⟩
  | tries + 1 =>
    match (Rounding.of m e k).best? with
    | some c => ⟨c, k⟩
    | none => firstGrid m e (k - 1) tries

/-- The decimal without zeros at its end; at most `tries` of them are taken away. -/
def Scaled.withoutZeros (d : Scaled) : Nat → Scaled
  | 0 => d
  | tries + 1 =>
    if d.digits ≠ 0 ∧ d.digits % 10 = 0 then
      Scaled.withoutZeros ⟨d.digits / 10, d.exponent + 1⟩ tries
    else d

/-- The shortest decimal that reads back as `m * 2 ^ e`; of those, the nearest. -/
def shortest (m : Nat) (e : Int) : Scaled :=
  if m = 0 then ⟨0, 0⟩
  else
    let (num, den) := Binary64.quotient m e
    (firstGrid m e (leadingExponent num den) 17).withoutZeros 17

end QualityScale.Decimal
