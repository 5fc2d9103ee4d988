/-!
# Binary floating point

Numbers with a 53-bit mantissa and an 11-bit exponent, as exact values: a finite one is
`mantissa * 2 ^ exponent` up to sign.  Every operation here computes the exact result as a quotient
of natural numbers and rounds it once, to the nearest number, a tie going to the even mantissa.
-/

namespace QualityScale.Decimal

/-- The whole number nearest to `num / den`; halfway, the even one. -/
def roundQuotient (num den : Nat) : Nat :=
  let q := num / den
  let r := num % den
  if 2 * r < den then q
  else if den < 2 * r then q + 1
  else if q % 2 = 0 then q else q + 1

/-- A floating-point number. -/
inductive Binary64 where
  /-- `mantissa * 2 ^ exponent`, negated if `negative`. -/
  | finite (negative : Bool) (mantissa : Nat) (exponent : Int)
  | infinite (negative : Bool)
  | notANumber
  deriving DecidableEq, Repr, Inhabited

namespace Binary64

/-- Mantissas stay below this. -/
def mantissaLimit : Nat := Nat.pow 2 53

/-- From here on a mantissa has all its bits. -/
def mantissaFull : Nat := Nat.pow 2 52

/-- The exponent of the smallest numbers. -/
def exponentLow : Int := -1074

/-- The exponent of the largest numbers. -/
def exponentHigh : Int := 971

/-- Zero with a sign. -/
def zero (negative : Bool) : Binary64 :=
  finite negative 0 exponentLow

/-- `num / den / 2 ^ e` as a quotient. -/
def unscale (num den : Nat) (e : Int) : Nat × Nat :=
  if 0 ≤ e then (num, den * Nat.pow 2 e.toNat) else (num * Nat.pow 2 (-e).toNat, den)

/-- The exponent at which `num / den` has a mantissa with all its bits, or the lowest one. -/
def exponentFor (num den : Nat) : Int :=
  let e : Int := (num.log2 : Int) - den.log2 - 52
  let (n, d) := unscale num den e
  max exponentLow (if n < mantissaFull * d then e - 1 else e)

/-- The number nearest to `num / den`; infinite if it is out of range. -/
def nearest (negative : Bool) (num den : Nat) : Binary64 :=
  if num = 0 then zero negative
  else
    let e := exponentFor num den
    let (n, d) := unscale num den e
    let m := roundQuotient n d
    let (m, e) := if m = mantissaLimit then (mantissaFull, e + 1) else (m, e)
    if e > exponentHigh then infinite negative else finite negative m e

/-- How many decimal digits a number is written with; none for zero. -/
def digitCount (n : Nat) : Nat :=
  if n = 0 then 0 else (Nat.toDigits 10 n).length

/-- The number nearest to `digits * 10 ^ exponent`. -/
def ofDecimal (negative : Bool) (digits : Nat) (exponent : Int) : Binary64 :=
  let size : Int := digitCount digits + exponent
  if digits = 0 then zero negative
  else if size > 310 then infinite negative
  else if size < -330 then zero negative
  else if 0 ≤ exponent then nearest negative (digits * Nat.pow 10 exponent.toNat) 1
  else nearest negative digits (Nat.pow 10 (-exponent).toNat)

/-- A finite number without its sign, as a quotient. -/
def quotient (mantissa : Nat) (exponent : Int) : Nat × Nat :=
  if 0 ≤ exponent then (mantissa * Nat.pow 2 exponent.toNat, 1)
  else (mantissa, Nat.pow 2 (-exponent).toNat)

/-- The product of two finite numbers, rounded once. -/
def mul (x y : Binary64) : Binary64 :=
  match x, y with
  | finite s m e, finite s' m' e' =>
    let (n, d) := quotient m e
    let (n', d') := quotient m' e'
    nearest (s != s') (n * n') (d * d')
  | _, _ => notANumber

/-- The quotient of two finite numbers, the second not zero, rounded once. -/
def div (x y : Binary64) : Binary64 :=
  match x, y with
  | finite s m e, finite s' m' e' =>
    let (n, d) := quotient m e
    let (n', d') := quotient m' e'
    if n' = 0 then notANumber else nearest (s != s') (n * d') (d * n')
  | _, _ => notANumber

/-- Whether a number is finite. -/
def isFinite : Binary64 → Bool
  | finite .. => true
  | _ => false

/-- The number with its sign turned. -/
def neg : Binary64 → Binary64
  | finite s m e => finite (!s) m e
  | infinite s => infinite (!s)
  | notANumber => notANumber

/-- Equality as values: the two zeros are one, and what is not a number equals itself. -/
def same (x y : Binary64) : Bool :=
  match x, y with
  | finite _ 0 _, finite _ 0 _ => true
  | _, _ => x == y

end Binary64

end QualityScale.Decimal
