import GridQuery.Bounds

/-! Doubles as exact numbers: a magnitude is a mantissa below 2^53 times a power of two, and every
operation rounds its exact result to the nearest magnitude, a tie going to the even mantissa. -/
namespace GridQuery.Decimal

/-- A finite magnitude, `mantissa * 2 ^ exponent`. -/
structure Magnitude where
  mantissa : Nat
  exponent : Int
  deriving DecidableEq, Repr

namespace Magnitude

/-- The least exponent, that of the subnormal magnitudes. -/
def minExponent : Int := -1074

def maxExponent : Int := 971

/-- The least mantissa of 53 bits. -/
def leastFull : Nat := Nat.pow 2 52

def zero : Magnitude := ⟨0, minExponent⟩

/-- A ratio divided by a power of two, as a numerator and a denominator. -/
def scaled (num den : Nat) (exponent : Int) : Nat × Nat :=
  (num * Nat.pow 2 (-exponent).toNat, den * Nat.pow 2 exponent.toNat)

/-- The nearest integer to a ratio, a tie going to the even one. -/
def nearest (num den : Nat) : Nat :=
  let quotient := num / den
  let twice := 2 * (num % den)
  if den < twice ∨ (twice = den ∧ quotient % 2 = 1) then quotient + 1 else quotient

/-- The exponent at which a positive ratio has a mantissa of 53 bits, or the least one. -/
def exponentOf (num den : Nat) : Int :=
  -- The logarithms of both parts are rounded down, so the estimate is right or one too high.
  let estimate : Int := (Nat.log2 num : Int) - Nat.log2 den - 52
  let (top, bottom) := scaled num den estimate
  max minExponent (if top < bottom * leastFull then estimate - 1 else estimate)

/-- The magnitude nearest to a ratio; none above the range. -/
def ofRatio? (num den : Nat) : Option Magnitude :=
  if num = 0 then some zero
  else
    let exponent := exponentOf num den
    let (top, bottom) := scaled num den exponent
    let mantissa := nearest top bottom
    -- Rounding up can leave the 53 bits, but then it ends on a power of two.
    let rounded : Magnitude :=
      if mantissa = 2 * leastFull then ⟨leastFull, exponent + 1⟩ else ⟨mantissa, exponent⟩
    if maxExponent < rounded.exponent then none else some rounded

/-- The exact value as a ratio. -/
def toRatio (magnitude : Magnitude) : Nat × Nat :=
  (magnitude.mantissa * Nat.pow 2 magnitude.exponent.toNat, Nat.pow 2 (-magnitude.exponent).toNat)

def mul? (first second : Magnitude) : Option Magnitude :=
  ofRatio? (first.toRatio.1 * second.toRatio.1) (first.toRatio.2 * second.toRatio.2)

def div? (first second : Magnitude) : Option Magnitude :=
  ofRatio? (first.toRatio.1 * second.toRatio.2) (first.toRatio.2 * second.toRatio.1)

def floor (magnitude : Magnitude) : Nat := magnitude.toRatio.1 / magnitude.toRatio.2

/-- The magnitude nearest to `digits * 10 ^ exponent`; none above the range. -/
def ofDecimal? (digits : Nat) (exponent : Int) : Option Magnitude :=
  if digits = 0 then some zero
  -- Powers far outside the range are not computed.
  else if 400 < exponent then none
  else if exponent < -(400 + (Nat.log2 digits : Int)) then some zero
  else ofRatio? (digits * Nat.pow 10 exponent.toNat) (Nat.pow 10 (-exponent).toNat)

end Magnitude

inductive Binary64 where
  | finite (negative : Bool) (magnitude : Magnitude)
  | infinite (negative : Bool)
  | nan
  deriving DecidableEq, Repr

namespace Binary64

/-- A sign before a magnitude, above the range an infinity. -/
def signed (negative : Bool) : Option Magnitude → Binary64
  | some magnitude => finite negative magnitude
  | none => infinite negative

/-- Drops the fraction and clamps to the signed integers of 64 bits; what is no number becomes
zero. -/
def toSigned : Binary64 → Int
  | finite negative magnitude =>
    clampSigned (if negative then -magnitude.floor else magnitude.floor)
  | infinite negative => if negative then minSigned else maxSigned
  | nan => 0

end Binary64

end GridQuery.Decimal
