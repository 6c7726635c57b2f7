import GridQuery.Decimal.Binary64
import Mathlib.Algebra.Order.Field.Power
import Mathlib.Algebra.Order.Floor.Semifield
import Mathlib.Data.Rat.Floor

/-! The numbers that doubles stand for. As an integer a double counts without its fraction, cut off
at the signed range. -/
namespace GridQuery.Decimal

/-- An integer without the fraction of a number, towards zero. -/
def truncated (x : ℚ) : Int := if x < 0 then ⌈x⌉ else ⌊x⌋

/-- The number that a magnitude stands for. -/
def Magnitude.value (magnitude : Magnitude) : ℚ :=
  magnitude.mantissa * 2 ^ magnitude.exponent

/-- The number that a double stands for, if it stands for any. -/
def Binary64.value? : Binary64 → Option ℚ
  | finite negative magnitude => some (if negative then -magnitude.value else magnitude.value)
  | infinite _ | nan => none

theorem truncated_of_nonneg {x : ℚ} (nonneg : 0 ≤ x) : truncated x = ⌊x⌋₊ := by
  rw [truncated, if_neg (not_lt.mpr nonneg), Int.natCast_floor_eq_floor nonneg]

theorem truncated_neg (x : ℚ) : truncated (-x) = -truncated x := by
  simp only [truncated, Left.neg_neg_iff]
  obtain negative | rfl | positive := lt_trichotomy x 0
  · rw [if_neg (not_lt.mpr negative.le), if_pos negative, Int.floor_neg]
  · simp
  · rw [if_pos positive, if_neg (not_lt.mpr positive.le), Int.ceil_neg]

namespace Magnitude

variable (magnitude : Magnitude)

theorem value_nonneg : 0 ≤ magnitude.value :=
  mul_nonneg (Nat.cast_nonneg _) (zpow_nonneg zero_le_two _)

theorem value_eq_div :
    magnitude.value = (magnitude.toRatio.1 : ℚ) / (magnitude.toRatio.2 : ℚ) := by
  have parted : magnitude.exponent =
      (magnitude.exponent.toNat : Int) - ((-magnitude.exponent).toNat : Int) := by
    omega
  -- A ratio has its powers as natural numbers.
  simp only [value, toRatio, Nat.pow_eq, Nat.cast_mul, Nat.cast_pow, Nat.cast_ofNat]
  conv_lhs => rw [parted, zpow_sub₀ two_ne_zero, zpow_natCast, zpow_natCast, ← mul_div_assoc]

theorem floor_eq : magnitude.floor = ⌊magnitude.value⌋₊ := by
  rw [value_eq_div, Nat.floor_div_eq_div]
  rfl

end Magnitude

/-- As an integer a double is its number without the fraction, cut off at the signed range. -/
theorem Binary64.toSigned_of_value {double : Binary64} {x : ℚ} (stands : double.value? = some x) :
    double.toSigned = clampSigned (truncated x) := by
  cases double with
  | finite negative magnitude =>
    cases stands
    have whole : truncated magnitude.value = magnitude.floor := by
      rw [truncated_of_nonneg magnitude.value_nonneg, magnitude.floor_eq]
    rw [toSigned]
    cases negative
    · rw [if_neg Bool.false_ne_true, if_neg Bool.false_ne_true, whole]
    · rw [if_pos rfl, if_pos rfl, truncated_neg, whole]
  | infinite => cases stands
  | nan => cases stands

end GridQuery.Decimal
