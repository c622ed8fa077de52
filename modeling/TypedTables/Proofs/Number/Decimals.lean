import Mathlib.Tactic.NormNum
import TypedTables.Number.Decimal
import TypedTables.Proofs.Number.Integer
import TypedTables.Proofs.Number.Rounding

/-!
# Decimals and their texts

A decimal literal is read exactly, and what it becomes in a binary format is its value rounded once.
The decimals that are settled by their digit count are those whose rounding this is.
-/

namespace TypedTables.Number

open TypedTables.Text

/-! ## Decimals -/

namespace Decimal

def size (decimal : Decimal) : ℚ :=
  decimal.significand * 10 ^ decimal.exponent

theorem value_magnitude (decimal : Decimal) : decimal.magnitude.value = decimal.size := by
  rw [magnitude, Ratio.value_scale (by decide)]
  simp [Ratio.value, size]

/-- The place behind the leading digit bounds a decimal from both sides. -/
theorem size_bounds {decimal : Decimal} (nonzero : decimal.significand ≠ 0) :
    10 ^ (decimal.exponent + Int.ofNat (digitCount decimal.significand) - 1) ≤ decimal.size ∧
      decimal.size < 10 ^ (decimal.exponent + Int.ofNat (digitCount decimal.significand)) := by
  let count := digitCount decimal.significand
  have some : 0 < count := Nat.length_toDigits_pos
  have scale : (0 : ℚ) < 10 ^ decimal.exponent := by positivity
  have high : (decimal.significand : ℚ) < 10 ^ count := by
    exact_mod_cast (Nat.length_toDigits_le_iff (by decide) some).mp le_rfl
  have low : (10 : ℚ) ^ (count - 1) ≤ decimal.significand := by
    by_cases single : count = 1
    · rw [single]
      exact_mod_cast Nat.pos_of_ne_zero nonzero
    · have notBelow : ¬decimal.significand < 10 ^ (count - 1) := by
        rw [← Nat.length_toDigits_le_iff (by decide) (by omega)]
        change ¬count ≤ count - 1
        omega
      exact_mod_cast not_lt.mp notBelow
  have ten : (10 : ℚ) ≠ 0 := by norm_num
  rw [size]
  constructor
  · have split : decimal.exponent + Int.ofNat count - 1 =
        ((count - 1 : Nat) : Int) + decimal.exponent := by
      simp only [Int.ofNat_eq_natCast]
      omega
    rw [split, zpow_add₀ ten, zpow_natCast]
    gcongr
  · rw [Int.ofNat_eq_natCast, add_comm decimal.exponent, zpow_add₀ ten, zpow_natCast]
    gcongr

end Decimal

/-- A format whose numbers lie within the decimal exponents that are looked at, by comparing ten
with the third power of two. -/
structure BinaryFormat.Settled (format : BinaryFormat) : Prop where
  sound : format.Sound
  large : format.precision + format.maxExponent ≤ 3 * Decimal.exponentBound
  small : -(3 * Decimal.exponentBound) < format.minExponent

theorem settled_double : BinaryFormat.double.Settled :=
  ⟨sound_double, by decide, by decide⟩

theorem settled_single : BinaryFormat.single.Settled :=
  ⟨sound_single, by decide, by decide⟩

namespace Decimal

variable {format : BinaryFormat}

theorem two_zpow_le_ten : (2 : ℚ) ^ (3 * exponentBound) ≤ 10 ^ exponentBound := by
  rw [zpow_mul]
  exact zpow_le_zpow_left₀ (by decide) (by norm_num) (by norm_num)

theorem ten_zpow_le_two : (10 : ℚ) ^ (-exponentBound) ≤ 2 ^ (-(3 * exponentBound)) := by
  rw [zpow_neg, zpow_neg]
  exact inv_anti₀ (by positivity) two_zpow_le_ten

/-- A decimal becomes what its size is rounded to, also where its digits are not looked at. -/
theorem roundsTo_toBinary (settled : format.Settled) (decimal : Decimal) :
    RoundsTo format decimal.negative decimal.size (decimal.toBinary format) := by
  obtain ⟨leading, isLeading⟩ : ∃ leading,
      leading = decimal.exponent + Int.ofNat (digitCount decimal.significand) := ⟨_, rfl⟩
  simp only [toBinary, beq_iff_eq, ← isLeading]
  by_cases zero : decimal.significand = 0
  · have isZero : decimal.size = 0 := by simp [size, zero]
    rw [if_pos zero, isZero]
    exact roundsTo_zero settled.sound decimal.negative
  · obtain ⟨low, high⟩ := size_bounds zero
    rw [← isLeading] at low high
    rw [if_neg zero]
    by_cases huge : exponentBound < leading
    · rw [if_pos huge]
      apply RoundsTo.infinite
      calc format.limit ≤ 2 ^ (format.precision + format.maxExponent) := format.limit_bounds.2.le
        _ ≤ 2 ^ (3 * exponentBound) := zpow_le_zpow_right₀ one_le_two settled.large
        _ ≤ 10 ^ exponentBound := two_zpow_le_ten
        _ ≤ 10 ^ (leading - 1) := zpow_le_zpow_right₀ (by norm_num) (by omega)
        _ ≤ decimal.size := low
    · rw [if_neg huge]
      by_cases tiny : leading < -exponentBound
      · rw [if_pos tiny]
        apply roundsTo_zero_of_lt settled.sound (by unfold size; positivity)
        have below := settled.small
        calc decimal.size < 10 ^ leading := high
          _ ≤ 10 ^ (-exponentBound) := zpow_le_zpow_right₀ (by norm_num) (by omega)
          _ ≤ 2 ^ (-(3 * exponentBound)) := ten_zpow_le_two
          _ ≤ 2 ^ (format.minExponent - 1) := zpow_le_zpow_right₀ one_le_two (by omega)
      · rw [if_neg tiny, ← value_magnitude]
        apply roundsTo_ofRatio settled.sound
        exact Ratio.denominator_scale (by decide) Nat.one_pos _

end Decimal

end TypedTables.Number
