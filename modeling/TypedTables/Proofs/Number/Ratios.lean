import Mathlib.Algebra.Order.Field.Power
import Mathlib.Algebra.Ring.Parity
import Mathlib.Tactic.FieldSimp
import Mathlib.Tactic.Linarith
import Mathlib.Tactic.Positivity
import Mathlib.Tactic.Ring
import TypedTables.Number.Binary

/-!
# Values of ratios

A ratio has a rational value, which scaling multiplies.  Rounding gives the nearest natural number,
from halfway the even one.
-/

namespace TypedTables.Number

namespace Ratio

variable {ratio : Ratio}

def value (ratio : Ratio) : ℚ :=
  ratio.numerator / ratio.denominator

theorem value_nonneg : 0 ≤ ratio.value := by
  unfold value
  positivity

theorem denominator_scale
    {base : Nat} (positiveBase : 0 < base) (positive : 0 < ratio.denominator) (exponent : Int) :
    0 < (ratio.scale base exponent).denominator := by
  rw [scale]
  split
  · exact positive
  · exact Nat.mul_pos positive (Nat.pow_pos positiveBase)

theorem value_scale
    {base : Nat} (positiveBase : 0 < base) (exponent : Int) :
    (ratio.scale base exponent).value = ratio.value * (base : ℚ) ^ exponent := by
  have nonzero : (base : ℚ) ≠ 0 := by positivity
  by_cases nonnegative : 0 ≤ exponent
  · obtain ⟨power, rfl⟩ := Int.eq_ofNat_of_zero_le nonnegative
    simp [scale, value]
    ring
  · obtain ⟨power, same⟩ := Int.eq_ofNat_of_zero_le (by omega : 0 ≤ -exponent)
    have negated : exponent = -(power : Int) := by omega
    subst negated
    simp only [scale, if_neg nonnegative, value, neg_neg, Int.toNat_natCast, Nat.pow_eq,
      Nat.cast_mul, Nat.cast_pow, zpow_neg, zpow_natCast]
    field_simp

/-- A natural number that is nearest to a number, and even where the number lies halfway. -/
structure NearestWhole (number : ℚ) (whole : Nat) : Prop where
  near : |number - whole| ≤ 1 / 2
  even : |number - whole| = 1 / 2 → Even whole

theorem nearestWhole_of_close {number : ℚ} {whole : Nat} (close : |number - whole| < 1 / 2) :
    NearestWhole number whole where
  near := close.le
  even half := absurd half close.ne

theorem nearestWhole_of_even
    {number : ℚ} {whole : Nat} (half : |number - whole| = 1 / 2) (even : Even whole) :
    NearestWhole number whole where
  near := half.le
  even _ := even

theorem value_eq_quotient_add (positive : 0 < ratio.denominator) :
    ratio.value = (ratio.numerator / ratio.denominator : Nat) +
      (ratio.numerator % ratio.denominator : Nat) / ratio.denominator := by
  have positive' : (0 : ℚ) < ratio.denominator := by exact_mod_cast positive
  have divided := Nat.div_add_mod ratio.numerator ratio.denominator
  rw [value]
  nth_rewrite 1 [← divided]
  push_cast
  field_simp

/-- The cases are those of the rounding: the rest is more than half of the denominator, half of it
beside an odd quotient, or neither. -/
theorem nearestWhole_roundHalfEven (positive : 0 < ratio.denominator) :
    NearestWhole ratio.value ratio.roundHalfEven := by
  have parts := value_eq_quotient_add positive
  have restLess := Nat.mod_lt ratio.numerator positive
  rw [roundHalfEven]
  generalize ratio.numerator / ratio.denominator = quotient at parts ⊢
  generalize ratio.numerator % ratio.denominator = rest at parts restLess ⊢
  have positive' : (0 : ℚ) < ratio.denominator := by exact_mod_cast positive
  have below : ratio.value - quotient = rest / ratio.denominator := by
    rw [parts, add_sub_cancel_left]
  have above : ratio.value - (quotient + 1 : Nat) = rest / ratio.denominator - 1 := by
    rw [parts]
    push_cast
    ring
  split
  · next exceeds =>
      have half : 1 / 2 < (rest : ℚ) / ratio.denominator := by
        rw [div_lt_div_iff₀ two_pos positive', one_mul, mul_comm]
        exact_mod_cast exceeds
      have one : (rest : ℚ) / ratio.denominator < 1 := by
        rw [div_lt_one positive']
        exact_mod_cast restLess
      apply nearestWhole_of_close
      rw [above, abs_lt]
      constructor <;> linarith
  · next bounded =>
      have halfway : 2 * rest = ratio.denominator → (rest : ℚ) / ratio.denominator = 1 / 2 := by
        intro half
        rw [div_eq_div_iff positive'.ne' two_ne_zero, one_mul, mul_comm]
        exact_mod_cast half
      split
      · next tie =>
          simp only [Bool.and_eq_true, beq_iff_eq] at tie
          apply nearestWhole_of_even
          · rw [above, halfway tie.1]
            norm_num
          · rw [Nat.even_add_one, Nat.not_even_iff]
            exact tie.2
      · next noTie =>
          simp only [Bool.and_eq_true, beq_iff_eq, not_and] at noTie
          have size : |ratio.value - quotient| = rest / ratio.denominator := by
            rw [below, abs_of_nonneg (by positivity)]
          by_cases half : 2 * rest = ratio.denominator
          · apply nearestWhole_of_even
            · rw [size, halfway half]
            · rw [Nat.even_iff]
              have := noTie half
              omega
          · apply nearestWhole_of_close
            rw [size, div_lt_div_iff₀ positive' two_pos, one_mul, mul_comm]
            exact_mod_cast (Nat.le_of_not_lt bounded).lt_of_ne half

theorem lt_mul_denominator_iff (positive : 0 < ratio.denominator) (bound : Nat) :
    ratio.numerator < bound * ratio.denominator ↔ ratio.value < bound := by
  rw [value, div_lt_iff₀ (by exact_mod_cast positive)]
  norm_cast

theorem value_eq_natCast_iff (positive : 0 < ratio.denominator) (whole : Nat) :
    ratio.value = whole ↔
      ratio.numerator % ratio.denominator = 0 ∧ ratio.numerator / ratio.denominator = whole := by
  have exactly : ratio.value = whole ↔ ratio.numerator = whole * ratio.denominator := by
    rw [value, div_eq_iff (by exact_mod_cast positive.ne')]
    norm_cast
  rw [exactly]
  constructor
  · intro same
    rw [same]
    exact ⟨Nat.mul_mod_left whole _, Nat.mul_div_cancel whole positive⟩
  · intro ⟨divides, quotient⟩
    rw [← quotient, Nat.div_mul_cancel (Nat.dvd_of_mod_eq_zero divides)]

/-- A positive ratio lies within a factor of two of the ratio of the leading bits. -/
theorem value_bounds (positive : 0 < ratio.numerator) (divisor : 0 < ratio.denominator) :
    (2 : ℚ) ^ (Int.ofNat ratio.numerator.log2 - Int.ofNat ratio.denominator.log2 - 1) ≤
        ratio.value ∧
      ratio.value <
        (2 : ℚ) ^ (Int.ofNat ratio.numerator.log2 - Int.ofNat ratio.denominator.log2 + 1) := by
  have divisor' : (0 : ℚ) < ratio.denominator := by exact_mod_cast divisor
  have numeratorLow : (2 : ℚ) ^ ratio.numerator.log2 ≤ ratio.numerator := by
    exact_mod_cast Nat.log2_self_le positive.ne'
  have numeratorHigh : (ratio.numerator : ℚ) < 2 ^ (ratio.numerator.log2 + 1) := by
    exact_mod_cast Nat.lt_log2_self
  have denominatorLow : (2 : ℚ) ^ ratio.denominator.log2 ≤ ratio.denominator := by
    exact_mod_cast Nat.log2_self_le divisor.ne'
  have denominatorHigh : (ratio.denominator : ℚ) < 2 ^ (ratio.denominator.log2 + 1) := by
    exact_mod_cast Nat.lt_log2_self
  have two : (2 : ℚ) ≠ 0 := two_ne_zero
  rw [value, le_div_iff₀ divisor', div_lt_iff₀ divisor']
  simp only [Int.ofNat_eq_natCast]
  constructor
  · calc (2 : ℚ) ^ ((ratio.numerator.log2 : Int) - ratio.denominator.log2 - 1) * ratio.denominator
        ≤ 2 ^ ((ratio.numerator.log2 : Int) - ratio.denominator.log2 - 1) *
            2 ^ (ratio.denominator.log2 + 1) := by gcongr
      _ = 2 ^ ratio.numerator.log2 := by
          rw [← zpow_natCast, ← zpow_add₀ two, ← zpow_natCast]
          congr 1
          push_cast
          ring
      _ ≤ ratio.numerator := numeratorLow
  · calc (ratio.numerator : ℚ)
        < 2 ^ (ratio.numerator.log2 + 1) := numeratorHigh
      _ = 2 ^ ((ratio.numerator.log2 : Int) - ratio.denominator.log2 + 1) *
            2 ^ ratio.denominator.log2 := by
          rw [← zpow_natCast, ← zpow_natCast, ← zpow_add₀ two]
          congr 1
          push_cast
          ring
      _ ≤ 2 ^ ((ratio.numerator.log2 : Int) - ratio.denominator.log2 + 1) *
            ratio.denominator := by gcongr

namespace NearestWhole

variable {number : ℚ} {whole : Nat}

theorem le_of_lt
    (nearest : NearestWhole number whole) {bound : Nat} (below : number < bound) :
    whole ≤ bound := by
  have close : (whole : ℚ) < (bound + 1 : Nat) := by
    push_cast
    linarith [(abs_le.mp nearest.near).1]
  exact Nat.lt_succ_iff.mp (by exact_mod_cast close)

/-- Numbers in the upper half of the last place below a power of two go to the power, also from
halfway, since its predecessor is odd. -/
theorem eq_power_iff
    (nearest : NearestWhole number whole) {power : Nat} (positive : 0 < power)
    (below : number < 2 ^ power) : whole = 2 ^ power ↔ 2 ^ power - 1 / 2 ≤ number := by
  obtain ⟨low, high⟩ := abs_le.mp nearest.near
  constructor
  · intro same
    rw [same] at high low
    push_cast at high low
    linarith
  · intro above
    have most : whole ≤ 2 ^ power := nearest.le_of_lt (by exact_mod_cast below)
    have least : 2 ^ power ≤ whole + 1 := by
      have : ((2 ^ power : Nat) : ℚ) ≤ (whole + 1 : Nat) := by
        push_cast
        linarith
      exact_mod_cast this
    by_contra different
    have before : whole + 1 = 2 ^ power := by omega
    have before' : (whole : ℚ) = 2 ^ power - 1 := by
      rw [eq_sub_iff_add_eq]
      exact_mod_cast before
    have half : |number - whole| = 1 / 2 := by
      rw [before'] at high low ⊢
      rw [abs_of_nonneg (by linarith)]
      linarith
    have isEven := nearest.even half
    have powerEven : Even (2 ^ power) := Nat.even_pow.mpr ⟨even_two, positive.ne'⟩
    rw [← before, Nat.even_add_one] at powerEven
    exact powerEven isEven

/-- No integer is nearer than the nearest one, and one that is equally near is its neighbour. -/
theorem closest (nearest : NearestWhole number whole) (other : Int) :
    |number - whole| ≤ |number - other| ∧
      (|number - other| = |number - whole| → other ≠ whole →
        ∃ steps : Int, (whole : ℚ) = 2 * steps * (other - whole)) := by
  by_cases same : other = whole
  · subst same
    exact ⟨le_of_eq (by norm_cast), fun _ different => absurd rfl different⟩
  · have gap : 1 ≤ |other - (whole : Int)| := Int.one_le_abs (sub_ne_zero.mpr same)
    have apart : ((1 : Int) : ℚ) ≤ |(other : ℚ) - whole| := by exact_mod_cast gap
    have triangle : |(other : ℚ) - whole| ≤ |number - other| + |number - whole| := by
      rw [abs_sub_comm number other]
      exact abs_sub_le _ _ _
    have near := nearest.near
    push_cast at apart
    refine ⟨by linarith, ?_⟩
    intro tie _
    obtain ⟨half, isHalf⟩ := nearest.even (by linarith)
    have neighbour : |other - (whole : Int)| ≤ 1 := by
      have : |(other : ℚ) - whole| ≤ ((1 : Int) : ℚ) := by
        push_cast
        linarith
      exact_mod_cast this
    rcases abs_le.mp neighbour with ⟨low, high⟩
    rcases (by omega : other = whole + 1 ∨ other = whole - 1) with above | below
    · refine ⟨half, ?_⟩
      rw [above, isHalf]
      push_cast
      ring
    · refine ⟨-half, ?_⟩
      rw [below, isHalf]
      push_cast
      ring

end NearestWhole

end Ratio

end TypedTables.Number
