import TypedTables.Number.Decimal

/-!
# Shortest decimal of a binary number

Of all decimals that round back to a number, the one with the fewest digits is written, and of
those the one nearest to the number.  For each digit count the two decimals around the exact value
are tried.  When both are equally near, the upper one or the even one is taken.
-/

namespace TypedTables.Number

/-- The number of digits before the point of a positive ratio; negative for leading zeros behind
the point: the `s` with `10 ^ (s - 1) ≤ ratio < 10 ^ s`. -/
def leadingPlace (ratio : Ratio) : Int :=
  let estimate := Int.ofNat (digitCount ratio.numerator) - Int.ofNat (digitCount ratio.denominator)
  let scaled := ratio.scale 10 (-estimate)
  if scaled.denominator ≤ scaled.numerator then estimate + 1 else estimate

/-- Drops the trailing zeros of a significand into the exponent. -/
def stripZeros (fuel : Nat) (significand : Nat) (exponent : Int) : Nat × Int :=
  match fuel with
  | 0 => (significand, exponent)
  | fuel + 1 =>
    if significand != 0 && significand % 10 == 0 then
      stripZeros fuel (significand / 10) (exponent + 1)
    else (significand, exponent)

/-- Which of two decimals is taken that are equally near to a number. -/
inductive HalfwayRule
  | upper
  | even
  deriving Repr, DecidableEq

/-- Whether the decimal above is preferred to one below that fits too, given the number of units
below and what the number exceeds them by, as a part of a unit. -/
def HalfwayRule.prefersUpper (rule : HalfwayRule) (below rest unit : Nat) : Bool :=
  match rule with
  | upper => unit ≤ 2 * rest
  | even => unit < 2 * rest || (unit == 2 * rest && below % 2 == 1)

/-- The decimal on the grid of `10 ^ place` that rounds back to the number, if there is one; of two
such decimals the nearer. -/
def gridDecimal? (rule : HalfwayRule) (format : BinaryFormat) (value : BinaryFloat)
    (negative : Bool) (ratio : Ratio) (place : Int) : Option Decimal :=
  let scaled := ratio.scale 10 (-place)
  let below := scaled.numerator / scaled.denominator
  let rest := scaled.numerator % scaled.denominator
  let lower : Decimal := ⟨negative, below, place⟩
  let upper : Decimal := ⟨negative, below + 1, place⟩
  let lowerFits := lower.toBinary format == value
  let upperFits := upper.toBinary format == value
  if upperFits && (!lowerFits || rule.prefersUpper below rest scaled.denominator) then some upper
  else if lowerFits then some lower
  else none

/-- The greatest number of digits that the shortest decimal of a number of 64 bits can have. -/
def maxShortestDigits : Nat := 17

/-- The shortest decimal that rounds back to a positive finite number of a format. -/
def shortestDecimal (rule : HalfwayRule) (format : BinaryFormat) (negative : Bool)
    (significand : Nat) (exponent : Int) : Decimal :=
  let value := BinaryFloat.finite negative significand exponent
  let ratio := BinaryFloat.magnitude significand exponent
  let leading := leadingPlace ratio
  let found := (List.range maxShortestDigits).findSome? fun index =>
    gridDecimal? rule format value negative ratio (leading - Int.ofNat (index + 1))
  match found with
  | some decimal =>
    let (digits, place) := stripZeros (digitCount decimal.significand) decimal.significand
      decimal.exponent
    ⟨negative, digits, place⟩
  | none => ⟨negative, significand, exponent⟩

end TypedTables.Number
