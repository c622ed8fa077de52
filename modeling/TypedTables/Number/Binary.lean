import TypedTables.Number.Range

/-!
# Binary floating-point numbers

A finite number is a sign, a significand and the exponent of the significand's last place.  The
rounding function takes an exact ratio to the nearest number of a format, a half going to the even
neighbour, so every conversion into a format is one call of it.
-/

namespace TypedTables.Number

/-- The size of a binary format: the bits of a significand, and the least and greatest exponent of
its last place. -/
structure BinaryFormat where
  precision : Nat
  minExponent : Int
  maxExponent : Int
  deriving Repr, DecidableEq

namespace BinaryFormat

def single : BinaryFormat := ⟨24, -149, 104⟩

def double : BinaryFormat := ⟨53, -1074, 971⟩

end BinaryFormat

/-- A number of a binary format, a signed infinity, or the value that is not a number. -/
inductive BinaryFloat
  | nan
  | infinite (negative : Bool)
  | finite (negative : Bool) (significand : Nat) (exponent : Int)
  deriving Repr, DecidableEq, Inhabited

/-- A non-negative ratio of two natural numbers. -/
structure Ratio where
  numerator : Nat
  denominator : Nat
  deriving Repr, DecidableEq

namespace Ratio

/-- The ratio times a power of a base, which may have a negative exponent. -/
def scale (ratio : Ratio) (base : Nat) (exponent : Int) : Ratio :=
  if 0 ≤ exponent then ⟨ratio.numerator * Nat.pow base exponent.toNat, ratio.denominator⟩
  else ⟨ratio.numerator, ratio.denominator * Nat.pow base (-exponent).toNat⟩

/-- The nearest natural number, a half going to the even neighbour. -/
def roundHalfEven (ratio : Ratio) : Nat :=
  let quotient := ratio.numerator / ratio.denominator
  let rest := ratio.numerator % ratio.denominator
  if ratio.denominator < 2 * rest then quotient + 1
  else if 2 * rest == ratio.denominator && quotient % 2 == 1 then quotient + 1
  else quotient

end Ratio

namespace BinaryFloat

def zero (format : BinaryFormat) (negative : Bool) : BinaryFloat :=
  .finite negative 0 format.minExponent

/-- The exponent of the last place of the significand that a positive ratio gets in a format. -/
def placeOf (format : BinaryFormat) (ratio : Ratio) : Int :=
  let estimate := Int.ofNat ratio.numerator.log2 - Int.ofNat ratio.denominator.log2 -
    Int.ofNat format.precision
  let scaled := ratio.scale 2 (-estimate)
  let place :=
    if scaled.numerator < powerOfTwo format.precision * scaled.denominator then estimate
    else estimate + 1
  max format.minExponent place

/-- The number of a format nearest to a ratio, a half going to the even significand; beyond the
greatest number it is an infinity. -/
def ofRatio (format : BinaryFormat) (negative : Bool) (ratio : Ratio) : BinaryFloat :=
  if ratio.numerator == 0 then zero format negative
  else
    let place := placeOf format ratio
    let significand := (ratio.scale 2 (-place)).roundHalfEven
    let carried := significand == powerOfTwo format.precision
    let exponent := if carried then place + 1 else place
    if format.maxExponent < exponent then .infinite negative
    else
      .finite negative (if carried then powerOfTwo (format.precision - 1) else significand) exponent

/-- The number of a format nearest to an integer. -/
def ofInt (format : BinaryFormat) (value : Int) : BinaryFloat :=
  ofRatio format (value < 0) ⟨value.natAbs, 1⟩

/-- The exact value of a finite number without its sign. -/
def magnitude (significand : Nat) (exponent : Int) : Ratio :=
  Ratio.scale ⟨significand, 1⟩ 2 exponent

/-- The number of another format nearest to this one. -/
def convert (format : BinaryFormat) : BinaryFloat → BinaryFloat
  | nan => nan
  | infinite negative => infinite negative
  | finite negative significand exponent =>
    ofRatio format negative (magnitude significand exponent)

/-- Neither infinite nor without a numerical value. -/
def isFinite : BinaryFloat → Bool
  | finite _ _ _ => true
  | _ => false

def isZero : BinaryFloat → Bool
  | finite _ significand _ => significand == 0
  | _ => false

/-- The integer that the number is, when it is one. -/
def toInt? : BinaryFloat → Option Int
  | finite negative significand exponent =>
    let value := magnitude significand exponent
    if value.numerator % value.denominator == 0 then
      let whole := Int.ofNat (value.numerator / value.denominator)
      some (if negative then -whole else whole)
    else none
  | _ => none

end BinaryFloat

end TypedTables.Number
