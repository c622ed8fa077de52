import TypedTables.Number.Binary
import TypedTables.Number.Integer

/-!
# Decimal numbers

A decimal number is a whole significand times a power of ten.  Reading is exact; rounding to a
binary format happens once, on the exact value.
-/

namespace TypedTables.Number

open TypedTables.Text

/-- The number `significand * 10 ^ exponent`, with a sign. -/
structure Decimal where
  negative : Bool
  significand : Nat
  exponent : Int
  deriving Repr, DecidableEq

/-- The number of decimal digits of a natural number; zero has one. -/
def digitCount (number : Nat) : Nat :=
  (Nat.toDigits 10 number).length

namespace Decimal

def magnitude (decimal : Decimal) : Ratio :=
  Ratio.scale ⟨decimal.significand, 1⟩ 10 decimal.exponent

/-- The decimal exponents within which a number of a format can be neither zero nor infinite. -/
def exponentBound : Int := 400

/-- The nearest number of a binary format.  Magnitudes far outside the format are settled by their
digit count alone. -/
def toBinary (format : BinaryFormat) (decimal : Decimal) : BinaryFloat :=
  let leading := decimal.exponent + Int.ofNat (digitCount decimal.significand)
  if decimal.significand == 0 then BinaryFloat.zero format decimal.negative
  else if exponentBound < leading then .infinite decimal.negative
  else if leading < -exponentBound then BinaryFloat.zero format decimal.negative
  else BinaryFloat.ofRatio format decimal.negative decimal.magnitude

/-- Splits a text into its leading decimal digits and the rest. -/
def spanDigits (text : List Char) : List Char × List Char :=
  (text.takeWhile isAsciiDigit, text.dropWhile isAsciiDigit)

/-- Reads what may follow the digits: nothing, or an exponent that ends the text. -/
def readExponent? : List Char → Option Int
  | [] => some 0
  | mark :: rest =>
    if mark == 'e' || mark == 'E' then
      let (negative, digits) := takeSign rest
      (readDigits? digits).map fun value =>
        if negative then -Int.ofNat value else Int.ofNat value
    else none

/-- Reads digits with an optional point among or beside them and an optional exponent. -/
def readUnsigned? (negative : Bool) (text : List Char) : Option Decimal :=
  let (whole, afterWhole) := spanDigits text
  let (fraction, rest) := match afterWhole with
    | '.' :: tail => spanDigits tail
    | _ => ([], afterWhole)
  if whole.isEmpty && fraction.isEmpty then none
  else
    (readExponent? rest).map fun exponent =>
      ⟨negative, digitsValue (whole ++ fraction), exponent - Int.ofNat fraction.length⟩

end Decimal

namespace BinaryFloat

/-- Reads a number in decimal notation, an infinity, or the word for what is not a number; letters
count in either case and a sign may stand in front. -/
def read? (format : BinaryFormat) (text : String) : Option BinaryFloat :=
  let (negative, rest) := takeSign text.toList
  let word := String.ofList (rest.map Char.toLower)
  if word == "inf" || word == "infinity" then some (.infinite negative)
  else if word == "nan" then some .nan
  else (Decimal.readUnsigned? negative rest).map (·.toBinary format)

end BinaryFloat

end TypedTables.Number
