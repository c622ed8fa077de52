import TypedTables.Number.Shortest

/-!
# Text of a floating-point number

The digits are those of the shortest decimal.  A layout decides where positional notation ends,
whether whole numbers keep a zero behind the point, and how the special values are spelled.
-/

namespace TypedTables.Number

/-- How the digits of a number are laid out. -/
structure FloatLayout where
  /-- The least and greatest decimal exponent of positional notation; without bounds there is no
  other notation. -/
  positional : Option (Int × Int)
  halfway : HalfwayRule
  /-- Whole numbers end in a point and a zero. -/
  pointZero : Bool
  /-- A positive exponent is written with its sign. -/
  exponentPlus : Bool
  nan : String
  infinity : String
  negativeInfinity : String
  deriving Repr

namespace FloatLayout

/-- Digits with the point behind the first `leading` of them, in positional notation. -/
def placePoint (pointZero : Bool) (digits : List Char) (leading : Int) : List Char :=
  let count := Int.ofNat digits.length
  if leading ≤ 0 then ['0', '.'] ++ List.replicate (-leading).toNat '0' ++ digits
  else if count ≤ leading then
    digits ++ List.replicate (leading - count).toNat '0' ++ (if pointZero then ['.', '0'] else [])
  else digits.take leading.toNat ++ '.' :: digits.drop leading.toNat

/-- Digits in scientific notation, with the point behind the first of them. -/
def scientific (layout : FloatLayout) (digits : List Char) (exponent : Int) : List Char :=
  let head := match digits with
    | [] => ['0']
    | [digit] => [digit]
    | digit :: rest => digit :: '.' :: rest
  let sign := if exponent < 0 then ['-'] else if layout.exponentPlus then ['+'] else []
  head ++ 'e' :: sign ++ Nat.toDigits 10 exponent.natAbs

/-- The digits of a decimal whose significand has no trailing zero. -/
def decimalText (layout : FloatLayout) (decimal : Decimal) : List Char :=
  let digits := Nat.toDigits 10 decimal.significand
  let leading := Int.ofNat digits.length + decimal.exponent
  match layout.positional with
  | none => placePoint layout.pointZero digits leading
  | some (low, high) =>
    if low ≤ leading - 1 && leading - 1 ≤ high then placePoint layout.pointZero digits leading
    else layout.scientific digits (leading - 1)

def format (layout : FloatLayout) (size : BinaryFormat) : BinaryFloat → String
  | .nan => layout.nan
  | .infinite negative => if negative then layout.negativeInfinity else layout.infinity
  | .finite negative significand exponent =>
    let sign := if negative then ['-'] else []
    let digits :=
      if significand == 0 then placePoint layout.pointZero ['0'] 1
      else layout.decimalText (shortestDecimal layout.halfway size negative significand exponent)
    String.ofList (sign ++ digits)

/-- Plain positional notation, as in messages and in text converted from numbers. -/
def plain : FloatLayout where
  positional := none
  halfway := .upper
  pointZero := false
  exponentPlus := false
  nan := "NaN"
  infinity := "inf"
  negativeInfinity := "-inf"

end FloatLayout

def BinaryFloat.plainText (value : BinaryFloat) : String :=
  FloatLayout.plain.format .double value

end TypedTables.Number
