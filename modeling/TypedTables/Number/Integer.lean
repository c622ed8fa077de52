import TypedTables.Number.Range
import TypedTables.Text.AsciiCase

/-!
# Integers in text

An integer is written as an optional sign and at least one decimal digit, with nothing around it.
-/

namespace TypedTables.Number

open TypedTables.Text

/-- The natural number that a run of decimal digits writes, from left to right. -/
def digitsValue (digits : List Char) : Nat :=
  digits.foldl (fun number c => 10 * number + digitValue c) 0

/-- Reads one or more decimal digits and nothing else. -/
def readDigits? (text : List Char) : Option Nat :=
  if !text.isEmpty && text.all isAsciiDigit then some (digitsValue text) else none

/-- Takes an optional sign off the front: whether it was a minus, and the rest. -/
def takeSign : List Char → Bool × List Char
  | '-' :: rest => (true, rest)
  | '+' :: rest => (false, rest)
  | text => (false, text)

def readInt? (text : String) : Option Int :=
  let (negative, digits) := takeSign text.toList
  (readDigits? digits).map fun value => if negative then -Int.ofNat value else Int.ofNat value

/-- Reads an integer with an optional sign that lies in a range. -/
def readIntIn? (range : IntRange) (text : String) : Option Int :=
  (readInt? text).filter range.contains

/-- Reads a natural number below a bound; a plus sign may stand in front. -/
def readNatBelow? (bound : Nat) (text : String) : Option Nat :=
  let digits := match text.toList with
    | '+' :: rest => rest
    | all => all
  (readDigits? digits).filter (· < bound)

end TypedTables.Number
