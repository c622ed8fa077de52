import TypedTables.Failure
import TypedTables.Schema.Value

/-!
# Coercion into primitive types

A scalar is coerced into a primitive type when it is a value of that type in another form: a whole
number for an integer type, a number in text, a word for a boolean.  A blank value is the zero of
the type.
-/

namespace TypedTables.Convert

open TypedTables.Schema TypedTables.Number TypedTables.Text

def boolNumber (value : Bool) : Int :=
  if value then 1 else 0

/-- The integers that a text may write digit by digit. -/
def wideIntegers : IntRange := .signed 128

/-- The whole number that a text writes, as an integer or as a floating-point number. -/
def wholeText? (text : String) : Option Int :=
  let written := trim text
  match readIntIn? wideIntegers written with
  | some number => some number
  | none => (BinaryFloat.read? .double written).bind BinaryFloat.toInt?

def whole? : Value → Option Int
  | .int value => some value
  | .uint value => some value
  | .bool value => some (boolNumber value)
  | .float value => value.toInt?
  | .text value => wholeText? value
  | _ => none

/-- The floating-point number that a scalar stands for. -/
def float? : Value → Option BinaryFloat
  | .int value => some (BinaryFloat.ofInt .double value)
  | .uint value => some (BinaryFloat.ofInt .double value)
  | .float value => some value
  | .bool value => some (BinaryFloat.ofInt .double (boolNumber value))
  | .text value => BinaryFloat.read? .double (trim value)
  | _ => none

/-- The number of 64 bits with the shortest text of the nearest number of 32 bits, so that short
decimals stay short. -/
def narrow (value : BinaryFloat) : Option BinaryFloat :=
  BinaryFloat.read? .double (FloatLayout.plain.format .single (value.convert .single))

def boolWord? (text : String) : Option Bool :=
  match asciiLower (trim text) with
  | "true" | "1" | "yes" => some true
  | "false" | "0" | "no" => some false
  | _ => none

def bool? : Value → Option Bool
  | .bool value => some value
  | .int value => some (value != 0)
  | .uint value => some (value != 0)
  | .float value => some (!value.isZero)
  | .text value => boolWord? value
  | _ => none

/-- The text that a value without parts stands for. -/
def plainText? : Value → Option String
  | .array _ => none
  | .record _ _ => none
  | value => some value.toText

/-- Coerces a value that is not blank into an integer type. -/
def coerceInteger (value : Value) (target : Primitive) : Outcome Value :=
  match whole? value with
  | none => .error (.coercion value.toText target.name)
  | some number =>
    if target.range.contains number then
      .ok (if target.isSigned then .int number else .uint number.toNat)
    else .error (.coercionIn value.toText target.name "out of range")

def coercePrimitive (value : Value) (target : Primitive) : Outcome Value :=
  let demand (found : Option Value) : Outcome Value :=
    match found with
    | some converted => .ok converted
    | none => .error (.coercion value.toText target.name)
  if value.isEmpty then .ok (Value.zero target)
  else
    match target with
    | .float32 => demand (((float? value).bind narrow).map .float)
    | .float64 => demand ((float? value).map .float)
    | .bool => demand ((bool? value).map .bool)
    | .string => demand ((plainText? value).map .text)
    | integer => coerceInteger value integer

end TypedTables.Convert
