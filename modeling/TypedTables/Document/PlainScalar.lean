import TypedTables.Number.Decimal

/-!
# Plain scalars

An unquoted scalar is a null, a boolean, an integer or a floating-point number when its text has
the form of one, and a text otherwise.
-/

namespace TypedTables.Document.Plain

open TypedTables.Text TypedTables.Number

def isNull (text : String) : Bool :=
  ["null", "Null", "NULL", "~"].contains text

def bool? (text : String) : Option Bool :=
  if ["true", "True", "TRUE"].contains text then some true
  else if ["false", "False", "FALSE"].contains text then some false
  else none

/-- The value of a digit in a base up to sixteen. -/
def digitIn? (base : Nat) (c : Char) : Option Nat :=
  (hexValue? c).filter (· < base)

/-- The number that one or more digits of a base write. -/
def numberIn? (base : Nat) (digits : List Char) : Option Nat :=
  if digits.isEmpty then none
  else digits.foldlM (fun number c => (digitIn? base c).map (base * number + ·)) 0

def dropSign : List Char → List Char
  | '-' :: rest => rest
  | '+' :: rest => rest
  | unsigned => unsigned

/-- Digits alone that start with a needless zero: they are a text, not a number. -/
def hasLeadingZero (text : List Char) : Bool :=
  match dropSign text with
  | '0' :: rest => !rest.isEmpty && rest.all isAsciiDigit
  | _ => false

/-- The natural number that digits behind a base mark write, if there is such a mark. -/
def marked? (text : List Char) : Option Nat :=
  match text with
  | '0' :: 'x' :: digits => numberIn? 16 digits
  | '0' :: 'o' :: digits => numberIn? 8 digits
  | '0' :: 'b' :: digits => numberIn? 2 digits
  | _ => none

/-- The natural number that a text writes, with an optional plus sign. -/
def natural? (text : String) : Option Nat :=
  let unsigned := match text.toList with
    | '+' :: rest => rest
    | all => all
  match marked? unsigned with
  | some value => some value
  | none => if hasLeadingZero text.toList then none else numberIn? 10 unsigned

/-- The magnitude of the negative integer that a text writes. -/
def negative? (text : String) : Option Nat :=
  match text.toList with
  | '-' :: rest =>
    match marked? rest with
    | some value => some value
    | none => if hasLeadingZero rest then none else numberIn? 10 rest
  | _ => none

def isInteger (text : String) : Bool :=
  (natural? text).isSome || (negative? text).isSome

/-- Whether a text has the form of a floating-point number. -/
def isFloat (text : String) : Bool :=
  let unsigned := match text.toList with
    | '+' :: rest => String.ofList rest
    | _ => text
  [".inf", ".Inf", ".INF"].contains unsigned || ["-.inf", "-.Inf", "-.INF"].contains text ||
    [".nan", ".NaN", ".NAN"].contains text ||
    (!(unsigned != text && ["+", "-"].any (unsigned.startsWith ·)) &&
      !hasLeadingZero text.toList &&
      match BinaryFloat.read? .double unsigned with
      | some number => number.isFinite
      | none => false)

/-- Whether a text is neither empty nor the form of another scalar. -/
def isText (text : String) : Bool :=
  !text.isEmpty && !isNull text && (bool? text).isNone && !isInteger text && !isFloat text

end TypedTables.Document.Plain
