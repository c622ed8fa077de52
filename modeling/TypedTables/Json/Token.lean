import TypedTables.Number.Decimal

/-!
# Tokens of JSON

A text is first cut into tokens.  Reading a token returns the rest of the text together with the
fact that it is shorter, so that cutting ends.
-/

namespace TypedTables.Json

open TypedTables.Text TypedTables.Number

/-- A token of JSON. -/
inductive Token
  | openList
  | closeList
  | openMapping
  | closeMapping
  | comma
  | colon
  | null
  | bool (value : Bool)
  | integer (value : Int)
  | float (value : BinaryFloat)
  | text (value : String)
  deriving Repr, DecidableEq

/-- The white space that JSON allows between tokens. -/
def isSpace (c : Char) : Bool :=
  c == ' ' || c == '\t' || c == '\n' || c == '\r'

/-- The character that a single-letter escape stands for. -/
def escaped? : Char → Option Char
  | '"' => some '"'
  | '\\' => some '\\'
  | '/' => some '/'
  | 'b' => some '\x08'
  | 'f' => some '\x0c'
  | 'n' => some '\n'
  | 'r' => some '\r'
  | 't' => some '\t'
  | _ => none

/-- The character that a high and a low surrogate code unit form together. -/
def surrogatePair? (high low : Nat) : Option Char :=
  if 0xD800 ≤ high && high ≤ 0xDBFF && 0xDC00 ≤ low && low ≤ 0xDFFF then
    some (Char.ofNat (0x10000 + (high - 0xD800) * 0x400 + (low - 0xDC00)))
  else none

/-- Reads what follows an opening quote up to the closing one: the characters and the rest. -/
def readText : List Char → Option (List Char × List Char)
  | [] => none
  | '"' :: rest => some ([], rest)
  | '\\' :: 'u' :: a :: b :: c :: d :: '\\' :: 'u' :: e :: f :: g :: h :: rest =>
    match hexNumber? [a, b, c, d], hexNumber? [e, f, g, h] with
    | some first, some second =>
      match surrogatePair? first second with
      | some char => (readText rest).map fun (chars, after) => (char :: chars, after)
      | none =>
        if 0xD800 ≤ first && first ≤ 0xDFFF then none
        else
          (readText ('\\' :: 'u' :: e :: f :: g :: h :: rest)).map fun (chars, after) =>
            (Char.ofNat first :: chars, after)
    | _, _ => none
  | '\\' :: 'u' :: a :: b :: c :: d :: rest =>
    match hexNumber? [a, b, c, d] with
    | some code =>
      if 0xD800 ≤ code && code ≤ 0xDFFF then none
      else (readText rest).map fun (chars, after) => (Char.ofNat code :: chars, after)
    | none => none
  | '\\' :: c :: rest =>
    match escaped? c with
    | some char => (readText rest).map fun (chars, after) => (char :: chars, after)
    | none => none
  | c :: rest =>
    if c.toNat < 0x20 || c == '\\' then none
    else (readText rest).map fun (chars, after) => (c :: chars, after)

def exactIntegers : IntRange :=
  ⟨(IntRange.signed 64).low, (IntRange.unsigned 64).high⟩

/-- The number that the parts of a literal write.  An integer without point and exponent keeps its
form while it fits 64 bits; a literal beyond the finite numbers is infinite, which no member of a
known kind takes. -/
def numberToken (negative : Bool) (whole fraction : List Char) (exponent : Option Int) : Token :=
  let isPlain := fraction.isEmpty && exponent.isNone
  let magnitude := Int.ofNat (digitsValue whole)
  let value := if negative then -magnitude else magnitude
  if isPlain && !(negative && value == 0) && exactIntegers.contains value then
    .integer value
  else
    let decimal : Decimal :=
      ⟨negative, digitsValue (whole ++ fraction), exponent.getD 0 - Int.ofNat fraction.length⟩
    .float (decimal.toBinary .double)

/-- Reads the digits of a whole part: a single zero, or digits that start with another one. -/
def readWhole? : List Char → Option (List Char × List Char)
  | [] => none
  | '0' :: rest => some (['0'], rest)
  | text =>
    let (digits, rest) := Decimal.spanDigits text
    if digits.isEmpty then none else some (digits, rest)

/-- Reads the digits behind a point, if there is a point. -/
def readFraction? : List Char → Option (List Char × List Char)
  | '.' :: rest =>
    let (digits, after) := Decimal.spanDigits rest
    if digits.isEmpty then none else some (digits, after)
  | text => some ([], text)

/-- Reads an exponent, if the text goes on with its mark. -/
def readScale? : List Char → Option (Option Int × List Char)
  | c :: rest =>
    if c == 'e' || c == 'E' then
      let (negative, unsigned) := takeSign rest
      let (digits, after) := Decimal.spanDigits unsigned
      if digits.isEmpty then none
      else
        let value := Int.ofNat (digitsValue digits)
        some (some (if negative then -value else value), after)
    else some (none, c :: rest)
  | [] => some (none, [])

def readNumber? (negative : Bool) (text : List Char) : Option (Token × List Char) := do
  let (whole, afterWhole) ← readWhole? text
  let (fraction, afterFraction) ← readFraction? afterWhole
  let (exponent, rest) ← readScale? afterFraction
  return (numberToken negative whole fraction exponent, rest)

def dropWord? (word : String) (text : List Char) : Option (List Char) :=
  if word.toList.isPrefixOf text then some (text.drop word.length) else none

def readToken? : List Char → Option (Token × List Char)
  | [] => none
  | c :: rest =>
    match c with
    | '[' => some (.openList, rest)
    | ']' => some (.closeList, rest)
    | '\x7b' => some (.openMapping, rest)
    | '\x7d' => some (.closeMapping, rest)
    | ',' => some (.comma, rest)
    | ':' => some (.colon, rest)
    | '"' => (readText rest).map fun (chars, after) => (.text (String.ofList chars), after)
    | 'n' => (dropWord? "ull" rest).map (Token.null, ·)
    | 't' => (dropWord? "rue" rest).map (Token.bool true, ·)
    | 'f' => (dropWord? "alse" rest).map (Token.bool false, ·)
    | '-' => readNumber? true rest
    | _ => readNumber? false (c :: rest)

/-- Cuts a text into tokens; every token takes at least one character, so the length of the text
bounds their number. -/
def tokensWithin (bound : Nat) (text : List Char) : Option (List Token) :=
  match text.dropWhile isSpace with
  | [] => some []
  | rest =>
    match bound with
    | 0 => none
    | bound + 1 => do
      let (token, after) ← readToken? rest
      let tokens ← tokensWithin bound after
      return token :: tokens

def tokens? (text : String) : Option (List Token) :=
  tokensWithin text.length text.toList

end TypedTables.Json
