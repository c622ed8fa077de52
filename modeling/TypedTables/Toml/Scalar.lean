import TypedTables.Document
import TypedTables.Number.Decimal
import TypedTables.Pattern.Escape

/-!
# Scalars of TOML

Texts, numbers, booleans and points in time.  Each reader takes the scalar that a text starts with
and gives the rest.
-/

namespace TypedTables.Toml

open TypedTables.Text TypedTables.Number

def isSpacing (c : Char) : Bool :=
  c == ' ' || c == '\t'

/-- A character that a text or a comment may hold: anything but controls, the tab excepted. -/
def isPlainChar (c : Char) : Bool :=
  c == '\t' || (0x20 ≤ c.toNat && c.toNat != 0x7F)

def dropLineEnd? : List Char → Option (List Char)
  | '\n' :: rest => some rest
  | '\r' :: '\n' :: rest => some rest
  | _ => none

/-- The character that an escape of one letter stands for. -/
def escapes : List (Char × Char) := [
  ('b', '\x08'), ('t', '\t'), ('n', '\n'), ('f', '\x0c'), ('r', '\r'), ('"', '"'), ('\\', '\\')]

def escape? (text : List Char) : Option (Char × List Char) :=
  match text with
  | [] => none
  | c :: rest =>
    let code (width : Nat) : Option (Char × List Char) :=
      if rest.length < width then none
      else
        (hexNumber? (rest.take width)).bind fun number =>
          (Pattern.charOf? number).map fun char => (char, rest.drop width)
    match escapes.lookup c with
    | some char => some (char, rest)
    | none => if c == 'u' then code 4 else if c == 'U' then code 8 else none

/-- Reads what follows the opening quote of a text on one line. -/
def lineText? (quote : Char) : (bound : Nat) → List Char → Option (List Char × List Char)
  | bound + 1, c :: rest =>
    if c == quote then some ([], rest)
    else if quote == '"' && c == '\\' then do
      let (char, after) ← escape? rest
      let (chars, behind) ← lineText? quote bound after
      return (char :: chars, behind)
    else if isPlainChar c then
      (lineText? quote bound rest).map fun (chars, behind) => (c :: chars, behind)
    else none
  | _, _ => none

def dropBlankLines : List Char → List Char
  | '\r' :: '\n' :: rest => dropBlankLines rest
  | c :: rest => if isSpacing c || c == '\n' then dropBlankLines rest else c :: rest
  | [] => []

/-- The text behind a backslash at the end of a line: the break and all white space that follows
it. -/
def continueLine? (text : List Char) : Option (List Char) :=
  (dropLineEnd? (text.dropWhile isSpacing)).map dropBlankLines

/-- Reads what follows the three opening quotes of a text over several lines.  Up to two more
quotes in front of the closing ones belong to the text. -/
def linesText? (quote : Char) : (bound : Nat) → List Char → Option (List Char × List Char)
  | bound + 1, c :: rest =>
    let more (char : Char) (after : List Char) : Option (List Char × List Char) :=
      (linesText? quote bound after).map fun (chars, behind) => (char :: chars, behind)
    let quotes := ((c :: rest).takeWhile (· == quote)).length
    if c == quote && 3 ≤ quotes then
      if 5 < quotes then none
      else some (List.replicate (quotes - 3) quote, (c :: rest).drop quotes)
    else if quote == '"' && c == '\\' then
      match continueLine? rest with
      | some after => linesText? quote bound after
      | none => (escape? rest).bind fun (char, after) => more char after
    else
      match dropLineEnd? (c :: rest) with
      | some after => more '\n' after
      | none => if isPlainChar c then more c rest else none
  | _, _ => none

/-- Reads a quoted text, which may go over several lines where allowed. -/
def quoted? (overLines : Bool) (text : List Char) : Option (String × List Char) :=
  match text with
  | [] => none
  | quote :: rest =>
    if quote != '"' && quote != '\'' then none
    else if overLines && [quote, quote].isPrefixOf rest then
      let inner := rest.drop 2
      let start := (dropLineEnd? inner).getD inner
      (linesText? quote (start.length + 1) start).map fun (chars, after) =>
        (String.ofList chars, after)
    else
      (lineText? quote rest.length rest).map fun (chars, after) => (String.ofList chars, after)

/-- The digits of a base with single underscores between them, from the front of a text. -/
def groupedDigits? (isDigit : Char → Bool) (text : List Char) : Option (List Char × List Char) :=
  let written := text.takeWhile fun c => isDigit c || c == '_'
  let groups := piecesBy (· == '_') written
  if groups.any List.isEmpty then none else some (groups.flatten, text.drop written.length)

def boundedInteger? (value : Int) : Option Document :=
  if (IntRange.signed 64).contains value then some (.integer value) else none

/-- Reads an integer of another base behind its mark. -/
def markedInteger? (base : Nat) (text : List Char) : Option (Document × List Char) := do
  let isDigit (c : Char) : Bool := (hexValue? c).any (· < base)
  let (digits, rest) ← groupedDigits? isDigit text
  let value := digits.foldl (fun number c => base * number + (hexValue? c).getD 0) 0
  return (← boundedInteger? value, rest)

/-- Reads the fraction and the exponent behind a whole part: whether there is any, the digits
behind the point, and the exponent. -/
def readScale? (text : List Char) : Option (Bool × List Char × Int × List Char) := do
  let (hasFraction, fraction, afterFraction) ← match text with
    | '.' :: rest => do
      let (digits, after) ← groupedDigits? isAsciiDigit rest
      pure (true, digits, after)
    | _ => pure (false, [], text)
  match afterFraction with
  | mark :: rest =>
    if mark == 'e' || mark == 'E' then do
      let (negative, unsigned) := takeSign rest
      let (digits, after) ← groupedDigits? isAsciiDigit unsigned
      let value := Int.ofNat (digitsValue digits)
      return (true, fraction, if negative then -value else value, after)
    else return (hasFraction, fraction, 0, afterFraction)
  | [] => return (hasFraction, fraction, 0, [])

def decimal? (negative : Bool) (text : List Char) : Option (Document × List Char) := do
  let (whole, afterWhole) ← groupedDigits? isAsciiDigit text
  if whole.length > 1 && whole.head? == some '0' then none
  else do
    let (isFloat, fraction, exponent, rest) ← readScale? afterWhole
    if isFloat then
      let number := (⟨negative, digitsValue (whole ++ fraction),
        exponent - Int.ofNat fraction.length⟩ : Decimal).toBinary .double
      if number.isFinite then return (.float number, rest) else none
    else
      let value := Int.ofNat (digitsValue whole)
      return (← boundedInteger? (if negative then -value else value), rest)

def number? (text : List Char) : Option (Document × List Char) :=
  match text with
  | '0' :: 'x' :: rest => markedInteger? 16 rest
  | '0' :: 'o' :: rest => markedInteger? 8 rest
  | '0' :: 'b' :: rest => markedInteger? 2 rest
  | _ =>
    let (negative, unsigned) := takeSign text
    match unsigned with
    | 'i' :: 'n' :: 'f' :: rest => some (.float (.infinite negative), rest)
    | 'n' :: 'a' :: 'n' :: rest => some (.float .nan, rest)
    | _ => decimal? negative unsigned

/-- Takes a number of exactly so many digits that lies within bounds. -/
def fixedDigits? (width low high : Nat) (text : List Char) : Option (Nat × List Char) :=
  let digits := text.take width
  if digits.length == width && digits.all isAsciiDigit then
    let value := digitsValue digits
    if low ≤ value && value ≤ high then some (value, text.drop width) else none
  else none

def sign? (c : Char) : List Char → Option (List Char)
  | d :: rest => if d == c then some rest else none
  | [] => none

def daysOfMonth (year month : Nat) : Nat :=
  if month == 2 then
    if (year % 4 == 0 && year % 100 != 0) || year % 400 == 0 then 29 else 28
  else if [4, 6, 9, 11].contains month then 30
  else 31

def date? (text : List Char) : Option (List Char) := do
  let (year, afterYear) ← fixedDigits? 4 0 9999 text
  let (month, afterMonth) ← fixedDigits? 2 1 12 (← sign? '-' afterYear)
  let (_, rest) ← fixedDigits? 2 1 (daysOfMonth year month) (← sign? '-' afterMonth)
  return rest

def time? (text : List Char) : Option (List Char) := do
  let (_, afterHour) ← fixedDigits? 2 0 23 text
  let (_, afterMinute) ← fixedDigits? 2 0 59 (← sign? ':' afterHour)
  let (_, afterSecond) ← fixedDigits? 2 0 60 (← sign? ':' afterMinute)
  match afterSecond with
  | '.' :: rest =>
    let behind := rest.dropWhile isAsciiDigit
    if behind.length == rest.length then none else return behind
  | _ => return afterSecond

/-- Takes the offset of a time, if there is one. -/
def offset? (text : List Char) : Option (List Char) :=
  match text with
  | 'Z' :: rest | 'z' :: rest => some rest
  | '+' :: rest | '-' :: rest => do
    let (_, afterHour) ← fixedDigits? 2 0 23 rest
    let (_, after) ← fixedDigits? 2 0 59 (← sign? ':' afterHour)
    return after
  | _ => some text

/-- Takes a point in time: a date, a time, or both with an optional offset. -/
def moment? (text : List Char) : Option (List Char) :=
  match date? text with
  | none => time? text
  | some rest =>
    match rest with
    | c :: behind =>
      if c == 'T' || c == 't' || (c == ' ' && behind.head?.any isAsciiDigit) then
        (time? behind).bind offset?
      else some rest
    | [] => some rest

def startsMoment (text : List Char) : Bool :=
  let digits := (text.takeWhile isAsciiDigit).length
  (digits == 4 && (text.drop 4).head? == some '-') ||
    (digits == 2 && (text.drop 2).head? == some ':')

/-- Reads a scalar.  A point in time is a mapping of its own kind, which no setting asks for. -/
def scalar? (text : List Char) : Option (Document × List Char) :=
  match text with
  | 't' :: 'r' :: 'u' :: 'e' :: rest => some (.bool true, rest)
  | 'f' :: 'a' :: 'l' :: 's' :: 'e' :: rest => some (.bool false, rest)
  | c :: _ =>
    if c == '"' || c == '\'' then (quoted? true text).map fun (value, rest) => (.text value, rest)
    else if startsMoment text then
      (moment? text).map fun rest =>
        (.mapping [("moment", .text (String.ofList (text.take (text.length - rest.length))))], rest)
    else number? text
  | [] => none

end TypedTables.Toml
