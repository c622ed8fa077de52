import TypedTables.Pattern.Expression

/-!
# Escapes in patterns

What a backslash and the characters behind it stand for.
-/

namespace TypedTables.Pattern

open TypedTables.Text

/-- What an escape stands for. -/
inductive Escape
  | literal (c : Char)
  | named (content : NamedClass) (negate : Bool)
  | assertion (assertion : Assertion)
  deriving Repr, DecidableEq

/-- Characters of a pattern that have a meaning of their own. -/
def metaCharacters : List Char :=
  ['\\', '.', '+', '*', '?', '(', ')', '|', '[', ']', '\x7b', '\x7d', '^', '$', '#', '&', '-', '~']

/-- A character that may be escaped to stand for itself. -/
def isEscapable (c : Char) : Bool :=
  metaCharacters.contains c ||
    (c.toNat < 0x80 && !isAsciiLetter c && !isAsciiDigit c && c != '<' && c != '>')

/-- The character with a code point, if there is one. -/
def charOf? (code : Nat) : Option Char :=
  if code < 0xD800 || (0xE000 ≤ code && code ≤ 0x10FFFF) then some (Char.ofNat code) else none

/-- Reads what stands between braces, given what follows the opening one. -/
def readBraced? (text : List Char) : Option (List Char × List Char) :=
  match text.dropWhile (· != '\x7d') with
  | [] => none
  | _ :: rest => some (text.takeWhile (· != '\x7d'), rest)

/-- Reads a code point of a fixed number of digits, or of any number of them between braces. -/
def readCode? (width : Nat) (text : List Char) : Option (Escape × List Char) :=
  match text with
  | '\x7b' :: inner => do
    let (digits, rest) ← readBraced? inner
    if digits.isEmpty then none
    else
      let c ← charOf? (← hexNumber? digits)
      return (.literal c, rest)
  | _ => do
    if text.length < width then none
    else
      let c ← charOf? (← hexNumber? (text.take width))
      return (.literal c, text.drop width)

/-- Splits a property text at the sign between its kind and its value. -/
def splitProperty? (text : List Char) : Option (String × Bool × String) :=
  let isSign (c : Char) : Bool := c == '=' || c == ':'
  let before := text.takeWhile fun c => !isSign c
  match text.dropWhile fun c => !isSign c with
  | [] => none
  | sign :: value =>
    if sign == '=' && before.getLast? == some '!' then
      some (String.ofList before.dropLast, true, String.ofList value)
    else some (String.ofList before, false, String.ofList value)

/-- The class that a property text names, and whether it stands for its complement. -/
def propertyClass? (text : List Char) : Option (NamedClass × Bool) :=
  match splitProperty? text with
  | some (kind, negate, value) =>
    (valuedProperty? kind value).map fun wanted => (.property wanted, negate)
  | none => (property? (String.ofList text)).map fun wanted => (.property wanted, false)

/-- Reads the property behind a `p` or `P`. -/
def readProperty? (negate : Bool) (text : List Char) : Option (Escape × List Char) :=
  match text with
  | [] => none
  | '\x7b' :: '^' :: inner => do
    let (name, rest) ← readBraced? inner
    let (content, flipped) ← propertyClass? name
    return (.named content (negate == flipped), rest)
  | '\x7b' :: inner => do
    let (name, rest) ← readBraced? inner
    let (content, flipped) ← propertyClass? name
    return (.named content (negate != flipped), rest)
  | c :: rest => do
    let (content, flipped) ← propertyClass? [c]
    return (.named content (negate != flipped), rest)

/-- The boundaries that may be named between braces behind a `b`. -/
def namedBoundaries : List (String × Assertion) := [
  ("start", .wordStart), ("end", .wordEnd), ("start-half", .halfWordStart),
  ("end-half", .halfWordEnd)]

/-- Reads what follows a `b`: the name of a boundary between braces, or nothing of its own. -/
def readBoundary? (text : List Char) : Option (Escape × List Char) :=
  match text with
  | '\x7b' :: inner =>
    let isNameChar (c : Char) : Bool := isAsciiLetter c || c == '-'
    match inner.takeWhile isNameChar, inner.dropWhile isNameChar with
    | [], _ => some (.assertion .wordBoundary, text)
    | name, '\x7d' :: rest =>
      (namedBoundaries.lookup (String.ofList name)).map fun boundary => (.assertion boundary, rest)
    | _, _ => none
  | _ => some (.assertion .wordBoundary, text)

def letterClasses : List (Char × NamedClass × Bool) := [
  ('d', .digit, false), ('D', .digit, true), ('s', .space, false), ('S', .space, true),
  ('w', .word, false), ('W', .word, true)]

/-- The control characters with a letter of their own. -/
def letterControls : List (Char × Char) := [
  ('a', '\x07'), ('f', '\x0c'), ('t', '\t'), ('n', '\n'), ('r', '\r'), ('v', '\x0b')]

def letterAssertions : List (Char × Assertion) := [
  ('A', .textStart), ('z', .textEnd), ('B', .notWordBoundary), ('<', .wordStart), ('>', .wordEnd)]

def readEscape? : List Char → Option (Escape × List Char)
  | [] => none
  | c :: rest =>
    if c == 'x' then readCode? 2 rest
    else if c == 'u' then readCode? 4 rest
    else if c == 'U' then readCode? 8 rest
    else if c == 'p' then readProperty? false rest
    else if c == 'P' then readProperty? true rest
    else if c == 'b' then readBoundary? rest
    else
      match letterClasses.lookup c, letterControls.lookup c, letterAssertions.lookup c with
      | some (content, negate), _, _ => some (.named content negate, rest)
      | _, some control, _ => some (.literal control, rest)
      | _, _, some assertion => some (.assertion assertion, rest)
      | none, none, none => if isEscapable c then some (.literal c, rest) else none

end TypedTables.Pattern
