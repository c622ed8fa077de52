import TypedTables.Json.Reader
import TypedTables.Template.Basic
import TypedTables.Text.AsciiCase

/-!
# Reading operands

Operands stand between the braces of a tag, with white space between them.  A reader takes the
characters behind the last one read and gives the rest.
-/

namespace TypedTables.Template

open TypedTables.Text

def isGap (c : Char) : Bool :=
  c == ' ' || c == '\t' || c == '\n' || c == '\r'

def skipGap (text : List Char) : List Char :=
  text.dropWhile isGap

def isNameChar (c : Char) : Bool :=
  isAsciiLetter c || isAsciiDigit c || c == '_' || c == '-' || 0x80 ≤ c.toNat

def readName? (text : List Char) : Option (String × List Char) :=
  match text.takeWhile isNameChar with
  | [] => none
  | name => some (String.ofList name, text.dropWhile isNameChar)

/-- Reads one key of a path: a name, or any text between brackets. -/
def readKey? : List Char → Option (String × List Char)
  | '[' :: text =>
    match text.dropWhile (· != ']') with
    | _ :: rest => some (String.ofList (text.takeWhile (· != ']')), rest)
    | [] => none
  | text => readName? text

/-- Whether a character stands between the keys of a path. -/
def isKeySeparator (c : Char) : Bool :=
  c == '.' || c == '/'

/-- Reads the further keys of a path, each behind a separator.  Every key takes a character, so the
length of the text bounds their number. -/
def readKeysWithin : (bound : Nat) → List Char → List String × List Char
  | bound + 1, c :: text =>
    if isKeySeparator c then
      match readKey? text with
      | some (key, rest) =>
        let (keys, after) := readKeysWithin bound rest
        (key :: keys, after)
      | none => ([], c :: text)
    else ([], c :: text)
  | _, text => ([], text)

/-- Reads the steps out of blocks in front of a path. -/
def readLevels : List Char → Nat × List Char
  | '.' :: '.' :: c :: text =>
    if isKeySeparator c then
      let (levels, rest) := readLevels text
      (levels + 1, rest)
    else (1, c :: text)
  | ['.', '.'] => (1, [])
  | '.' :: '/' :: text => (0, text)
  | text => (0, text)

/-- Reads a path of keys; `this` and a lone point stand for the value itself. -/
def readKeys? (text : List Char) : Option (List String × List Char) :=
  match readKey? text with
  | some (key, rest) =>
    let (keys, after) := readKeysWithin rest.length rest
    some ((key :: keys).filter (· != "this"), after)
  | none =>
    match text with
    | '.' :: rest => some ([], rest)
    | _ => none

def readPlace? (text : List Char) : Option (Place × List Char) :=
  let rootMark := "@root".toList
  match text with
  | '@' :: behind =>
    if rootMark.isPrefixOf text && (text.drop rootMark.length).head?.any isKeySeparator then do
      let (keys, rest) ← readKeys? (text.drop (rootMark.length + 1))
      some ({ fromRoot := true, keys }, rest)
    else do
      let (levels, name) := readLevels behind
      let (keys, rest) ← readKeys? name
      some ({ isVariable := true, levels, keys }, rest)
  | _ =>
    let (levels, path) := readLevels text
    match readKeys? path with
    | some (keys, rest) => some ({ levels, keys }, rest)
    | none => if levels == 0 then none else some ({ levels, keys := [] }, path)

/-- The end of a text in double quotes, and what is behind it. -/
def readQuoted : List Char → Option (List Char × List Char)
  | [] => none
  | '"' :: rest => some (['"'], rest)
  | '\\' :: c :: rest => (readQuoted rest).map fun (body, after) => ('\\' :: c :: body, after)
  | c :: rest => (readQuoted rest).map fun (body, after) => (c :: body, after)

def readTextLiteral? : List Char → Option (Document × List Char)
  | '"' :: text => do
    let (body, rest) ← readQuoted text
    let value ← Json.read? (String.ofList ('"' :: body))
    some (value, rest)
  | '\'' :: text =>
    match text.dropWhile (· != '\'') with
    | _ :: rest => some (.text (String.ofList (text.takeWhile (· != '\''))), rest)
    | [] => none
  | _ => none

/-- Reads a number, a truth value or null, which no name character follows. -/
def readWordLiteral? (text : List Char) : Option (Document × List Char) :=
  let isLiteralChar (c : Char) : Bool := isNameChar c || c == '.'
  let word := text.takeWhile isLiteralChar
  match word with
  | [] => none
  | c :: _ =>
    let written := String.ofList word
    if isAsciiDigit c || c == '-' || ["true", "false", "null"].contains written then do
      let value ← Json.read? written
      some (value, text.dropWhile isLiteralChar)
    else none

def readLiteral? (text : List Char) : Option (Document × List Char) :=
  readTextLiteral? text <|> readWordLiteral? text

def isKeyword (name : String) : Bool :=
  name == "as" || name == "else"

/-- Reads the name of an option and its equality sign. -/
def readOptionName? (text : List Char) : Option (String × List Char) := do
  let (name, rest) ← readName? text
  match skipGap rest with
  | '=' :: value => some (name, skipGap value)
  | _ => none

/-- The arguments and options behind a name. -/
structure Given where
  arguments : List Operand := []
  options : List (String × Operand) := []

mutual

/-- Reads an operand.  Every call takes characters of the text, whose length is the bound. -/
def readOperandWithin : (bound : Nat) → List Char → Option (Operand × List Char)
  | 0, _ => none
  | bound + 1, '(' :: text => do
    let (operand, rest) ← readCallWithin bound (skipGap text)
    match skipGap rest with
    | ')' :: after => some (operand, after)
    | _ => none
  | _, text =>
    match readLiteral? text with
    | some (value, rest) => some (.literal value, rest)
    | none =>
      if (readName? text).any fun found => isKeyword found.1 then none
      else (readPlace? text).map fun (place, rest) => (.place place, rest)

/-- Reads a helper's name with what it is given, or else a place. -/
def readCallWithin : (bound : Nat) → List Char → Option (Operand × List Char)
  | 0, _ => none
  | bound + 1, text =>
    let called := do
      let (name, rest) ← readName? text
      let (given, after) := readGivenWithin bound rest
      if given.arguments.isEmpty && given.options.isEmpty then none
      else some (Operand.call name given.arguments given.options, after)
    called <|> (readPlace? text).map fun (place, rest) => (.place place, rest)

/-- Reads arguments and options as long as there are any, each behind white space. -/
def readGivenWithin : (bound : Nat) → List Char → Given × List Char
  | 0, text => ({}, text)
  | bound + 1, text =>
    let behind := skipGap text
    if behind.length == text.length then ({}, text)
    else
      match readOptionName? behind with
      | some (name, value) =>
        match readOperandWithin bound value with
        | some (operand, rest) =>
          let (given, after) := readGivenWithin bound rest
          ({ given with options := (name, operand) :: given.options }, after)
        | none => ({}, text)
      | none =>
        match readOperandWithin bound behind with
        | some (operand, rest) =>
          let (given, after) := readGivenWithin bound rest
          ({ given with arguments := operand :: given.arguments }, after)
        | none => ({}, text)

end

def readExpression? (text : List Char) : Option (Operand × List Char) :=
  match text with
  | '(' :: _ => readOperandWithin (2 * text.length + 2) text
  | _ => readCallWithin (2 * text.length + 2) text

/-- Reads the one or two names that a block gives its values, between bars behind `as`. -/
def readBinders? (text : List Char) : Option (List String × List Char) := do
  match ← readName? (skipGap text) with
  | ("as", rest) =>
    match skipGap rest with
    | '|' :: names => do
      let (first, rest) ← readName? (skipGap names)
      match skipGap rest with
      | '|' :: after => some ([first], after)
      | more => do
        let (second, rest) ← readName? more
        match skipGap rest with
        | '|' :: after => some ([first, second], after)
        | _ => none
    | _ => none
  | _ => none

def readHead? (text : List Char) : Option (Head × List Char) := do
  let (name, rest) ← readName? (skipGap text)
  let (given, after) := readGivenWithin (2 * rest.length + 2) rest
  match readBinders? after with
  | some (binders, behind) => some (⟨name, given.arguments, given.options, binders⟩, behind)
  | none => some (⟨name, given.arguments, given.options, []⟩, after)

end TypedTables.Template
