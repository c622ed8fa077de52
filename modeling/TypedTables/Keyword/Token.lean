import TypedTables.Text.Lowercase
import TypedTables.Text.Blank

/-!
# Keyword cells

A keyword cell holds words, each with an optional parameter between parentheses.  A dollar sign in
front of a word does not count, and the case of its letters neither.
-/

namespace TypedTables.Keyword

open TypedTables.Text

/-- A word of a keyword cell with its parameter. -/
structure Token where
  word : String
  parameter : Option String
  deriving Repr, DecidableEq

def isWordChar (c : Char) : Bool :=
  c != '(' && !isBlank c

/-- The text without the dollar sign in front of a word. -/
def dropDollar : List Char → List Char
  | '$' :: c :: rest => if isWordChar c then c :: rest else '$' :: c :: rest
  | text => text

/-- Reads a parameter up to the first closing parenthesis on the same line, if one follows. -/
def readParameter? : List Char → Option (List Char × List Char)
  | '(' :: inner =>
    let isEnd (c : Char) : Bool := c == ')' || c == '\n'
    match inner.dropWhile fun c => !isEnd c with
    | ')' :: rest => some (inner.takeWhile fun c => !isEnd c, rest)
    | _ => none
  | _ => none

/-- Reads the words of a cell; every word takes at least one character, so the length of the text
bounds their number. -/
def tokensWithin (bound : Nat) (text : List Char) : List Token :=
  match bound, text.dropWhile fun c => !isWordChar c with
  | bound + 1, c :: rest =>
    let found := dropDollar (c :: rest)
    let word := lowercase (String.ofList (found.takeWhile isWordChar))
    let behind := (found.dropWhile isWordChar).dropWhile isBlank
    match readParameter? behind with
    | some (parameter, after) =>
      ⟨word, some (String.ofList parameter)⟩ :: tokensWithin bound after
    | none => ⟨word, none⟩ :: tokensWithin bound behind
  | _, _ => []

def tokens (text : String) : List Token :=
  tokensWithin text.length text.toList

end TypedTables.Keyword
