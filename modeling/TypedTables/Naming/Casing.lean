import TypedTables.Naming.Identifier
import TypedTables.Text.Blank

/-!
# Case styles

A name is cut into words at underscores, where the kind of character changes from lower to upper
case or to or from a digit, and before the last capital of an acronym.  The words are then joined
in the wanted style.
-/

namespace TypedTables.Naming

open TypedTables.Text

def isLower (c : Char) : Bool :=
  'a' ≤ c && c ≤ 'z'

def isUpper (c : Char) : Bool :=
  'A' ≤ c && c ≤ 'Z'

/-- Whether a word ends between two adjacent characters. -/
def splitsPair (left right : Char) : Bool :=
  (isLower left && isUpper right) || (isUpper left && isAsciiDigit right) ||
    (isAsciiDigit left && isUpper right) || (isAsciiDigit left && isLower right) ||
    (isLower left && isAsciiDigit right)

/-- Whether a word ends before the second of three adjacent characters, the last capital of an
acronym. -/
def splitsAcronym (left middle : Char) : List Char → Bool
  | [] => false
  | right :: _ => isUpper left && isUpper middle && isLower right

/-- The pieces of a sanitized name, given the character before it. -/
def piecesAfter (previous : Option Char) : List Char → List (List Char)
  | [] => [[]]
  | c :: rest =>
    if c == '_' then [] :: piecesAfter (some c) rest
    else
      let isStart := match previous with
        | some left => splitsPair left c || splitsAcronym left c rest
        | none => false
      let pieces := consPiece c (piecesAfter (some c) rest)
      if isStart then [] :: pieces else pieces

def nameWords (name : String) : List (List Char) :=
  (piecesAfter none name.toList).filter fun piece => !piece.isEmpty

/-- The word with its first letter upper-case and the others lower-case. -/
def capitalize : List Char → List Char
  | [] => []
  | c :: rest => c.toUpper :: rest.map Char.toLower

/-- Joins words in lower case with underscores. -/
def joinSnake (words : List (List Char)) : List Char :=
  List.intercalate ['_'] (words.map fun word => word.map Char.toLower)

/-- Joins capitalized words without a separator. -/
def joinPascal (words : List (List Char)) : List Char :=
  (words.map capitalize).flatten

/-- Makes the words of a name an identifier by a style of joining. -/
def identifierBy (join : List (List Char) → List Char) (name : String) : String :=
  let joined := join (nameWords (sanitize name))
  let shown := if joined.isEmpty then ['_'] else joined
  escapeReserved (sanitize (String.ofList shown))

def snakeCase (name : String) : String :=
  identifierBy joinSnake name

def pascalCase (name : String) : String :=
  identifierBy joinPascal name

end TypedTables.Naming
