import TypedTables.Text.Blank

/-!
# Environment references

A configuration text refers to a variable of the environment by its name between braces behind a
dollar sign.  A colon, or a colon and a minus, in front of the closing brace starts the text that
stands for a variable that is not set.
-/

namespace TypedTables.Config

/-- A piece of a configuration text. -/
inductive EnvironmentPiece
  | literal (c : Char)
  | variable (name default : String)
  deriving Repr, DecidableEq

/-- The text that a default is written as, without the minus in front of it. -/
def dropMinus : List Char → List Char
  | '-' :: rest => rest
  | text => text

/-- Reads what follows a dollar sign and an opening brace: the name, the default, and the rest
behind the closing brace. -/
def readReference? (text : List Char) : Option (List Char × List Char × List Char) :=
  let isEnd (c : Char) : Bool := c == '\x7d' || c == ':'
  let name := text.takeWhile fun c => !isEnd c
  if name.isEmpty then none
  else
    match text.dropWhile fun c => !isEnd c with
    | '\x7d' :: rest => some (name, [], rest)
    | ':' :: behind =>
      match behind.dropWhile (· != '\x7d') with
      | _ :: rest => some (name, dropMinus (behind.takeWhile (· != '\x7d')), rest)
      | [] => none
    | _ => none

/-- Cuts a text into literal characters and references; a reference without an end is literal.
Every piece takes at least one character, so the length of the text bounds their number. -/
def piecesWithin : (bound : Nat) → List Char → List EnvironmentPiece
  | bound + 1, '$' :: '\x7b' :: rest =>
    match readReference? rest with
    | some (name, default, after) =>
      .variable (String.ofList name) (String.ofList default) :: piecesWithin bound after
    | none => .literal '$' :: piecesWithin bound ('\x7b' :: rest)
  | bound + 1, c :: rest => .literal c :: piecesWithin bound rest
  | _, _ => []

def environmentPieces (text : String) : List EnvironmentPiece :=
  piecesWithin text.length text.toList

/-- The names of the variables that a text refers to. -/
def referredNames (text : String) : List String :=
  (environmentPieces text).filterMap fun piece =>
    match piece with
    | .literal _ => none
    | .variable name _ => some name

/-- The text with every reference replaced by the value of its variable, or by its default when
the variable is not set.  Values are not searched for further references. -/
def substituteEnvironment (value? : String → Option String) (text : String) : String :=
  String.ofList <| (environmentPieces text).flatMap fun piece =>
    match piece with
    | .literal c => [c]
    | .variable name default => ((value? name).getD default).toList

end TypedTables.Config
