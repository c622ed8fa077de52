import TypedTables.Text.AsciiCase

/-!
# Identifiers

Names from sheets become identifiers of the generated code: other characters are replaced, and a
reserved word is written as a raw identifier, or with an underscore where it may not be raw.
-/

namespace TypedTables.Naming

open TypedTables.Text

/-- A character that may stand in an identifier. -/
def isIdentifierChar (c : Char) : Bool :=
  isAsciiLetter c || isAsciiDigit c || c == '_'

def isIdentifierStart (c : Char) : Bool :=
  isAsciiLetter c || c == '_'

/-- Puts an underscore in front of a leading digit. -/
def guardDigit : List Char → List Char
  | [] => []
  | c :: rest => if isAsciiDigit c then '_' :: c :: rest else c :: rest

/-- The name with every other character replaced by an underscore and a leading digit guarded. -/
def sanitize (name : String) : String :=
  String.ofList (guardDigit (name.toList.map fun c => if isIdentifierChar c then c else '_'))

def isIdentifier (text : String) : Bool :=
  match text.toList with
  | [] => false
  | c :: rest => isIdentifierStart c && (c :: rest).all isIdentifierChar

/-- Reserved words of the generated code, those kept for later among them. -/
def reservedWords : List String := [
  "as", "async", "await", "break", "const", "continue", "crate", "dyn", "else", "enum", "extern",
  "false", "fn", "for", "if", "impl", "in", "let", "loop", "match", "mod", "move", "mut", "pub",
  "ref", "return", "self", "Self", "static", "struct", "super", "trait", "true", "type",
  "unsafe", "use", "where", "while", "abstract", "become", "box", "do", "final", "gen",
  "macro", "override", "priv", "try", "typeof", "unsized", "virtual", "yield"]

/-- Reserved words that may not be raw identifiers. -/
def neverRaw : List String := ["self", "Self", "super", "crate"]

def rawMark : String := "r#"

/-- The identifier, escaped when it is a reserved word. -/
def escapeReserved (identifier : String) : String :=
  if neverRaw.contains identifier then identifier ++ "_"
  else if reservedWords.contains identifier then rawMark ++ identifier
  else identifier

/-- Takes every raw mark off the front of a name. -/
def dropRawMarks : List Char → List Char
  | 'r' :: '#' :: rest => dropRawMarks rest
  | name => name

def withoutRawMark (identifier : String) : String :=
  String.ofList (dropRawMarks identifier.toList)

end TypedTables.Naming
