import TypedTables.Document
import TypedTables.Number.Layout
import TypedTables.Text.AsciiCase

/-!
# Writing JSON

The compact form has no space at all; the pretty form puts every item and entry on a line of its
own, indented by two spaces per level, and leaves empty lists and mappings closed.
-/

namespace TypedTables.Json

open TypedTables.Number TypedTables.Text

/-- Numbers keep a point, are positional from `1e-5` up to below `1e16`, and write the sign of a
positive exponent; what is not a finite number is null. -/
def floatLayout : FloatLayout where
  positional := some (-5, 15)
  halfway := .even
  pointZero := true
  exponentPlus := true
  nan := "null"
  infinity := "null"
  negativeInfinity := "null"

/-- One character as it stands between the quotes of a text. -/
def escape (c : Char) : List Char :=
  if c == '"' then ['\\', '"']
  else if c == '\\' then ['\\', '\\']
  else if c == '\x08' then ['\\', 'b']
  else if c == '\x0c' then ['\\', 'f']
  else if c == '\n' then ['\\', 'n']
  else if c == '\r' then ['\\', 'r']
  else if c == '\t' then ['\\', 't']
  else if c.toNat < 0x20 then ['\\', 'u'] ++ hexPadded 4 c.toNat
  else [c]

def quote (text : String) : String :=
  String.ofList ('"' :: text.toList.flatMap escape ++ ['"'])

/-- The text of a scalar; lists and mappings have none. -/
def scalarText : Document → String
  | .null => "null"
  | .bool value => if value then "true" else "false"
  | .integer value => toString value
  | .float value => floatLayout.format .double value
  | .text value => quote value
  | .plain value => quote value
  | .list _ => ""
  | .mapping _ => ""

mutual

def compact : Document → String
  | .list items => "[" ++ compactItems items ++ "]"
  | .mapping entries => "\x7b" ++ compactEntries entries ++ "\x7d"
  | scalar => scalarText scalar

/-- Items in compact form, separated by commas. -/
def compactItems : List Document → String
  | [] => ""
  | [item] => compact item
  | item :: items => compact item ++ "," ++ compactItems items

/-- Entries in compact form, separated by commas. -/
def compactEntries : List (String × Document) → String
  | [] => ""
  | [(key, value)] => quote key ++ ":" ++ compact value
  | (key, value) :: entries => quote key ++ ":" ++ compact value ++ "," ++ compactEntries entries

end

/-- A line break followed by the indentation of a level. -/
def lineBreak (level : Nat) : String :=
  String.ofList ('\n' :: List.replicate (2 * level) ' ')

mutual

/-- The pretty form of a document whose own line is indented to a level. -/
def prettyAt (level : Nat) : Document → String
  | .list [] => "[]"
  | .list items => "[" ++ prettyItems (level + 1) items ++ lineBreak level ++ "]"
  | .mapping [] => "\x7b\x7d"
  | .mapping entries =>
    "\x7b" ++ prettyEntries (level + 1) entries ++ lineBreak level ++ "\x7d"
  | scalar => scalarText scalar

/-- Items on lines of their own, separated by commas. -/
def prettyItems (level : Nat) : List Document → String
  | [] => ""
  | [item] => lineBreak level ++ prettyAt level item
  | item :: items => lineBreak level ++ prettyAt level item ++ "," ++ prettyItems level items

/-- Entries on lines of their own, separated by commas. -/
def prettyEntries (level : Nat) : List (String × Document) → String
  | [] => ""
  | [(key, value)] => lineBreak level ++ quote key ++ ": " ++ prettyAt level value
  | (key, value) :: entries =>
    lineBreak level ++ quote key ++ ": " ++ prettyAt level value ++ "," ++
      prettyEntries level entries

end

def pretty (document : Document) : String :=
  prettyAt 0 document

end TypedTables.Json
