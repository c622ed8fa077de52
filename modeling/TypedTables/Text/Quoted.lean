import TypedTables.Text.AsciiCase
import TypedTables.Text.Category

/-!
# Quoted text in messages

Messages show a text between double quotes.  A quote, a backslash and the common controls get a
backslash; a character that would not show up is written by its code point.
-/

namespace TypedTables.Text

/-- One character as it stands between the quotes of a message. -/
def quoteChar (c : Char) : List Char :=
  if c == '"' then ['\\', '"']
  else if c == '\\' then ['\\', '\\']
  else if c == '\n' then ['\\', 'n']
  else if c == '\r' then ['\\', 'r']
  else if c == '\t' then ['\\', 't']
  else if c.toNat == 0 then ['\\', '0']
  else if extendsGrapheme c || !isPrintable c then
    ['\\', 'u', '\x7b'] ++ hexDigits c.toNat ++ ['\x7d']
  else [c]

def quoted (text : String) : String :=
  String.ofList ('"' :: text.toList.flatMap quoteChar ++ ['"'])

/-- A list between square brackets, its items separated by a comma and a space. -/
def bracketed (items : List String) : String :=
  "[" ++ String.intercalate ", " items ++ "]"

end TypedTables.Text
