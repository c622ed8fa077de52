import TypedTables.Document
import TypedTables.Number.Layout
import TypedTables.Yaml.Style

/-!
# Writing YAML

Lists and mappings are written as blocks.  The items of a list in a mapping stand under the key
without further indentation, and a collection in a list starts on the line of its dash.  Empty
collections are closed in brackets.
-/

namespace TypedTables.Yaml

open TypedTables.Number TypedTables.Text

/-- Numbers keep a point, are positional from `1e-5` up to below `1e16`, and write no sign of a
positive exponent. -/
def floatLayout : FloatLayout where
  positional := some (-5, 15)
  halfway := .even
  pointZero := true
  exponentPlus := false
  nan := ".nan"
  infinity := ".inf"
  negativeInfinity := "-.inf"

def margin (indent : Nat) : List Char :=
  List.replicate indent ' '

/-- The letters that stand for characters between double quotes. -/
def escapeLetters : List (Nat × Char) := [
  (0, '0'), (7, 'a'), (8, 'b'), (9, 't'), (0xA, 'n'), (0xB, 'v'), (0xC, 'f'), (0xD, 'r'),
  (0x1B, 'e'), (0x22, '"'), (0x5C, '\\'), (0x85, 'N'), (0xA0, '_'), (0x2028, 'L'), (0x2029, 'P')]

/-- A hexadecimal number with capital letters and at least so many digits. -/
def capitalHex (width number : Nat) : List Char :=
  (hexPadded width number).map Char.toUpper

def escape (c : Char) : List Char :=
  if isPrintable c && !isLineBreak c && c != '"' && c != '\\' then [c]
  else
    '\\' ::
      match escapeLetters.lookup c.toNat with
      | some letter => [letter]
      | none =>
        if c.toNat ≤ 0xFF then 'x' :: capitalHex 2 c.toNat
        else if c.toNat ≤ 0xFFFF then 'u' :: capitalHex 4 c.toNat
        else 'U' :: capitalHex 8 c.toNat

/-- Lines with every line but empty ones indented, given whether a line starts here. -/
def indentLines (indent : Nat) : (startsLine : Bool) → List Char → List Char
  | _, [] => []
  | startsLine, c :: rest =>
    if isLineBreak c then c :: indentLines indent true rest
    else (if startsLine then margin indent else []) ++ c :: indentLines indent false rest

/-- A text between single quotes, in which a quote is written twice. -/
def singleQuoted (indent : Nat) (text : List Char) : List Char :=
  let doubled := text.flatMap fun c => if c == '\'' then ['\'', '\''] else [c]
  let lines := indentLines indent false doubled
  '\'' :: lines ++ (if text.getLast?.any isLineBreak then margin indent else []) ++ ['\'']

/-- What stands behind the bar of a block: the indentation if it could be misread, and whether
the line end after the last line is left out or further ones are kept. -/
def blockHints (text : List Char) : List Char :=
  let indentation := if text.head?.any fun c => c == ' ' || isLineBreak c then ['2'] else []
  let ending :=
    match text.reverse with
    | last :: others =>
      if !isLineBreak last then ['-']
      else if others.head?.all isLineBreak then ['+']
      else []
    | [] => ['-']
  indentation ++ ending

/-- A scalar and whether it ends in a line end of its own. -/
structure Written where
  text : List Char
  endsLine : Bool := false

/-- A text as a scalar whose further lines are indented. -/
def writeText (isKey : Bool) (indent : Nat) (text : String) : Written :=
  let characters := text.toList
  match styleOf isKey text with
  | .plain => { text := characters }
  | .single => { text := singleQuoted indent characters }
  | .double => { text := '"' :: characters.flatMap escape ++ ['"'] }
  | .literal =>
    { text := '|' :: blockHints characters ++ '\n' :: indentLines indent true characters
      endsLine := characters.getLast?.any isLineBreak }

def writeScalar (indent : Nat) : Document → Written
  | .null => { text := "null".toList }
  | .bool value => { text := (if value then "true" else "false").toList }
  | .integer value => { text := (toString value).toList }
  | .float value => { text := (floatLayout.format .double value).toList }
  | .text value => writeText false indent value
  | .plain value => writeText false indent value
  | .list _ => { text := ['[', ']'] }
  | .mapping _ => { text := ['\x7b', '\x7d'] }

def line (written : Written) : List Char :=
  written.text ++ if written.endsLine then [] else ['\n']

/-- The length in bytes up to which a key stands on the line of its value. -/
def keyLength : Nat := 128

/-- Whether a key stands on the line of its value. -/
def isSimpleKey (key : String) : Bool :=
  key.utf8ByteSize ≤ keyLength && !key.toList.any isLineBreak

/-- A key with the colon behind it; a long one has a line of its own behind a question mark. -/
def writeKey (indent : Nat) (key : String) : List Char :=
  if isSimpleKey key then (writeText true (indent + 2) key).text ++ [':']
  else '?' :: ' ' :: line (writeText false (indent + 2) key) ++ margin indent ++ [':']

mutual

/-- The items of a list whose dashes are indented; the first one continues a line. -/
def writeItems (indent : Nat) : List Document → List Char
  | [] => []
  | [item] => '-' :: ' ' :: writeBlock (indent + 2) item
  | item :: rest =>
    '-' :: ' ' :: writeBlock (indent + 2) item ++ margin indent ++ writeItems indent rest

/-- The entries of a mapping whose keys are indented; the first one continues a line. -/
def writeEntries (indent : Nat) : List (String × Document) → List Char
  | [] => []
  | [(key, value)] => writeKey indent key ++ writeValue indent (isSimpleKey key) value
  | (key, value) :: rest =>
    writeKey indent key ++ writeValue indent (isSimpleKey key) value ++ margin indent ++
      writeEntries indent rest

def writeValue (indent : Nat) (isBesideKey : Bool) : Document → List Char
  | .list (item :: rest) =>
    if isBesideKey then '\n' :: margin indent ++ writeItems indent (item :: rest)
    else ' ' :: writeItems (indent + 2) (item :: rest)
  | .mapping (entry :: rest) =>
    if isBesideKey then '\n' :: margin (indent + 2) ++ writeEntries (indent + 2) (entry :: rest)
    else ' ' :: writeEntries (indent + 2) (entry :: rest)
  | scalar => ' ' :: line (writeScalar (indent + 2) scalar)

/-- A document that continues a line, with an indentation for its own further lines. -/
def writeBlock (indent : Nat) : Document → List Char
  | .list (item :: rest) => writeItems indent (item :: rest)
  | .mapping (entry :: rest) => writeEntries indent (entry :: rest)
  | scalar => line (writeScalar indent scalar)

end

def write (document : Document) : String :=
  String.ofList (writeBlock 0 document)

end TypedTables.Yaml
