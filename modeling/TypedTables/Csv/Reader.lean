import TypedTables.Text.Blank

/-!
# Reading delimited text

A text holds records on lines and fields between delimiters.  A field may stand in quotes, in which
a quote is written twice and delimiters and line ends are part of the field.  Lines without any
character are no records, and a mark of byte order at the start is no part of the text.
-/

namespace TypedTables.Csv

/-- Where a reader stands. -/
inductive Position
  | record
  /-- Before a field that follows a delimiter. -/
  | field
  | bare
  | quoted
  | quote
  deriving Repr, DecidableEq

/-- What has been read, the last character, field and record first. -/
structure Reading where
  position : Position := .record
  characters : List Char := []
  fields : List String := []
  records : List (List String) := []
  deriving Repr

def endsRecord (c : Char) : Bool :=
  c == '\n' || c == '\r'

namespace Reading

def addCharacter (reading : Reading) (position : Position) (c : Char) : Reading :=
  { reading with position, characters := c :: reading.characters }

def endField (reading : Reading) : Reading :=
  { reading with
    position := .field, characters := [],
    fields := String.ofList reading.characters.reverse :: reading.fields }

def endRecord (reading : Reading) : Reading :=
  let ended := reading.endField
  { position := .record, records := ended.fields.reverse :: ended.records }

/-- Reads a character that does not belong to quotes: a delimiter, a line end, or a part of the
field. -/
def addBare (delimiter : Char) (reading : Reading) (c : Char) : Reading :=
  if c == delimiter then reading.endField
  else if endsRecord c then reading.endRecord
  else reading.addCharacter .bare c

def add (delimiter : Char) (reading : Reading) (c : Char) : Reading :=
  match reading.position with
  | .record =>
    if endsRecord c then reading
    else if c == '"' then { reading with position := .quoted }
    else reading.addBare delimiter c
  | .field =>
    if c == '"' then { reading with position := .quoted } else reading.addBare delimiter c
  | .bare => reading.addBare delimiter c
  | .quoted =>
    if c == '"' then { reading with position := .quote } else reading.addCharacter .quoted c
  | .quote => if c == '"' then reading.addCharacter .quoted c else reading.addBare delimiter c

/-- The records read, once the text is at its end. -/
def finish (reading : Reading) : List (List String) :=
  match reading.position with
  | .record => reading.records.reverse
  | _ => reading.endRecord.records.reverse

end Reading

/-- The characters without a mark of byte order in front. -/
def dropMark : List Char → List Char
  | '\ufeff' :: rest => rest
  | text => text

def records (delimiter : Char) (text : String) : List (List String) :=
  ((dropMark text.toList).foldl (Reading.add delimiter) {}).finish

end TypedTables.Csv
