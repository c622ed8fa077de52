import TypedTables.Document.PlainScalar

/-!
# Styles of written scalars

A text is written as it is, between single or double quotes, or as a block of lines.  Which of
these are possible depends on its characters; a text that would be read back as another scalar is
never written as it is.
-/

namespace TypedTables.Yaml

open TypedTables.Text

/-- How a scalar is written. -/
inductive Style
  | plain
  | single
  | double
  | literal
  deriving Repr, DecidableEq

/-- A character that ends a line in written scalars. -/
def isLineBreak (c : Char) : Bool :=
  c == '\n' || c == '\r' || c.toNat == 0x85 || c.toNat == 0x2028 || c.toNat == 0x2029

def isPrintable (c : Char) : Bool :=
  let code := c.toNat
  code == 0xA || (0x20 ≤ code && code ≤ 0x7E) || (0xA0 ≤ code && code ≤ 0xD7FF) ||
    (0xE000 ≤ code && code ≤ 0xFFFD && code != 0xFEFF) || 0x10000 ≤ code

/-- White space in front of or behind a sign, which gives it a meaning. -/
def separates (c : Char) : Bool :=
  c == ' ' || c == '\t' || c == '\x00' || isLineBreak c

def startSigns : List Char :=
  ['#', ',', '[', ']', '\x7b', '\x7d', '&', '*', '!', '|', '>', '\'', '"', '%', '@', '\x60']

/-- Whether a sign at the start of a text keeps it from being plain, given what follows it. -/
def isStartSign (c : Char) (rest : List Char) : Bool :=
  startSigns.contains c || ((c == '?' || c == ':' || c == '-') && rest.head?.all separates)

/-- Whether a sign further on in a text keeps it from being plain, given the character before it
and what follows it. -/
def isInnerSign (before c : Char) (rest : List Char) : Bool :=
  (c == ':' && rest.head?.all separates) || (c == '#' && separates before)

/-- Whether some sign behind a character keeps a text from being plain. -/
def hasInnerSign (before : Char) : List Char → Bool
  | [] => false
  | c :: rest => isInnerSign before c rest || hasInnerSign c rest

/-- Whether a text has the form of a document mark at its start. -/
def startsWithMark (text : List Char) : Bool :=
  ['-', '-', '-'].isPrefixOf text || ['.', '.', '.'].isPrefixOf text

/-- Whether some sign keeps a text from being plain. -/
def hasSign (text : List Char) : Bool :=
  match text with
  | [] => false
  | c :: rest => startsWithMark text || isStartSign c rest || hasInnerSign c rest

/-- Whether a text has two adjacent characters that satisfy two tests. -/
def hasPair (first second : Char → Bool) : List Char → Bool
  | c :: d :: rest => (first c && second d) || hasPair first second (d :: rest)
  | _ => false

/-- What the characters of a text allow. -/
structure Possible where
  plain : Bool
  single : Bool
  literal : Bool
  deriving Repr

/-- Finds out what the characters of a text allow. -/
def possibleStyles (text : List Char) : Possible :=
  let isSpace (c : Char) : Bool := c == ' '
  let isEdge (c : Char) : Bool := isSpace c || isLineBreak c
  let isSpecial := text.any (!isPrintable ·) || hasPair isSpace isLineBreak text
  let hasDeepLine := hasPair isLineBreak isSpace text
  let hasEdge := text.head?.any isEdge || text.getLast?.any isEdge
  {
    plain := !isSpecial && !hasDeepLine && !hasEdge && !text.any isLineBreak && !hasSign text
    single := !isSpecial && !hasDeepLine
    literal := !isSpecial && !text.isEmpty && !text.getLast?.any isSpace }

/-- Whether a text would be read back as another scalar when it is written as it is. -/
def isAmbiguous (text : String) : Bool :=
  !Document.Plain.isText text || Document.Plain.hasLeadingZero text.toList

/-- The style that a text is written in; a key on the line of its value is not a block. -/
def styleOf (isKey : Bool) (text : String) : Style :=
  let characters := text.toList
  let possible := possibleStyles characters
  if characters.contains '\n' then
    if possible.literal && !isKey then .literal else .double
  else if isKey && characters.any isLineBreak then .double
  else if possible.plain && !isAmbiguous text then .plain
  else if possible.single then .single
  else .double

end TypedTables.Yaml
