/-!
# Places in a YAML text

Reading needs the line and the column of a place, since indentation carries structure.  Line breaks
are made uniform before reading; the separators of lines and paragraphs break lines too and are
kept as they are.
-/

namespace TypedTables.Yaml

/-- A place in a text: what follows it, its line, its column, and its distance from the start. -/
structure Cursor where
  rest : List Char
  line : Nat := 0
  column : Nat := 0
  offset : Nat := 0
  deriving Repr

def isAllowed (c : Char) : Bool :=
  let code := c.toNat
  code == 0x9 || code == 0xA || code == 0xD || (0x20 ≤ code && code ≤ 0x7E) || code == 0x85 ||
    (0xA0 ≤ code && code ≤ 0xD7FF) || (0xE000 ≤ code && code ≤ 0xFFFD && code != 0xFEFF) ||
    0x10000 ≤ code

/-- The text with each kind of line end written as a line feed. -/
def unifyBreaks : List Char → List Char
  | [] => []
  | '\r' :: '\n' :: rest => '\n' :: unifyBreaks rest
  | c :: rest => (if c == '\r' || c == '\x85' then '\n' else c) :: unifyBreaks rest

def isBreak (c : Char) : Bool :=
  c == '\n' || c == '\u2028' || c == '\u2029'

def isSpacing (c : Char) : Bool :=
  c == ' ' || c == '\t'

/-- Whether a place is at the end of a text, of a line, or at a space. -/
def endsWord (text : List Char) : Bool :=
  match text with
  | [] => true
  | c :: _ => isSpacing c || isBreak c

namespace Cursor

def next (cursor : Cursor) : Cursor :=
  match cursor.rest with
  | [] => cursor
  | c :: rest =>
    if isBreak c then ⟨rest, cursor.line + 1, 0, cursor.offset + 1⟩
    else ⟨rest, cursor.line, cursor.column + 1, cursor.offset + 1⟩

/-- The place behind some characters of the same line. -/
def skip (cursor : Cursor) (count : Nat) : Cursor :=
  ⟨cursor.rest.drop count, cursor.line, cursor.column + count, cursor.offset + count⟩

/-- The place behind the characters of this line that satisfy a test. -/
def skipWhile (cursor : Cursor) (test : Char → Bool) : Cursor :=
  cursor.skip (cursor.rest.takeWhile fun c => test c && !isBreak c).length

def skipLine (cursor : Cursor) : Cursor :=
  cursor.skipWhile fun _ => true

def atComment (cursor : Cursor) : Bool :=
  cursor.rest.head? == some '#'

/-- Whether a mark between documents starts here. -/
def atMark (cursor : Cursor) (sign : Char) : Bool :=
  cursor.column == 0 && [sign, sign, sign].isPrefixOf cursor.rest &&
    endsWord (cursor.rest.drop 3)

/-- Whether any mark between documents starts here. -/
def atDocumentMark (cursor : Cursor) : Bool :=
  cursor.atMark '-' || cursor.atMark '.'

end Cursor

/-- The white space between two words of a scalar. -/
inductive Gap
  | spaces (text : List Char)
  /-- Line breaks: the first one, unless it is escaped, and those of the empty lines behind it. -/
  | lines (first : Option Char) (others : List Char)
  deriving Repr

namespace Gap

def isLines : Gap → Bool
  | spaces _ => false
  | lines _ _ => true

/-- The gap with one more character of white space. -/
def add (c : Char) : Gap → Gap
  | spaces text => if isBreak c then lines (some c) [] else spaces (text ++ [c])
  | lines first others => if isBreak c then lines first (others ++ [c]) else lines first others

/-- What a gap stands for: a single line feed is folded into a space, empty lines are kept. -/
def text : Gap → List Char
  | spaces text => text
  | lines (some '\n') [] => [' ']
  | lines (some '\n') others => others
  | lines first others => first.toList ++ others

end Gap

/-- Takes white space, up to the next visible character.  A tab in front of a given column of a
further line is refused. -/
def takeGap? (limit : Int) (bound : Nat) (cursor : Cursor) (gap : Gap) : Option (Gap × Cursor) :=
  match bound, cursor.rest with
  | bound + 1, c :: _ =>
    if isSpacing c || isBreak c then
      if gap.isLines && c == '\t' && (cursor.column : Int) < limit then none
      else takeGap? limit bound cursor.next (gap.add c)
    else some (gap, cursor)
  | _, _ => some (gap, cursor)

end TypedTables.Yaml
