import TypedTables.Pattern.Escape
import TypedTables.Yaml.Cursor

/-!
# Scalars of YAML

A scalar is written plainly, between quotes, or as an indented block.  Lines of a plain or quoted
scalar are folded; those of a block are kept or folded as its header says.
-/

namespace TypedTables.Yaml

open TypedTables.Text

/-- A character that separates the entries of lists and mappings on a line. -/
def isFlowSign (c : Char) : Bool :=
  [',', '[', ']', '\x7b', '\x7d'].contains c

/-- Reads the next word of a plain scalar.  It ends at a colon with white space behind it and,
inside brackets, at their signs; a colon right before such a sign is refused there. -/
def plainWord? (inFlow : Bool) (bound : Nat) (cursor : Cursor) : Option (List Char × Cursor) :=
  match bound, cursor.rest with
  | bound + 1, c :: rest =>
    if endsWord cursor.rest then some ([], cursor)
    else if inFlow && c == ':' && rest.head?.any (fun d => isFlowSign d || d == '?') then none
    else if (c == ':' && endsWord rest) || (inFlow && isFlowSign c) then some ([], cursor)
    else (plainWord? inFlow bound cursor.next).map fun (word, after) => (c :: word, after)
  | _, _ => some ([], cursor)

/-- A scalar that was read, the place behind it, and whether a line ended there. -/
structure Scanned where
  text : List Char
  cursor : Cursor
  endedLine : Bool := false

/-- Reads the rest of a plain scalar, given what was read and the gap behind it. -/
def plainWithin? (inFlow : Bool) (indent : Int) (bound : Nat) (cursor : Cursor)
    (done : List Char) (gap : Gap) : Option Scanned :=
  match bound with
  | 0 => none
  | bound + 1 =>
    if cursor.atDocumentMark || cursor.atComment then some ⟨done, cursor, gap.isLines⟩
    else do
      let (word, after) ← plainWord? inFlow cursor.rest.length cursor
      if word.isEmpty then some ⟨done, after, gap.isLines⟩
      else
        let text := done ++ gap.text ++ word
        let (behind, next) ← takeGap? indent after.rest.length after (.spaces [])
        if next.offset == after.offset then some ⟨text, next, false⟩
        else if !inFlow && (next.column : Int) < indent then some ⟨text, next, behind.isLines⟩
        else plainWithin? inFlow indent bound next text behind

/-- Reads a plain scalar whose further lines stand at a column or behind it. -/
def plain? (inFlow : Bool) (indent : Int) (cursor : Cursor) : Option Scanned :=
  plainWithin? inFlow indent (cursor.rest.length + 1) cursor [] (.spaces [])

/-- The character that an escape of one letter stands for. -/
def escapes : List (Char × Char) := [
  ('0', '\x00'), ('a', '\x07'), ('b', '\x08'), ('t', '\t'), ('\t', '\t'), ('n', '\n'),
  ('v', '\x0b'), ('f', '\x0c'), ('r', '\r'), ('e', '\x1b'), (' ', ' '), ('"', '"'), ('/', '/'),
  ('\\', '\\'), ('N', '\x85'), ('_', '\xa0'), ('L', '\u2028'), ('P', '\u2029')]

/-- The number of digits that an escape of a code point has. -/
def codeWidths : List (Char × Nat) := [('x', 2), ('u', 4), ('U', 8)]

/-- Reads the escape that follows a backslash: its character, and its length without the
backslash. -/
def escape? (text : List Char) : Option (Char × Nat) :=
  match text with
  | [] => none
  | c :: rest =>
    match escapes.lookup c, codeWidths.lookup c with
    | some char, _ => some (char, 1)
    | none, some width => do
      if rest.length < width then none
      else
        let char ← Pattern.charOf? (← hexNumber? (rest.take width))
        return (char, width + 1)
    | none, none => none

/-- Reads what follows an opening quote, up to the closing one, given what was read so far. -/
def quotedWithin? (quote : Char) (bound : Nat) (cursor : Cursor) (done : List Char) :
    Option Scanned :=
  match bound with
  | 0 => none
  | bound + 1 =>
    if cursor.atDocumentMark then none
    else
      match cursor.rest with
      | [] => none
      | c :: rest =>
        if c == quote then
          if quote == '\'' && rest.head? == some '\'' then
            quotedWithin? quote bound (cursor.skip 2) (done ++ ['\''])
          else some { text := done, cursor := cursor.next }
        else if quote == '"' && c == '\\' then
          if rest.head?.any isBreak then do
            let (gap, after) ← takeGap? 0 rest.length cursor.next.next (.lines none [])
            quotedWithin? quote bound after (done ++ gap.text)
          else do
            let (char, length) ← escape? rest
            quotedWithin? quote bound (cursor.skip (length + 1)) (done ++ [char])
        else if isSpacing c || isBreak c then do
          let (gap, after) ← takeGap? 0 cursor.rest.length cursor (.spaces [])
          quotedWithin? quote bound after (done ++ gap.text)
        else quotedWithin? quote bound cursor.next (done ++ [c])

def quoted? (cursor : Cursor) : Option Scanned :=
  match cursor.rest with
  | quote :: rest => quotedWithin? quote (rest.length + 1) cursor.next []
  | [] => none

/-- What happens to the line breaks at the end of a block. -/
inductive Chomp
  | strip
  | clip
  | keep
  deriving Repr, DecidableEq

/-- The header of a block: whether its lines are kept, how its end is treated, and its indentation
where the header gives it. -/
structure BlockHeader where
  literal : Bool
  chomp : Chomp := .clip
  indent : Option Nat := none
  deriving Repr

/-- Reads one sign of a header; each kind of sign may stand once. -/
def headerSign? (header : BlockHeader) (c : Char) : Option BlockHeader :=
  if c == '-' && header.chomp == .clip then some { header with chomp := .strip }
  else if c == '+' && header.chomp == .clip then some { header with chomp := .keep }
  else if isAsciiDigit c && c != '0' && header.indent.isNone then
    some { header with indent := some (digitValue c) }
  else none

/-- Reads the header of a block up to the start of the next line. -/
def header? (cursor : Cursor) : Option (BlockHeader × Cursor) :=
  match cursor.rest with
  | [] => none
  | style :: rest => do
    let signs := rest.takeWhile fun c => !isSpacing c && !isBreak c && c != '#'
    let header ← signs.foldlM headerSign? ⟨style == '|', .clip, none⟩
    let after := (cursor.skip (1 + signs.length)).skipWhile isSpacing
    let ending := if after.atComment then after.skipLine else after
    match ending.rest with
    | [] => some (header, ending)
    | c :: _ => if isBreak c then some (header, ending.next) else none

/-- Takes indentation and empty lines.  Without a given indentation, the deepest one that was met
is returned too. -/
def blockBreaks? (indent : Option Nat) (bound : Nat) (cursor : Cursor) (deepest : Nat)
    (breaks : List Char) : Option (Nat × List Char × Cursor) :=
  match bound with
  | 0 => some (deepest, breaks, cursor)
  | bound + 1 =>
    let spaces := (cursor.rest.takeWhile (· == ' ')).length
    let taken := match indent with
      | some column => min spaces (column - cursor.column)
      | none => spaces
    let after := cursor.skip taken
    let reached := max deepest after.column
    match after.rest with
    | [] => some (reached, breaks, after)
    | c :: _ =>
      if c == '\t' && indent.all (after.column < ·) then none
      else if isBreak c then blockBreaks? indent bound after.next reached (breaks ++ [c])
      else some (reached, breaks, after)

/-- What was read of a block: its text, the break behind its last line, whether that line starts
with white space, and the breaks of the empty lines behind it. -/
structure BlockState where
  text : List Char := []
  lastBreak : List Char := []
  lastIndented : Bool := false
  breaks : List Char := []

/-- Joins the next line of a block to what was read. -/
def BlockState.join (state : BlockState) (literal : Bool) (line : List Char) : List Char :=
  let isIndented := line.head?.any isSpacing
  let folds := !literal && state.lastBreak == ['\n'] && !state.lastIndented && !isIndented
  let joint :=
    if folds then (if state.breaks.isEmpty then [' '] else []) else state.lastBreak
  state.text ++ joint ++ state.breaks ++ line

def blockLines? (literal : Bool) (column : Nat) (bound : Nat) (cursor : Cursor)
    (state : BlockState) : Option (BlockState × Cursor) :=
  match bound with
  | 0 => some (state, cursor)
  | bound + 1 =>
    if cursor.column == column && !cursor.rest.isEmpty then do
      let line := cursor.rest.takeWhile fun c => !isBreak c
      let text := state.join literal line
      let ending := cursor.skipLine
      let lastBreak := ending.rest.take 1
      let (_, breaks, after) ←
        blockBreaks? (some column) ending.rest.length ending.next 0 []
      blockLines? literal column bound after
        ⟨text, lastBreak, line.head?.any isSpacing, breaks⟩
    else some (state, cursor)

/-- Reads a block inside a collection at an indentation. -/
def block? (outer : Int) (cursor : Cursor) : Option Scanned := do
  let (header, start) ← header? cursor
  let given := header.indent.map fun extra => (max outer 0).toNat + extra
  let (deepest, breaks, first) ← blockBreaks? given start.rest.length start 0 []
  let column := given.getD (max (max deepest (outer + 1).toNat) 1)
  let (state, after) ←
    blockLines? header.literal column first.rest.length first { breaks := breaks }
  let ending := match header.chomp with
    | .strip => []
    | .clip => state.lastBreak
    | .keep => state.lastBreak ++ state.breaks
  return { text := state.text ++ ending, cursor := after }

end TypedTables.Yaml
