import TypedTables.Yaml.Scalar

/-!
# Tokens of YAML

Indentation opens and closes lists and mappings: a token stands for each opening and closing.  The
key of a mapping is only known to be one at the colon behind it, so its mark is put in front of it
afterwards.
-/

namespace TypedTables.Yaml

open TypedTables.Text

/-- A token. -/
inductive Token
  /-- A directive, which may declare a handle of tags. -/
  | directive (handle : Option String)
  | documentStart
  | documentEnd
  | blockList
  | blockMapping
  | blockEnd
  | openList
  | closeList
  | openMapping
  | closeMapping
  | item
  | comma
  | key
  | value
  | reference (name : String)
  | anchor (name : String)
  | tag (handle suffix : String)
  | scalar (isPlain : Bool) (text : String)
  deriving Repr, DecidableEq

/-- A place where the key of a mapping may start. -/
structure KeyPlace where
  position : Nat
  line : Nat
  column : Nat
  offset : Nat
  required : Bool
  deriving Repr

/-- State of cutting a text into tokens. -/
structure Scan where
  cursor : Cursor
  tokens : List Token := []
  /-- The place where a key may have started, at this level of brackets. -/
  candidate : Option KeyPlace := none
  outer : List (Option KeyPlace) := []
  /-- The column of the innermost open block. -/
  indent : Int := -1
  indents : List Int := []
  /-- Whether a key may start at the next token. -/
  keyAllowed : Bool := true
  deriving Repr

namespace Scan

def inFlow (scan : Scan) : Bool :=
  !scan.outer.isEmpty

def add (scan : Scan) (token : Token) : Scan :=
  { scan with tokens := scan.tokens ++ [token] }

def goTo (scan : Scan) (cursor : Cursor) : Scan :=
  { scan with cursor }

/-- The scan behind the next character, with a token for it. -/
def addSign (scan : Scan) (token : Token) : Scan :=
  (scan.add token).goTo scan.cursor.next

/-- Takes white space, comments and line ends in front of the next token.  A tab counts as white
space where no indentation is read. -/
def skipBetween (scan : Scan) : (bound : Nat) → Scan
  | 0 => scan
  | bound + 1 =>
    let isSkipped (c : Char) : Bool := c == ' ' || (c == '\t' && (scan.inFlow || !scan.keyAllowed))
    let spaced := scan.cursor.skipWhile isSkipped
    let after := if spaced.atComment then spaced.skipLine else spaced
    match after.rest with
    | [] => scan.goTo after
    | c :: _ =>
      if isBreak c then
        let keyAllowed := scan.keyAllowed || !scan.inFlow
        skipBetween { scan.goTo after.next with keyAllowed } bound
      else scan.goTo after

/-- The longest distance between the start of a key and its colon. -/
def keyLength : Nat := 1024

/-- Drops the places of keys that a colon can no longer follow: those on another line and those too
far behind.  A required key must not be dropped. -/
def dropStale? (scan : Scan) : Option Scan := do
  let refresh (place : Option KeyPlace) : Option (Option KeyPlace) :=
    match place with
    | none => some none
    | some key =>
      if key.line < scan.cursor.line || key.offset + keyLength < scan.cursor.offset then
        if key.required then none else some none
      else some place
  return { scan with candidate := ← refresh scan.candidate, outer := ← scan.outer.mapM refresh }

/-- Drops the place of a key at this level; a required key must not be dropped. -/
def dropKey? (scan : Scan) : Option Scan :=
  if scan.candidate.any (·.required) then none else some { scan with candidate := none }

def noteKey? (scan : Scan) : Option Scan :=
  if scan.keyAllowed then do
    let cleared ← scan.dropKey?
    let required := !scan.inFlow && scan.indent == scan.cursor.column
    return { cleared with
      candidate := some ⟨scan.tokens.length, scan.cursor.line, scan.cursor.column,
        scan.cursor.offset, required⟩ }
  else some scan

/-- Closes every block that is indented deeper than a column. -/
def closeBlocks (scan : Scan) (column : Int) : Scan :=
  if scan.inFlow then scan
  else
    let closed := ((scan.indent :: scan.indents).takeWhile (column < ·)).length
    match (scan.indent :: scan.indents).drop closed with
    | indent :: indents =>
      { scan with
        tokens := scan.tokens ++ List.replicate closed .blockEnd
        indent, indents }
    | [] => scan

/-- Opens a block at a column if it is indented deeper than the one around it; its token goes in
front of a position. -/
def openBlock (scan : Scan) (column : Nat) (token : Token) (position : Nat) : Scan :=
  if scan.inFlow || (column : Int) ≤ scan.indent then scan
  else
    { scan with
      tokens := scan.tokens.take position ++ token :: scan.tokens.drop position
      indent := column, indents := scan.indent :: scan.indents }

/-- Reads a mark between documents or a directive: blocks end in front of it. -/
def breakDocument? (scan : Scan) : Option Scan := do
  let cleared ← (scan.closeBlocks (-1)).dropKey?
  return { cleared with keyAllowed := false }

def openBracket? (scan : Scan) (token : Token) : Option Scan := do
  let noted ← scan.noteKey?
  return { noted.addSign token with
    candidate := none, outer := noted.candidate :: noted.outer, keyAllowed := true }

def closeBracket? (scan : Scan) (token : Token) : Option Scan := do
  let cleared ← scan.dropKey?
  let closed := { cleared.addSign token with keyAllowed := false }
  match closed.outer with
  | [] => some closed
  | candidate :: outer => some { closed with candidate, outer }

def item? (scan : Scan) : Option Scan := do
  if !scan.inFlow && !scan.keyAllowed then none
  else
    let opened := scan.openBlock scan.cursor.column .blockList scan.tokens.length
    let cleared ← opened.dropKey?
    return { cleared.addSign .item with keyAllowed := true }

def markedKey? (scan : Scan) : Option Scan := do
  if !scan.inFlow && !scan.keyAllowed then none
  else
    let opened := scan.openBlock scan.cursor.column .blockMapping scan.tokens.length
    let cleared ← opened.dropKey?
    return { cleared.addSign .key with keyAllowed := !scan.inFlow }

/-- Reads the colon between a key and its value. -/
def value? (scan : Scan) : Option Scan :=
  match scan.candidate with
  | some key =>
    let marked := { scan with
      tokens := scan.tokens.take key.position ++ Token.key :: scan.tokens.drop key.position }
    let opened := marked.openBlock key.column .blockMapping key.position
    some { opened.addSign .value with candidate := none, keyAllowed := false }
  | none =>
    if !scan.inFlow && !scan.keyAllowed then none
    else
      let opened := scan.openBlock scan.cursor.column .blockMapping scan.tokens.length
      some { opened.addSign .value with keyAllowed := !scan.inFlow }

def isNameChar (c : Char) : Bool :=
  isAsciiLetter c || isAsciiDigit c || c == '_' || c == '-'

/-- Reads the name of an anchor or of a reference to one. -/
def anchor? (scan : Scan) (token : String → Token) : Option Scan := do
  let noted ← scan.noteKey?
  let name := (noted.cursor.rest.drop 1).takeWhile isNameChar
  let after := noted.cursor.skip (name.length + 1)
  let ends := endsWord after.rest ||
    after.rest.head?.any (['?', ':', ',', ']', '\x7d', '%', '@', '\x60'].contains ·)
  if name.isEmpty || !ends then none
  else return { (noted.add (token (String.ofList name))).goTo after with keyAllowed := false }

def isTagChar (c : Char) : Bool :=
  isNameChar c || ";/?:@&=+$.!~*'()%".toList.contains c

def tagParts (text : List Char) : List Char × List Char :=
  let word := (text.drop 1).takeWhile isNameChar
  match (text.drop 1).drop word.length with
  | '!' :: rest => ('!' :: word ++ ['!'], rest)
  | _ => (['!'], text.drop 1)

def tag? (scan : Scan) : Option Scan := do
  let noted ← scan.noteKey?
  let text := noted.cursor.rest
  let (token, after) ← match text with
    | '!' :: '<' :: inner => do
      let suffix := inner.takeWhile (· != '>')
      if suffix.isEmpty || (inner.drop suffix.length).isEmpty then none
      else pure (Token.tag "" (String.ofList suffix), noted.cursor.skip (suffix.length + 3))
    | _ => do
      let (handle, rest) := tagParts text
      let suffix := rest.takeWhile isTagChar
      if suffix.isEmpty && handle.length > 1 then none
      else pure (Token.tag (String.ofList handle) (String.ofList suffix),
        noted.cursor.skip (text.length - rest.length + suffix.length))
  if endsWord after.rest || (scan.inFlow && after.rest.head? == some ',') then
    return { (noted.add token).goTo after with keyAllowed := false }
  else none

def scalar? (scan : Scan) (isPlain : Bool) (read : Cursor → Option Scanned) : Option Scan := do
  let noted ← scan.noteKey?
  let scanned ← read noted.cursor
  return { (noted.add (.scalar isPlain (String.ofList scanned.text))).goTo scanned.cursor with
    keyAllowed := scanned.endedLine }

def blockScalar? (scan : Scan) : Option Scan := do
  let cleared ← scan.dropKey?
  let scanned ← block? cleared.indent cleared.cursor
  return { (cleared.add (.scalar false (String.ofList scanned.text))).goTo scanned.cursor with
    keyAllowed := true }

/-- Reads a directive: the version of the language, or a handle of tags. -/
def directive? (scan : Scan) : Option Scan := do
  let cleared ← scan.breakDocument?
  let line := cleared.cursor.rest.takeWhile fun c => !isBreak c
  let words := (piecesBy isSpacing (line.drop 1)).filter fun word => !word.isEmpty
  let written := words.takeWhile fun word => word.head? != some '#'
  let token ← match written.map String.ofList with
    | ["YAML", version] =>
      if version == "1.1" || version == "1.2" then some (Token.directive none) else none
    | ["TAG", handle, _] =>
      if handle.startsWith "!" && handle.endsWith "!" then some (.directive (some handle)) else none
    | _ => none
  return (cleared.add token).goTo cleared.cursor.skipLine

/-- A character that no plain scalar starts with. -/
def isIndicator (c : Char) : Bool :=
  "-?:,[]\x7b\x7d#&*!|>'\"%@\x60".toList.contains c

def startsPlain (scan : Scan) (c : Char) (rest : List Char) : Bool :=
  !isIndicator c || (c == '-' && !rest.head?.any isSpacing) ||
    (!scan.inFlow && (c == '?' || c == ':') && !endsWord rest)

/-- Reads the next token, which starts with a character. -/
def token? (scan : Scan) (c : Char) (rest : List Char) : Option Scan :=
  if scan.cursor.column == 0 && c == '%' then scan.directive?
  else if scan.cursor.atMark '-' then
    scan.breakDocument?.map fun cleared =>
      (cleared.add .documentStart).goTo (cleared.cursor.skip 3)
  else if scan.cursor.atMark '.' then
    scan.breakDocument?.map fun cleared => (cleared.add .documentEnd).goTo (cleared.cursor.skip 3)
  else if c == '[' then scan.openBracket? .openList
  else if c == '\x7b' then scan.openBracket? .openMapping
  else if c == ']' then scan.closeBracket? .closeList
  else if c == '\x7d' then scan.closeBracket? .closeMapping
  else if c == ',' then
    scan.dropKey?.map fun cleared => { cleared.addSign .comma with keyAllowed := true }
  else if c == '-' && endsWord rest then scan.item?
  else if c == '?' && (scan.inFlow || endsWord rest) then scan.markedKey?
  else if c == ':' && (scan.inFlow || endsWord rest) then scan.value?
  else if c == '*' then scan.anchor? .reference
  else if c == '&' then scan.anchor? .anchor
  else if c == '!' then scan.tag?
  else if (c == '|' || c == '>') && !scan.inFlow then scan.blockScalar?
  else if c == '\'' || c == '"' then scan.scalar? false quoted?
  else if scan.startsPlain c rest then scan.scalar? true (plain? scan.inFlow (scan.indent + 1))
  else none

/-- Reads tokens to the end of the text; every token takes at least one character, so the length
of the text bounds their number. -/
def run? (scan : Scan) (bound : Nat) : Option (List Token) := do
  let reached ← (scan.skipBetween scan.cursor.rest.length.succ).dropStale?
  let closed := reached.closeBlocks reached.cursor.column
  match closed.cursor.rest, bound with
  | [], _ => do
    let finished ← (closed.closeBlocks (-1)).dropKey?
    return finished.tokens
  | c :: rest, bound + 1 => do run? (← closed.token? c rest) bound
  | _ :: _, 0 => none

end Scan

def tokens? (text : String) : Option (List Token) :=
  let chars := match text.toList with
    | '\uFEFF' :: rest => rest
    | all => all
  if chars.all isAllowed then
    let unified := unifyBreaks chars
    ({ cursor := { rest := unified } } : Scan).run? unified.length
  else none

end TypedTables.Yaml
