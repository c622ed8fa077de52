import TypedTables.Template.Operand

/-!
# Pieces of a template

A template's text is cut into raw text and tags.  A backslash in front of a tag keeps it raw, and
of several backslashes the first is dropped.  A tag that is alone on its line, but for spaces and
tabs, is marked, because a block tag takes such a line with it.
-/

namespace TypedTables.Template

/-- What a tag says. -/
inductive Tag
  | insert (operand : Operand)
  | reference
  | comment
  | start (head : Head)
  /-- What comes when the block before it does not apply, as a block of its own if it has a head. -/
  | otherwise (head : Option Head)
  | finish (name : String)
  | verbatim (head : Head) (body : String)
  deriving Repr

/-- A tag with what it asks of the text around it. -/
structure PlacedTag where
  tag : Tag
  /-- Whether the white space before the tag is dropped. -/
  trimsBefore : Bool := false
  /-- Whether the white space behind the tag is dropped; none where the tag says nothing. -/
  trimsBehind : Option Bool := none
  /-- Whether the tag is alone on its line. -/
  isAlone : Bool := false
  deriving Repr

/-- A piece of a template. -/
inductive Piece
  | raw (text : List Char)
  | tag (placed : PlacedTag)
  deriving Repr

def opening : List Char := ['\x7b', '\x7b']

def closing : List Char := ['\x7d', '\x7d']

/-- The text behind what it is expected to start with. -/
def dropMark? (mark text : List Char) : Option (List Char) :=
  if mark.isPrefixOf text then some (text.drop mark.length) else none

/-- The text before the first occurrence of a mark, and the text behind it. -/
def cutAt? (mark : List Char) : List Char → Option (List Char × List Char)
  | [] => none
  | c :: rest =>
    match dropMark? mark (c :: rest) with
    | some behind => some ([], behind)
    | none => (cutAt? mark rest).map fun (before, behind) => (c :: before, behind)

/-- Reads raw text up to the next tag, and gives the rest from the tag on. -/
def readRaw : List Char → List Char × List Char
  | [] => ([], [])
  | '\x7b' :: '\x7b' :: rest => ([], '\x7b' :: '\x7b' :: rest)
  | '\\' :: '\x7b' :: '\x7b' :: '\x7b' :: '\x7b' :: rest =>
    let (text, after) := readRaw rest
    (opening ++ opening ++ text, after)
  | '\\' :: '\x7b' :: '\x7b' :: rest =>
    let (text, after) := readRaw rest
    (opening ++ text, after)
  | '\\' :: '\\' :: rest =>
    let run := rest.takeWhile (· == '\\')
    let behind := rest.dropWhile (· == '\\')
    if opening.isPrefixOf behind then ('\\' :: run, behind)
    else
      let (text, after) := readRaw rest
      ('\\' :: '\\' :: text, after)
  | c :: rest =>
    let (text, after) := readRaw rest
    (c :: text, after)

def readTilde (text : List Char) : Bool × List Char :=
  match skipGap text with
  | '~' :: rest => (true, rest)
  | rest => (false, rest)

/-- Reads the end of a tag: a tilde or none, and the closing braces. -/
def readEnd? (text : List Char) : Option (Bool × List Char) := do
  let (trims, rest) := readTilde text
  let behind ← dropMark? closing (skipGap rest)
  some (trims, behind)

/-- Reads a comment behind the opening braces and the exclamation mark. -/
def readComment? (text : List Char) : Option (List Char) :=
  let long := do
    let body ← dropMark? ['-', '-'] text
    let (_, behind) ← cutAt? ("--".toList ++ closing) body
    some behind
  long <|> (cutAt? closing text).map (·.2)

/-- Reads what a tag says behind its opening braces and tilde. -/
def readTag? (text : List Char) : Option (Tag × List Char) :=
  match text with
  | '#' :: rest => (readHead? rest).map fun (head, behind) => (.start head, behind)
  | '/' :: rest => (readName? (skipGap rest)).map fun (name, behind) => (.finish name, behind)
  | '>' :: rest =>
    match readHead? rest with
    | some (_, behind) => some (.reference, behind)
    | none => none
  | '^' :: rest => some (readOtherwise rest)
  | '&' :: rest =>
    (readPlace? (skipGap rest)).map fun (place, behind) => (.insert (.place place), behind)
  | '\x7b' :: rest => do
    let (operand, behind) ← readExpression? (skipGap rest)
    match skipGap behind with
    | '\x7d' :: after => some (.insert operand, after)
    | _ => none
  | _ =>
    match readName? text with
    | some ("else", rest) => some (readOtherwise rest)
    | _ => (readExpression? text).map fun (operand, behind) => (.insert operand, behind)
where
  /-- Reads what follows the word or the sign for the other case. -/
  readOtherwise (rest : List Char) : Tag × List Char :=
    match readHead? rest with
    | some (head, behind) => (.otherwise (some head), behind)
    | none => (.otherwise none, rest)

/-- Reads a tag in doubled double braces, its text, and the tag that ends it. -/
def readVerbatim? (text : List Char) : Option (PlacedTag × List Char) := do
  let (trimsBefore, rest) := readTilde text
  let (head, rest) ← readHead? rest
  let (_, rest) ← readEnd? rest
  let rest ← dropMark? closing rest
  let (body, rest) ← cutAt? (opening ++ opening) rest
  let (_, rest) := readTilde rest
  let rest ← dropMark? ['/'] (skipGap rest)
  let (name, rest) ← readName? (skipGap rest)
  let (trimsBehind, rest) ← readEnd? rest
  let rest ← dropMark? closing rest
  if name == head.name then
    some (⟨.verbatim head (String.ofList body), trimsBefore, some trimsBehind, false⟩, rest)
  else none

def readPlacedTag? (text : List Char) : Option (PlacedTag × List Char) := do
  let behind ← dropMark? opening text
  match dropMark? opening behind with
  | some inner => readVerbatim? inner
  | none =>
    match behind with
    | '!' :: comment => (readComment? comment).map fun rest => ({ tag := .comment }, rest)
    | _ =>
      let (trimsBefore, rest) := readTilde behind
      let (tag, rest) ← readTag? (skipGap rest)
      let (trimsBehind, rest) ← readEnd? rest
      some ({ tag, trimsBefore, trimsBehind := some trimsBehind }, rest)

def isPadding (c : Char) : Bool :=
  c == ' ' || c == '\t'

def isLineEnd (c : Char) : Bool :=
  c == '\n' || c == '\r'

/-- Whether a tag is alone on its line, given the text before it in reverse and the text behind
it. -/
def isAloneBetween (before behind : List Char) : Bool :=
  (before.dropWhile isPadding).head?.all isLineEnd &&
    (behind.dropWhile isPadding).head?.any isLineEnd

/-- Cuts a text into pieces, given the text before it in reverse.  Every tag takes a character, so
the length of the text bounds their number. -/
def piecesWithin : (bound : Nat) → (before : List Char) → List Char → Option (List Piece)
  | 0, _, text => if text.isEmpty then some [] else none
  | bound + 1, before, text =>
    match readRaw text with
    | (raw, []) => some (if raw.isEmpty then [] else [.raw raw])
    | (raw, tagged) => do
      let reached := (text.take (text.length - tagged.length)).reverse ++ before
      let (placed, rest) ← readPlacedTag? tagged
      let passed := (tagged.take (tagged.length - rest.length)).reverse ++ reached
      let others ← piecesWithin bound passed rest
      let tag := Piece.tag { placed with isAlone := isAloneBetween reached rest }
      some (if raw.isEmpty then tag :: others else .raw raw :: tag :: others)

def pieces? (text : String) : Option (List Piece) :=
  piecesWithin (text.length + 1) [] text.toList

end TypedTables.Template
