import TypedTables.Pattern.CharSet

/-!
# Patterns as trees

The tree of a pattern, with the flags that were in force already worked into its leaves.
-/

namespace TypedTables.Pattern

/-- A condition on a position between characters. -/
inductive Assertion
  | textStart
  | textEnd
  | lineStart
  | lineEnd
  /-- The start of a line where a carriage return ends lines too. -/
  | brokenLineStart
  | brokenLineEnd
  | wordBoundary
  | notWordBoundary
  | wordStart
  | wordEnd
  | halfWordStart
  | halfWordEnd
  deriving Repr, DecidableEq

/-- A pattern. -/
inductive Expression
  | empty
  | char (set : CharSet)
  | assert (assertion : Assertion)
  | sequence (first second : Expression)
  /-- The first pattern where it leads to a match, else the second. -/
  | choice (first second : Expression)
  /-- Repetition from `least` times up to `most` times, or without end; as often as possible when
  greedy, else as seldom. -/
  | repetition (body : Expression) (least : Nat) (most : Option Nat) (greedy : Bool)
  | group (number : Nat) (body : Expression)
  deriving Repr, DecidableEq

namespace Expression

def sequenceOf : List Expression → Expression
  | [] => empty
  | [only] => only
  | first :: rest => sequence first (sequenceOf rest)

/-- The patterns as alternatives, the earlier ones preferred. -/
def choiceOf : List Expression → Expression
  | [] => empty
  | [only] => only
  | first :: rest => choice first (choiceOf rest)

end Expression

namespace Assertion

/-- The assertion of the start anchor: of every line or of the text. -/
def start (multiLine returnEndsLine : Bool) : Assertion :=
  if !multiLine then textStart else if returnEndsLine then brokenLineStart else lineStart

/-- The assertion of the end anchor: of every line or of the text. -/
def finish (multiLine returnEndsLine : Bool) : Assertion :=
  if !multiLine then textEnd else if returnEndsLine then brokenLineEnd else lineEnd

/-- Whether an assertion holds between the characters before and after a position. -/
def holds (before after : Option Char) (assertion : Assertion) : Bool :=
  let isWord (c : Option Char) : Bool := c.any Text.isWordChar
  match assertion with
  | textStart => before.isNone
  | textEnd => after.isNone
  | lineStart => before.isNone || before == some '\n'
  | lineEnd => after.isNone || after == some '\n'
  | brokenLineStart =>
    before.isNone || before == some '\n' || (before == some '\r' && after != some '\n')
  | brokenLineEnd =>
    after.isNone || after == some '\r' || (after == some '\n' && before != some '\r')
  | wordBoundary => isWord before != isWord after
  | notWordBoundary => isWord before == isWord after
  | wordStart => !isWord before && isWord after
  | wordEnd => isWord before && !isWord after
  | halfWordStart => !isWord before
  | halfWordEnd => !isWord after

end Assertion

end TypedTables.Pattern
