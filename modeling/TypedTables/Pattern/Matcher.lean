import TypedTables.Failure
import TypedTables.Pattern.Search

/-!
# Matchers

A matcher is a pattern made ready for searching.  Letter case is ignored unless the pattern says
otherwise.  A value pattern takes from a text what its group `result` matches.
-/

namespace TypedTables.Pattern

/-- A pattern made ready for searching. -/
structure Matcher where
  program : Array Instruction
  groups : List (String × Nat)
  deriving Repr

namespace Matcher

/-- The greatest number of instructions of a matcher. -/
def sizeLimit : Nat := 200000

/-- Makes a pattern ready, unless it is malformed or too large. -/
def ofText? (pattern : String) : Option Matcher := do
  let (expression, groups) ← read? pattern
  if sizeLimit < expression.size then none
  else return ⟨(expression.code 0).toArray, groups⟩

def ofText (pattern : String) : Outcome Matcher :=
  match ofText? pattern with
  | some matcher => .ok matcher
  | none => .error (.invalidPattern pattern)

def isMatch (matcher : Matcher) (text : String) : Bool :=
  (search matcher.program text).isSome

/-- What a named group matches in the first match of a text, if it takes part in it. -/
def groupText? (matcher : Matcher) (name text : String) : Option String := do
  let number ← matcher.groups.lookup name
  let marks ← search matcher.program text
  let first ← marks.lookup (2 * number)
  let last ← marks.lookup (2 * number + 1)
  return String.ofList ((text.toList.take last).drop first)

/-- What a named group matches in the first match of a text; empty where it matches nothing. -/
def groupText (matcher : Matcher) (name text : String) : String :=
  (matcher.groupText? name text).getD ""

end Matcher

/-- The group of a value pattern that matches the value. -/
def resultGroup : String := "result"

/-- Takes a value from a text by a value pattern; without a pattern it is the text. -/
def extract (pattern : Option String) (text : String) : Outcome String :=
  match pattern with
  | none => .ok text
  | some written =>
    if written.isEmpty then .ok text
    else do
      let matcher ← Matcher.ofText written
      return matcher.groupText resultGroup text

end TypedTables.Pattern
