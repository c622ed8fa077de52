import TypedTables.Pattern.Escape

/-!
# Flags of patterns

Flags change the meaning of what follows them in a pattern.  They are set in front of a group's
body, or up to the end of the group that they stand in.
-/

namespace TypedTables.Pattern

open TypedTables.Text

/-- The flags in force at a place of a pattern. -/
structure Flags where
  ignoreCase : Bool := true
  multiLine : Bool := false
  dotAll : Bool := false
  /-- Plain repetitions are lazy and marked ones greedy. -/
  swapGreed : Bool := false
  /-- Classes hold characters beyond ASCII. -/
  unicode : Bool := true
  returnEndsLine : Bool := false
  /-- White space and comments in the pattern stand for nothing. -/
  ignoreSpace : Bool := false
  deriving Repr, DecidableEq

namespace Flags

/-- The flags with the one of a letter changed. -/
def change? (flags : Flags) (letter : Char) (on : Bool) : Option Flags :=
  match letter with
  | 'i' => some { flags with ignoreCase := on }
  | 'm' => some { flags with multiLine := on }
  | 's' => some { flags with dotAll := on }
  | 'U' => some { flags with swapGreed := on }
  | 'u' => some { flags with unicode := on }
  | 'R' => some { flags with returnEndsLine := on }
  | 'x' => some { flags with ignoreSpace := on }
  | _ => none

end Flags

/-- What a list of flags ends in. -/
inductive FlagsEnd
  /-- The flags hold up to the end of the group around them. -/
  | group
  /-- The flags hold for a body of their own. -/
  | body
  deriving Repr, DecidableEq

/-- Reads flags up to the closing parenthesis or the colon behind them, given the letters so far.
A letter or the minus may stand only once, the minus not at the end, and a list that has no body
of its own must not be empty. -/
def readFlags? (flags : Flags) (seen : List Char) :
    List Char → Option (Flags × FlagsEnd × List Char)
  | [] => none
  | ')' :: rest =>
    if seen.isEmpty || seen.head? == some '-' then none else some (flags, .group, rest)
  | ':' :: rest => if seen.head? == some '-' then none else some (flags, .body, rest)
  | c :: rest =>
    if seen.contains c then none
    else if c == '-' then readFlags? flags (c :: seen) rest
    else
      match flags.change? c (!seen.contains '-') with
      | some changed => readFlags? changed (c :: seen) rest
      | none => none

/-- The text without the white space and comments at its front; a comment runs from a number sign
to the end of the line. -/
def dropComments (inComment : Bool) : List Char → List Char
  | [] => []
  | c :: rest =>
    if inComment then dropComments (c != '\n') rest
    else if isBlank c then dropComments false rest
    else if c == '#' then dropComments true rest
    else c :: rest

/-- The text without what the flags let stand for nothing at its front. -/
def Flags.dropSpace (flags : Flags) (text : List Char) : List Char :=
  if flags.ignoreSpace then dropComments false text else text

namespace CharSet

def ascii : CharSet := range '\x00' '\x7f'

/-- A set of characters as it stands in a pattern under flags. -/
def under (flags : Flags) (set : CharSet) : CharSet :=
  if !flags.ignoreCase then set
  else if flags.unicode then ignoreCase set
  else union set (intersection (ignoreCase (intersection set ascii)) ascii)

/-- The set of a named class under flags; a complement beyond ASCII is refused where only ASCII is
wanted. -/
def ofClass? (flags : Flags) (content : NamedClass) (negate : Bool) : Option CharSet :=
  if flags.unicode then
    match content with
    | .property _ => some ((CharSet.named content |>.under flags).negated negate)
    | _ => some ((CharSet.named content).negated negate)
  else if negate then none
  else
    match content with
    | .digit => some (.named (.ascii "digit"))
    | .space => some (.named (.ascii "space"))
    | .word => some (.named (.ascii "word"))
    | .ascii name => some (.named (.ascii name))
    | .property _ => none

def dot? (flags : Flags) : Option CharSet :=
  if !flags.unicode then none
  else if flags.dotAll then some all
  else if flags.returnEndsLine then some (complement (union (single '\n') (single '\r')))
  else some notLineFeed

end CharSet

end TypedTables.Pattern
