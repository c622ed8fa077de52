import TypedTables.Pattern.Flags

/-!
# Bracketed classes

A class between brackets is a union of characters, ranges, named classes and classes nested in it.
The operators `&&`, `--` and `~~` combine the union before them with the one behind them, from
left to right.
-/

namespace TypedTables.Pattern

open TypedTables.Text

/-- An operator between two unions of a class. -/
inductive SetOperator
  | intersection
  | difference
  | symmetricDifference
  deriving Repr, DecidableEq

namespace SetOperator

/-- The operator that a character forms with itself. -/
def ofChar? : Char → Option SetOperator
  | '&' => some intersection
  | '-' => some difference
  | '~' => some symmetricDifference
  | _ => none

def combine : SetOperator → CharSet → CharSet → CharSet
  | intersection, left, right => .intersection left right
  | difference, left, right => .difference left right
  | symmetricDifference, left, right => .symmetricDifference left right

end SetOperator

/-- A class that is being read: whether it is a complement, the operand and operator before the
union being read, and that union. -/
structure Bracket where
  negate : Bool
  pending : Option (CharSet × SetOperator)
  union : CharSet
  deriving Repr

namespace Bracket

/-- The class with a set added to the union being read. -/
def add (bracket : Bracket) (set : CharSet) : Bracket :=
  { bracket with union := .union bracket.union set }

def combined (bracket : Bracket) : CharSet :=
  match bracket.pending with
  | some (left, operator) => operator.combine left bracket.union
  | none => bracket.union

def operate (bracket : Bracket) (operator : SetOperator) : Bracket :=
  { bracket with pending := some (bracket.combined, operator), union := .empty }

def set (bracket : Bracket) : CharSet :=
  bracket.combined.negated bracket.negate

end Bracket

def leadingHyphens (flags : Flags) (bracket : Bracket) (bound : Nat) (text : List Char) :
    Bracket × List Char :=
  match bound, text with
  | bound + 1, '-' :: rest =>
    leadingHyphens flags (bracket.add (.single '-')) bound (flags.dropSpace rest)
  | _, _ => (bracket, text)

/-- Reads what follows an opening bracket: a caret for the complement, hyphens that stand for
themselves, and a closing bracket that stands for itself where nothing is in front of it. -/
def openBracket? (flags : Flags) (text : List Char) : Option (Bracket × List Char) :=
  let (negate, inner) := match flags.dropSpace text with
    | '^' :: rest => (true, flags.dropSpace rest)
    | rest => (false, rest)
  if negate && !flags.unicode then none
  else
    let start : Bracket := ⟨negate, none, .empty⟩
    match inner with
    | ']' :: rest => some (start.add (.single ']'), flags.dropSpace rest)
    | _ => some (leadingHyphens flags start inner.length inner)

/-- Reads the name of a class of ASCII characters between colons and a closing bracket, given what
follows the opening bracket. -/
def readAsciiClass? (text : List Char) : Option (CharSet × List Char) :=
  match text with
  | ':' :: inner =>
    let (negate, name) := match inner with
      | '^' :: rest => (true, rest)
      | _ => (false, inner)
    let word := String.ofList (name.takeWhile (· != ':'))
    match name.dropWhile (· != ':') with
    | ':' :: ']' :: rest =>
      if (asciiClasses.lookup word).isSome then
        some ((CharSet.named (.ascii word)).negated negate, rest)
      else none
    | _ => none
  | _ => none

def readMember? (text : List Char) : Option (Escape × List Char) :=
  match text with
  | [] => none
  | '\\' :: rest => readEscape? rest
  | c :: rest => some (.literal c, rest)

/-- The set that a single member of a class stands for. -/
def memberSet? (flags : Flags) : Escape → Option CharSet
  | .literal c => if flags.unicode || c.toNat < 0x80 then some (.under flags (.single c)) else none
  | .named content negate => CharSet.ofClass? flags content negate
  | .assertion _ => none

def rangeSet? (flags : Flags) : Escape → Escape → Option CharSet
  | .literal low, .literal high =>
    if low ≤ high && (flags.unicode || high.toNat < 0x80) then
      some (.under flags (.range low high))
    else none
  | _, _ => none

/-- Reads a member of a class, or a range between two of them. -/
def readRange? (flags : Flags) (text : List Char) : Option (CharSet × List Char) := do
  let (low, afterLow) ← readMember? text
  match flags.dropSpace afterLow with
  | '-' :: behind =>
    match flags.dropSpace behind with
    | ']' :: _ | '-' :: _ => return (← memberSet? flags low, '-' :: behind)
    | afterHyphen => do
      let (high, rest) ← readMember? afterHyphen
      return (← rangeSet? flags low high, rest)
  | rest => return (← memberSet? flags low, rest)

/-- What reading a part of a class leads to: the classes still open, or the finished set. -/
inductive BracketStep
  | more (bracket : Bracket) (outer : List Bracket) (rest : List Char)
  | done (set : CharSet) (rest : List Char)

def stepBracket? (flags : Flags) (bracket : Bracket) (outer : List Bracket) (text : List Char) :
    Option BracketStep :=
  match flags.dropSpace text with
  | [] => none
  | '[' :: rest =>
    match readAsciiClass? rest with
    | some (set, after) => some (.more (bracket.add (set.under flags)) outer after)
    | none =>
      (openBracket? flags rest).map fun (inner, after) => .more inner (bracket :: outer) after
  | ']' :: rest =>
    match outer with
    | [] => some (.done bracket.set rest)
    | next :: others => some (.more (next.add bracket.set) others rest)
  | c :: rest =>
    match SetOperator.ofChar? c, rest.head? == some c with
    | some operator, true => some (.more (bracket.operate operator) outer (rest.drop 1))
    | _, _ =>
      (readRange? flags (c :: rest)).map fun (set, after) => .more (bracket.add set) outer after

/-- Reads a class up to its closing bracket; every part takes at least one character, so the
length of the text bounds their number. -/
def readBracketWithin (flags : Flags) (bound : Nat) (bracket : Bracket) (outer : List Bracket)
    (text : List Char) : Option (CharSet × List Char) :=
  match bound with
  | 0 => none
  | bound + 1 =>
    match stepBracket? flags bracket outer text with
    | none => none
    | some (.done set rest) => some (set, rest)
    | some (.more next others rest) => readBracketWithin flags bound next others rest

/-- Reads a class, given what follows its opening bracket. -/
def readBracket? (flags : Flags) (text : List Char) : Option (CharSet × List Char) := do
  let (bracket, rest) ← openBracket? flags text
  readBracketWithin flags text.length bracket [] rest

end TypedTables.Pattern
