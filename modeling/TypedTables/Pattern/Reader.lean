import TypedTables.Number.Integer
import TypedTables.Pattern.Bracket

/-!
# Reading patterns

A pattern is read from left to right.  The reader keeps the groups that are still open, and of the
innermost one the finished alternatives and the items of the alternative being read.
-/

namespace TypedTables.Pattern

open TypedTables.Text TypedTables.Number

/-- A group that is still open, with what stood before it. -/
structure OpenGroup where
  number : Option Nat
  flags : Flags
  alternatives : List Expression
  items : List (Option Expression)
  deriving Repr

/-- State of reading a pattern.  Alternatives and items are in reverse order; an item without an
expression is a change of flags. -/
structure Reader where
  groups : List OpenGroup := []
  alternatives : List Expression := []
  items : List (Option Expression) := []
  flags : Flags := {}
  count : Nat := 0
  names : List (String × Nat) := []
  deriving Repr

namespace Reader

/-- The reader with an item added to the alternative being read. -/
def push (reader : Reader) (item : Expression) : Reader :=
  { reader with items := some item :: reader.items }

def alternative (reader : Reader) : Expression :=
  Expression.sequenceOf (reader.items.reverse.filterMap id)

def body (reader : Reader) : Expression :=
  Expression.choiceOf (reader.alternative :: reader.alternatives).reverse

def alternate (reader : Reader) : Reader :=
  { reader with alternatives := reader.alternative :: reader.alternatives, items := [] }

/-- Opens a group whose body has flags of its own. -/
def openGroup (reader : Reader) (number : Option Nat) (flags : Flags) : Reader :=
  { reader with
    groups := ⟨number, reader.flags, reader.alternatives, reader.items⟩ :: reader.groups
    alternatives := [], items := [], flags }

def openCapture (reader : Reader) : Reader :=
  let number := reader.count + 1
  { reader.openGroup (some number) reader.flags with count := number }

def closeGroup? (reader : Reader) : Option Reader :=
  match reader.groups with
  | [] => none
  | group :: outer =>
    let body := match group.number with
      | some number => .group number reader.body
      | none => reader.body
    some { reader with
      groups := outer, alternatives := group.alternatives
      items := some body :: group.items, flags := group.flags }

def repeatItem? (reader : Reader) (least : Nat) (most : Option Nat) (lazy : Bool) :
    Option Reader :=
  match reader.items with
  | some item :: rest =>
    let greedy := lazy == reader.flags.swapGreed
    some { reader with items := some (.repetition item least most greedy) :: rest }
  | _ => none

end Reader

/-- A character that may stand in the name of a group. -/
def isNameChar (isFirst : Bool) (c : Char) : Bool :=
  c == '_' || Property.alphabetic.holds c ||
    (!isFirst && (['.', '[', ']'].contains c || ["Nd", "Nl", "No"].contains (category c)))

/-- Reads the name of a group up to the closing angle bracket. -/
def readName? (text : List Char) : Option (String × List Char) :=
  match text.takeWhile (· != '>'), text.dropWhile (· != '>') with
  | first :: letters, _ :: rest =>
    if isNameChar true first && letters.all (isNameChar false) then
      some (String.ofList (first :: letters), rest)
    else none
  | _, _ => none

def openNamed? (reader : Reader) (text : List Char) : Option (Reader × List Char) := do
  let (name, rest) ← readName? text
  if (reader.names.lookup name).isSome then none
  else
    let opened := reader.openCapture
    return ({ opened with names := (name, opened.count) :: opened.names }, rest)

/-- Reads what follows an opening parenthesis.  Looking ahead or behind is refused. -/
def readGroup? (reader : Reader) (text : List Char) : Option (Reader × List Char) :=
  match reader.flags.dropSpace text with
  | '?' :: '=' :: _ | '?' :: '!' :: _ | '?' :: '<' :: '=' :: _ | '?' :: '<' :: '!' :: _ => none
  | '?' :: 'P' :: '<' :: rest => openNamed? reader rest
  | '?' :: '<' :: rest => openNamed? reader rest
  | '?' :: rest =>
    match readFlags? reader.flags [] rest with
    | some (flags, .group, after) =>
      some ({ reader with flags, items := none :: reader.items }, after)
    | some (flags, .body, after) => some (reader.openGroup none flags, after)
    | none => none
  | rest => some (reader.openCapture, rest)

/-- Reads a count of at most 32 bits, with white space around it. -/
def readCount? (text : List Char) : Option (Nat × List Char) :=
  let inner := text.dropWhile isBlank
  ((readDigits? (inner.takeWhile isAsciiDigit)).filter (· < powerOfTwo 32)).map fun count =>
    (count, (inner.dropWhile isAsciiDigit).dropWhile isBlank)

/-- Reads the counts of a repetition, given what follows its opening brace, up to the closing
one. -/
def readCounts? (flags : Flags) (text : List Char) :
    Option (Nat × Option Nat × List Char) := do
  let (least, afterLeast) ← readCount? (flags.dropSpace text)
  match afterLeast with
  | '\x7d' :: rest => return (least, some least, rest)
  | ',' :: behind =>
    match flags.dropSpace behind with
    | '\x7d' :: rest => return (least, none, rest)
    | inner => do
      match ← readCount? inner with
      | (most, '\x7d' :: rest) => if most < least then none else return (least, some most, rest)
      | _ => none
  | _ => none

/-- Whether a question mark follows, and the rest behind it. -/
def takeLazy : List Char → Bool × List Char
  | '?' :: rest => (true, rest)
  | text => (false, text)

def escapeExpression? (flags : Flags) : Escape → Option Expression
  | .literal c => some (.char (.under flags (.single c)))
  | .named content negate => (CharSet.ofClass? flags content negate).map .char
  | .assertion assertion => some (.assert assertion)

/-- Reads the next part of a pattern that starts with a character. -/
def readPart? (reader : Reader) (c : Char) (rest : List Char) : Option (Reader × List Char) :=
  let repeated (least : Nat) (most : Option Nat) (text : List Char) :
      Option (Reader × List Char) :=
    let (lazy, after) := takeLazy text
    (reader.repeatItem? least most lazy).map (·, after)
  let flags := reader.flags
  match c with
  | '(' => readGroup? reader rest
  | ')' => reader.closeGroup?.map (·, rest)
  | '|' => some (reader.alternate, rest)
  | '[' => (readBracket? flags rest).map fun (set, after) => (reader.push (.char set), after)
  | '?' => repeated 0 (some 1) rest
  | '*' => repeated 0 none rest
  | '+' => repeated 1 none rest
  | '\x7b' => do
    let (least, most, after) ← readCounts? flags rest
    repeated least most (flags.dropSpace after)
  | '.' => (CharSet.dot? flags).map fun set => (reader.push (.char set), rest)
  | '^' =>
    some (reader.push (.assert (.start flags.multiLine flags.returnEndsLine)), rest)
  | '$' =>
    some (reader.push (.assert (.finish flags.multiLine flags.returnEndsLine)), rest)
  | '\\' => do
    let (escape, after) ← readEscape? rest
    let item ← escapeExpression? flags escape
    return (reader.push item, after)
  | _ => some (reader.push (.char (.under flags (.single c))), rest)

/-- Reads a pattern to its end; every part takes at least one character, so the length of the text
bounds their number. -/
def readWithin (bound : Nat) (reader : Reader) (text : List Char) : Option Reader :=
  match reader.flags.dropSpace text with
  | [] => if reader.groups.isEmpty then some reader else none
  | c :: rest =>
    match bound with
    | 0 => none
    | bound + 1 => do
      let (next, after) ← readPart? reader c rest
      readWithin bound next after

/-- Reads a pattern: its tree and the numbers of its named groups. -/
def read? (text : String) : Option (Expression × List (String × Nat)) :=
  (readWithin text.length {} text.toList).map fun reader => (reader.body, reader.names)

end TypedTables.Pattern
