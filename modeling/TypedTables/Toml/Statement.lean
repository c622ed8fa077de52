import TypedTables.Toml.Scalar

/-!
# Statements of TOML

A text is a sequence of statements, each on lines of its own: the head of a table, the head of a
further table of a list, or a key with its value.  A key is a path of names.
-/

namespace TypedTables.Toml

open TypedTables.Text

/-- What a table was made by. -/
inductive Origin
  | implied
  | dotted
  | head
  deriving Repr, DecidableEq

/-- A part of a document that is being built. -/
inductive Item
  | value (document : Document)
  | table (origin : Origin) (entries : List (String × Item))
  /-- A list of tables, the last one first. -/
  | tables (rows : List (List (String × Item)))
  deriving Repr

/-- Replaces the entry of a name, or adds one at the end. -/
def putItem (name : String) (item : Item) : List (String × Item) → List (String × Item)
  | [] => [(name, item)]
  | (other, old) :: rest =>
    if other == name then (name, item) :: rest else (other, old) :: putItem name item rest

/-- Gives a value to a path of names below some entries.  The tables on the path come to be by its
points; one that has a head of its own cannot be added to, and no name gets a second value. -/
def assign? (value : Document) (isDotted : Bool) :
    List String → List (String × Item) → Option (List (String × Item))
  | [], _ => none
  | [name], entries =>
    if isDotted && (entries.lookup name).isNone then some (putItem name (.value value) entries)
    else none
  | name :: path, entries =>
    match entries.lookup name with
    | none =>
      (assign? value true path []).map fun inner => putItem name (.table .dotted inner) entries
    | some (.table origin inner) =>
      if origin == .head then none
      else
        (assign? value (origin == .dotted) path inner).map fun changed =>
          putItem name (.table origin changed) entries
    | some (.tables (row :: others)) =>
      (assign? value false path row).map fun changed =>
        putItem name (.tables (changed :: others)) entries
    | some _ => none

mutual

def Item.document : Item → Document
  | .value document => document
  | .table _ entries => .mapping (entryDocuments entries)
  | .tables rows => .list (rowDocuments rows).reverse

def entryDocuments : List (String × Item) → List (String × Document)
  | [] => []
  | (name, item) :: rest => (name, item.document) :: entryDocuments rest

def rowDocuments : List (List (String × Item)) → List Document
  | [] => []
  | row :: rest => .mapping (entryDocuments row) :: rowDocuments rest

end

/-- A statement. -/
inductive Statement
  | head (path : List String)
  | listHead (path : List String)
  | assign (path : List String) (value : Document)
  deriving Repr

def name? (text : List Char) : Option (String × List Char) :=
  let isBare (c : Char) : Bool := isAsciiLetter c || isAsciiDigit c || c == '_' || c == '-'
  match text with
  | '"' :: _ | '\'' :: _ => quoted? false text
  | _ =>
    let word := text.takeWhile isBare
    if word.isEmpty then none else some (String.ofList word, text.drop word.length)

/-- Reads a path of names with points between them, and the white space behind it. -/
def path? : (bound : Nat) → List Char → Option (List String × List Char)
  | 0, _ => none
  | bound + 1, text => do
    let (name, after) ← name? (text.dropWhile isSpacing)
    match after.dropWhile isSpacing with
    | '.' :: rest => do
      let (names, behind) ← path? bound rest
      return (name :: names, behind)
    | rest => return ([name], rest)

/-- Takes a comment, up to the end of its line. -/
def dropComment? (text : List Char) : Option (List Char) :=
  match text with
  | '#' :: rest =>
    let isEnd (c : Char) : Bool := c == '\n' || c == '\r'
    if (rest.takeWhile fun c => !isEnd c).all isPlainChar then
      some (rest.dropWhile fun c => !isEnd c)
    else none
  | _ => some text

def dropFiller? : (bound : Nat) → List Char → Option (List Char)
  | 0, text => some text
  | bound + 1, text => do
    let start := text.dropWhile isSpacing
    let after ← dropComment? start
    match dropLineEnd? after with
    | some rest => dropFiller? bound rest
    | none =>
      if after.length == start.length then return after
      else if after.isEmpty then return [] else none

/-- Reads the items of a list up to its closing bracket, given a reader of values. -/
def items? (value? : List Char → Option (Document × List Char)) :
    (bound : Nat) → List Char → Option (List Document × List Char)
  | 0, _ => none
  | bound + 1, text => do
    match ← dropFiller? text.length text with
    | ']' :: rest => return ([], rest)
    | start => do
      let (item, after) ← value? start
      match ← dropFiller? after.length after with
      | ',' :: rest => do
        let (items, behind) ← items? value? bound rest
        return (item :: items, behind)
      | ']' :: rest => return ([item], rest)
      | _ => none

/-- Reads the entries of a table between braces, behind the first of them. -/
def entries? (value? : List Char → Option (Document × List Char)) :
    (bound : Nat) → List (String × Item) → List Char → Option (List (String × Item) × List Char)
  | 0, _, _ => none
  | bound + 1, done, text => do
    let (path, afterPath) ← path? text.length text
    match afterPath with
    | '=' :: rest => do
      let (value, after) ← value? (rest.dropWhile isSpacing)
      let grown ← assign? value (path.length == 1) path done
      match after.dropWhile isSpacing with
      | ',' :: behind => entries? value? bound grown behind
      | '\x7d' :: behind => return (grown, behind)
      | _ => none
    | _ => none

/-- The number of lists and tables that may be open at once. -/
def nestingLimit : Nat := 80

/-- Reads a value with at most so many lists and tables inside each other. -/
def value? : (depth : Nat) → List Char → Option (Document × List Char)
  | depth, '[' :: rest =>
    match depth with
    | 0 => none
    | inner + 1 =>
      (items? (value? inner) (rest.length + 1) rest).map fun (items, after) => (.list items, after)
  | depth, '\x7b' :: rest =>
    match depth with
    | 0 => none
    | inner + 1 =>
      match rest.dropWhile isSpacing with
      | '\x7d' :: after => some (.mapping [], after)
      | _ =>
        (entries? (value? inner) (rest.length + 1) [] rest).map fun (entries, after) =>
          (.mapping (entryDocuments entries), after)
  | _, text => scalar? text

/-- Reads the statement that a line starts with. -/
def statement? (text : List Char) : Option (Statement × List Char) :=
  match text with
  | '[' :: '[' :: rest => do
    match ← path? rest.length rest with
    | (path, ']' :: ']' :: after) => return (.listHead path, after)
    | _ => none
  | '[' :: rest => do
    match ← path? rest.length rest with
    | (path, ']' :: after) => return (.head path, after)
    | _ => none
  | _ => do
    match ← path? text.length text with
    | (path, '=' :: rest) => do
      let (value, after) ← value? nestingLimit (rest.dropWhile isSpacing)
      return (.assign path value, after)
    | _ => none

/-- Reads statements; each takes at least one character, so the length of the text bounds their
number. -/
def statements? : (bound : Nat) → List Char → Option (List Statement)
  | bound, text => do
    match ← dropFiller? text.length text, bound with
    | [], _ => return []
    | start, bound + 1 => do
      let (statement, after) ← statement? start
      let behind ← dropComment? (after.dropWhile isSpacing)
      if behind.isEmpty then return [statement]
      else
        let rest ← statements? bound (← dropLineEnd? behind)
        return statement :: rest
    | _, 0 => none

end TypedTables.Toml
