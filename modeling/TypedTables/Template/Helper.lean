import TypedTables.Json.Printer
import TypedTables.Naming.Casing
import TypedTables.Template.Basic

/-!
# Values and helpers of templates

How a value is written, which values count as true, and the helpers that make a value of values.
-/

namespace TypedTables.Template

mutual

/-- How a value is filled in: a text as it is, null as nothing, a list with its items. -/
def written : Document → String
  | .null => ""
  | .bool value => if value then "true" else "false"
  | .text value => value
  | .plain value => value
  | .list items => "[" ++ writtenItems items ++ "]"
  | .mapping _ => "[object]"
  | .integer value => toString value
  | .float value => Json.compact (.float value)

def writtenItems : List Document → String
  | [] => ""
  | [item] => written item
  | item :: rest => written item ++ ", " ++ writtenItems rest

end

/-- Whether a value counts as true.  Zero does not, unless it is asked to. -/
def isTrue (countsZero : Bool) : Document → Bool
  | .null => false
  | .bool value => value
  | .text value => !value.isEmpty
  | .plain value => !value.isEmpty
  | .list items => !items.isEmpty
  | .mapping entries => !entries.isEmpty
  | .integer value => countsZero || value != 0
  | .float value => countsZero || !value.isZero

/-- The value of a key of a mapping, or of a position of a list; null where there is none.  A list
has no other keys. -/
def step (key : String) : Document → Option Document
  | .mapping entries => some ((entries.lookup key).getD .null)
  | .list items => (key.toNat?).map fun position => (items[position]?).getD .null
  | _ => some .null

def follow (keys : List String) (value : Document) : Option Document :=
  keys.foldlM (fun reached key => step key reached) value

/-- The helpers that make a value. -/
inductive Helper
  | snake
  | pascal
  | lookup
  | equal
  | different
  | greater
  | greaterOrEqual
  | less
  | lessOrEqual
  | and
  | or
  | not
  | length
  deriving Repr, DecidableEq

def helpers : List (String × Helper) := [
  ("snake", .snake), ("pascal", .pascal), ("lookup", .lookup), ("eq", .equal),
  ("ne", .different), ("gt", .greater), ("gte", .greaterOrEqual), ("lt", .less),
  ("lte", .lessOrEqual), ("and", .and), ("or", .or), ("not", .not), ("len", .length)]

/-- The names of the helpers that make no value. -/
def blockHelpers : List String := ["if", "unless", "each", "with", "raw", "log"]

def isHelper (name : String) : Bool :=
  (helpers.lookup name).isSome || blockHelpers.contains name

def order? (left right : Document) : Option Ordering :=
  match left, right with
  | .integer first, .integer second => some (compare first second)
  | .text first, .text second => some (compare first second)
  | _, _ => none

/-- The number of items, entries or bytes of a value. -/
def extent : Document → Nat
  | .list items => items.length
  | .mapping entries => entries.length
  | .text value => value.utf8ByteSize
  | _ => 0

/-- The entry of a mapping under a text, or of a list at a number. -/
def entryOf (collection key : Document) : Document :=
  match collection, key with
  | .mapping entries, .text name => (entries.lookup name).getD .null
  | .list items, .integer (.ofNat position) => (items[position]?).getD .null
  | _, _ => .null

/-- The text of the first argument, or no text. -/
def firstText : List Document → String
  | .text value :: _ => value
  | _ => ""

/-- The value that a helper makes of its arguments, if they suit it. -/
def Helper.run (helper : Helper) (arguments : List Document) : Option Document :=
  match helper, arguments with
  | snake, _ => some (.text (Naming.snakeCase (firstText arguments)))
  | pascal, _ => some (.text (Naming.pascalCase (firstText arguments)))
  | lookup, collection :: key :: _ => some (entryOf collection key)
  | equal, left :: right :: _ => some (.bool (Json.compact left == Json.compact right))
  | different, left :: right :: _ => some (.bool (Json.compact left != Json.compact right))
  | greater, left :: right :: _ => (order? left right).map fun o => .bool o.isGT
  | greaterOrEqual, left :: right :: _ => (order? left right).map fun o => .bool o.isGE
  | less, left :: right :: _ => (order? left right).map fun o => .bool o.isLT
  | lessOrEqual, left :: right :: _ => (order? left right).map fun o => .bool o.isLE
  | and, left :: right :: _ => some (.bool (isTrue false left && isTrue false right))
  | or, left :: right :: _ => some (.bool (isTrue false left || isTrue false right))
  | not, value :: _ => some (.bool (!isTrue false value))
  | length, value :: _ => some (.integer (extent value))
  | _, _ => none

end TypedTables.Template
