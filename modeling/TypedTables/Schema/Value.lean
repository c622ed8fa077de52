import TypedTables.Schema.Primitive
import TypedTables.Number.Layout
import TypedTables.Document

/-!
# Values

A value is a raw cell or the result of converting one.  Members of a record keep the order in
which they were first set.
-/

namespace TypedTables.Schema

open TypedTables.Text TypedTables.Number

/-- A raw cell or a converted value. -/
inductive Value
  | null
  | bool (value : Bool)
  | int (value : Int)
  | uint (value : Nat)
  | float (value : BinaryFloat)
  | text (value : String)
  | array (items : List Value)
  /-- A record of a generated type, with its members in order. -/
  | record (typeName : String) (members : List (String × Value))
  /-- A variant of a generated enumeration. -/
  | variant (typeName : String) (name : String)
  deriving Repr, Inhabited

/-- Sets the value of a key: in its place when the key is present, else at the end. -/
def setEntry {α : Type} (key : String) (value : α) : List (String × α) → List (String × α)
  | [] => [(key, value)]
  | (other, old) :: entries =>
    if other == key then (key, value) :: entries else (other, old) :: setEntry key value entries

def entryValue? {α : Type} (key : String) (entries : List (String × α)) : Option α :=
  (entries.find? (·.1 == key)).map (·.2)

namespace Value

/-- The value of a cell's text; no text is null. -/
def ofText (cell : String) : Value :=
  if cell.isEmpty then null else text cell

def isNull : Value → Bool
  | null => true
  | _ => false

/-- Null, or a text without a visible character. -/
def isEmpty : Value → Bool
  | null => true
  | text value => isBlankText value
  | _ => false

def text? : Value → Option String
  | text value => some value
  | _ => none

mutual

def display : Value → String
  | null => "null"
  | bool value => if value then "true" else "false"
  | int value => toString value
  | uint value => toString value
  | float value => value.plainText
  | text value => value
  | array items => "[" ++ displayItems items ++ "]"
  | record typeName members => typeName ++ " \x7b" ++ displayMembers " " members ++ " \x7d"
  | variant _ name => name

def displayItems : List Value → String
  | [] => ""
  | [item] => display item
  | item :: items => display item ++ ", " ++ displayItems items

/-- Members, the first behind the given separator and the others behind a comma. -/
def displayMembers (separator : String) : List (String × Value) → String
  | [] => ""
  | (name, value) :: members =>
    separator ++ name ++ ": " ++ display value ++ displayMembers ", " members

end

/-- The value as the text of a cell: null has none. -/
def toText : Value → String
  | null => ""
  | value => value.display

mutual

/-- The document that a value is written as: records by their members and variants by their
name. -/
def toDocument : Value → Document
  | null => .null
  | bool value => .bool value
  | int value => .integer value
  | uint value => .integer value
  | float value => .float value
  | text value => .text value
  | array items => .list (itemDocuments items)
  | record _ members => .mapping (memberDocuments members)
  | variant _ name => .text name

def itemDocuments : List Value → List Document
  | [] => []
  | item :: items => toDocument item :: itemDocuments items

/-- The documents of members under their names. -/
def memberDocuments : List (String × Value) → List (String × Document)
  | [] => []
  | (name, value) :: members => (name, toDocument value) :: memberDocuments members

end

def zero (type : Primitive) : Value :=
  if type.isSigned then int 0
  else if type.isUnsigned then uint 0
  else if type.isFloat then float (BinaryFloat.zero .double false)
  else if type = .bool then bool false
  else text ""

end Value

end TypedTables.Schema
