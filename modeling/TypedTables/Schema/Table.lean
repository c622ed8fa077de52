import TypedTables.Naming.Scope
import TypedTables.Schema.TypeRef
import TypedTables.Schema.Value
import TypedTables.Text.Lowercase

/-!
# Tables and their fields

A table is a sheet with a header; each of its fields is a column.  The serialization index of a
field is its position inside a composite cell.
-/

namespace TypedTables.Schema

open TypedTables.Text

/-- A column of a table. -/
structure Field where
  name : String
  declared : String := Primitive.string.name
  type : Option TypeRef := none
  description : Option String := none
  /-- The column of the sheet, counted from one. -/
  column : Nat
  /-- The position among the fields of the table. -/
  order : Nat := 0
  /-- The position inside a composite cell. -/
  index : Nat := 0
  /-- The value of a blank cell; null can be such a value. -/
  default : Option Value := none
  isKey : Bool := false
  isExcluded : Bool := false
  arraySeparators : List String := []
  objectSeparators : List String := []
  /-- Tags without repetition, in ascending order. -/
  tags : List String := []
  deriving Repr, Inhabited

/-- What keywords say about a table. -/
structure TableFlags where
  isClass : Bool := false
  isStruct : Bool := false
  isEnum : Bool := false
  /-- Only the type is wanted, not the rows. -/
  noData : Bool := false
  deriving Repr, DecidableEq, Inhabited

/-- The shape of the type generated for a table. -/
inductive TableKind
  /-- Other tables hold it as an optional value. -/
  | reference
  | inPlace
  | enumeration
  deriving Repr, DecidableEq, Inhabited

namespace TableKind

def name : TableKind → String
  | reference => "class"
  | inPlace => "struct"
  | enumeration => "enum"

def ofName? (text : String) : Option TableKind :=
  [reference, inPlace, enumeration].find? (·.name == text)

end TableKind

/-- A table of a schema. -/
structure Table where
  name : String
  description : Option String := none
  /-- The position of the sheet in its file. -/
  origin : Nat := 0
  fields : List Field := []
  flags : TableFlags := {}
  parameters : Naming.Scope
  deriving Repr, Inhabited

/-- Inserts a text into an ascending list unless it is there. -/
def insertAscending (text : String) : List String → List String
  | [] => [text]
  | other :: rest =>
    if text == other then other :: rest
    else if text < other then text :: other :: rest
    else other :: insertAscending text rest

namespace Field

/-- The resolved type, or the failure that there is none. -/
def resolvedType (field : Field) : Outcome TypeRef :=
  match field.type with
  | some type => .ok type
  | none => .error (.unresolvedType field.name field.declared)

def addTag (field : Field) (tag : String) : Field :=
  { field with tags := insertAscending tag field.tags }

end Field

namespace Table

/-- A table without fields whose parameters add its name to those of a run. -/
def named (name : String) (run : Naming.Scope) : Table :=
  { name, parameters := run.child.set "TableName" name }

/-- The shape of the generated type: an enumeration or in place when flagged so. -/
def kind (table : Table) : TableKind :=
  if table.flags.isEnum then .enumeration
  else if table.flags.isStruct then .inPlace
  else .reference

def isEnum (table : Table) : Bool :=
  table.kind == .enumeration

/-- Whether the rows of the table are written out. -/
def hasData (table : Table) : Bool :=
  !table.flags.noData && !table.isEnum

/-- The first field with a name, the case of ASCII letters ignored. -/
def field? (table : Table) (name : String) : Option Field :=
  table.fields.find? fun field => equalIgnoringAsciiCase field.name name

def keyField? (table : Table) : Option Field :=
  table.fields.find? (·.isKey)

/-- The fields in the order of a composite cell. -/
def serialized (table : Table) : List Field :=
  table.fields.mergeSort fun left right => left.index ≤ right.index

/-- The first field whose index repeats an earlier one or is not below the number of fields. -/
def misplacedField? (count : Nat) (seen : List Nat) : List Field → Option Field
  | [] => none
  | field :: rest =>
    if field.index < count && !seen.contains field.index then
      misplacedField? count (field.index :: seen) rest
    else some field

/-- Checks that the serialization indices are a rearrangement of the positions. -/
def validateIndices (table : Table) : Outcome Unit :=
  match misplacedField? table.fields.length [] table.fields with
  | none => .ok ()
  | some field => .error (.sparseIndices table.name (table.fields.map (·.index)) field.name)

end Table

/-- The tables of a run, in the order of their discovery. -/
structure TableSet where
  tables : List Table := []
  deriving Repr, Inhabited

namespace TableSet

/-- The table with a name, the case of letters ignored. -/
def get? (set : TableSet) (name : String) : Option Table :=
  set.tables.find? fun table => lowercase table.name == lowercase name

/-- Adds a table unless its name is taken, the case of letters ignored. -/
def insert (set : TableSet) (table : Table) : Outcome TableSet :=
  if (set.get? table.name).isSome then .error (.duplicateTable table.name)
  else .ok ⟨set.tables ++ [table]⟩

end TableSet

end TypedTables.Schema
