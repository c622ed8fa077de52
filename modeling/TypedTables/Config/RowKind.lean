/-!
# Row kinds

The part that a row above the data plays in describing a table.
-/

namespace TypedTables.Config

/-- The part that a row plays. -/
inductive RowKind
  | tableDescription
  | fieldName
  | fieldType
  | fieldSummary
  | keyword
  | data
  | defaultValue
  | exclude
  deriving Repr, DecidableEq, Inhabited

namespace RowKind

def all : List RowKind :=
  [tableDescription, fieldName, fieldType, fieldSummary, keyword, data, defaultValue, exclude]

def name : RowKind → String
  | tableDescription => "table_description"
  | fieldName => "field_name"
  | fieldType => "field_type"
  | fieldSummary => "field_summary"
  | keyword => "keyword"
  | data => "data"
  | defaultValue => "default_value"
  | exclude => "exclude"

def title : RowKind → String
  | tableDescription => "TableDescription"
  | fieldName => "FieldName"
  | fieldType => "FieldType"
  | fieldSummary => "FieldSummary"
  | keyword => "Keyword"
  | data => "Data"
  | defaultValue => "DefaultValue"
  | exclude => "Exclude"

/-- The row kind with a name in configurations. -/
def ofName? (text : String) : Option RowKind :=
  all.find? (·.name == text)

end RowKind

end TypedTables.Config
