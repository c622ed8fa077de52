import TypedTables.Convert.Conversion
import TypedTables.Discover.Source

/-!
# Records

Every row of a table becomes a record of the table's type.  A cell that cannot be coerced is
reported with its place; other failures keep their kind.
-/

namespace TypedTables

open TypedTables.Schema TypedTables.Manifest TypedTables.Binding TypedTables.Convert
open TypedTables.Discover

/-- Where a failure of a cell is reported. -/
structure CellContext where
  table : String
  row : Nat
  field : Field
  value : Value
  target : TypeRef

/-- A failure of a cell: one of coercion gets its place, any other stays as it is. -/
def CellContext.report (context : CellContext) (failure : Failure) : Failure :=
  if failure.kind = .coercion then
    .conversion ⟨context.table, context.row, context.field.name, context.field.column⟩
      context.value.toText context.target.display failure.message
  else failure

/-- The failures of a conversion changed by a function. -/
def reporting {α : Type} (change : Failure → Failure) (conversion : Conversion α) :
    Conversion α :=
  conversion.tryCatch fun failure => throw (change failure)

/-- The position of the field that a member is read from. -/
def fieldPosition? (table : Table) (member : BoundMember) : Option Nat :=
  table.fields.findIdx? (·.name == member.name)

/-- Converts the cell of a member, or makes the zero of a member without a column. -/
def convertMember (lookup : Lookup) (table : Table) (row : RawRow) (member : BoundMember) :
    Conversion Value :=
  match fieldPosition? table member with
  | none => lookup.zero member.type
  | some position =>
    match table.fields[position]? with
    | none => lookup.zero member.type
    | some field =>
      let value := row.cell position
      let context : CellContext := ⟨table.name, row.index, field, value, member.type⟩
      reporting context.report (lookup.convertCell field member.type {} value)

def convertMembers (lookup : Lookup) (table : Table) (row : RawRow) :
    Members → List (String × Value) → Conversion (List (String × Value))
  | [], entries => pure entries
  | (_, member) :: rest, entries => do
    let value ← convertMember lookup table row member
    convertMembers lookup table row rest (setEntry member.name value entries)

def convertRow (lookup : Lookup) (table : Table) (descriptor : Descriptor) (members : Members)
    (row : RawRow) : Conversion Value := do
  return .record descriptor.fullName (← convertMembers lookup table row members [])

/-- Converts every row of a table into a record of its type. -/
def loadRecords (lookup : Lookup) (source : Source) (table : Table) : Conversion (List Value) :=
  match lookup.catalog.descriptor? table.name with
  | none => throw (.unboundTable table.name)
  | some descriptor => do
    let members ← membersFor lookup descriptor
    let rows ← lift (source.rows table.name)
    rows.mapM (convertRow lookup table descriptor members)

def Convert.Separators.ofInput (input : Config.Input) : Separators :=
  ⟨input.arraySeparators, input.objectSeparators⟩

end TypedTables
