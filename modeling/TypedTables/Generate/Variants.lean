import TypedTables.Convert.Coerce
import TypedTables.Discover.Source
import TypedTables.Manifest.Basic
import TypedTables.Naming.Casing

/-!
# Variants of an enumeration

The rows of an enumeration's table are its variants.  The columns of the name and of the value are
needed, the column of the description is not.  A row whose name is blank is skipped.
-/

namespace TypedTables.Generate

open TypedTables.Schema TypedTables.Manifest TypedTables.Discover TypedTables.Text

/-- The position of the first field with a name, the case of ASCII letters ignored. -/
def columnOf? (table : Table) (name : String) : Option Nat :=
  table.fields.findIdx? fun field => equalIgnoringAsciiCase field.name name

/-- The columns that a table of variants is read from. -/
structure VariantColumns where
  name : Nat
  value : Nat
  description : Option Nat
  deriving Repr, DecidableEq

def variantColumns (table : Table) : Outcome VariantColumns :=
  match columnOf? table "Name", columnOf? table "Value" with
  | some name, some value => .ok ⟨name, value, columnOf? table "Description"⟩
  | _, _ => .error (.missingEnumColumns table.name)

/-- The failure that a variant's value is no integer. -/
def valueFailure (table : Table) (row : RawRow) (position : Nat) (value : Value) : Failure :=
  let field := table.fields[position]?
  .conversion ⟨table.name, row.index, (field.map (·.name)).getD "", (field.map (·.column)).getD 0⟩
    value.toText Primitive.int64.name "enum values are integers"

/-- The value of a variant: none where the cell is blank. -/
def variantValue (table : Table) (row : RawRow) (position : Nat) : Outcome (Option Int) :=
  let value := row.cell position
  if value.isEmpty then .ok none
  else
    match Convert.coercePrimitive value .int64 with
    | .ok (.int number) => .ok (some number)
    | _ => .error (valueFailure table row position value)

/-- Reads the variant of a row behind those read so far; a row with a blank name has none. -/
def addVariant (table : Table) (columns : VariantColumns) (variants : List Variant)
    (row : RawRow) : Outcome (List Variant) := do
  let label := row.label columns.name
  if label.isEmpty then return variants
  let name := Naming.pascalCase label
  if variants.any (·.name == name) then throw (.repeatedVariant table.name name row.index)
  let value ← variantValue table row columns.value
  let description := (columns.description.map row.label).filter (!·.isEmpty)
  let variant : Variant := { name, label, value, description }
  return variants ++ [variant]

/-- The variants of an enumeration's table; there is at least one. -/
def variantsOf (source : Source) (table : Table) : Outcome (List Variant) := do
  let columns ← variantColumns table
  let rows ← source.rows table.name
  match ← rows.foldlM (addVariant table columns) [] with
  | [] => throw (.emptyEnum table.name)
  | variants => return variants

end TypedTables.Generate
