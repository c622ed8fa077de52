import TypedTables.Binding.Members
import TypedTables.Config.Settings

/-!
# Catalogs

A catalog knows for every table which generated type its rows become.  A table whose type is
missing shows that the generated code is older than the tables.
-/

namespace TypedTables.Binding

open TypedTables.Schema TypedTables.Manifest TypedTables.Config TypedTables.Text

/-- The generated types, and for each table the position of its type. -/
structure Catalog where
  model : Model
  /-- Positions by the lower-case name of the table. -/
  positions : List (String × Nat) := []
  deriving Repr

namespace Catalog

def add (code : Code) (catalog : Catalog) (table : Table) : Outcome Catalog := do
  let name ← table.parameters.format code.typeNameTemplate
  match catalog.model.find? (qualify code.space name) with
  | some position =>
    return { catalog with
      positions := setEntry (lowercase table.name) position catalog.positions }
  | none => .error (.unboundTable table.name)

def ofTables (tables : TableSet) (model : Model) (code : Code) : Outcome Catalog :=
  tables.tables.foldlM (add code) ⟨model, []⟩

/-- The generated type of a table, the case of letters ignored. -/
def descriptor? (catalog : Catalog) (table : String) : Option Descriptor :=
  (entryValue? (lowercase table) catalog.positions).bind fun position =>
    catalog.model.types[position]?

end Catalog

end TypedTables.Binding
