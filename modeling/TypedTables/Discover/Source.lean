import TypedTables.Discover.Header

/-!
# Sources of tables

Opening a source reads the header of every sheet, resolves the declared types among the tables
found, and checks the serialization indices.  An opening that fails leaves the tables found so far;
closing the source drops them.
-/

namespace TypedTables.Discover

open TypedTables.Schema TypedTables.Config

/-- A table with its sheet and its first row of data. -/
structure LoadedTable where
  table : Table
  sheet : Sheet
  dataRow : Nat
  deriving Repr

/-- A row of data: its number, and a cell for each field. -/
structure RawRow where
  index : Nat
  cells : List Value
  deriving Repr

/-- The cell of a row for the field at a position. -/
def RawRow.cell (row : RawRow) (position : Nat) : Value :=
  (row.cells[position]?).getD .null

/-- The text of a cell without outer white space. -/
def RawRow.label (row : RawRow) (position : Nat) : String :=
  Text.trim (row.cell position).toText

/-- The tables found by opening a source. -/
structure Source where
  loaded : List LoadedTable := []
  isOpen : Bool := false
  deriving Repr

/-- Resolves the declared types of fields, up to the first that cannot be. -/
def resolveFields (mappings : List TypeMapping) (tables : TableSet) (tableName : String) :
    List Field → List Field × Outcome Unit
  | [] => ([], .ok ())
  | field :: rest =>
    match declaredType mappings tables field.declared with
    | .ok type =>
      let (others, outcome) := resolveFields mappings tables tableName rest
      ({ field with type := some type } :: others, outcome)
    | .error cause => (field :: rest, .error (.fieldType tableName field.name cause))

/-- Resolves the declared types of tables, up to the first that cannot be. -/
def resolveTables (mappings : List TypeMapping) (tables : TableSet) :
    List LoadedTable → List LoadedTable × Outcome Unit
  | [] => ([], .ok ())
  | loaded :: rest =>
    let (fields, outcome) :=
      resolveFields mappings tables loaded.table.name loaded.table.fields
    let resolved := { loaded with table := { loaded.table with fields } }
    match outcome with
    | .ok () =>
      let (others, last) := resolveTables mappings tables rest
      (resolved :: others, last)
    | .error failure => (resolved :: rest, .error failure)

namespace Source

def tables (source : Source) : TableSet :=
  ⟨source.loaded.map (·.table)⟩

def add (source : Source) (loaded : LoadedTable) : Outcome Source := do
  let _ ← source.tables.insert loaded.table
  return { source with loaded := source.loaded ++ [loaded] }

/-- Reads one sheet and adds its table, if it is one. -/
def addSheet (settings : Settings) (run : Naming.Scope) (provider : SheetProvider)
    (source : Source) (ref : SheetRef) : Outcome Source := do
  let sheet ← provider.load ref
  match ← readHeader settings run ref sheet with
  | some (table, dataRow) => source.add ⟨table, sheet, dataRow⟩
  | none => return source

/-- Reads sheets up to the first failure: what was found, and the failure. -/
def addSheets (settings : Settings) (run : Naming.Scope) (provider : SheetProvider)
    (source : Source) : List SheetRef → Source × Outcome Unit
  | [] => (source, .ok ())
  | ref :: rest =>
    match source.addSheet settings run provider ref with
    | .ok grown => addSheets settings run provider grown rest
    | .error failure => (source, .error failure)

/-- Resolves the types of every table and checks the serialization indices. -/
def resolve (mappings : List TypeMapping) (source : Source) : Source × Outcome Unit :=
  let (loaded, outcome) := resolveTables mappings source.tables source.loaded
  let resolved := { source with loaded }
  (resolved, outcome.bind fun _ => resolved.tables.tables.forM (·.validateIndices))

/-- Finds the tables of a source that is not open. -/
def discover (settings : Settings) (run : Naming.Scope) (provider : SheetProvider)
    (source : Source) : Source × Outcome Unit :=
  if (settings.input.role? .fieldName).isNone then (source, .error .missingFieldNameRow)
  else
    match provider.sheets with
    | .error failure => (source, .error failure)
    | .ok refs =>
      match source.addSheets settings run provider refs with
      | (found, .ok ()) => found.resolve settings.typeMappings
      | (found, .error failure) => (found, .error failure)

/-- Opens a source; one that is open stays as it is. -/
def openWith (settings : Settings) (run : Naming.Scope) (provider : SheetProvider)
    (source : Source) : Source × Outcome Unit :=
  if source.isOpen then (source, .ok ())
  else
    match source.discover settings run provider with
    | (found, .ok ()) => ({ found with isOpen := true }, .ok ())
    | (found, .error failure) => (found, .error failure)

def ofProvider (settings : Settings) (run : Naming.Scope) (provider : SheetProvider) :
    Outcome Source :=
  match ({} : Source).openWith settings run provider with
  | (source, .ok ()) => .ok source
  | (_, .error failure) => .error failure

def close (_ : Source) : Source := {}

/-- The table with a name, the case of letters ignored. -/
def loaded? (source : Source) (name : String) : Option LoadedTable :=
  source.loaded.find? fun loaded => Text.lowercase loaded.table.name == Text.lowercase name

/-- The rows of a table, from its first row of data up to the first that is blank in all its
fields. -/
def rows (source : Source) (name : String) : Outcome (List RawRow) :=
  match source.loaded? name with
  | none => .error (.unknownTable name)
  | some loaded =>
    let columns := loaded.table.fields.map (·.column)
    let numbers := List.range' loaded.dataRow (loaded.sheet.rowCount + 1 - loaded.dataRow)
    let all := numbers.map fun row => (⟨row, columns.map (loaded.sheet.cell row)⟩ : RawRow)
    .ok (all.takeWhile fun row => !row.cells.all Value.isEmpty)

end Source

end TypedTables.Discover
