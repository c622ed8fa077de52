import TypedTables.Config.Settings
import TypedTables.Discover.Sheet
import TypedTables.Discover.TypeNames
import TypedTables.Keyword.Effect
import TypedTables.Pattern.Matcher

/-!
# Headers of tables

The label of a sheet gives the name of its table.  Rows with a part of their own are found by
number or by their label, and each column with a name becomes a field unless something leaves it
out.
-/

namespace TypedTables.Discover

open TypedTables.Schema TypedTables.Config TypedTables.Text

/-- The rows of a sheet that have a part of their own. -/
abbrev PlacedRows := List (RowKind × Nat)

/-- The first number from `low` to `high` that satisfies a test. -/
def firstFrom? (low high : Nat) (test : Nat → Bool) : Option Nat :=
  (List.range' low (high + 1 - low)).find? test

/-- The row of a role: the given one, or else the first whose label matches the pattern. -/
def rowOf (input : Input) (sheet : Sheet) (role : RowRole) : Outcome (Option Nat) :=
  match role.row?, role.pattern with
  | some row, _ => .ok (some row)
  | none, some pattern =>
    if pattern.isEmpty then .ok none
    else do
      let matcher ← Pattern.Matcher.ofText pattern
      return firstFrom? (1 + input.offsetRow) sheet.rowCount fun row =>
        matcher.isMatch (sheet.text row input.labelColumn)
  | none, none => .ok none

/-- The rows of all roles; of the roles of a kind the first one that finds a row counts. -/
def placeRows (input : Input) (sheet : Sheet) : Outcome PlacedRows :=
  input.rows.foldlM
    (fun placed role => do
      if (placed.lookup role.kind).isSome then return placed
      else
        match ← rowOf input sheet role with
        | some row => return placed ++ [(role.kind, row)]
        | none => return placed)
    []

/-- The first row of data: the given one, or the one behind every row with a part of its own. -/
def dataRow (placed : PlacedRows) : Nat :=
  (placed.lookup .data).getD (placed.foldl (fun last entry => max last entry.2) 0 + 1)

/-- The name and the description that a sheet's label gives, unless the label has no match. -/
def readLabel (input : Input) (label : String) : Outcome (Option (String × Option String)) :=
  match input.tableNamePattern.filter (!·.isEmpty) with
  | none => .ok (some (label, none))
  | some pattern => do
    let matcher ← Pattern.Matcher.ofText pattern
    let description := (matcher.groupText? "desc" label).map trim
    return (matcher.groupText? Pattern.resultGroup label).map (·, description)

/-- What a row of a kind says in a cell, by the value pattern of the kind. -/
def readCell (input : Input) (kind : RowKind) (text : String) : Outcome String := do
  let pattern := (input.role? kind).bind (·.valuePattern)
  return trim (← Pattern.extract pattern text)

/-- What the row of a kind says in a column, if there is such a row and it says anything. -/
def readRow (input : Input) (sheet : Sheet) (placed : PlacedRows) (kind : RowKind)
    (column : Nat) : Outcome (Option String) :=
  match placed.lookup kind with
  | none => .ok none
  | some row => do
    let said ← readCell input kind (sheet.text row column)
    return if said.isEmpty then none else some said

/-- The first text of a row at or behind a column. -/
def firstText? (sheet : Sheet) (row column : Nat) : Option String :=
  ((List.range' column (sheet.columnCount + 1 - column)).map (sheet.text row)).find?
    (!·.isEmpty)

/-- Whether the tags of a field let it in: it has every wanted tag and no unwanted one. -/
def passesTags (input : Input) (field : Field) : Bool :=
  (tags input.tagInclude).all field.tags.contains &&
    !(tags input.tagExclude).any field.tags.contains

/-- The default that the row of defaults gives to a field of a primitive type. -/
def rowDefault (input : Input) (sheet : Sheet) (placed : PlacedRows) (field : Field) :
    Outcome Field := do
  match ← readRow input sheet placed .defaultValue field.column, Keyword.primitive? field with
  | some said, some type =>
    return { field with default := some (← Convert.coercePrimitive (.text said) type) }
  | _, _ => return field

/-- The name of the field of a column, unless the column has none or is left out by the row for
that. -/
def fieldName (input : Input) (sheet : Sheet) (placed : PlacedRows) (nameRow column : Nat) :
    Outcome (Option String) := do
  let written := sheet.text nameRow column
  if written.isEmpty then return none
  else
    let name ← readCell input .fieldName written
    let isExcluded := (placed.lookup .exclude).any fun row => (sheet.cell row column).isEmpty
    return if name.isEmpty || isExcluded then none else some name

/-- Reads a column into a table.  Its keywords take effect on the table even when they leave the
column out. -/
def readColumn (input : Input) (mappings : List TypeMapping) (sheet : Sheet)
    (placed : PlacedRows) (nameRow : Nat) (table : Table) (column : Nat) : Outcome Table := do
  match ← fieldName input sheet placed nameRow column with
  | none => return table
  | some name =>
    let declared := (← readRow input sheet placed .fieldType column).getD Primitive.string.name
    let position := table.fields.length
    let start : Field :=
      { name, column, declared, order := position, index := position
        type := builtinType? mappings declared }
    let keywords := (← readRow input sheet placed .keyword column).getD ""
    match Keyword.applyCell ⟨table, start⟩ keywords with
    | (_, some failure) => .error failure
    | (⟨marked, field⟩, none) =>
      if field.isExcluded || !passesTags input field then return marked
      else
        let description ← readRow input sheet placed .fieldSummary column
        let finished ← rowDefault input sheet placed { field with description }
        return { marked with fields := marked.fields ++ [finished] }

def fieldColumns (input : Input) (sheet : Sheet) : List Nat :=
  let first := 1 + input.offsetColumn
  List.range' first (sheet.columnCount + 1 - first)

/-- Reads the header of a sheet: the table and its first row of data, unless the sheet is none. -/
def readHeader (settings : Settings) (run : Naming.Scope) (ref : SheetRef) (sheet : Sheet) :
    Outcome (Option (Table × Nat)) := do
  let input := settings.input
  match ← readLabel input (trim ref.name) with
  | none => return none
  | some (label, labelDescription) =>
    let name := Naming.sanitize (trim label)
    if name.isEmpty then return none
    else
      let placed ← placeRows input sheet
      match placed.lookup .fieldName with
      | none => return none
      | some nameRow =>
        let rowDescription := (placed.lookup .tableDescription).bind fun row =>
          firstText? sheet row (1 + input.offsetColumn)
        let start := { Table.named name run with
          origin := ref.index, description := rowDescription <|> labelDescription }
        let table ← (fieldColumns input sheet).foldlM
          (readColumn input settings.typeMappings sheet placed nameRow) start
        return if table.fields.isEmpty then none else some (table, dataRow placed)

end TypedTables.Discover
