import TypedTables.Failure
import TypedTables.Schema.Value

/-!
# Sheets

A sheet is a grid of cells.  Rows and columns are counted from one, and a cell outside the grid is
null.
-/

namespace TypedTables.Discover

open TypedTables.Schema TypedTables.Text

/-- A grid of cells, row by row. -/
structure Sheet where
  rows : List (List Value) := []
  deriving Repr, Inhabited

namespace Sheet

def rowCount (sheet : Sheet) : Nat :=
  sheet.rows.length

def columnCount (sheet : Sheet) : Nat :=
  sheet.rows.foldl (fun longest row => max longest row.length) 0

def cell (sheet : Sheet) (row column : Nat) : Value :=
  match row, column with
  | row + 1, column + 1 => ((sheet.rows[row]?).bind (·[column]?)).getD .null
  | _, _ => .null

/-- The text of a cell without outer white space. -/
def text (sheet : Sheet) (row column : Nat) : String :=
  trim (sheet.cell row column).toText

end Sheet

/-- Where a sheet is: its file, its label, and its position in the file. -/
structure SheetRef where
  file : String
  name : String
  index : Nat
  deriving Repr, DecidableEq

/-- A place that sheets are loaded from, in a fixed order. -/
structure SheetProvider where
  sheets : Outcome (List SheetRef)
  load : SheetRef → Outcome Sheet

/-- The sheets of a list, as a file named `memory` would hold them. -/
def SheetProvider.ofList (sheets : List (String × Sheet)) : SheetProvider where
  sheets := .ok (sheets.mapIdx fun index entry => ⟨"memory", entry.1, index⟩)
  load ref :=
    match sheets[ref.index]? with
    | some (name, sheet) =>
      if name == ref.name then .ok sheet
      else .error (.source "memory" ("no sheet " ++ Failure.named ref.name))
    | none => .error (.source "memory" ("no sheet " ++ Failure.named ref.name))

/-- The sheet of rows of texts; an empty text is a null cell. -/
def Sheet.ofTexts (rows : List (List String)) : Sheet :=
  ⟨rows.map fun row => row.map Value.ofText⟩

end TypedTables.Discover
