import TypedTables.Discover.Sheet
import TypedTables.Document.Decode
import TypedTables.Json.Reader

/-!
# Workbooks

A workbook file is a JSON text: a list of sheets, each with its name, whether it is hidden, and its
rows of cells.  A cell is null, a truth value, a number or a text; every number is read as a
floating-point number, and an empty text is no cell.  The grid of a sheet ends at the last row and
the last column that hold anything.
-/

namespace TypedTables.Discover

open TypedTables.Schema TypedTables.Document

/-- A sheet of a workbook. -/
structure WorkbookSheet where
  name : String
  isHidden : Bool := false
  cells : List (List Value) := []
  deriving Repr

/-- The sheets of a workbook, in order. -/
abbrev Workbook := List WorkbookSheet

def readWorkbookCell : Document.Reader Value
  | .null => some .null
  | .bool value => some (.bool value)
  | .integer value => some (.float (Number.BinaryFloat.ofInt .double value))
  | .float value => some (.float value)
  | .text value => some (if value.isEmpty then .null else .text value)
  | _ => none

def readWorkbookSheet (document : Document) : Option WorkbookSheet := do
  let fields ← fields? ["name", "hidden", "cells"] document
  return {
    name := ← fields.required "name" Reader.text
    isHidden := ← fields.withDefault "hidden" Reader.bool false
    cells := ← fields.withDefault "cells" (Reader.list (Reader.list readWorkbookCell)) [] }

def Workbook.ofBytes? (content : ByteArray) : Option Workbook := do
  Reader.list readWorkbookSheet (← Json.read? (← String.fromUTF8? content))

def trimRow (row : List Value) : List Value :=
  (row.reverse.dropWhile Value.isNull).reverse

/-- The row filled up with null cells to a length. -/
def padRow (width : Nat) (row : List Value) : List Value :=
  row ++ List.replicate (width - row.length) .null

/-- The grid of a sheet, up to the last row and the last column that hold anything. -/
def WorkbookSheet.sheet (sheet : WorkbookSheet) : Sheet :=
  let rows := ((sheet.cells.map trimRow).reverse.dropWhile List.isEmpty).reverse
  let width := rows.foldl (fun widest row => max widest row.length) 0
  let isAbove (row : List Value) : Bool := row.isEmpty
  ⟨rows.takeWhile isAbove ++ (rows.dropWhile isAbove).map (padRow width)⟩

end TypedTables.Discover
