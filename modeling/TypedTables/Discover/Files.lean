import TypedTables.Config.Settings
import TypedTables.Csv.Reader
import TypedTables.Discover.Workbook
import TypedTables.Files.Scan

/-!
# Sheets of files

The sheets of a run are those of the input files.  A file of delimited text is one sheet, named
after the file; a workbook has any number of sheets, of which the hidden ones are left out.
-/

namespace TypedTables.Discover

open TypedTables.Schema TypedTables.Files TypedTables.Config

def inputFiles (store : Store) (input : Input) : Outcome (List String) :=
  (scan store {} input.directory input.pathPattern input.excludePattern).1

/-- A field of delimited text as a cell; an empty one is null. -/
def delimitedCell (field : String) : Value :=
  if field.isEmpty then .null else .text field

def delimitedSheet (store : Store) (delimiter : Char) (path : String) : Outcome Sheet :=
  match store.text? path with
  | some text => .ok ⟨(Csv.records delimiter text).map (·.map delimitedCell)⟩
  | none => .error (.unreadableSource path)

def delimitedFiles (store : Store) (input : Input) (delimiter : Char) : SheetProvider where
  sheets := (inputFiles store input).map fun paths =>
    paths.map fun path => ⟨path, (stem? path).getD "", 0⟩
  load ref := delimitedSheet store delimiter ref.file

def workbookAt (store : Store) (path : String) : Outcome Workbook :=
  match (store.content? (store.locate path)).bind Workbook.ofBytes? with
  | some workbook => .ok workbook
  | none => .error (.unreadableSource path)

/-- The sheets of a workbook that are not hidden. -/
def visibleSheets (path : String) (workbook : Workbook) : List SheetRef :=
  (workbook.mapIdx fun index sheet => (index, sheet)).filterMap fun (index, sheet) =>
    if sheet.isHidden then none else some ⟨path, sheet.name, index⟩

def sheetOfWorkbook (store : Store) (ref : SheetRef) : Outcome Sheet := do
  let workbook ← workbookAt store ref.file
  match workbook.find? (·.name == ref.name) with
  | some sheet => return sheet.sheet
  | none => throw (.unreadableSource ref.file)

def workbookFiles (store : Store) (input : Input) : SheetProvider where
  sheets := do
    let paths ← inputFiles store input
    let books ← paths.mapM fun path => return visibleSheets path (← workbookAt store path)
    return books.flatten
  load := sheetOfWorkbook store

def sheetsOf (store : Store) (input : Input) : SheetProvider :=
  match input.provider with
  | .workbook => workbookFiles store input
  | .csv => delimitedFiles store input ','

end TypedTables.Discover
