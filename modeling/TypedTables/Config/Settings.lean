import TypedTables.Config.RowKind
import TypedTables.Failure
import TypedTables.Text.Lowercase
import TypedTables.Text.Segments

/-!
# Settings

Everything that a run can be told: where tables are read from and how their rows are laid out,
where data goes, and what code is generated.  Every setting has a default.
-/

namespace TypedTables.Config

open TypedTables.Text

/-- What the input files are. -/
inductive Provider
  | workbook
  | csv
  deriving Repr, DecidableEq, Inhabited

/-- The notation of data files. -/
inductive DataFormat
  | json
  | yaml
  deriving Repr, DecidableEq, Inhabited

/-- How generated code is laid out in files. -/
inductive Layout
  | bundle
  | perType
  /-- As `perType`, with a package manifest that is written once. -/
  | perTypeWithManifest
  deriving Repr, DecidableEq, Inhabited

/-- Where a row with a part of its own stands. -/
structure RowRole where
  kind : RowKind
  /-- The row, counted from one; zero is no row. -/
  index : Option Nat := none
  /-- The pattern that the row's label matches, where no row is given. -/
  pattern : Option String := none
  /-- The pattern that takes a value from a cell of the row. -/
  valuePattern : Option String := none
  deriving Repr, DecidableEq, Inhabited

/-- The separators of lists inside a cell, the outermost first. -/
def defaultArraySeparators : List String := ["|", "!"]

/-- The separators of records inside a cell, the outermost first. -/
def defaultObjectSeparators : List String := [":", ","]

/-- The rows of a table when nothing else is set. -/
def defaultRows : List RowRole := [
  { kind := .tableDescription, index := some 1 }, { kind := .fieldName, index := some 2 },
  { kind := .fieldType, index := some 3 }, { kind := .keyword, index := some 4 },
  { kind := .fieldSummary, index := some 5 }]

/-- Where tables are read from and how they are laid out. -/
structure Input where
  provider : Provider := .workbook
  directory : String := "."
  includePattern : Option String := none
  excludePattern : Option String := none
  tableNamePattern : Option String := none
  offsetRow : Nat := 0
  offsetColumn : Nat := 0
  /-- The column of labels, counted from one. -/
  labelColumn : Nat := 1
  rows : List RowRole := defaultRows
  tagInclude : Option String := none
  tagExclude : Option String := none
  arraySeparators : List String := defaultArraySeparators
  objectSeparators : List String := defaultObjectSeparators
  deriving Repr, DecidableEq, Inhabited

/-- Where data goes. -/
structure Output where
  path : String := "."
  format : DataFormat := .json
  pretty : Bool := true
  deriving Repr, DecidableEq, Inhabited

/-- What code is generated. -/
structure Code where
  outputDirectory : String := "generated"
  moduleName : String := "tables"
  space : Option String := none
  typeNameTemplate : String := "\x7bTableName\x7d"
  layout : Layout := .bundle
  templatePath : Option String := none
  indexTemplatePath : Option String := none
  generateIndexer : Bool := false
  scratchDirectory : String := "target/tablegen"
  compiler : String := "rustc"
  edition : String := "2021"
  references : List String := []
  deriving Repr, DecidableEq, Inhabited

/-- A type of the sheets that stands for a type of the generated code. -/
structure TypeMapping where
  name : String
  mapping : String
  deriving Repr, DecidableEq, Inhabited

/-- All settings of a run. -/
structure Settings where
  input : Input := {}
  output : Output := {}
  code : Code := {}
  typeMappings : List TypeMapping := []
  deriving Repr, DecidableEq, Inhabited

/-- The settings that a run takes when no other file is named. -/
def defaultFile : String := "tablegen.yaml"

namespace Provider

def name : Provider → String
  | workbook => "workbook"
  | csv => "csv"

def ofName? (text : String) : Option Provider :=
  [workbook, csv].find? (·.name == text)

end Provider

namespace DataFormat

/-- The name of a format in configurations, which its files end in too. -/
def name : DataFormat → String
  | json => "json"
  | yaml => "yaml"

def ofName? (text : String) : Option DataFormat :=
  [json, yaml].find? (·.name == text)

/-- What the names of a format's files end in, without the point. -/
def extension (format : DataFormat) : String :=
  format.name

end DataFormat

namespace Layout

def name : Layout → String
  | bundle => "bundle"
  | perType => "per_type"
  | perTypeWithManifest => "per_type_with_manifest"

def ofName? (text : String) : Option Layout :=
  [bundle, perType, perTypeWithManifest].find? (·.name == text)

end Layout

namespace RowRole

def row? (role : RowRole) : Option Nat :=
  role.index.filter (0 < ·)

def isPlaced (role : RowRole) : Bool :=
  role.row?.isSome || role.pattern.any fun pattern => !pattern.isEmpty

end RowRole

namespace Input

def pathPattern (input : Input) : String :=
  match input.includePattern, input.provider with
  | some pattern, _ => pattern
  | none, .workbook => "\\.(xlsx|xlsm|xlsb|xls|ods)$"
  | none, .csv => "\\.csv$"

def role? (input : Input) (kind : RowKind) : Option RowRole :=
  input.rows.find? (·.kind == kind)

end Input

/-- The tags of a list with commas, in lower case and without blank ones. -/
def tags (list : Option String) : List String :=
  match list with
  | none => []
  | some text => ((split "," text).map fun tag => lowercase (trim tag)).filter (!·.isEmpty)

/-- Checks what the discovery of tables relies on: a row of field names, a place for every row
role, a label column, and separators of both kinds. -/
def Settings.validate (settings : Settings) : Outcome Unit :=
  let input := settings.input
  if (input.role? .fieldName).isNone then .error .missingFieldNameRow
  else
    match input.rows.find? (!·.isPlaced) with
    | some role => .error (.unplacedRow role.kind)
    | none =>
      if input.labelColumn == 0 then .error .zeroLabelColumn
      else if input.arraySeparators.isEmpty || input.objectSeparators.isEmpty then
        .error .emptySeparators
      else .ok ()

end TypedTables.Config
