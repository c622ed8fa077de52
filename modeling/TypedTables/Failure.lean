import TypedTables.Config.RowKind
import TypedTables.Convert.ScopeKind
import TypedTables.Text.Quoted

/-!
# Failures

A failure is a cause; its kind and its message are functions of the cause.  Some kinds can also be
raised with a message of the caller's own.
-/

namespace TypedTables

open TypedTables.Text

/-- The notation of a configuration text. -/
inductive Notation
  | json
  | toml
  | yaml
  deriving Repr, DecidableEq

def Notation.title : Notation → String
  | json => "JSON"
  | toml => "TOML"
  | yaml => "YAML"

/-- The cell that a conversion failed in. -/
structure CellPosition where
  table : String
  row : Nat
  column : String
  columnIndex : Nat
  deriving Repr, DecidableEq

/-- The broad kind of a failure. -/
inductive FailureKind
  | configuration
  | discovery
  | conversion
  | coercion
  | generation
  | template
  | binding
  | source
  | inputOutput
  | serialization
  deriving Repr, DecidableEq

/-- Why an operation failed. -/
inductive Failure
  -- configuration
  | configuration (message : String)
  | invalidConfig (written : Notation)
  | unreadableConfig (path : String)
  | unsupportedConfig (extension : String)
  | missingFieldNameRow
  | unplacedRow (kind : Config.RowKind)
  | zeroLabelColumn
  | emptySeparators
  | unknownParameter (name template : String)
  | invalidPattern (pattern : String)
  | unresolvedType (field declared : String)
  | sparseIndices (table : String) (indices : List Nat) (field : String)
  | separatorOutsideScope (field : String)
  | separatorOverflow (field : String) (kind : Convert.ScopeKind) (depth : Nat)
      (separators : List String)
  | containsItself (typeName : String)
  | indexNotNumber (table field text : String)
  | invalidDefault (field : String) (cause : Failure)
  | unknownType (declared : String)
  | fieldType (table field : String) (cause : Failure)
  | inputNotFound (directory : String)
  -- discovery
  | discovery (message : String)
  | discoveryIn (table message : String)
  | duplicateTable (table : String)
  | unknownTable (table : String)
  -- conversion of a cell
  | conversion (position : CellPosition) (value target message : String)
  -- coercion of a value
  | coercion (value target : String)
  | coercionIn (value target context : String)
  -- generation of code
  | generation (message : String)
  | generationWith (message : String) (diagnostics : List String)
  | invalidTypeName (table name : String)
  | repeatedTypeName (table name : String)
  | memberCollision (table member : String)
  | unknownTableType (table : String)
  | missingEnumColumns (table : String)
  | repeatedVariant (table variant : String) (row : Nat)
  | emptyEnum (table : String)
  | compilerNotRun (program : String)
  | compilationFailed (source : String) (diagnostics : List String)
  | invalidNamespace (segment : String)
  | overwritesModuleIndex (typeName : String)
  | fileCollision (other typeName file : String)
  -- templates
  | template (message : String)
  | invalidTemplate (name : String)
  | renderingFailed (name : String)
  | unreadableTemplate (path : String)
  -- binding
  | unboundTable (table : String)
  -- sources
  | source (path message : String)
  | unreadableSource (path : String)
  -- files
  | inputOutput
  -- serialization
  | serialization (message : String)
  | invalidManifest (path : String)
  deriving Repr, DecidableEq

namespace Failure

def kind : Failure → FailureKind
  | configuration _ | invalidConfig _ | unreadableConfig _ | unsupportedConfig _
  | missingFieldNameRow | unplacedRow _ | zeroLabelColumn | emptySeparators
  | unknownParameter _ _ | invalidPattern _ | unresolvedType _ _ | sparseIndices _ _ _
  | separatorOutsideScope _ | separatorOverflow _ _ _ _ | containsItself _ | indexNotNumber _ _ _
  | invalidDefault _ _ | unknownType _ | fieldType _ _ _ | inputNotFound _ => .configuration
  | discovery _ | discoveryIn _ _ | duplicateTable _ | unknownTable _ => .discovery
  | conversion _ _ _ _ => .conversion
  | coercion _ _ | coercionIn _ _ _ => .coercion
  | generation _ | generationWith _ _ | invalidTypeName _ _ | repeatedTypeName _ _
  | memberCollision _ _ | unknownTableType _ | missingEnumColumns _ | repeatedVariant _ _ _
  | emptyEnum _ | compilerNotRun _ | compilationFailed _ _ | invalidNamespace _
  | overwritesModuleIndex _ | fileCollision _ _ _ => .generation
  | template _ | invalidTemplate _ | renderingFailed _ | unreadableTemplate _ => .template
  | unboundTable _ => .binding
  | source _ _ | unreadableSource _ => .source
  | inputOutput => .inputOutput
  | serialization _ | invalidManifest _ => .serialization

/-- What stands in front of the cause in a message of a kind. -/
def heading : FailureKind → String
  | .configuration => "Configuration error: "
  | .discovery => "Schema discovery failed"
  | .conversion => "Conversion failed. "
  | .coercion => "Type coercion failed: "
  | .generation => "Code generation failed: "
  | .template => "Template error: "
  | .binding => "No generated type found for table "
  | .source => "Failed to read "
  | .inputOutput => "IO error"
  | .serialization => "Serialization error: "

def named (name : String) : String :=
  "'" ++ name ++ "'"

/-- Diagnostics below a message, one after the other. -/
def diagnosticLines (diagnostics : List String) : String :=
  if diagnostics.isEmpty then "" else "\n" ++ String.intercalate "\n" diagnostics

/-- The message of a failure without the heading of its kind. -/
def detail : Failure → String
  | configuration message => message
  | invalidConfig written => s!"invalid {written.title} config"
  | unreadableConfig path => s!"failed to read config file {path}"
  | unsupportedConfig extension => "unsupported config format " ++ named ("." ++ extension)
  | missingFieldNameRow => "missing field name row config"
  | unplacedRow kind => s!"row role {kind.title} needs an index or a pattern"
  | zeroLabelColumn => "label column is 1-based"
  | emptySeparators => "separator lists must not be empty"
  | unknownParameter name written =>
    s!"unknown parameter {named name} in template {named written}"
  | invalidPattern pattern => s!"invalid pattern {named pattern}"
  | unresolvedType field declared =>
    s!"field {named field} has unresolved type {named declared}"
  | sparseIndices table indices field =>
    s!"table {named table}: serialization indices must be unique and dense, found " ++
      s!"{bracketed (indices.map toString)} at field {named field}"
  | separatorOutsideScope field =>
    s!"field {named field}: separator requested outside an array or object scope"
  | separatorOverflow field kind depth separators =>
    s!"separator depth overflow, field: {field}, {kind.title} depth: {depth}, separators: " ++
      bracketed (separators.map quoted)
  | containsItself typeName => s!"type {named typeName} contains itself by value"
  | indexNotNumber table field text =>
    s!"table {named table} field {named field}: index keyword expects a number, got {named text}"
  | invalidDefault field cause =>
    s!"field {named field}: invalid default value: " ++ heading cause.kind ++ cause.detail
  | unknownType declared =>
    s!"not found type {named declared}, declare a table with that name or add a type mapping"
  | fieldType table field cause =>
    s!"table {named table} field {named field}: " ++ heading cause.kind ++ cause.detail
  | inputNotFound directory => s!"input directory not found: {directory}"
  | discovery message => ": " ++ message
  | discoveryIn table message => s!" for table {named table}: {message}"
  | duplicateTable table => s!" for table {named table}: duplicate table name"
  | unknownTable table => s!": unknown table {named table}"
  | conversion position value target message =>
    s!"table: [{position.table}], row: <{position.row}>, column: <{position.column}>, " ++
      s!"index: <{position.columnIndex}>, value: <{value}>, type: <{target}>: {message}"
  | coercion value target => s!"cannot convert {named value} to {target}"
  | coercionIn value target context => s!"cannot convert {named value} to {target} ({context})"
  | generation message => message
  | generationWith message diagnostics => message ++ diagnosticLines diagnostics
  | invalidTypeName table name =>
    s!"table {named table}: type name {named name} is not a valid identifier"
  | repeatedTypeName table name =>
    s!"table {named table}: type name {named name} is already used by another table"
  | memberCollision table member =>
    s!"table {named table}: columns collide on member {named member}"
  | unknownTableType table => s!"unknown table type {named table}"
  | missingEnumColumns table =>
    s!"enum table {named table} needs 'Name' and 'Value' columns"
  | repeatedVariant table variant row =>
    s!"enum table {named table}: duplicate variant {named variant} at row {row}"
  | emptyEnum table => s!"enum table {named table} has no rows"
  | compilerNotRun program => s!"failed to run compiler {named program}"
  | compilationFailed path diagnostics =>
    s!"compiling {path} failed" ++ diagnosticLines diagnostics
  | invalidNamespace segment => s!"namespace segment {named segment} is not an identifier"
  | overwritesModuleIndex typeName =>
    s!"type {named typeName} would overwrite the module index mod.rs"
  | fileCollision other typeName file =>
    s!"types {named other} and {named typeName} both map to {file}.rs"
  | template message => message
  | invalidTemplate name => s!"template {named name}"
  | renderingFailed name => s!"render {named name}"
  | unreadableTemplate path => s!"failed to read template {path}"
  | unboundTable table => s!"{named table}, try to build code first"
  | source path message => s!"{named path}: {message}"
  | unreadableSource path => named path
  | inputOutput => ""
  | serialization message => message
  | invalidManifest path => s!"invalid type manifest {path}"

def message (failure : Failure) : String :=
  heading failure.kind ++ failure.detail

end Failure

/-- The outcome of an operation that may fail. -/
abbrev Outcome (α : Type) := Except Failure α

end TypedTables
