import TypedTables.Config.Settings
import TypedTables.Document.Decode

/-!
# Settings as documents

Settings are read from a document in which everything may be left out, except the kind of a row
and the two names of a type mapping.  They are written with every setting in its place.
-/

namespace TypedTables.Config

open TypedTables.Document TypedTables.Text

/-- Reads a text that is written as one: quoted, or plain without the form of another scalar. -/
def readWord : Document.Reader String
  | .text value => some value
  | .plain value => if Plain.isText value then some value else none
  | _ => none

/-- Reads separators: a text with white space between them, or a list of texts. -/
def readSeparators : Document.Reader (List String)
  | .list items => items.mapM readWord
  | document => (readWord document).map words

def readRole (document : Document) : Option RowRole := do
  let fields ← fields? ["kind", "index", "pattern", "value_pattern"] document
  return {
    kind := ← fields.required "kind" (Reader.named RowKind.ofName?)
    index := ← fields.optional "index" Reader.natural
    pattern := ← fields.optional "pattern" Reader.text
    valuePattern := ← fields.optional "value_pattern" Reader.text }

def readInput (document : Document) : Option Input := do
  let standard : Input := {}
  let fields ← fields? ["provider", "directory", "file_include_pattern", "file_exclude_pattern",
    "table_name_pattern", "offset_row", "offset_column", "label_column", "rows", "tag_include",
    "tag_exclude", "array_separators", "object_separators"] document
  return {
    provider := ← fields.withDefault "provider" (Reader.named Provider.ofName?) standard.provider
    directory := ← fields.withDefault "directory" Reader.text standard.directory
    includePattern := ← fields.optional "file_include_pattern" Reader.text
    excludePattern := ← fields.optional "file_exclude_pattern" Reader.text
    tableNamePattern := ← fields.optional "table_name_pattern" Reader.text
    offsetRow := ← fields.withDefault "offset_row" Reader.natural standard.offsetRow
    offsetColumn := ← fields.withDefault "offset_column" Reader.natural standard.offsetColumn
    labelColumn := ← fields.withDefault "label_column" Reader.natural standard.labelColumn
    rows := ← fields.withDefault "rows" (Reader.list readRole) standard.rows
    tagInclude := ← fields.optional "tag_include" Reader.text
    tagExclude := ← fields.optional "tag_exclude" Reader.text
    arraySeparators :=
      ← fields.withDefault "array_separators" readSeparators standard.arraySeparators
    objectSeparators :=
      ← fields.withDefault "object_separators" readSeparators standard.objectSeparators }

def readOutput (document : Document) : Option Output := do
  let standard : Output := {}
  let fields ← fields? ["path", "format", "pretty"] document
  return {
    path := ← fields.withDefault "path" Reader.text standard.path
    format := ← fields.withDefault "format" (Reader.named DataFormat.ofName?) standard.format
    pretty := ← fields.withDefault "pretty" Reader.bool standard.pretty }

def readCode (document : Document) : Option Code := do
  let standard : Code := {}
  let fields ← fields? ["output_dir", "assembly_name", "namespace", "type_name_template", "format",
    "template_path", "index_template_path", "generate_indexer", "temp_dir", "compiler", "edition",
    "references"] document
  return {
    outputDirectory := ← fields.withDefault "output_dir" Reader.text standard.outputDirectory
    moduleName := ← fields.withDefault "assembly_name" Reader.text standard.moduleName
    space := ← fields.optional "namespace" Reader.text
    typeNameTemplate :=
      ← fields.withDefault "type_name_template" Reader.text standard.typeNameTemplate
    layout := ← fields.withDefault "format" (Reader.named Layout.ofName?) standard.layout
    templatePath := ← fields.optional "template_path" Reader.text
    indexTemplatePath := ← fields.optional "index_template_path" Reader.text
    generateIndexer := ← fields.withDefault "generate_indexer" Reader.bool standard.generateIndexer
    scratchDirectory := ← fields.withDefault "temp_dir" Reader.text standard.scratchDirectory
    compiler := ← fields.withDefault "compiler" Reader.text standard.compiler
    edition := ← fields.withDefault "edition" Reader.text standard.edition
    references := ← fields.withDefault "references" (Reader.list Reader.text) standard.references }

def readMapping (document : Document) : Option TypeMapping := do
  let fields ← fields? ["name", "mapping"] document
  return {
    name := ← fields.required "name" Reader.text
    mapping := ← fields.required "mapping" Reader.text }

def readSettings (document : Document) : Option Settings := do
  let fields ← fields? ["input", "output", "code", "type_mappings"] document
  return {
    input := ← fields.withDefault "input" readInput {}
    output := ← fields.withDefault "output" readOutput {}
    code := ← fields.withDefault "code" readCode {}
    typeMappings := ← fields.withDefault "type_mappings" (Reader.list readMapping) [] }

def optionalText (value : Option String) : Document :=
  match value with
  | some written => .text written
  | none => .null

def textList (values : List String) : Document :=
  .list (values.map .text)

def roleDocument (role : RowRole) : Document :=
  let index : Document := match role.index with
    | some row => .integer row
    | none => .null
  .mapping [
    ("kind", .text role.kind.name), ("index", index), ("pattern", optionalText role.pattern),
    ("value_pattern", optionalText role.valuePattern)]

def inputDocument (input : Input) : Document :=
  .mapping [
    ("provider", .text input.provider.name), ("directory", .text input.directory),
    ("file_include_pattern", optionalText input.includePattern),
    ("file_exclude_pattern", optionalText input.excludePattern),
    ("table_name_pattern", optionalText input.tableNamePattern),
    ("offset_row", .integer input.offsetRow), ("offset_column", .integer input.offsetColumn),
    ("label_column", .integer input.labelColumn), ("rows", .list (input.rows.map roleDocument)),
    ("tag_include", optionalText input.tagInclude), ("tag_exclude", optionalText input.tagExclude),
    ("array_separators", textList input.arraySeparators),
    ("object_separators", textList input.objectSeparators)]

/-- The document of the settings of the output. -/
def outputDocument (output : Output) : Document :=
  .mapping [
    ("path", .text output.path), ("format", .text output.format.name),
    ("pretty", .bool output.pretty)]

/-- The document of the settings of generated code. -/
def codeDocument (code : Code) : Document :=
  .mapping [
    ("output_dir", .text code.outputDirectory), ("assembly_name", .text code.moduleName),
    ("namespace", optionalText code.space), ("type_name_template", .text code.typeNameTemplate),
    ("format", .text code.layout.name), ("template_path", optionalText code.templatePath),
    ("index_template_path", optionalText code.indexTemplatePath),
    ("generate_indexer", .bool code.generateIndexer), ("temp_dir", .text code.scratchDirectory),
    ("compiler", .text code.compiler), ("edition", .text code.edition),
    ("references", textList code.references)]

def settingsDocument (settings : Settings) : Document :=
  let mappingDocument (mapping : TypeMapping) : Document :=
    .mapping [("name", .text mapping.name), ("mapping", .text mapping.mapping)]
  .mapping [
    ("input", inputDocument settings.input), ("output", outputDocument settings.output),
    ("code", codeDocument settings.code),
    ("type_mappings", .list (settings.typeMappings.map mappingDocument))]

end TypedTables.Config
