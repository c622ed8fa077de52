import TypedTables.Files.Update
import TypedTables.Generate.Code
import TypedTables.Json.Printer
import TypedTables.Manifest.Codec
import TypedTables.Records
import TypedTables.Yaml.Printer

/-!
# Data files

Every table with data has a file with its records.  The records are bound to the types of the
manifest, and data files of earlier runs whose tables are gone are taken away before.
-/

namespace TypedTables.Data

open TypedTables.Schema TypedTables.Manifest TypedTables.Binding TypedTables.Convert
open TypedTables.Discover TypedTables.Files TypedTables.Config TypedTables.Text

/-- The tables of a source that have data files. -/
def tablesWithData (source : Source) : List Table :=
  source.tables.tables.filter (·.hasData)

def artifactPath (output : Output) (table : Table) : String :=
  join output.path (table.name ++ "." ++ output.format.extension)

def serialize (output : Output) (records : List Value) : String :=
  let document := Document.list (records.map Value.toDocument)
  match output.format with
  | .json => (if output.pretty then Json.pretty document else Json.compact document) ++ "\n"
  | .yaml => Yaml.write document

/-- Whether a file name is that of a data file of a format; manifests are none. -/
def isArtifact (format : DataFormat) (name : String) : Bool :=
  (extension? name).any (equalIgnoringAsciiCase format.extension) &&
    !name.endsWith Model.fileName.fileSuffix

/-- The manifest that the types of tables are taken from when there is none of this run. -/
def storedModel (store : Store) (code : Code) (tables : TableSet) : Outcome Model :=
  let path := Generate.manifestPath code
  let location := store.locate path
  if store.hasFile location || store.hasFolder location then
    match store.text? path with
    | none => .error .inputOutput
    | some text =>
      match Model.ofText? text with
      | some model => .ok model
      | none => .error (.invalidManifest path)
  else .error (.unboundTable ((tables.tables.head?.map (·.name)).getD ""))

/-- Binds the tables of a source, and takes away the data files of tables that are gone. -/
def prepare (settings : Settings) (source : Source) (model : Option Model) : Update Catalog := do
  let store ← get
  let bound ← match model with
    | some given => pure given
    | none => Update.ofOutcome (storedModel store settings.code source.tables)
  let catalog ← Update.ofOutcome (Catalog.ofTables source.tables bound settings.code)
  let output := settings.output
  makeFolder output.path
  let kept := (tablesWithData source).map fun table => store.locate (artifactPath output table)
  let _ ← removeFiles output.path (isArtifact output.format) kept
  return catalog

/-- Writes the data files of tables, given the members collected so far; the paths of the files,
and the members collected then. -/
def writeTables (output : Output) (lookup : Lookup) (source : Source) :
    MemberCache → List Table → Update (List String × MemberCache)
  | cache, [] => return ([], cache)
  | cache, table :: rest => do
    let (outcome, collected) := (loadRecords lookup source table).run cache
    let records ← Update.ofOutcome outcome
    let path := artifactPath output table
    let _ ← writeIfChanged path (serialize output records).toUTF8
    let (paths, last) ← writeTables output lookup source collected rest
    return (path :: paths, last)

/-- What the conversions of a source's cells look things up in. -/
def lookupFor (settings : Settings) (source : Source) (catalog : Catalog) (chain : Chain) :
    Lookup :=
  { tables := source.tables, catalog, separators := Separators.ofInput settings.input, chain }

/-- Writes the data files of a source's tables: their paths, and the members collected on the
way. -/
def writeAll (settings : Settings) (source : Source) (catalog : Catalog) (chain : Chain) :
    Update (List String × MemberCache) :=
  writeTables settings.output (lookupFor settings source catalog chain) source []
    (tablesWithData source)

end TypedTables.Data
