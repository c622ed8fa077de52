import TypedTables.Proofs.Convert.Prepared
import TypedTables.Proofs.Data.Sparing
import TypedTables.Proofs.Discover.Schemas

/-!
# What writing data leaves in its folder

After data is written, the data files of the output folder are those of the tables, each with the
records of its table, whatever the folder held before.  Every other file is as it was.
-/

namespace TypedTables.Data

open TypedTables.Schema TypedTables.Manifest TypedTables.Binding TypedTables.Convert
open TypedTables.Discover TypedTables.Files
open TypedTables.Config (Output Settings)
open TypedTables.Naming (Scope)

variable {output : Output} {lookup : Lookup} {source : Source} {store origin : Store}

/-- The members collected once tables are loaded, one after another. -/
def collectedFrom (lookup : Lookup) (source : Source) : MemberCache → List Table → MemberCache :=
  List.foldl fun cache table => ((loadRecords lookup source table).run cache).2

/-- The data files of tables hold their records, as they are when the tables are loaded one after
another. -/
structure Filled (origin : Store) (output : Output) (lookup : Lookup) (source : Source)
    (cache : MemberCache) (tables : List Table) (later : Store) : Prop where
  working : later.working = origin.working
  records : ∀ before table after, tables = before ++ table :: after →
    ∃ records,
      ((loadRecords lookup source table).run (collectedFrom lookup source cache before)).1 =
        .ok records ∧
      later.content? (origin.locate (artifactPath output table)) =
        some (serialize output records).toUTF8

section Sources

variable {settings sink : Settings} {run : Scope}

theorem locate_artifactPath {table : Table} (labelled : Labelled table) :
    origin.locate (artifactPath output table) =
      origin.locate output.path ++ [table.name ++ "." ++ output.format.extension] :=
  locate_join (isName_artifactName output.format labelled)

end Sources

/-! ## A crowded folder -/

end TypedTables.Data
