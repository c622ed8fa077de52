import TypedTables.Build
import TypedTables.Proofs.Discover.Labels
import TypedTables.Proofs.Generate.Sparing

/-!
# Files that writing data leaves alone

Writing data takes every file of the data format out of the output folder that it will not write,
whoever put it there.  Manifests are the only exception.
-/

namespace TypedTables.Data

open TypedTables.Schema TypedTables.Manifest TypedTables.Binding TypedTables.Convert
open TypedTables.Discover TypedTables.Files TypedTables.Text
open TypedTables.Config (DataFormat Output Settings)

/-- A location is none of a data file of the output folder. -/
def Aside (output : Output) (store : Store) (location : Location) : Prop :=
  ∀ name, location = store.locate output.path ++ [name] → isArtifact output.format name = false

/-! ## Names of data files -/

theorem point_toList : ".".toList = ['.'] := by
  decide

theorem point_not_mem_extension (format : DataFormat) : '.' ∉ format.extension.toList := by
  cases format <;> decide

theorem splitExtension_append
    {stem extension : String} (nonempty : stem ≠ "") (plainStem : '.' ∉ stem.toList)
    (plain : '.' ∉ extension.toList) :
    splitExtension (stem ++ "." ++ extension) = (stem, some extension) := by
  have pieces : piecesBy (· == '.') (stem ++ "." ++ extension).toList =
      [stem.toList, extension.toList] := by
    rw [piecesBy_eq_piecesAt, String.toList_append, String.toList_append, point_toList,
      List.append_assoc, piecesAt_append plainStem, piecesAt_of_not_mem plain]
  unfold splitExtension
  rw [pieces]
  have visible : stem.toList.isEmpty = false := by simpa using nonempty
  simp [visible]

section Names

variable {table : Table} (format : DataFormat)

theorem not_mem_name {c : Char} (labelled : Labelled table)
    (foreign : Naming.isIdentifierChar c = false) : c ∉ table.name.toList := by
  obtain ⟨-, label, named⟩ := labelled
  intro member
  rw [named] at member
  rw [Naming.isIdentifierChar_of_mem_sanitize member] at foreign
  cases foreign

theorem isName_artifactName (labelled : Labelled table) :
    IsName (table.name ++ "." ++ format.extension) := by
  have whole : '/' ∉ (table.name ++ ".").toList := by
    rw [String.toList_append, List.mem_append, not_or]
    exact ⟨not_mem_name labelled (by decide), by decide⟩
  have extensionWhole : '/' ∉ format.extension.toList := by cases format <;> decide
  exact isName_append whole extensionWhole (by cases format <;> decide)

/-- The name of a data file has one point, and that of a manifest has two. -/
theorem endsWith_fileSuffix_artifactName (labelled : Labelled table) :
    (table.name ++ "." ++ format.extension).endsWith Model.fileName.fileSuffix = false := by
  rw [Bool.eq_false_iff, ne_eq, String.endsWith_eq_endsWith_toSlice,
    String.Slice.endsWith_string_iff]
  intro suffix
  have points := suffix.sublist.count_le '.'
  have stem := List.count_eq_zero.mpr (not_mem_name labelled (c := '.') (by decide))
  have extension := List.count_eq_zero.mpr (point_not_mem_extension format)
  simp [Model.fileName.fileSuffix, stem, extension] at points

theorem isArtifact_artifactName (labelled : Labelled table) :
    isArtifact format (table.name ++ "." ++ format.extension) = true := by
  have isName := isName_artifactName format labelled
  have named : fileName? (table.name ++ "." ++ format.extension) =
      some (table.name ++ "." ++ format.extension) := by
    rw [fileName?, components_name isName]
    simp [isName.forward]
  have ends : extension? (table.name ++ "." ++ format.extension) = some format.extension := by
    rw [extension?, named, Option.bind_some,
      splitExtension_append labelled.1 (not_mem_name labelled (by decide))
        (point_not_mem_extension format)]
  rw [isArtifact, ends, endsWith_fileSuffix_artifactName format labelled]
  simp [equalIgnoringAsciiCase]

end Names

/-! ## Data files -/

variable {settings : Settings} {source : Source} {origin : Store} {location : Location}
  {held : Option ByteArray}

theorem Aside.artifact_ne
    {output : Output} (aside : Aside output origin location) {table : Table}
    (labelled : Labelled table) : origin.locate (artifactPath output table) ≠ location := by
  intro same
  unfold artifactPath at same
  rw [locate_join (isName_artifactName output.format labelled)] at same
  have foreign := aside _ same.symm
  rw [isArtifact_artifactName output.format labelled] at foreign
  cases foreign

end TypedTables.Data
