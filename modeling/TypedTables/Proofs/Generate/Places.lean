import TypedTables.Generate.Code
import TypedTables.Proofs.Files.Paths
import TypedTables.Proofs.Naming.Identifiers

/-!
# Places of generated files

The source, the library and the manifest of a bundle stand at places of their own, the first two
in the output folder, whatever the module is called.
-/

namespace TypedTables.Generate

open TypedTables.Files
open TypedTables.Config (Code)

/-! ## Names of generated files -/

theorem slash_not_mem_crateName (code : Code) : '/' ∉ (crateName code).toList := by
  unfold crateName Naming.withoutRawMark
  rw [String.toList_ofList]
  intro member
  have inSnakeCase := Naming.mem_of_mem_dropRawMarks member
  exact Naming.slash_not_mem_snakeCase code.moduleName inSnakeCase

theorem isName_sourceName (code : Code) : IsName (crateName code ++ ".rs") :=
  isName_append (slash_not_mem_crateName code) (by decide) (by decide)

theorem isName_artifactName (code : Code) : IsName ("lib" ++ crateName code ++ ".rlib") := by
  have whole : '/' ∉ ("lib" ++ crateName code).toList := by
    rw [String.toList_append, List.mem_append, not_or]
    exact ⟨by decide, slash_not_mem_crateName code⟩
  exact isName_append whole (by decide) (by decide)

/-- Names with different last characters differ. -/
theorem append_ne_append
    {left right : String} {last otherLast : Char} (ends : left.toList.getLast? = some last)
    (otherEnds : right.toList.getLast? = some otherLast) (different : last ≠ otherLast)
    (front otherFront : String) : front ++ left ≠ otherFront ++ right := by
  intro same
  have lasts := congrArg (fun text : String => text.toList.getLast?) same
  rw [String.toList_append, String.toList_append, List.getLast?_append, List.getLast?_append, ends,
    otherEnds, Option.some_or, Option.some_or] at lasts
  exact different (Option.some.inj lasts)

/-! ## Paths -/

/-- The path of the source of a bundle. -/
def sourcePath (code : Code) : String :=
  join code.outputDirectory (crateName code ++ ".rs")

/-- The path of the library of a bundle. -/
def artifactPath (code : Code) : String :=
  join code.outputDirectory ("lib" ++ crateName code ++ ".rlib")

/-- The path of the folder that a bundle is compiled in. -/
def scratchPath (code : Code) : String :=
  join code.scratchDirectory (crateName code)

/-- Compiling does not take away what is generated, and no generated file stands on the way to the
folder that is compiled in. -/
structure Apart (code : Code) (store : Store) : Prop where
  output : ¬ store.locate (scratchPath code) <+: store.locate code.outputDirectory
  source : ¬ store.locate (sourcePath code) <+: store.locate (scratchPath code)
  artifact : ¬ store.locate (artifactPath code) <+: store.locate (scratchPath code)
  manifest : ¬ store.locate (manifestPath code) <+: store.locate (scratchPath code)

section Places

variable {code : Code} {store : Store}

theorem locate_sourcePath :
    store.locate (sourcePath code) =
      store.locate code.outputDirectory ++ [crateName code ++ ".rs"] :=
  locate_join (isName_sourceName code)

theorem locate_artifactPath :
    store.locate (artifactPath code) =
      store.locate code.outputDirectory ++ ["lib" ++ crateName code ++ ".rlib"] :=
  locate_join (isName_artifactName code)

theorem locate_parent_sourcePath :
    store.locate (parent (sourcePath code)) = store.locate code.outputDirectory :=
  locate_parent_join (isName_sourceName code)

theorem locate_parent_artifactPath :
    store.locate (parent (artifactPath code)) = store.locate code.outputDirectory :=
  locate_parent_join (isName_artifactName code)

theorem artifact_ne_source :
    store.locate (artifactPath code) ≠ store.locate (sourcePath code) := by
  rw [locate_artifactPath, locate_sourcePath]
  intro same
  have named := List.singleton_inj.mp (List.append_cancel_left same)
  have libraryEnds : ".rlib".toList.getLast? = some 'b' := by decide
  have sourceEnds : ".rs".toList.getLast? = some 's' := by decide
  exact append_ne_append libraryEnds sourceEnds (by decide) _ _ named

theorem inside_not_prefix (folder : Location) (name : String) : ¬ folder ++ [name] <+: folder := by
  intro inside
  have lengths := inside.length_le
  rw [List.length_append, List.length_singleton] at lengths
  omega

theorem artifact_not_prefix_output :
    ¬ store.locate (artifactPath code) <+: store.locate code.outputDirectory := by
  rw [locate_artifactPath]
  exact inside_not_prefix _ _

/-- The manifest stands where no file with another ending stands. -/
theorem manifest_ne
    {folder : Location} {name ending : String} {last : Char}
    (ends : ending.toList.getLast? = some last) (different : last ≠ 'n') :
    store.locate (manifestPath code) ≠ folder ++ [name ++ ending] := by
  have written : ∃ text, manifestPath code = text ++ ".types.json" := by
    unfold manifestPath join Manifest.Model.fileName Manifest.Model.fileName.fileSuffix
    split
    · exact ⟨_, rfl⟩
    · split
      · exact ⟨_, (String.append_assoc).symm⟩
      · exact ⟨_, (String.append_assoc).symm⟩
  obtain ⟨text, shape⟩ := written
  have whole : '/' ∉ ".types.json".toList := by decide
  have long : 2 < ".types.json".length := by decide
  obtain ⟨above, stem, found⟩ := locate_append whole long store text
  rw [shape, found]
  intro same
  have named := List.singleton_inj.mp (List.append_inj_right' same rfl)
  have manifestEnds : ".types.json".toList.getLast? = some 'n' := by decide
  exact append_ne_append manifestEnds ends (Ne.symm different) stem name named

theorem manifest_ne_source :
    store.locate (manifestPath code) ≠ store.locate (sourcePath code) := by
  rw [locate_sourcePath]
  have ends : ".rs".toList.getLast? = some 's' := by decide
  exact manifest_ne ends (by decide)

theorem manifest_ne_artifact :
    store.locate (manifestPath code) ≠ store.locate (artifactPath code) := by
  rw [locate_artifactPath]
  have ends : ".rlib".toList.getLast? = some 'b' := by decide
  exact manifest_ne ends (by decide)

namespace Apart

theorem scratch_ne_nil (apart : Apart code store) : store.locate (scratchPath code) ≠ [] := by
  intro empty
  apply apart.output
  rw [empty]
  exact List.nil_prefix

theorem scratch_not_prefix
    (apart : Apart code store) {name : String}
    (away : ¬ store.locate code.outputDirectory ++ [name] <+: store.locate (scratchPath code)) :
    ¬ store.locate (scratchPath code) <+: store.locate code.outputDirectory ++ [name] := by
  intro inside
  rcases List.prefix_concat_iff.mp inside with same | above
  · exact away (same ▸ List.prefix_rfl)
  · exact apart.output above

theorem source_outside (apart : Apart code store) :
    ¬ store.locate (scratchPath code) <+: store.locate (sourcePath code) := by
  have away := apart.source
  rw [locate_sourcePath] at away ⊢
  exact apart.scratch_not_prefix away

theorem artifact_outside (apart : Apart code store) :
    ¬ store.locate (scratchPath code) <+: store.locate (artifactPath code) := by
  have away := apart.artifact
  rw [locate_artifactPath] at away ⊢
  exact apart.scratch_not_prefix away

end Apart

end Places

end TypedTables.Generate
