import TypedTables.Proofs.Generate.Sparing
import TypedTables.Proofs.Outcome

/-!
# Sources of a run

What a run is to write as sources can be said without running it: a bundle is one file, and else
every type has a file, with the index behind them.  No two of these files have one name, and none
has the name of the library or of the manifest.
-/

namespace TypedTables.Generate

open TypedTables.Discover TypedTables.Files TypedTables.Text
open TypedTables.Config (Code)

/-- Whether a run makes a library. -/
def compiles (code : Code) : Bool :=
  code.layout == .bundle && !isBlankText code.compiler

/-- The name of the library of a bundle. -/
def artifactName (code : Code) : String :=
  "lib" ++ crateName code ++ ".rlib"

/-- The text of a module with the declarations of a plan in it. -/
def bundleText (code : Code) (templates : Templates) (plan : Plan) : Outcome String := do
  let spaces ← spacesOf code
  let sources ← plan.declarations.mapM templates.renderType
  templates.renderIndex { moduleName := code.moduleName, isBundle := true, spaces, sources }

/-- The name and the text of the file of a type. -/
def typeFile (templates : Templates) (declaration : Declaration) : Outcome (String × String) := do
  let text ← templates.renderType declaration
  return (fileStem declaration.name ++ ".rs", fileHeader ++ text)

/-- The text of the index of types that have files of their own. -/
def indexText (code : Code) (templates : Templates) (plan : Plan) : Outcome String :=
  templates.renderIndex {
    moduleName := code.moduleName
    isBundle := false
    files := plan.declarations.map fun declaration => Naming.snakeCase declaration.name }

/-- The names and texts of the sources that a plan is written as. -/
def plannedFiles (code : Code) (templates : Templates) (plan : Plan) :
    Outcome (List (String × String)) :=
  match code.layout with
  | .bundle => do
    let text ← bundleText code templates plan
    return [(crateName code ++ ".rs", text)]
  | .perType | .perTypeWithManifest => do
    checkFiles [] plan.declarations
    let files ← plan.declarations.mapM (typeFile templates)
    let index ← indexText code templates plan
    return files ++ [("mod.rs", index)]

/-- The names and texts of the sources that the tables of a source are written as. -/
def sourcesOf (code : Code) (templates : Templates) (source : Source) :
    Outcome (List (String × String)) := do
  let plan ← Plan.ofSource source code
  plannedFiles code templates plan

/-! ## Names -/

theorem isName_of_identifierChars
    {name : String} (nonempty : name ≠ "")
    (all : ∀ c ∈ name.toList, Naming.isIdentifierChar c = true) : IsName name where
  nonempty := nonempty
  moves := by
    rintro rfl
    exact absurd (all '.' (by decide)) (by decide)
  forward := by
    rintro rfl
    exact absurd (all '.' (by decide)) (by decide)
  whole := by
    intro member
    exact absurd (all '/' member) (by decide)

theorem isName_crateName (code : Code) : IsName (crateName code) :=
  isName_of_identifierChars (Naming.module_ne_empty code.moduleName) fun _ =>
    Naming.isIdentifierChar_of_mem_module

theorem isName_fileStem (typeName : String) : IsName (fileStem typeName ++ ".rs") :=
  isName_sourceName { moduleName := typeName }

theorem isName_packageName : IsName "Cargo.toml" where
  toLeadsOn := leadsOn_of_long (by decide)
  whole := by decide

theorem isName_manifestName {code : Code} (whole : '/' ∉ code.moduleName.toList) :
    IsName (Manifest.Model.fileName code.moduleName) :=
  isName_append whole (by decide) (by decide)

theorem artifactName_ne_source (code : Code) (stem : String) :
    artifactName code ≠ stem ++ ".rs" := by
  have libraryEnds : ".rlib".toList.getLast? = some 'b' := by decide
  have sourceEnds : ".rs".toList.getLast? = some 's' := by decide
  exact append_ne_append libraryEnds sourceEnds (by decide) _ stem

theorem manifestName_ne_package (code : Code) :
    Manifest.Model.fileName code.moduleName ≠ "Cargo.toml" := by
  have manifestEnds : ".types.json".toList.getLast? = some 'n' := by decide
  have packageEnds : ".toml".toList.getLast? = some 'l' := by decide
  exact append_ne_append manifestEnds packageEnds (by decide) code.moduleName "Cargo"

/-! ## Endings -/

/-- The name is that of a source or a library. -/
def IsGenerated (name : String) : Prop :=
  generatedEndings.any (name.endsWith ·) = true

theorem isGenerated_source (stem : String) : IsGenerated (stem ++ ".rs") := by
  simp [IsGenerated, generatedEndings, endsWith_append]

theorem isGenerated_artifactName (code : Code) : IsGenerated (artifactName code) := by
  simp [IsGenerated, generatedEndings, artifactName, endsWith_append]

theorem exists_of_endsWith {name ending : String} (ends : name.endsWith ending = true) :
    ∃ front, name = front ++ ending := by
  rw [String.endsWith_eq_endsWith_toSlice, String.Slice.endsWith_string_iff] at ends
  obtain ⟨front, shape⟩ := ends
  refine ⟨String.ofList front, String.toList_injective ?_⟩
  rw [String.toList_append, String.toList_ofList, shape]
  simp

theorem exists_of_isGenerated {name : String} (isGenerated : IsGenerated name) :
    ∃ stem, name = stem ++ ".rs" ∨ name = stem ++ ".rlib" := by
  obtain ⟨ending, member, ends⟩ := List.any_eq_true.mp isGenerated
  obtain ⟨stem, shape⟩ := exists_of_endsWith ends
  refine ⟨stem, ?_⟩
  rcases List.mem_cons.mp member with source | library
  · exact Or.inl (source ▸ shape)
  · exact Or.inr (List.mem_singleton.mp library ▸ shape)

theorem not_isGenerated_append
    {ending : String} {last : Char} (ends : ending.toList.getLast? = some last)
    (noSource : last ≠ 's') (noLibrary : last ≠ 'b') (front : String) :
    ¬ IsGenerated (front ++ ending) := by
  intro isGenerated
  have sourceEnds : ".rs".toList.getLast? = some 's' := by decide
  have libraryEnds : ".rlib".toList.getLast? = some 'b' := by decide
  obtain ⟨stem, source | library⟩ := exists_of_isGenerated isGenerated
  · exact append_ne_append ends sourceEnds noSource front stem source
  · exact append_ne_append ends libraryEnds noLibrary front stem library

theorem not_isGenerated_manifestName (code : Code) :
    ¬ IsGenerated (Manifest.Model.fileName code.moduleName) := by
  have ends : ".types.json".toList.getLast? = some 'n' := by decide
  exact not_isGenerated_append ends (by decide) (by decide) code.moduleName

theorem not_isGenerated_packageName : ¬ IsGenerated "Cargo.toml" := by
  have ends : ".toml".toList.getLast? = some 'l' := by decide
  exact not_isGenerated_append ends (by decide) (by decide) "Cargo"

/-! ## Files of types -/

variable {code : Code} {templates : Templates}

theorem typeFile_eq_ok {declaration : Declaration} {file : String × String} :
    typeFile templates declaration = .ok file ↔
      ∃ text, templates.renderType declaration = .ok text ∧
        (fileStem declaration.name ++ ".rs", fileHeader ++ text) = file := by
  unfold typeFile
  rw [Outcome.bind_eq_ok_iff]
  simp only [Outcome.pure_eq_ok_iff]

theorem names_of_mapM_typeFile
    {declarations : List Declaration} {files : List (String × String)}
    (made : declarations.mapM (typeFile templates) = .ok files) :
    files.map (·.1) = declarations.map fun declaration => fileStem declaration.name ++ ".rs" := by
  rw [Outcome.mapM_eq_ok_iff] at made
  induction made with
  | nil => rfl
  | cons first _ inductionHypothesis =>
      obtain ⟨text, _, rfl⟩ := typeFile_eq_ok.mp first
      rw [List.map_cons, List.map_cons, inductionHypothesis]

/-- Checked types have files of their own, none of them the index. -/
theorem nodup_of_checkFiles
    {seen : List (String × String)} {declarations : List Declaration}
    (checked : checkFiles seen declarations = .ok ()) :
    (declarations.map fun declaration => fileStem declaration.name).Nodup ∧
      ∀ declaration ∈ declarations, fileStem declaration.name ≠ "mod" ∧
        seen.lookup (fileStem declaration.name) = none := by
  -- The file of each type is among the seen ones when the rest is checked, so that the look-ups
  -- of the rest keep it apart from all of theirs.
  induction declarations generalizing seen with
  | nil => simp
  | cons declaration rest inductionHypothesis =>
      rw [checkFiles] at checked
      split at checked
      · cases checked
      · next notIndex =>
          split at checked
          · cases checked
          · next unseen =>
              obtain ⟨distinct, apart⟩ := inductionHypothesis checked
              have further : ∀ other ∈ rest, fileStem other.name ≠ fileStem declaration.name ∧
                  seen.lookup (fileStem other.name) = none := by
                intro other member
                have absent := (apart other member).2
                rw [List.lookup_cons] at absent
                split at absent
                · cases absent
                · next different => exact ⟨by simpa using different, absent⟩
              constructor
              · rw [List.map_cons, List.nodup_cons]
                refine ⟨?_, distinct⟩
                rw [List.mem_map]
                rintro ⟨other, member, same⟩
                exact (further other member).1 same
              · intro other member
                rcases List.mem_cons.mp member with rfl | inRest
                · exact ⟨by simpa using notIndex, unseen⟩
                · exact ⟨(apart other inRest).1, (further other inRest).2⟩

theorem nodup_names_of_checkFiles
    {declarations : List Declaration} (checked : checkFiles [] declarations = .ok ()) :
    (declarations.map fun declaration => fileStem declaration.name ++ ".rs").Nodup ∧
      "mod.rs" ∉ declarations.map fun declaration => fileStem declaration.name ++ ".rs" := by
  obtain ⟨distinct, apart⟩ := nodup_of_checkFiles checked
  constructor
  · have joined : (declarations.map fun declaration => fileStem declaration.name ++ ".rs") =
        (declarations.map fun declaration => fileStem declaration.name).map (· ++ ".rs") := by
      rw [List.map_map]
      rfl
    rw [joined]
    exact distinct.map fun left right same => (String.append_left_inj _).mp same
  · rw [List.mem_map]
    rintro ⟨declaration, member, same⟩
    have stem : fileStem declaration.name ++ ".rs" = "mod" ++ ".rs" := same
    exact (apart declaration member).1 ((String.append_left_inj _).mp stem)

/-! ## Planned files -/

variable {plan : Plan} {sources : List (String × String)}

theorem bundleText_eq_ok {text : String} :
    bundleText code templates plan = .ok text ↔
      ∃ spaces, spacesOf code = .ok spaces ∧
        ∃ declared, plan.declarations.mapM templates.renderType = .ok declared ∧
          templates.renderIndex
            { moduleName := code.moduleName, isBundle := true, spaces, sources := declared } =
              .ok text := by
  unfold bundleText
  simp only [Outcome.bind_eq_ok_iff]

theorem plannedFiles_bundle (layout : code.layout = .bundle) :
    plannedFiles code templates plan = .ok sources ↔
      ∃ text, bundleText code templates plan = .ok text ∧
        [(crateName code ++ ".rs", text)] = sources := by
  unfold plannedFiles
  rw [layout]
  simp only [Outcome.bind_eq_ok_iff, Outcome.pure_eq_ok_iff]

theorem plannedFiles_perType (layout : code.layout ≠ .bundle) :
    plannedFiles code templates plan = .ok sources ↔
      checkFiles [] plan.declarations = .ok () ∧
        ∃ files, plan.declarations.mapM (typeFile templates) = .ok files ∧
          ∃ index, indexText code templates plan = .ok index ∧
            files ++ [("mod.rs", index)] = sources := by
  have read : plannedFiles code templates plan = (do
      checkFiles [] plan.declarations
      let files ← plan.declarations.mapM (typeFile templates)
      let index ← indexText code templates plan
      return files ++ [("mod.rs", index)]) := by
    unfold plannedFiles
    cases shape : code.layout with
    | bundle => exact absurd shape layout
    | perType => rfl
    | perTypeWithManifest => rfl
  rw [read]
  simp only [Outcome.bind_eq_ok_iff, Outcome.pure_eq_ok_iff]
  constructor
  · rintro ⟨_, checked, rest⟩
    exact ⟨checked, rest⟩
  · rintro ⟨checked, rest⟩
    exact ⟨(), checked, rest⟩

theorem isGenerated_of_plannedFiles
    (planned : plannedFiles code templates plan = .ok sources) :
    ∀ name ∈ sources.map (·.1), IsName name ∧ ∃ stem, name = stem ++ ".rs" := by
  intro name member
  by_cases layout : code.layout = .bundle
  · obtain ⟨text, _, rfl⟩ := (plannedFiles_bundle layout).mp planned
    obtain rfl := List.mem_singleton.mp member
    exact ⟨isName_sourceName code, _, rfl⟩
  · obtain ⟨_, files, made, index, _, rfl⟩ := (plannedFiles_perType layout).mp planned
    rw [List.map_append, List.mem_append, names_of_mapM_typeFile made] at member
    rcases member with inFiles | isIndex
    · obtain ⟨declaration, _, rfl⟩ := List.mem_map.mp inFiles
      exact ⟨isName_fileStem declaration.name, _, rfl⟩
    · obtain rfl := List.mem_singleton.mp isIndex
      exact ⟨isName_indexName, "mod", rfl⟩

end TypedTables.Generate
