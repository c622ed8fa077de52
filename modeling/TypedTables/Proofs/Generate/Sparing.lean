import TypedTables.Proofs.Files.Sparing
import TypedTables.Proofs.Generate.Places

/-!
# Files that generation leaves alone

Generating code writes sources, a library and a manifest, and takes away sources and libraries that
it did not make.  What is compiled is compiled in a folder that is emptied before.
-/

namespace TypedTables.Generate

open TypedTables.Manifest TypedTables.Discover TypedTables.Files TypedTables.Text
open TypedTables.Config (Code)

/-- A location is none that generating code writes to or takes a file away from. -/
structure Aside (code : Code) (store : Store) (location : Location) : Prop where
  manifest : store.locate (manifestPath code) ≠ location
  generated : ∀ name, location = store.locate code.outputDirectory ++ [name] →
    generatedEndings.any (name.endsWith ·) = false
  scratch : code.layout = .bundle → isBlankText code.compiler = false →
    store.locate (scratchPath code) <+: location → store.locate (scratchPath code) = location

/-! ## Names of files -/

theorem endsWith_append (front ending : String) : (front ++ ending).endsWith ending = true := by
  rw [String.endsWith_eq_endsWith_toSlice, String.Slice.endsWith_string_iff]
  simp

theorem isName_indexName : IsName "mod.rs" where
  toLeadsOn := leadsOn_of_long (by decide)
  whole := by decide

variable {compiler : Compiler} {code : Code} {templates : Templates} {origin : Store}
  {location : Location} {held : Option ByteArray}

theorem Aside.locate_ne
    (aside : Aside code origin location) {name : String} (isName : IsName name)
    (ends : generatedEndings.any (name.endsWith ·) = true) :
    origin.locate (join code.outputDirectory name) ≠ location := by
  rw [locate_join isName]
  intro same
  rw [aside.generated name same.symm] at ends
  cases ends

theorem Aside.source_ne (aside : Aside code origin location) (moduleName : String) :
    origin.locate (join code.outputDirectory (fileStem moduleName ++ ".rs")) ≠ location := by
  apply aside.locate_ne (isName_sourceName { moduleName })
  simp [generatedEndings, crateName, endsWith_append]

theorem Aside.artifact_ne (aside : Aside code origin location) :
    origin.locate (artifactPath code) ≠ location := by
  apply aside.locate_ne (isName_artifactName code)
  simp [generatedEndings, endsWith_append]

/-! ## Layouts -/

theorem spares_emit
    {path : String} (text : String) (generated : Generated)
    (apart : origin.locate path ≠ location) :
    Spares origin location held (emit path text generated) := by
  unfold emit
  exact (Spares.writeIfChanged _ apart).bind fun _ => .pure _

theorem spares_compileInto
    (aside : Aside code origin location) (present : held.isSome = true)
    (bundled : code.layout = .bundle) (compiles : isBlankText code.compiler = false) :
    Spares origin location held
      (compileInto compiler code (sourcePath code) (artifactPath code)) := by
  unfold compileInto
  refine Spares.inScratch ?_ present (aside.scratch bundled compiles)
  refine Spares.get_bind fun store _ => (Spares.ofOutcome _).bind fun library => ?_
  split
  · exact .writeIfChanged _ aside.artifact_ne
  · exact Update.Meets.throw fun _ kept => kept

theorem spares_writeBundle
    (aside : Aside code origin location) (present : held.isSome = true)
    (bundled : code.layout = .bundle) (plan : Plan) (generated : Generated) :
    Spares origin location held (writeBundle compiler code templates plan generated) := by
  unfold writeBundle
  refine (Spares.ofOutcome _).bind fun spaces => (Spares.ofOutcome _).bind fun sources =>
    (Spares.ofOutcome _).bind fun text => ?_
  refine (spares_emit _ _ (aside.source_ne code.moduleName)).bind ?_
  rintro ⟨noted, changed⟩
  dsimp only
  split
  · exact .pure _
  · next visible =>
      refine Spares.get_bind fun store _ => ?_
      split
      · have compiles : isBlankText code.compiler = false := by simpa using visible
        exact (spares_compileInto aside present bundled compiles).bind fun _ => .pure _
      · exact .pure _

theorem spares_writeTypes
    (aside : Aside code origin location) (generated : Generated)
    (declarations : List Declaration) :
    Spares origin location held (writeTypes code templates generated declarations) := by
  induction declarations generalizing generated with
  | nil => exact .pure _
  | cons declaration rest inductionHypothesis =>
      unfold writeTypes
      refine (Spares.ofOutcome _).bind fun text => ?_
      refine (spares_emit _ _ (aside.source_ne declaration.name)).bind ?_
      rintro ⟨noted, changed⟩
      exact inductionHypothesis noted

theorem spares_writePerType
    (aside : Aside code origin location) (present : held.isSome = true)
    (plan : Plan) (generated : Generated) :
    Spares origin location held (writePerType code templates plan generated) := by
  have index : origin.locate (join code.outputDirectory "mod.rs") ≠ location :=
    aside.locate_ne isName_indexName (by decide +kernel)
  unfold writePerType
  refine (Spares.ofOutcome _).bind fun _ => (spares_writeTypes aside _ _).bind fun written =>
    (Spares.ofOutcome _).bind fun text => (spares_emit _ _ index).bind ?_
  rintro ⟨noted, changed⟩
  dsimp only
  split
  · exact (Spares.ofOutcome _).bind fun manifest =>
      (Spares.writeIfAbsent _ _ present).bind fun _ => .pure _
  · exact .pure _

/-- What generation does once the declarations are written. -/
def finish (code : Code) (model : Model) (made : Generated) : Update Generated := do
  let (noted, _) ← emit (manifestPath code) model.toText made
  let removed ← removeStale code.outputDirectory generatedEndings
    (noted.files ++ noted.artifact.toList)
  return { noted with removed }

theorem spares_finish
    (aside : Aside code origin location) (model : Model) (made : Generated) :
    Spares origin location held (finish code model made) := by
  unfold finish
  refine (spares_emit _ _ aside.manifest).bind ?_
  rintro ⟨noted, changed⟩
  exact (Spares.removeStale _ aside.generated).bind fun removed => .pure _

/-- Writes the sources of a plan, and the library if there is to be one. -/
def writeSources (compiler : Compiler) (code : Code) (templates : Templates) (plan : Plan) :
    Update Generated :=
  match code.layout with
  | .bundle => writeBundle compiler code templates plan { model := plan.model }
  | .perType | .perTypeWithManifest => writePerType code templates plan { model := plan.model }

theorem generate_eq (compiler : Compiler) (code : Code) (templates : Templates) (source : Source) :
    generate compiler code templates source = (do
      let plan ← Update.ofOutcome (Plan.ofSource source code)
      makeFolder code.outputDirectory
      let made ← writeSources compiler code templates plan
      finish code plan.model made) := by
  unfold generate writeSources
  refine congrArg _ (funext fun plan => congrArg _ (funext fun _ => ?_))
  cases code.layout <;> rfl

/-- Generating code leaves every file alone that is not in its way. -/
theorem spares_generate
    (aside : Aside code origin location) (present : held.isSome = true) (source : Source) :
    Spares origin location held (generate compiler code templates source) := by
  rw [generate_eq]
  refine (Spares.ofOutcome _).bind fun plan => (Spares.makeFolder _).bind fun _ => ?_
  have written : Spares origin location held (writeSources compiler code templates plan) := by
    unfold writeSources
    split
    · next bundled => exact spares_writeBundle aside present bundled plan _
    all_goals exact spares_writePerType aside present plan _
  exact written.bind (spares_finish aside plan.model)

end TypedTables.Generate
