import TypedTables.Proofs.Files.Idle
import TypedTables.Proofs.Generate.Artifacts
import TypedTables.Proofs.Generate.Layouts

/-!
# Exact and repeatable generation

A run that ends well leaves the sources and the library it gives in the output folder, no others,
and a second run finds all its work done.  A folder in the place of the library is taken for the
library, though.
-/

namespace TypedTables.Generate

open TypedTables.Discover TypedTables.Files TypedTables.Manifest TypedTables.Text
open TypedTables.Config (Code)

section Runs

variable {compiler : Compiler} {code : Code} {templates : Templates} {before store later : Store}
  {entries : List (String × String)} {taken : List String} {name text : String}

/-! ## The end of a run -/

/-- A run that writes some sources gives a file of a name: one of them, or the library. -/
def Gives (code : Code) (sources : List (String × String)) (name : String) : Prop :=
  name ∈ sources.map (·.1) ∨ compiles code = true ∧ name = artifactName code

/-- The sources and the manifest, as names and texts. -/
def writtenFiles (code : Code) (model : Model) (sources : List (String × String)) :
    List (String × String) :=
  sources ++ [(Model.fileName code.moduleName, model.toText)]

/-- What a run gives for a model in the end. -/
def resultOf (code : Code) (model : Model) (sources : List (String × String)) : Generated :=
  (madeOf code model sources).note (manifestPath code) false

variable {model : Model} {sources : List (String × String)} {plan : Plan}

theorem mem_takenBy :
    name ∈ takenBy code ↔ compiles code = true ∧ name = artifactName code ∨
      code.layout = .perTypeWithManifest ∧ name = "Cargo.toml" := by
  unfold takenBy compiles
  cases code.layout with
  | bundle => by_cases blank : isBlankText code.compiler = true <;> simp [blank]
  | perType => simp
  | perTypeWithManifest => simp

theorem place_mem_resultOf
    (placed : Placed code before) (planned : plannedFiles code templates plan = .ok sources)
    (isGenerated : IsGenerated name) :
    place code before name ∈ ((resultOf code model sources).files ++
        (resultOf code model sources).artifact.toList).map before.locate ↔
      Gives code sources name := by
  have notManifest : before.locate (manifestPath code) ≠ place code before name := by
    unfold manifestPath
    rw [locate_join (isName_manifestName placed.moduleName)]
    intro same
    exact not_isGenerated_manifestName code (place_inj.mp same ▸ isGenerated)
  have sourcePlace : ∀ file ∈ sources, before.locate (join code.outputDirectory file.1) =
      place code before file.1 := by
    intro file member
    exact locate_join (isGenerated_of_plannedFiles planned _ (List.mem_map_of_mem member)).1
  have artifactPlace : before.locate (artifactPath code) =
      place code before (artifactName code) := locate_artifactPath
  simp only [resultOf, madeOf, Generated.note, List.mem_map, List.mem_append,
    List.mem_singleton, Option.mem_toList, Gives]
  constructor
  · rintro ⟨path, (⟨file, member, rfl⟩ | rfl) | library, same⟩
    · rw [sourcePlace file member] at same
      exact Or.inl ⟨file, member, place_inj.mp same⟩
    · exact absurd same notManifest
    · split at library
      · next compiling =>
          obtain rfl := Option.mem_some_iff.mp library
          rw [artifactPlace] at same
          exact Or.inr ⟨compiling, (place_inj.mp same).symm⟩
      · cases library
  · rintro (⟨file, member, rfl⟩ | ⟨compiling, rfl⟩)
    · exact ⟨_, Or.inl (Or.inl ⟨file, member, rfl⟩), sourcePlace file member⟩
    · exact ⟨artifactPath code, Or.inr (by rw [if_pos compiling]), artifactPlace⟩

/-- A run has ended well: what it gives is there, a library unless a folder stands in its place,
and no other source or library is left in a folder that can be listed. -/
structure Finished (code : Code) (before : Store) (model : Model)
    (sources : List (String × String)) (later : Store) : Prop extends
    Supplied code before (writtenFiles code model sources) (takenBy code) later where
  given : ∀ name, Gives code sources name →
    (later.hasFile (place code before name) = true ↔
      (compiles code = true → name = artifactName code →
        before.hasFolder (place code before name) = false))
  stale : ∀ name, IsGenerated name → ¬ Gives code sources name →
    (later.hasFile (place code before name) = true ↔
      code.outputDirectory = "" ∧ before.hasFile (place code before name) = true)

theorem Holding.given
    (holding : Holding code before (writtenFiles code model sources) (takenBy code) store)
    (gives : Gives code sources name) :
    store.hasFile (place code before name) = true ↔
      (compiles code = true → name = artifactName code →
        before.hasFolder (place code before name) = false) := by
  constructor
  · intro isFile _ _
    rw [← holding.folders]
    exact holding.single name isFile
  · intro noFolder
    -- A source was written in this run; of the library only its place is known to be taken.
    rcases gives with isSource | ⟨compiling, isArtifact⟩
    · obtain ⟨file, member, rfl⟩ := List.mem_map.mp isSource
      rw [Store.hasFile, holding.texts file (List.mem_append_left _ member)]
      rfl
    · have taken := mem_takenBy.mpr (Or.inl ⟨compiling, isArtifact⟩)
      have free := noFolder compiling isArtifact
      rw [← holding.folders] at free
      exact (holding.occupied name taken).resolve_right (by rw [free]; decide)

theorem gives_of_mem_writtenFiles
    (member : name ∈ (writtenFiles code model sources).map (·.1))
    (isGenerated : IsGenerated name) : Gives code sources name := by
  rw [writtenFiles, List.map_append, List.mem_append] at member
  rcases member with isSource | isManifest
  · exact Or.inl isSource
  · rw [List.mem_singleton.mp isManifest] at isGenerated
    exact absurd isGenerated (not_isGenerated_manifestName code)

theorem gives_of_mem_takenBy (member : name ∈ takenBy code) (isGenerated : IsGenerated name) :
    Gives code sources name := by
  rcases mem_takenBy.mp member with library | ⟨_, rfl⟩
  · exact Or.inr library
  · exact absurd isGenerated not_isGenerated_packageName

theorem Holding.untouched
    (holding : Holding code before (writtenFiles code model sources) (takenBy code) store)
    (isGenerated : IsGenerated name) (notGiven : ¬ Gives code sources name) :
    store.content? (place code before name) = before.content? (place code before name) :=
  holding.others name (fun member => notGiven (gives_of_mem_writtenFiles member isGenerated))
    fun member => notGiven (gives_of_mem_takenBy member isGenerated)

section Sweep

variable {kept : List Location}
  (swept : Swept (before.locate code.outputDirectory)
    (fun name => generatedEndings.any (name.endsWith ·)) kept store later)

include swept

theorem Grounded.of_swept (grounded : Grounded code before store) : Grounded code before later where
  working := swept.working.trans grounded.working
  clear folder needed := by
    rcases swept.thinned.content folder with left | ⟨_, gone⟩
    · rw [left, grounded.clear folder needed]
    · exact gone
  around other inside := by
    rw [swept.hasFolder, grounded.around other inside]
  folders name := by
    rw [swept.hasFolder, grounded.folders]
  single name isFile := by
    rw [swept.hasFolder]
    apply grounded.single
    rcases swept.thinned.content (place code before name) with left | ⟨_, gone⟩
    · rwa [Store.hasFile, left] at isFile
    · rw [Store.hasFile, gone] at isFile
      cases isFile

/-- What a sweep leaves when the files that are given are kept. -/
theorem Holding.finished_of_swept
    (holding : Holding code before (writtenFiles code model sources) (takenBy code) store)
    (keeps : ∀ name, IsGenerated name → (place code before name ∈ kept ↔ Gives code sources name))
    (listed : code.outputDirectory ≠ "") : Finished code before model sources later := by
  -- The sweep takes no file whose name is no generated one, and none that the run gives.
  have same : ∀ name, (IsGenerated name → Gives code sources name) →
      later.content? (place code before name) = store.content? (place code before name) := by
    intro name gives
    apply swept.left
    rintro ⟨notKept, other, isGenerated, samePlace⟩
    obtain rfl := place_inj.mp samePlace
    exact notKept ((keeps name isGenerated).mpr (gives isGenerated))
  refine ⟨⟨holding.toGrounded.of_swept swept, ?_, ?_⟩, ?_, ?_⟩
  · intro file member
    have written := same file.1 (gives_of_mem_writtenFiles (List.mem_map_of_mem member))
    rw [written, holding.texts file member]
  · intro name member
    rw [Store.hasFile, same name (gives_of_mem_takenBy member), swept.hasFolder]
    exact holding.occupied name member
  · intro name gives
    rw [Store.hasFile, same name fun _ => gives]
    exact holding.given gives
  · intro name isGenerated notGiven
    have gone := swept.gone (place code before name)
      ⟨fun member => notGiven ((keeps name isGenerated).mp member), name, isGenerated, rfl⟩
    rw [Store.hasFile, gone]
    simp [listed]

end Sweep

theorem manifestName_not_mem_sources (planned : plannedFiles code templates plan = .ok sources) :
    Model.fileName code.moduleName ∉ sources.map (·.1) := by
  intro member
  obtain ⟨_, stem, shape⟩ := isGenerated_of_plannedFiles planned _ member
  exact not_isGenerated_manifestName code (shape ▸ isGenerated_source stem)

theorem manifestName_not_mem_takenBy : Model.fileName code.moduleName ∉ takenBy code := by
  intro member
  rcases mem_takenBy.mp member with ⟨_, isArtifact⟩ | ⟨_, isPackage⟩
  · exact not_isGenerated_manifestName code (isArtifact ▸ isGenerated_artifactName code)
  · exact manifestName_ne_package code isPackage

theorem finish_finished
    (placed : Placed code before) (planned : plannedFiles code templates plan = .ok sources)
    {made : Generated} (quiet : made.quiet = madeOf code model sources) :
    Update.Meets (finish code model made) (Holding code before sources (takenBy code))
      (fun result later => result.quiet = resultOf code model sources ∧
        Finished code before model sources later)
      (fun _ => True) := by
  have isNew := manifestName_not_mem_sources planned
  have free : Model.fileName code.moduleName ∉ takenBy code := manifestName_not_mem_takenBy
  unfold finish
  refine (emit_holding (isName_manifestName placed.moduleName) isNew free made).bind ?_
  rintro ⟨noted, changed⟩
  refine .of_each ?_
  rintro store ⟨sameNoted, holding⟩
  rw [quiet] at sameNoted
  have given : noted.files ++ noted.artifact.toList =
      (resultOf code model sources).files ++ (resultOf code model sources).artifact.toList := by
    rw [resultOf, manifestPath, ← sameNoted]
    rfl
  have swept : Update.Meets (removeStale code.outputDirectory generatedEndings
        (noted.files ++ noted.artifact.toList))
      (· = store) (fun _ => Finished code before model sources) (fun _ => True) := by
    rw [given]
    refine .sweepStale ?_ ?_
    · rintro unlisted _ rfl
      refine ⟨holding.toSupplied, fun name => holding.given, ?_⟩
      intro name isGenerated notGiven
      rw [Store.hasFile, holding.untouched isGenerated notGiven, and_iff_right unlisted]
      rfl
    · rintro listed _ later _ rfl swept
      rw [holding.locate] at swept
      exact holding.finished_of_swept swept (fun name => place_mem_resultOf placed planned) listed
  refine swept.bind fun removed => .pure ?_
  intro later finished
  exact ⟨sameNoted, finished⟩

theorem generate_finished
    (placed : Placed code before) (compiler : Compiler) (templates : Templates) (source : Source) :
    Update.Meets (generate compiler code templates source) (· = before)
      (fun made later => ∃ plan sources, Plan.ofSource source code = .ok plan ∧
        plannedFiles code templates plan = .ok sources ∧ Packaged code templates ∧
        made.quiet = resultOf code plan.model sources ∧
        Finished code before plan.model sources later)
      (fun _ => True) := by
  rw [generate_eq]
  refine .ofOutcome_bind (fun _ _ => trivial) fun plan given => ?_
  refine (makeFolder_holding placed.single).bind fun _ => ?_
  refine (writeSources_holding placed plan).bind fun made => .of_each ?_
  rintro store ⟨sources, planned, packaged, quiet, holding⟩
  refine ((finish_finished placed planned quiet).starting holding).weaken ?_ fun _ _ => trivial
  rintro result later ⟨ended, finished⟩
  exact ⟨plan, sources, given, planned, packaged, ended, finished⟩

/-! ## The run after it -/

theorem Supplied.idle_emit
    (supplied : Supplied code before entries taken store) (isName : IsName name)
    (member : (name, text) ∈ entries) (generated : Generated) :
    Update.Idle (emit (join code.outputDirectory name) text generated) store
      (generated.note (join code.outputDirectory name) false, false) := by
  have found : store.content? (store.locate (join code.outputDirectory name)) =
      some text.toUTF8 := by
    rw [locate_join isName, supplied.locate]
    exact supplied.texts _ member
  unfold emit
  exact (Update.Idle.writeIfChanged found).bind (.pure _)

theorem Supplied.idle_writeBundle
    (supplied : Supplied code before entries (takenBy code) store)
    (bundled : code.layout = .bundle) (planned : plannedFiles code templates plan = .ok sources)
    (included : sources ⊆ entries) :
    Update.Idle (writeBundle compiler code templates plan { model := plan.model }) store
      (madeOf code plan.model sources) := by
  obtain ⟨text, written, rfl⟩ := (plannedFiles_bundle bundled).mp planned
  obtain ⟨spaces, spaced, declared, rendered, indexed⟩ := bundleText_eq_ok.mp written
  have member := included (List.mem_singleton_self _)
  unfold writeBundle
  refine (Update.Idle.ofOutcome spaced).bind ((Update.Idle.ofOutcome rendered).bind
    ((Update.Idle.ofOutcome indexed).bind ?_))
  refine (supplied.idle_emit (isName_sourceName code) member _).bind ?_
  dsimp only
  by_cases blank : isBlankText code.compiler = true
  · have noLibrary : compiles code = false := by simp [compiles, bundled, blank]
    rw [if_pos blank, madeOf, noLibrary]
    exact .pure _
  · have compiling : compiles code = true := by simp [compiles, bundled, blank]
    have taken : artifactName code ∈ takenBy code := mem_takenBy.mpr (Or.inl ⟨compiling, rfl⟩)
    have present := supplied.occupied (artifactName code) taken
    rw [if_neg blank, madeOf, compiling]
    apply Update.Idle.get_bind
    have upToDate : ¬ (false || !(store.hasFile (store.locate (artifactPath code)) ||
        store.hasFolder (store.locate (artifactPath code)))) = true := by
      rw [← Bool.or_eq_true] at present
      rw [locate_artifactPath, supplied.locate, Bool.false_or, Bool.not_eq_true', Bool.not_eq_false]
      exact present
    split
    · next stale => exact absurd stale upToDate
    · exact .pure _

theorem Supplied.idle_writeTypes
    (supplied : Supplied code before entries taken store) {declarations : List Declaration}
    {files : List (String × String)}
    (made : declarations.mapM (typeFile templates) = .ok files) (included : files ⊆ entries)
    (generated : Generated) :
    Update.Idle (writeTypes code templates generated declarations) store
      (generated.noteAll code files) := by
  rw [Outcome.mapM_eq_ok_iff] at made
  induction made generalizing generated with
  | nil =>
      have nothing : generated.noteAll code [] = generated := by simp [Generated.noteAll]
      rw [nothing]
      exact .pure generated
  | @cons declaration file rest others first _ inductionHypothesis =>
      obtain ⟨text, rendered, rfl⟩ := typeFile_eq_ok.mp first
      have here := included List.mem_cons_self
      have behind := inductionHypothesis (List.subset_of_cons_subset included)
      rw [Generated.noteAll_cons]
      unfold writeTypes
      refine (Update.Idle.ofOutcome rendered).bind ?_
      exact (supplied.idle_emit (isName_fileStem declaration.name) here generated).bind (behind _)

theorem Supplied.idle_writePerType
    (supplied : Supplied code before entries (takenBy code) store)
    (layout : code.layout ≠ .bundle) (planned : plannedFiles code templates plan = .ok sources)
    (packaged : Packaged code templates) (included : sources ⊆ entries) :
    Update.Idle (writePerType code templates plan { model := plan.model }) store
      (madeOf code plan.model sources) := by
  have noLibrary : compiles code = false := by simp [compiles, layout]
  obtain ⟨checked, files, made, index, indexed, rfl⟩ := (plannedFiles_perType layout).mp planned
  have filesIncluded := List.Subset.trans (List.subset_append_left files _) included
  have indexMember := included (List.mem_append_right files (List.mem_singleton_self _))
  have ended : (Generated.noteAll { model := plan.model } code files).note
      (join code.outputDirectory "mod.rs") false =
        madeOf code plan.model (files ++ [("mod.rs", index)]) := by
    rw [madeOf, noLibrary]
    simp [Generated.noteAll, Generated.note]
  unfold writePerType
  refine (Update.Idle.ofOutcome checked).bind
    ((supplied.idle_writeTypes made filesIncluded _).bind ((Update.Idle.ofOutcome indexed).bind
      ((supplied.idle_emit isName_indexName indexMember _).bind ?_)))
  dsimp only
  rw [ended]
  by_cases wanted : code.layout = .perTypeWithManifest
  · obtain ⟨text, rendered⟩ := packaged wanted
    have present := supplied.occupied "Cargo.toml" (mem_takenBy.mpr (Or.inr ⟨wanted, rfl⟩))
    rw [if_pos (beq_iff_eq.mpr wanted)]
    refine (Update.Idle.ofOutcome rendered).bind ?_
    refine (Update.Idle.writeIfAbsent ?_).bind (.pure _)
    rwa [locate_join isName_packageName, supplied.locate]
  · rw [if_neg (by simpa using wanted)]
    exact .pure _

theorem Supplied.idle_writeSources
    (supplied : Supplied code before entries (takenBy code) store)
    (planned : plannedFiles code templates plan = .ok sources)
    (packaged : Packaged code templates) (included : sources ⊆ entries) :
    Update.Idle (writeSources compiler code templates plan) store
      (madeOf code plan.model sources) := by
  unfold writeSources
  split
  · next bundled => exact supplied.idle_writeBundle bundled planned included
  all_goals
    next layout =>
      exact supplied.idle_writePerType (by rw [layout]; decide) planned packaged included

theorem Finished.idle_finish
    (placed : Placed code before) (planned : plannedFiles code templates plan = .ok sources)
    (finished : Finished code before model sources store) :
    Update.Idle (finish code model (madeOf code model sources)) store
      (resultOf code model sources) := by
  have member : (Model.fileName code.moduleName, model.toText) ∈
      writtenFiles code model sources := by
    rw [writtenFiles]
    exact List.mem_append_right _ (List.mem_singleton_self _)
  have noted := finished.idle_emit (isName_manifestName placed.moduleName) member
    (madeOf code model sources)
  have swept : Update.Idle
      (removeStale code.outputDirectory generatedEndings ((resultOf code model sources).files ++
        (resultOf code model sources).artifact.toList)) store [] := by
    apply Update.Idle.removeStale
    intro listed name isGenerated isFile
    rw [finished.locate] at isFile ⊢
    apply (place_mem_resultOf placed planned isGenerated).mpr
    by_contra notGiven
    have unlisted := ((finished.stale name isGenerated notGiven).mp isFile).1
    exact listed unlisted
  unfold finish
  exact noted.bind (swept.bind (.pure _))

theorem Finished.idle_generate
    (placed : Placed code before) {source : Source}
    (given : Plan.ofSource source code = .ok plan)
    (planned : plannedFiles code templates plan = .ok sources) (packaged : Packaged code templates)
    (finished : Finished code before plan.model sources store) :
    Update.Idle (generate compiler code templates source) store
      (resultOf code plan.model sources) := by
  rw [generate_eq]
  have present : Update.Idle (makeFolder code.outputDirectory) store () := by
    apply Update.Idle.makeFolder
    · rw [finished.locate]
      exact finished.clear
    · rw [finished.locate]
      exact finished.around
  have included : sources ⊆ writtenFiles code plan.model sources :=
    List.subset_append_left sources _
  exact (Update.Idle.ofOutcome given).bind (present.bind
    ((finished.idle_writeSources planned packaged included).bind
      (finished.idle_finish placed planned)))

/-! ## Other files -/

/-- A location that is neither the manifest nor one of a source or a library in the output folder.
Outside of the output folder, it is not where a bundle is compiled either. -/
structure Foreign (code : Code) (store : Store) (location : Location) : Prop where
  manifest : store.locate (manifestPath code) ≠ location
  generated : ∀ name, IsGenerated name → location ≠ place code store name
  scratch : compiles code = true → store.locate (scratchPath code) <+: location →
    store.locate code.outputDirectory <+: location

theorem Foreign.aside
    {location : Location} (placed : Placed code before) (foreign : Foreign code before location) :
    Aside code before location where
  manifest := foreign.manifest
  generated name same := by
    rw [Bool.eq_false_iff]
    exact fun isGenerated => foreign.generated name isGenerated same
  scratch bundled visible inside := by
    have compiling : compiles code = true := by simp [compiles, bundled, visible]
    have output := foreign.scratch compiling inside
    rcases List.prefix_or_prefix_of_prefix inside output with around | within
    · exact absurd around (placed.around compiling)
    · rw [locate_scratchPath] at within
      rcases List.prefix_concat_iff.mp within with same | above
      · have isOutput : before.locate (scratchPath code) ++ [] =
            before.locate code.outputDirectory := by
          rw [List.append_nil, same, locate_scratchPath]
        exact absurd ⟨[], isOutput⟩ (placed.around compiling)
      · exact absurd above (placed.outside compiling)

theorem foreign_package (whole : '/' ∉ code.moduleName.toList) :
    Foreign code before (place code before "Cargo.toml") where
  manifest := by
    unfold manifestPath
    rw [locate_join (isName_manifestName whole)]
    exact fun same => manifestName_ne_package code (place_inj.mp same)
  generated name isGenerated same := by
    rw [← place_inj.mp same] at isGenerated
    exact not_isGenerated_packageName isGenerated
  scratch _ _ := List.prefix_append _ _

end Runs

/-! ## Runs that end well -/

/-- The files of the output folder that are named like sources or libraries are those that a run
gives. -/
def HoldsExactly (code : Code) (sources : List (String × String)) (before later : Store) : Prop :=
  ∀ name, IsGenerated name →
    (later.hasFile (place code before name) = true ↔ Gives code sources name)

/-- A run notes what it made and writes the texts of the sources.  It leaves all other files as they
were, and the same run after it changes nothing. -/
structure Orderly (compiler : Compiler) (code : Code) (templates : Templates) (source : Source)
    (sources : List (String × String)) (before : Store) (made : Generated) (later : Store) :
    Prop where
  files : made.files =
    sources.map (fun file => join code.outputDirectory file.1) ++ [manifestPath code]
  artifact : made.artifact = if compiles code then some (artifactPath code) else none
  texts : ∀ file ∈ sources,
    later.content? (place code before file.1) = some file.2.toUTF8
  kept : ∀ location content, Foreign code before location →
    before.content? location = some content → later.content? location = some content
  package : ∀ content, before.content? (place code before "Cargo.toml") = some content →
    later.content? (place code before "Cargo.toml") = some content
  again : (generate compiler code templates source).run.run later =
    (.ok { made with written := [], removed := [] }, later)

/-- A run that ends well is orderly.  The sources and libraries in the output folder are exactly
those that it gives, unless a folder stands in the place of the library, or the output folder is
named by the empty path and holds others. -/
theorem holdsExactly_iff_of_generate
    {compiler : Compiler} {code : Code} {templates : Templates} {source : Source}
    {before later : Store} {made : Generated} (placed : Placed code before)
    (ran : (generate compiler code templates source).run.run before = (.ok made, later)) :
    ∃ sources, sourcesOf code templates source = .ok sources ∧
      Orderly compiler code templates source sources before made later ∧
      (HoldsExactly code sources before later ↔
        (compiles code = true → before.hasFolder (before.locate (artifactPath code)) = false) ∧
        (code.outputDirectory = "" → ∀ name, IsGenerated name →
          before.hasFile (place code before name) = true → Gives code sources name)) := by
  have met := generate_finished placed compiler templates source before rfl
  rw [ran] at met
  obtain ⟨plan, sources, given, planned, packaged, quiet, finished⟩ := met
  have kept : ∀ location content, Foreign code before location →
      before.content? location = some content → later.content? location = some content := by
    intro location content foreign found
    have spares : Spares before location (some content)
        (generate compiler code templates source) :=
      spares_generate (foreign.aside placed) rfl source
    have left := spares.content_run ⟨rfl, found⟩
    rwa [ran] at left
  have artifactPlace : before.locate (artifactPath code) =
      place code before (artifactName code) := locate_artifactPath
  refine ⟨sources, ?_, ⟨congrArg Generated.files quiet, congrArg Generated.artifact quiet, ?_, kept,
    ?_, ?_⟩, ?_⟩
  · unfold sourcesOf
    rw [given]
    exact planned
  · exact fun file member => finished.texts file (List.mem_append_left _ member)
  · exact fun content => kept _ content (foreign_package placed.moduleName)
  · have again : Update.Idle (generate compiler code templates source) later
        (resultOf code plan.model sources) :=
      finished.idle_generate placed given planned packaged
    rwa [← quiet] at again
  · constructor
    · intro exactly
      constructor
      · intro compiling
        have isFile := (exactly _ (isGenerated_artifactName code)).mpr (Or.inr ⟨compiling, rfl⟩)
        rw [artifactPlace]
        exact (finished.given _ (Or.inr ⟨compiling, rfl⟩)).mp isFile compiling rfl
      · intro unlisted name isGenerated isFile
        by_contra notGiven
        have left := (finished.stale name isGenerated notGiven).mpr ⟨unlisted, isFile⟩
        exact notGiven ((exactly name isGenerated).mp left)
    · rintro ⟨noFolder, noOthers⟩ name isGenerated
      constructor
      · intro isFile
        by_contra notGiven
        obtain ⟨unlisted, old⟩ := (finished.stale name isGenerated notGiven).mp isFile
        exact notGiven (noOthers unlisted name isGenerated old)
      · intro gives
        refine (finished.given name gives).mpr ?_
        intro compiling isArtifact
        rw [isArtifact, ← artifactPlace]
        exact noFolder compiling

/-- An output folder with a source, notes and a package of its own. -/
def usedStore : Store where
  files := [(["generated", "old.rs"], "old".toUTF8), (["generated", "notes.txt"], "notes".toUTF8),
    (["generated", "Cargo.toml"], "package".toUTF8)]
  folders := [["generated"]]

theorem holdsExactly_iff_of_generate_used :
    ∃ made later sources, plainRun "Item" usedStore = (.ok made, later) ∧
      sourcesOf {} plainTemplates (plainSource "Item") = .ok sources ∧
      Orderly copyCompiler {} plainTemplates (plainSource "Item") sources usedStore made later ∧
      HoldsExactly {} sources usedStore later := by
  have finished : (plainRun "Item" usedStore).1.toOption.bind (·.artifact) =
      some "generated/libtables.rlib" := by
    simp only [plainRun, usedStore, generate, removeStale, removeFiles, Store.listing?,
      Store.fileNames_eq_insertionSort]
    decide +kernel
  obtain ⟨made, ran, -⟩ := exists_of_artifact finished
  have distinct : ∀ entry ∈ usedStore.files, usedStore.hasFolder entry.1 = false := by
    decide +kernel
  have placed : Placed {} usedStore := by
    refine ⟨by decide +kernel, ?_, fun _ => by decide +kernel, fun _ => by decide +kernel⟩
    intro location isFile
    rw [Store.hasFile, Store.content?, List.lookup_isSome_iff] at isFile
    obtain ⟨entry, member, same⟩ := isFile
    rw [eq_of_beq same]
    exact distinct entry member
  obtain ⟨sources, planned, orderly, exactly⟩ := holdsExactly_iff_of_generate placed ran
  have free : usedStore.hasFolder (usedStore.locate (artifactPath {})) = false := by
    decide +kernel
  have named : ({} : Code).outputDirectory ≠ "" := by decide
  exact ⟨made, _, sources, ran, planned, orderly,
    exactly.mpr ⟨fun _ => free, fun unnamed => absurd unnamed named⟩⟩

/-- An output folder with the source of a module, and with a folder in the place of its library. -/
def folderStore : Store where
  files := [(["generated", "tables.rs"], "Item".toUTF8)]
  folders := [["generated"], ["generated", "libtables.rlib"]]

/-- A folder in the place of the library is given as the library of an unchanged source. -/
theorem folder_given_as_artifact :
    ∃ made later sources, plainRun "Item" folderStore = (.ok made, later) ∧
      sourcesOf {} plainTemplates (plainSource "Item") = .ok sources ∧
      made.artifact = some "generated/libtables.rlib" ∧
      later.hasFile ["generated", "libtables.rlib"] = false ∧
      ¬ HoldsExactly {} sources folderStore later := by
  have evaluated :
      let run := plainRun "Item" folderStore
      run.1.toOption.bind (·.artifact) = some "generated/libtables.rlib" ∧
        run.2.hasFile ["generated", "libtables.rlib"] = false := by
    simp only [plainRun, folderStore, generate, removeStale, removeFiles, Store.listing?,
      Store.fileNames_eq_insertionSort]
    decide +kernel
  obtain ⟨finished, noFile⟩ := evaluated
  obtain ⟨made, ran, given⟩ := exists_of_artifact finished
  have planned : sourcesOf {} plainTemplates (plainSource "Item") =
      .ok [("tables.rs", "Item")] := by
    decide +kernel
  refine ⟨made, _, _, ran, planned, given, noFile, ?_⟩
  intro exactly
  have library : artifactName {} = "libtables.rlib" := by decide +kernel
  have compiling : compiles {} = true := by decide +kernel
  have isFile := (exactly "libtables.rlib" (library ▸ isGenerated_artifactName {})).mpr
    (Or.inr ⟨compiling, library.symm⟩)
  have here : place {} folderStore "libtables.rlib" = ["generated", "libtables.rlib"] := by
    decide +kernel
  rw [here, noFile] at isFile
  cases isFile

end TypedTables.Generate
