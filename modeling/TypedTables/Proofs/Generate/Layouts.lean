import TypedTables.Proofs.Generate.Sources

/-!
# Runs in every layout

Whatever the layout, a run that ends well has written the sources that were planned, and something
stands in the places of the library and of the package, if they are wanted.  The other files of the
output folder are those of before.
-/

namespace TypedTables.Generate

open TypedTables.Discover TypedTables.Files TypedTables.Manifest TypedTables.Text
open TypedTables.Config (Code)

/-- Where a name in the output folder is. -/
def place (code : Code) (store : Store) (name : String) : Location :=
  store.locate code.outputDirectory ++ [name]

/-- The module's name is that of one file, nothing in the store is a file and a folder, and the
folder that is compiled in is neither in the output folder nor around it. -/
structure Placed (code : Code) (store : Store) : Prop where
  moduleName : '/' ∉ code.moduleName.toList
  single : ∀ location, store.hasFile location = true → store.hasFolder location = false
  outside : compiles code = true →
    ¬ store.locate code.outputDirectory <+: store.locate code.scratchDirectory
  around : compiles code = true →
    ¬ store.locate (scratchPath code) <+: store.locate code.outputDirectory

section Runs

variable {code : Code} {before store later : Store} {entries : List (String × String)}
  {taken : List String} {name text : String} {content : ByteArray}

theorem locate_scratchPath (code : Code) (store : Store) :
    store.locate (scratchPath code) = store.locate code.scratchDirectory ++ [crateName code] :=
  locate_join (isName_crateName code)

theorem Placed.scratch_ne_place
    (placed : Placed code store) (compiling : compiles code = true) (name : String) :
    store.locate (scratchPath code) ≠ place code store name := by
  intro same
  have sameFolder := congrArg List.dropLast same
  rw [locate_scratchPath, place, List.dropLast_concat, List.dropLast_concat] at sameFolder
  have apart := placed.outside compiling
  rw [sameFolder] at apart
  exact apart List.prefix_rfl

theorem Placed.scratch_not_prefix
    (placed : Placed code store) (compiling : compiles code = true) (name : String) :
    ¬ store.locate (scratchPath code) <+: place code store name := by
  intro inside
  rcases List.prefix_concat_iff.mp inside with same | above
  · exact placed.scratch_ne_place compiling name same
  · exact placed.around compiling above

theorem Placed.place_not_prefix
    (placed : Placed code store) (compiling : compiles code = true) (name : String) :
    ¬ place code store name <+: store.locate (scratchPath code) := by
  intro inside
  have differ := placed.scratch_ne_place compiling name
  rw [locate_scratchPath] at inside differ
  rcases List.prefix_concat_iff.mp inside with same | above
  · exact differ same.symm
  · exact placed.outside compiling ((List.prefix_append _ _).trans above)

theorem place_not_prefix_output : ¬ place code store name <+: store.locate code.outputDirectory :=
  inside_not_prefix _ _

theorem place_inj {other : String} :
    place code store name = place code store other ↔ name = other := by
  unfold place
  rw [List.append_right_inj, List.singleton_inj]

/-! ## What a run keeps up -/

/-- The output folder is there, no file is in its way, and the folders in it are those of
before. -/
structure Grounded (code : Code) (before store : Store) : Prop where
  working : store.working = before.working
  clear : store.Clear (before.locate code.outputDirectory)
  around : ∀ other, other <+: before.locate code.outputDirectory → store.hasFolder other = true
  folders : ∀ name,
    store.hasFolder (place code before name) = before.hasFolder (place code before name)
  single : ∀ name, store.hasFile (place code before name) = true →
    store.hasFolder (place code before name) = false

/-- Some texts stand in the output folder, and further names in it are taken. -/
structure Supplied (code : Code) (before : Store) (entries : List (String × String))
    (taken : List String) (store : Store) : Prop extends Grounded code before store where
  texts : ∀ file ∈ entries, store.content? (place code before file.1) = some file.2.toUTF8
  occupied : ∀ name ∈ taken, store.hasFile (place code before name) = true ∨
    store.hasFolder (place code before name) = true

/-- Apart from them, the output folder holds the files of before. -/
structure Holding (code : Code) (before : Store) (entries : List (String × String))
    (taken : List String) (store : Store) : Prop extends Supplied code before entries taken store
    where
  others : ∀ name, name ∉ entries.map (·.1) → name ∉ taken →
    store.content? (place code before name) = before.content? (place code before name)

theorem Grounded.locate (grounded : Grounded code before store) : store.locate = before.locate :=
  Store.locate_congr grounded.working

/-- A file of the output folder was written, or held the content already. -/
structure Put (code : Code) (before : Store) (name : String) (content : ByteArray)
    (store later : Store) : Prop extends Grounded code before later where
  content : later.content? (place code before name) = some content
  others : ∀ other, other ≠ name →
    later.content? (place code before other) = store.content? (place code before other)

theorem Grounded.put_of_written
    (grounded : Grounded code before store)
    (written : Written (before.locate code.outputDirectory) (place code before name) content store
      later) : Put code before name content store later := by
  have sameFolder : ∀ other, later.hasFolder (place code before other) =
      store.hasFolder (place code before other) := by
    intro other
    rw [Bool.eq_iff_iff, written.folders]
    exact or_iff_left place_not_prefix_output
  refine ⟨⟨written.working.trans grounded.working, ?_, ?_, ?_, ?_⟩, ?_, ?_⟩
  · intro folder needed
    rw [written.content, if_neg, grounded.clear folder needed]
    rintro rfl
    exact place_not_prefix_output (mem_foldersTo.mp needed).2
  · intro other inside
    exact (written.folders other).mpr (Or.inr inside)
  · intro other
    rw [sameFolder, grounded.folders]
  · intro other isFile
    by_cases same : other = name
    · rw [same]
      exact written.free
    · rw [Store.hasFile, written.content, if_neg fun equal => same (place_inj.mp equal)] at isFile
      rw [sameFolder]
      exact grounded.single other isFile
  · rw [written.content, if_pos rfl]
  · intro other different
    rw [written.content, if_neg fun equal => different (place_inj.mp equal)]

theorem writeIfChanged_put (isName : IsName name) (grounded : Grounded code before store) :
    Update.Meets (writeIfChanged (join code.outputDirectory name) content) (· = store)
      (fun _ => Put code before name content store) (fun _ => True) := by
  refine .writeIfChanged ?_ (fun _ _ _ => trivial) (fun _ _ _ _ _ => trivial) ?_
  · rintro _ rfl found
    rw [locate_join isName, grounded.locate] at found
    exact ⟨grounded, found, fun _ _ => rfl⟩
  · rintro _ later rfl written
    rw [locate_parent_join isName, locate_join isName, grounded.locate] at written
    exact grounded.put_of_written written

theorem Holding.add
    (holding : Holding code before entries taken store)
    (put : Put code before name text.toUTF8 store later)
    (isNew : name ∉ entries.map (·.1)) (free : name ∉ taken) :
    Holding code before (entries ++ [(name, text)]) taken later where
  toGrounded := put.toGrounded
  texts file member := by
    rcases List.mem_append.mp member with old | added
    · have different : file.1 ≠ name := by
        intro same
        exact isNew (same ▸ List.mem_map_of_mem old)
      rw [put.others _ different, holding.texts file old]
    · rw [List.mem_singleton.mp added, put.content]
  occupied other member := by
    have different : other ≠ name := fun same => free (same ▸ member)
    rw [Store.hasFile, put.others other different, put.folders, ← holding.folders]
    exact holding.occupied other member
  others other absent untaken := by
    rw [List.map_append, List.mem_append, not_or] at absent
    have different : other ≠ name := fun same => absent.2 (by simp [same])
    rw [put.others other different, holding.others other absent.1 untaken]

theorem Holding.take
    (holding : Holding code before entries taken store)
    (put : Put code before name content store later) (isNew : name ∉ entries.map (·.1)) :
    Holding code before entries (name :: taken) later where
  toGrounded := put.toGrounded
  texts file member := by
    have different : file.1 ≠ name := by
      intro same
      exact isNew (same ▸ List.mem_map_of_mem member)
    rw [put.others _ different, holding.texts file member]
  occupied other member := by
    by_cases same : other = name
    · left
      rw [same, Store.hasFile, put.content]
      rfl
    · have old := (List.mem_cons.mp member).resolve_left same
      rw [Store.hasFile, put.others other same, put.folders, ← holding.folders]
      exact holding.occupied other old
  others other absent untaken := by
    rw [List.mem_cons, not_or] at untaken
    rw [put.others other untaken.1, holding.others other absent untaken.2]

theorem makeFolder_holding
    (single : ∀ location, before.hasFile location = true → before.hasFolder location = false) :
    Update.Meets (makeFolder code.outputDirectory) (· = before)
      (fun _ => Holding code before [] []) (fun _ => True) := by
  refine .makeFolder (fun _ _ _ => trivial) ?_
  rintro before later rfl made
  have sameFolder : ∀ name, later.hasFolder (place code before name) =
      before.hasFolder (place code before name) := by
    intro name
    rw [Bool.eq_iff_iff, made.folders]
    exact or_iff_left place_not_prefix_output
  refine ⟨⟨⟨made.working, ?_, ?_, sameFolder, ?_⟩, ?_, ?_⟩, ?_⟩
  · intro folder needed
    rw [made.content, made.clear folder needed]
  · intro other inside
    exact (made.folders other).mpr (Or.inr inside)
  · intro name isFile
    rw [Store.hasFile, made.content] at isFile
    rw [sameFolder]
    exact single _ isFile
  · simp
  · simp
  · intro name _ _
    exact made.content _

section Elsewhere

variable (placed : Placed code before) (compiling : compiles code = true)
  (away : Elsewhere (before.locate (scratchPath code)) store later)

include placed compiling away

theorem content?_of_elsewhere (name : String) :
    later.content? (place code before name) = store.content? (place code before name) :=
  away.content _ (placed.scratch_not_prefix compiling name)

theorem hasFolder_of_elsewhere (name : String) :
    later.hasFolder (place code before name) = store.hasFolder (place code before name) :=
  away.folders _ (placed.scratch_not_prefix compiling name)
    (placed.place_not_prefix compiling name)

theorem Grounded.elsewhere (grounded : Grounded code before store) :
    Grounded code before later := by
  have notAround : ∀ other, other <+: before.locate code.outputDirectory →
      ¬ before.locate (scratchPath code) <+: other :=
    fun other inside scratch => placed.around compiling (scratch.trans inside)
  refine ⟨away.working.trans grounded.working, ?_, ?_, ?_, ?_⟩
  · intro folder needed
    rw [away.content folder (notAround folder (mem_foldersTo.mp needed).2),
      grounded.clear folder needed]
  · intro other inside
    exact away.kept other (notAround other inside) (grounded.around other inside)
  · intro name
    rw [hasFolder_of_elsewhere placed compiling away, grounded.folders]
  · intro name isFile
    rw [Store.hasFile, content?_of_elsewhere placed compiling away] at isFile
    rw [hasFolder_of_elsewhere placed compiling away]
    exact grounded.single name isFile

theorem Holding.elsewhere (holding : Holding code before entries taken store) :
    Holding code before entries taken later where
  toGrounded := holding.toGrounded.elsewhere placed compiling away
  texts file member := by
    rw [content?_of_elsewhere placed compiling away, holding.texts file member]
  occupied name member := by
    rw [Store.hasFile, content?_of_elsewhere placed compiling away,
      hasFolder_of_elsewhere placed compiling away]
    exact holding.occupied name member
  others name absent untaken := by
    rw [content?_of_elsewhere placed compiling away, holding.others name absent untaken]

end Elsewhere

theorem Holding.occupy
    (holding : Holding code before entries taken store)
    (present : store.hasFile (place code before name) = true ∨
      store.hasFolder (place code before name) = true) :
    Holding code before entries (name :: taken) store where
  toGrounded := holding.toGrounded
  texts := holding.texts
  occupied other member := by
    rcases List.mem_cons.mp member with rfl | old
    · exact present
    · exact holding.occupied other old
  others other absent untaken := by
    rw [List.mem_cons, not_or] at untaken
    exact holding.others other absent untaken.2

/-! ## Layouts -/

/-- What was made, whatever of it changed. -/
def Generated.quiet (made : Generated) : Generated :=
  { made with written := [], removed := [] }

/-- Notes files of the output folder that were there with their texts. -/
def Generated.noteAll (made : Generated) (code : Code) (files : List (String × String)) :
    Generated :=
  { made with files := made.files ++ files.map fun file => join code.outputDirectory file.1 }

theorem Generated.noteAll_cons
    (made : Generated) (code : Code) (file : String × String) (rest : List (String × String)) :
    made.noteAll code (file :: rest) =
      (made.note (join code.outputDirectory file.1) false).noteAll code rest := by
  simp [Generated.noteAll, Generated.note]

/-- What is made of sources for a model, until the manifest is noted. -/
def madeOf (code : Code) (model : Model) (sources : List (String × String)) : Generated where
  model
  files := sources.map fun file => join code.outputDirectory file.1
  artifact := if compiles code then some (artifactPath code) else none

/-- The names in the output folder that something stands at after a run, whatever it is. -/
def takenBy (code : Code) : List String :=
  match code.layout with
  | .bundle => if isBlankText code.compiler then [] else [artifactName code]
  | .perType => []
  | .perTypeWithManifest => ["Cargo.toml"]

/-- The text of the package can be written, if one is wanted. -/
def Packaged (code : Code) (templates : Templates) : Prop :=
  code.layout = .perTypeWithManifest →
    ∃ text, templates.renderPackage (crateName code) code.edition = .ok text

variable {compiler : Compiler} {templates : Templates}

theorem emit_holding
    (isName : IsName name) (isNew : name ∉ entries.map (·.1)) (free : name ∉ taken)
    (generated : Generated) :
    Update.Meets (emit (join code.outputDirectory name) text generated)
      (Holding code before entries taken)
      (fun result store =>
        result.1.quiet = generated.quiet.note (join code.outputDirectory name) false ∧
          Holding code before (entries ++ [(name, text)]) taken store)
      (fun _ => True) := by
  have wrote : Update.Meets (writeIfChanged (join code.outputDirectory name) text.toUTF8)
      (Holding code before entries taken)
      (fun _ => Holding code before (entries ++ [(name, text)]) taken) (fun _ => True) := by
    refine .of_each fun store holding => ?_
    refine (writeIfChanged_put isName holding.toGrounded).weaken ?_ fun _ _ => trivial
    exact fun _ later put => holding.add put isNew free
  unfold emit
  exact wrote.bind fun changed => .pure fun store holding => ⟨rfl, holding⟩

theorem compileInto_holding
    (placed : Placed code before) (compiling : compiles code = true)
    (isNew : artifactName code ∉ entries.map (·.1)) :
    Update.Meets (compileInto compiler code (sourcePath code) (artifactPath code))
      (Holding code before entries taken)
      (fun _ => Holding code before entries (artifactName code :: taken)) (fun _ => True) := by
  unfold compileInto
  dsimp only
  refine .inScratch ?_ (fun _ _ _ _ _ => trivial)
    (?_ : Update.Meets _ _ (fun _ => Holding code before entries (artifactName code :: taken))
      fun _ => True) ?_ fun _ _ => trivial
  · intro store _ top
    have named := locate_scratchPath code store
    rw [scratchPath, top] at named
    exact absurd named (by simp)
  · refine .get_bind ?_
    rintro current ⟨store, start, _, away⟩
    rw [start.locate] at away
    have holding := start.elsewhere placed compiling away
    refine .ofOutcome_bind (fun _ _ => trivial) fun library _ => ?_
    cases library with
    | none => exact .throw fun _ _ => trivial
    | some library =>
        exact (writeIfChanged_put (isName_artifactName code) holding.toGrounded).weaken
          (fun _ later put => holding.take put isNew) fun _ _ => trivial
  · intro _ store holding
    rw [holding.locate]
    exact holding.elsewhere placed compiling (elsewhere_removeFolder _ store)

theorem writeIfAbsent_holding
    (isName : IsName name) (isNew : name ∉ entries.map (·.1)) :
    Update.Meets (writeIfAbsent (join code.outputDirectory name) content)
      (Holding code before entries taken)
      (fun _ => Holding code before entries (name :: taken)) (fun _ => True) := by
  unfold writeIfAbsent
  refine .get_bind fun store holding => ?_
  dsimp only
  split
  · next present =>
      rw [locate_join isName, holding.locate, Bool.or_eq_true] at present
      refine .pure ?_
      rintro _ rfl
      exact holding.occupy present
  · exact (writeIfChanged_put isName holding.toGrounded).weaken
      (fun _ later put => holding.take put isNew) fun _ _ => trivial

theorem writeBundle_holding
    (placed : Placed code before) (bundled : code.layout = .bundle) (plan : Plan) :
    Update.Meets (writeBundle compiler code templates plan { model := plan.model })
      (Holding code before [] [])
      (fun made store => ∃ sources, plannedFiles code templates plan = .ok sources ∧
        made.quiet = madeOf code plan.model sources ∧
        Holding code before sources (takenBy code) store)
      (fun _ => True) := by
  unfold writeBundle
  refine .ofOutcome_bind (fun _ _ => trivial) fun spaces spaced => ?_
  refine .ofOutcome_bind (fun _ _ => trivial) fun declared rendered => ?_
  refine .ofOutcome_bind (fun _ _ => trivial) fun text written => ?_
  have bundleWritten := bundleText_eq_ok.mpr ⟨spaces, spaced, declared, rendered, written⟩
  have planned := (plannedFiles_bundle bundled).mpr ⟨text, bundleWritten, rfl⟩
  refine (emit_holding (isName_sourceName code) (by simp) (by simp) _).bind ?_
  rintro ⟨noted, changed⟩
  dsimp only
  split
  · next blank =>
      refine .pure ?_
      rintro store ⟨quiet, holding⟩
      have taken : takenBy code = [] := by simp [takenBy, bundled, blank]
      have noLibrary : compiles code = false := by simp [compiles, bundled, blank]
      refine ⟨_, planned, ?_, taken ▸ holding⟩
      rw [quiet, madeOf, noLibrary]
      rfl
  · next visible =>
      have taken : takenBy code = [artifactName code] := by simp [takenBy, bundled, visible]
      have compiling : compiles code = true := by simp [compiles, bundled, visible]
      refine .get_bind ?_
      rintro store ⟨quiet, holding⟩
      have ended : { noted.quiet with artifact := some (artifactPath code) } =
          madeOf code plan.model [(crateName code ++ ".rs", text)] := by
        rw [quiet, madeOf, compiling]
        rfl
      split
      · refine ((compileInto_holding placed compiling ?_).starting holding).bind fun isNew =>
          .pure ?_
        · simp [artifactName_ne_source]
        · intro later holding
          exact ⟨_, planned, ended, taken ▸ holding⟩
      · next upToDate =>
          -- What stands in the place of the library may be a folder.
          refine .pure ?_
          rintro _ rfl
          refine ⟨_, planned, ended, ?_⟩
          rw [Bool.or_eq_true, not_or, Bool.not_eq_true', Bool.not_eq_false, Bool.or_eq_true,
            locate_join (isName_artifactName code), holding.locate] at upToDate
          rw [taken]
          exact holding.occupy upToDate.2

theorem writeTypes_holding
    (generated : Generated) (declarations : List Declaration)
    (distinct : (entries.map (·.1) ++
      declarations.map fun declaration => fileStem declaration.name ++ ".rs").Nodup) :
    Update.Meets (writeTypes code templates generated declarations) (Holding code before entries [])
      (fun made store => ∃ files, declarations.mapM (typeFile templates) = .ok files ∧
        made.quiet = generated.quiet.noteAll code files ∧
        Holding code before (entries ++ files) [] store)
      (fun _ => True) := by
  -- Every written file joins the entries, and the names of entries and types stay distinct.
  induction declarations generalizing generated entries with
  | nil =>
      refine .pure fun store holding => ⟨[], rfl, ?_, ?_⟩
      · simp [Generated.quiet, Generated.noteAll]
      · rwa [List.append_nil]
  | cons declaration rest inductionHypothesis =>
      unfold writeTypes
      refine .ofOutcome_bind (fun _ _ => trivial) fun text rendered => ?_
      have isNew : fileStem declaration.name ++ ".rs" ∉ entries.map (·.1) := by
        intro member
        exact List.disjoint_of_nodup_append distinct member List.mem_cons_self
      refine (emit_holding (isName_fileStem declaration.name) isNew (by simp) _).bind ?_
      rintro ⟨noted, changed⟩
      refine .of_each ?_
      rintro store ⟨quiet, holding⟩
      have stillDistinct : ((entries ++
            [(fileStem declaration.name ++ ".rs", fileHeader ++ text)]).map (·.1) ++
          rest.map fun declaration => fileStem declaration.name ++ ".rs").Nodup := by
        simpa using distinct
      refine ((inductionHypothesis noted stillDistinct).starting holding).weaken ?_
        fun _ _ => trivial
      rintro made later ⟨files, filesMade, ended, last⟩
      have first : typeFile templates declaration =
          .ok (fileStem declaration.name ++ ".rs", fileHeader ++ text) :=
        typeFile_eq_ok.mpr ⟨text, rendered, rfl⟩
      rw [List.append_assoc] at last
      rw [Outcome.mapM_eq_ok_iff] at filesMade
      refine ⟨(fileStem declaration.name ++ ".rs", fileHeader ++ text) :: files, ?_, ?_, last⟩
      · rw [Outcome.mapM_eq_ok_iff]
        exact .cons first filesMade
      · rw [ended, quiet, Generated.noteAll_cons]

theorem writePerType_holding
    (layout : code.layout ≠ .bundle) (plan : Plan) :
    Update.Meets (writePerType code templates plan { model := plan.model })
      (Holding code before [] [])
      (fun made store => ∃ sources, plannedFiles code templates plan = .ok sources ∧
        Packaged code templates ∧ made.quiet = madeOf code plan.model sources ∧
        Holding code before sources (takenBy code) store)
      (fun _ => True) := by
  have noLibrary : compiles code = false := by simp [compiles, layout]
  unfold writePerType
  refine .ofOutcome_bind (fun _ _ => trivial) fun _ checked => ?_
  obtain ⟨distinct, notIndex⟩ := nodup_names_of_checkFiles checked
  have fromNothing : (([] : List (String × String)).map (·.1) ++ plan.declarations.map
      fun declaration => fileStem declaration.name ++ ".rs").Nodup := distinct
  refine (writeTypes_holding _ plan.declarations fromNothing).bind fun made => .of_each ?_
  rintro store ⟨files, filesMade, quiet, holding⟩
  rw [List.nil_append] at holding
  refine .ofOutcome_bind (fun _ _ => trivial) fun index indexed => ?_
  have planned := (plannedFiles_perType layout).mpr
    ⟨checked, files, filesMade, index, indexed, rfl⟩
  have isNew : "mod.rs" ∉ files.map (·.1) := by
    rw [names_of_mapM_typeFile filesMade]
    exact notIndex
  refine ((emit_holding isName_indexName isNew (by simp) made).starting holding).bind ?_
  rintro ⟨noted, changed⟩
  refine .of_each ?_
  rintro later ⟨sameNoted, indexHolding⟩
  have ended : noted.quiet = madeOf code plan.model (files ++ [("mod.rs", index)]) := by
    rw [sameNoted, quiet, madeOf, noLibrary]
    simp [Generated.quiet, Generated.noteAll, Generated.note]
  dsimp only
  split
  · next packaged =>
      refine .ofOutcome_bind (fun _ _ => trivial) fun manifest rendered => ?_
      have taken : takenBy code = ["Cargo.toml"] := by simp [takenBy, eq_of_beq packaged]
      have noPackage : "Cargo.toml" ∉ (files ++ [("mod.rs", index)]).map (·.1) := by
        intro member
        obtain ⟨_, stem, shape⟩ := isGenerated_of_plannedFiles planned _ member
        exact not_isGenerated_packageName (shape ▸ isGenerated_source stem)
      refine ((writeIfAbsent_holding isName_packageName noPackage).starting indexHolding).bind
        fun isNew => .pure ?_
      intro last holding
      exact ⟨_, planned, fun _ => ⟨manifest, rendered⟩, ended, taken ▸ holding⟩
  · next unpackaged =>
      have alone : code.layout ≠ .perTypeWithManifest := by simpa using unpackaged
      have taken : takenBy code = [] := by
        cases shape : code.layout with
        | bundle => exact absurd shape layout
        | perType => rw [takenBy, shape]
        | perTypeWithManifest => exact absurd shape alone
      refine .pure ?_
      rintro _ rfl
      exact ⟨_, planned, fun packaged => absurd packaged alone, ended, taken ▸ indexHolding⟩

theorem writeSources_holding (placed : Placed code before) (plan : Plan) :
    Update.Meets (writeSources compiler code templates plan) (Holding code before [] [])
      (fun made store => ∃ sources, plannedFiles code templates plan = .ok sources ∧
        Packaged code templates ∧ made.quiet = madeOf code plan.model sources ∧
        Holding code before sources (takenBy code) store)
      (fun _ => True) := by
  unfold writeSources
  split
  · next bundled =>
      refine (writeBundle_holding placed bundled plan).weaken ?_ fun _ _ => trivial
      rintro made store ⟨sources, planned, quiet, holding⟩
      have unpackaged : Packaged code templates := by
        intro packaged
        rw [bundled] at packaged
        cases packaged
      exact ⟨sources, planned, unpackaged, quiet, holding⟩
  all_goals
    next layout => exact writePerType_holding (by rw [layout]; decide) plan

end Runs

end TypedTables.Generate
