import TypedTables.Proofs.Files.Updates
import TypedTables.Proofs.Generate.Places

/-!
# Compiled libraries

A bundle is compiled only if its source changed or there is no library.  A source that does not
compile stays written, and the library of the source before it stays as well.  Whether the library
is what the compiler makes of the source thus depends on all the runs before.
-/

namespace TypedTables.Generate

open TypedTables.Discover TypedTables.Files TypedTables.Text
open TypedTables.Config (Code)

/-- What the compiler makes of a text as the source of a bundle; none if it does not compile. -/
def built (compiler : Compiler) (code : Code) (text : ByteArray) : Option ByteArray :=
  let output := join (scratchPath code) (compileInto.libraryName (crateName code))
  let call : CompilerCall := {
    program := code.compiler
    arguments := compilerArguments code (sourcePath code) (crateName code) output
    source := text }
  match compiled (sourcePath code) code.compiler (compiler call) with
  | .ok library => library
  | .error _ => none

/-- The store after runs that end well or fail, each with templates and a source of its own. -/
def storeAfter (compiler : Compiler) (code : Code) (store : Store)
    (history : List (Templates × Source)) : Store :=
  history.foldl
    (fun store run => ((generate compiler code run.1 run.2).run.run store).2) store

/-! ## What holds between runs -/

section Runs

variable {compiler : Compiler} {code : Code} {origin before : Store}

/-- Relative paths start where they started at first, and the library is no folder. -/
structure Standing (code : Code) (origin store : Store) : Prop where
  working : store.working = origin.working
  noFolder : store.hasFolder (origin.locate (artifactPath code)) = false

/-- If there is a library, then the folder to compile in can be made, and the library is what the
compiler makes of the source, provided that the source compiles. -/
structure Matched (compiler : Compiler) (code : Code) (origin store : Store) : Prop
    extends Standing code origin store where
  matched : ∀ library, store.content? (origin.locate (artifactPath code)) = some library →
    store.Clear (origin.locate (scratchPath code)) ∧
      ∃ text, store.content? (origin.locate (sourcePath code)) = some text ∧
        ∀ fresh, built compiler code text = some fresh → fresh = library

theorem Standing.locate {store : Store} (standing : Standing code origin store) :
    store.locate = origin.locate :=
  Store.locate_congr standing.working

/-- A store with the same files is as good. -/
theorem Matched.of_content
    {store : Store} (matched : Matched compiler code origin before)
    (standing : Standing code origin store)
    (same : ∀ other, store.content? other = before.content? other) :
    Matched compiler code origin store where
  toStanding := standing
  matched library found := by
    rw [same] at found
    obtain ⟨clear, text, source, fits⟩ := matched.matched library found
    refine ⟨?_, text, by rw [same, source], fits⟩
    intro folder needed
    rw [same]
    exact clear folder needed

/-! ## The output folder -/

/-- The run has made the output folder and no file yet. -/
structure Opened (code : Code) (origin before store : Store) : Prop
    extends Standing code origin store where
  folder : store.hasFolder (origin.locate code.outputDirectory) = true
  clear : store.Clear (origin.locate code.outputDirectory)
  content : ∀ other, store.content? other = before.content? other

theorem Standing.grown
    {store later : Store} {location : Location} (standing : Standing code origin store)
    (grown : Grown location store later)
    (apart : ¬ origin.locate (artifactPath code) <+: location) :
    Standing code origin later where
  working := grown.working.trans standing.working
  noFolder := by
    rw [Bool.eq_false_iff, ne_eq, grown.folders, not_or, Bool.not_eq_true]
    exact ⟨standing.noFolder, apart⟩

theorem makeFolder_opened (matched : Matched compiler code origin before) :
    Update.Meets (makeFolder code.outputDirectory) (· = before)
      (fun _ => Opened code origin before) (Matched compiler code origin) := by
  refine .makeFolder ?_ ?_
  · rintro _ rfl _
    exact matched
  · rintro _ later rfl made
    rw [matched.locate] at made
    have standing := matched.toStanding.grown made.toGrown artifact_not_prefix_output
    refine ⟨standing, (made.folders _).mpr (Or.inr List.prefix_rfl), ?_, made.content⟩
    intro folder needed
    rw [made.content]
    exact made.clear folder needed

/-! ## The source -/

/-- The run has written the source, or the same one was there already. -/
structure Sourced (code : Code) (origin before : Store) (text : ByteArray) (changed : Bool)
    (store : Store) : Prop extends Standing code origin store where
  folder : store.hasFolder (origin.locate code.outputDirectory) = true
  clear : store.Clear (origin.locate code.outputDirectory)
  source : store.content? (origin.locate (sourcePath code)) = some text
  content : ∀ other, other ≠ origin.locate (sourcePath code) →
    store.content? other = before.content? other
  kept : changed = false → before.content? (origin.locate (sourcePath code)) = some text

theorem not_mem_foldersTo_output (name : String) :
    origin.locate code.outputDirectory ++ [name] ∉
      foldersTo (origin.locate code.outputDirectory) := by
  rw [mem_foldersTo]
  rintro ⟨-, inside⟩
  exact inside_not_prefix _ _ inside

theorem writeSource_sourced
    (matched : Matched compiler code origin before) (text : ByteArray) :
    Update.Meets (writeIfChanged (sourcePath code) text) (Opened code origin before)
      (fun changed => Sourced code origin before text changed)
      (Matched compiler code origin) := by
  refine .writeIfChanged ?_ ?_ ?_ ?_
  · intro store opened found
    rw [opened.locate] at found
    refine ⟨opened.toStanding, opened.folder, opened.clear, found,
      fun other _ => opened.content other, ?_⟩
    rintro -
    rw [← opened.content, found]
  · intro store opened blocked
    rw [opened.locate, locate_parent_sourcePath] at blocked
    exact absurd opened.clear blocked
  · intro store later opened made _
    rw [opened.locate, locate_parent_sourcePath] at made
    have standing := opened.toStanding.grown made.toGrown artifact_not_prefix_output
    apply matched.of_content standing
    intro other
    rw [made.content, opened.content]
  · intro store later opened written
    rw [opened.locate, locate_parent_sourcePath] at written
    have standing := opened.toStanding.grown written.toGrown artifact_not_prefix_output
    refine ⟨standing, (written.folders _).mpr (Or.inl opened.folder), ?_, ?_, ?_, nofun⟩
    · intro folder needed
      rw [written.content, if_neg, opened.clear folder needed]
      rintro rfl
      rw [locate_sourcePath] at needed
      exact not_mem_foldersTo_output _ needed
    · rw [written.content, if_pos rfl]
    · intro other different
      rw [written.content, if_neg different, opened.content]

/-! ## Compilation -/

/-- The run compiles the source in a folder of its own. -/
structure Compiling (code : Code) (origin : Store) (text : ByteArray) (store : Store) : Prop
    extends Standing code origin store where
  folder : store.hasFolder (origin.locate code.outputDirectory) = true
  clear : store.Clear (origin.locate code.outputDirectory)
  source : store.content? (origin.locate (sourcePath code)) = some text
  way : ∀ folder ∈ foldersTo (origin.locate (scratchPath code)),
    folder ≠ origin.locate (scratchPath code) → store.content? folder = none

/-- The run has a source and a library.  They fit each other, and if the source does not compile,
then both were there before the run. -/
structure Settled (compiler : Compiler) (code : Code) (origin before : Store)
    (text library : ByteArray) (store : Store) : Prop extends Standing code origin store where
  source : store.content? (origin.locate (sourcePath code)) = some text
  artifact : store.content? (origin.locate (artifactPath code)) = some library
  clear : store.Clear (origin.locate (scratchPath code))
  fits : ∀ fresh, built compiler code text = some fresh → fresh = library
  stale : built compiler code text = none →
    before.content? (origin.locate (sourcePath code)) = some text ∧
      before.content? (origin.locate (artifactPath code)) = some library

variable {text library : ByteArray} {changed : Bool}

theorem Sourced.clear_scratch
    (apart : Apart code origin) {store : Store}
    (sourced : Sourced code origin before text changed store) :
    store.Clear (origin.locate (scratchPath code)) ↔
      before.Clear (origin.locate (scratchPath code)) := by
  have same : ∀ folder ∈ foldersTo (origin.locate (scratchPath code)),
      store.content? folder = before.content? folder := by
    intro folder needed
    apply sourced.content
    rintro rfl
    exact apart.source (mem_foldersTo.mp needed).2
  constructor
  · intro clear folder needed
    rw [← same folder needed, clear folder needed]
  · intro clear folder needed
    rw [same folder needed, clear folder needed]

theorem Sourced.compiling
    (apart : Apart code origin) {store later : Store}
    (sourced : Sourced code origin before text changed store)
    (clear : store.Clear (origin.locate (scratchPath code)))
    (away : Elsewhere (origin.locate (scratchPath code)) store later) :
    Compiling code origin text later where
  working := away.working.trans sourced.working
  noFolder := by
    rw [away.folders _ apart.artifact_outside apart.artifact]
    exact sourced.noFolder
  folder := away.kept _ apart.output sourced.folder
  clear := by
    intro folder needed
    rw [away.content, sourced.clear folder needed]
    intro inside
    exact apart.output (inside.trans (mem_foldersTo.mp needed).2)
  source := by rw [away.content _ apart.source_outside, sourced.source]
  way := by
    intro folder needed different
    rw [away.content, clear folder needed]
    intro inside
    exact different ((mem_foldersTo.mp needed).2.eq_of_length_le inside.length_le)

/-- A failure before the library is written leaves the library that was there. -/
theorem Sourced.matched_of_elsewhere
    (apart : Apart code origin) {store later : Store}
    (matched : Matched compiler code origin before)
    (sourced : Sourced code origin before text changed store)
    (away : Elsewhere (origin.locate (scratchPath code)) store later)
    (blocked : ¬ store.Clear (origin.locate (scratchPath code))) :
    Matched compiler code origin later where
  working := away.working.trans sourced.working
  noFolder := by
    rw [away.folders _ apart.artifact_outside apart.artifact]
    exact sourced.noFolder
  matched := by
    intro library found
    rw [away.content _ apart.artifact_outside, sourced.content _ artifact_ne_source] at found
    rw [sourced.clear_scratch apart] at blocked
    exact absurd (matched.matched library found).1 blocked

theorem Compiling.clear_scratch
    {store : Store} (compiling : Compiling code origin text store) :
    (store.removeFolder (origin.locate (scratchPath code))).Clear
      (origin.locate (scratchPath code)) := by
  intro folder needed
  rw [Store.content?_removeFolder]
  split
  · rfl
  · next outside =>
      apply compiling.way folder needed
      rintro rfl
      exact outside List.prefix_rfl

theorem Compiling.standing
    (apart : Apart code origin) {store : Store} (compiling : Compiling code origin text store) :
    Standing code origin (store.removeFolder (origin.locate (scratchPath code))) where
  working := compiling.working
  noFolder := by
    rw [Store.hasFolder_removeFolder_of_not_prefix apart.artifact_outside]
    exact compiling.noFolder

theorem Compiling.settled
    (apart : Apart code origin) {store : Store} (compiling : Compiling code origin text store)
    (fits : built compiler code text = some library)
    (found : store.content? (origin.locate (artifactPath code)) = some library) :
    Settled compiler code origin before text library
      (store.removeFolder (origin.locate (scratchPath code))) where
  toStanding := compiling.standing apart
  source := by
    rw [Store.content?_removeFolder, if_neg apart.source_outside, compiling.source]
  artifact := by
    rw [Store.content?_removeFolder, if_neg apart.artifact_outside, found]
  clear := compiling.clear_scratch
  fits := by
    intro fresh same
    rw [fits] at same
    exact (Option.some.inj same).symm
  stale := by
    intro none
    rw [fits] at none
    cases none

/-- A source that does not compile makes no demand on the library. -/
theorem Compiling.matched
    (apart : Apart code origin) {store : Store} (compiling : Compiling code origin text store)
    (none : built compiler code text = none) :
    Matched compiler code origin (store.removeFolder (origin.locate (scratchPath code))) where
  toStanding := compiling.standing apart
  matched := by
    intro library _
    refine ⟨compiling.clear_scratch, text, ?_, ?_⟩
    · rw [Store.content?_removeFolder, if_neg apart.source_outside, compiling.source]
    · intro fresh same
      rw [none] at same
      cases same

/-- A compiled library can always be put in place. -/
theorem writeArtifact_compiling
    (apart : Apart code origin) {store : Store} (compiling : Compiling code origin text store) :
    Update.Meets (writeIfChanged (artifactPath code) library) (· = store)
      (fun _ later => Compiling code origin text later ∧
        later.content? (origin.locate (artifactPath code)) = some library)
      (fun _ => False) := by
  refine .writeIfChanged ?_ ?_ ?_ ?_
  · rintro _ rfl found
    rw [compiling.locate] at found
    exact ⟨compiling, found⟩
  · rintro _ rfl blocked
    rw [compiling.locate, locate_parent_artifactPath] at blocked
    exact blocked compiling.clear
  · rintro _ later rfl made taken
    rw [compiling.locate, locate_parent_artifactPath] at made
    rw [compiling.locate] at taken
    have standing := compiling.toStanding.grown made.toGrown artifact_not_prefix_output
    have inside : later.hasFolder (origin.locate (artifactPath code)).dropLast = true := by
      rw [locate_artifactPath, List.dropLast_concat, made.folders]
      exact Or.inl compiling.folder
    rcases taken with isFolder | missing
    · rw [standing.noFolder] at isFolder
      cases isFolder
    · rw [inside] at missing
      cases missing
  · rintro _ later rfl written
    rw [compiling.locate, locate_parent_artifactPath] at written
    have standing := compiling.toStanding.grown written.toGrown artifact_not_prefix_output
    refine ⟨⟨standing, (written.folders _).mpr (Or.inl compiling.folder), ?_, ?_, ?_⟩, ?_⟩
    · intro folder needed
      rw [written.content, if_neg, compiling.clear folder needed]
      rintro rfl
      rw [locate_artifactPath] at needed
      exact not_mem_foldersTo_output _ needed
    · rw [written.content, if_neg (Ne.symm artifact_ne_source), compiling.source]
    · intro folder needed different
      rw [written.content, if_neg, compiling.way folder needed different]
      rintro rfl
      exact apart.artifact (mem_foldersTo.mp needed).2
    · rw [written.content, if_pos rfl]

theorem compileInto_settled
    (apart : Apart code origin) (matched : Matched compiler code origin before) :
    Update.Meets (compileInto compiler code (sourcePath code) (artifactPath code))
      (Sourced code origin before text changed)
      (fun _ store => ∃ library, Settled compiler code origin before text library store)
      (Matched compiler code origin) := by
  have scratch : ∀ {store : Store}, Standing code origin store →
      store.locate (join code.scratchDirectory (crateName code)) =
        origin.locate (scratchPath code) :=
    fun standing => congrFun standing.locate _
  unfold compileInto
  dsimp only
  refine .inScratch ?_ ?_ (?_ : Update.Meets _ _
    (fun _ store => Compiling code origin text store ∧
      ∃ library, built compiler code text = some library ∧
        store.content? (origin.locate (artifactPath code)) = some library)
    (fun store => Compiling code origin text store ∧ built compiler code text = none)) ?_ ?_
  · intro store sourced
    rw [scratch sourced.toStanding]
    exact apart.scratch_ne_nil
  · intro store later sourced blocked away
    rw [scratch sourced.toStanding] at blocked away
    exact sourced.matched_of_elsewhere apart matched away blocked
  · refine .get_bind ?_
    rintro current ⟨store, sourced, clear, away⟩
    rw [scratch sourced.toStanding] at clear away
    have compiling := sourced.compiling apart clear away
    rw [compiling.locate, compiling.source, Option.getD_some]
    refine .bind (.ofOutcome ?_ ?_ : Update.Meets _ _
      (fun library later => later = current ∧ built compiler code text = library) _) ?_
    · rintro library _ shape rfl
      refine ⟨rfl, ?_⟩
      unfold built scratchPath
      dsimp only
      rw [shape]
    · rintro failure _ shape rfl
      refine ⟨compiling, ?_⟩
      unfold built scratchPath
      dsimp only
      rw [shape]
    · intro library
      cases library with
      | none =>
          refine .throw ?_
          rintro _ ⟨rfl, none⟩
          exact ⟨compiling, none⟩
      | some library =>
          refine .of_each ?_
          rintro store ⟨rfl, fits⟩
          refine (writeArtifact_compiling apart compiling).weaken ?_ ?_
          · rintro _ later ⟨compiling, found⟩
            exact ⟨compiling, library, fits, found⟩
          · exact fun _ => False.elim
  · rintro _ store ⟨compiling, library, fits, found⟩
    rw [scratch compiling.toStanding]
    exact ⟨library, compiling.settled apart fits found⟩
  · rintro store ⟨compiling, none⟩
    rw [scratch compiling.toStanding]
    exact compiling.matched apart none

/-! ## Whole runs -/

theorem Opened.matched
    (matched : Matched compiler code origin before) {store : Store}
    (opened : Opened code origin before store) : Matched compiler code origin store :=
  matched.of_content opened.toStanding opened.content

/-- A library that is kept is the one of the source that is kept. -/
theorem Sourced.settled
    (apart : Apart code origin) (matched : Matched compiler code origin before) {store : Store}
    (sourced : Sourced code origin before text false store)
    (found : store.content? (origin.locate (artifactPath code)) = some library) :
    Settled compiler code origin before text library store := by
  have old : before.content? (origin.locate (artifactPath code)) = some library := by
    rw [← sourced.content _ artifact_ne_source, found]
  obtain ⟨clear, same, source, fits⟩ := matched.matched library old
  rw [sourced.kept rfl, Option.some.injEq] at source
  rw [← source] at fits
  exact ⟨sourced.toStanding, sourced.source, found, (sourced.clear_scratch apart).mpr clear, fits,
    fun _ => ⟨sourced.kept rfl, old⟩⟩

/-- A file that is made is noted. -/
theorem emit_meets
    {path text : String} {generated : Generated} {start failed : Store → Prop}
    {after : Bool → Store → Prop}
    (wrote : Update.Meets (writeIfChanged path text.toUTF8) start after failed) :
    Update.Meets (emit path text generated) start
      (fun result store => path ∈ result.1.files ∧ generated.files ⊆ result.1.files ∧
        result.1.artifact = generated.artifact ∧ after result.2 store)
      failed := by
  unfold emit
  refine wrote.bind fun changed => .pure fun store holds => ?_
  exact ⟨List.mem_append_right _ List.mem_cons_self, List.subset_append_left _ _, rfl, holds⟩

theorem writeBundle_settled
    (compiles : isBlankText code.compiler = false) (apart : Apart code origin)
    (matched : Matched compiler code origin before) (templates : Templates) (plan : Plan)
    (generated : Generated) :
    Update.Meets (writeBundle compiler code templates plan generated) (Opened code origin before)
      (fun made store => sourcePath code ∈ made.files ∧ made.artifact = some (artifactPath code) ∧
        ∃ text library, Settled compiler code origin before text library store)
      (Matched compiler code origin) := by
  have keep : ∀ {α : Type} (outcome : Outcome α),
      Update.Meets (Update.ofOutcome outcome) (Opened code origin before)
        (fun _ => Opened code origin before) (Matched compiler code origin) :=
    fun outcome => .ofOutcome (fun _ _ _ opened => opened) fun _ _ _ => Opened.matched matched
  unfold writeBundle
  refine (keep _).bind fun spaces => (keep _).bind fun sources => (keep _).bind fun text => ?_
  refine (emit_meets (writeSource_sourced matched text.toUTF8)).bind ?_
  rintro ⟨noted, changed⟩
  dsimp only
  rw [if_neg (by simp [compiles])]
  refine .get_bind ?_
  rintro store ⟨listed, -, -, sourced⟩
  split
  · refine ((compileInto_settled apart matched).starting sourced).bind fun isNew => .pure ?_
    rintro later ⟨library, settled⟩
    exact ⟨listed, rfl, _, library, settled⟩
  · next upToDate =>
      have present : changed = false ∧ (store.hasFile (origin.locate (artifactPath code)) ||
          store.hasFolder (origin.locate (artifactPath code))) = true := by
        rw [sourced.locate, Bool.not_eq_true, Bool.or_eq_false_iff, Bool.not_eq_false'] at upToDate
        exact upToDate
      obtain ⟨rfl, present⟩ := present
      rw [sourced.noFolder, Bool.or_false] at present
      obtain ⟨library, found⟩ := Store.hasFile_iff.mp present
      have settled := sourced.settled apart matched found
      refine .pure ?_
      rintro _ rfl
      exact ⟨listed, rfl, _, library, settled⟩

theorem Settled.matched
    {store : Store} (settled : Settled compiler code origin before text library store) :
    Matched compiler code origin store where
  toStanding := settled.toStanding
  matched other found := by
    rw [settled.artifact, Option.some.injEq] at found
    rw [← found]
    exact ⟨settled.clear, text, settled.source, settled.fits⟩

/-- No folder is made where the library is. -/
theorem Settled.standing_grown
    {store later : Store} (settled : Settled compiler code origin before text library store)
    {location : Location} (grown : Grown location store later) :
    Standing code origin later := by
  apply settled.toStanding.grown grown
  intro inside
  have nonempty : origin.locate (artifactPath code) ≠ [] := by
    rw [locate_artifactPath]
    simp
  have free := grown.clear _ (mem_foldersTo.mpr ⟨nonempty, inside⟩)
  rw [settled.artifact] at free
  cases free

theorem writeManifest_settled
    (apart : Apart code origin) (content : ByteArray) :
    Update.Meets (writeIfChanged (manifestPath code) content)
      (Settled compiler code origin before text library)
      (fun _ => Settled compiler code origin before text library)
      (Matched compiler code origin) := by
  refine .writeIfChanged ?_ ?_ ?_ ?_
  · exact fun _ settled _ => settled
  · exact fun _ settled _ => settled.matched
  · intro store later settled made _
    exact settled.matched.of_content (settled.standing_grown made.toGrown) made.content
  · intro store later settled written
    rw [settled.locate] at written
    have away : ∀ other, other ≠ origin.locate (manifestPath code) →
        later.content? other = store.content? other := by
      intro other different
      rw [written.content, if_neg different]
    refine ⟨?_, ?_, ?_, ?_, settled.fits, settled.stale⟩
    · exact settled.standing_grown written.toGrown
    · rw [away _ (Ne.symm manifest_ne_source), settled.source]
    · rw [away _ (Ne.symm manifest_ne_artifact), settled.artifact]
    · intro folder needed
      rw [away, settled.clear folder needed]
      rintro rfl
      exact apart.manifest (mem_foldersTo.mp needed).2

theorem Settled.thinned
    {store later : Store} {kept : List Location}
    (settled : Settled compiler code origin before text library store)
    (thinned : Thinned kept store later)
    (source : origin.locate (sourcePath code) ∈ kept)
    (artifact : origin.locate (artifactPath code) ∈ kept) :
    Settled compiler code origin before text library later where
  working := thinned.working.trans settled.working
  noFolder := by
    have same := settled.noFolder
    rwa [Store.hasFolder, ← thinned.folders] at same
  source := by rw [thinned.content_of_mem source, settled.source]
  artifact := by rw [thinned.content_of_mem artifact, settled.artifact]
  clear := by
    intro folder needed
    rcases thinned.content folder with same | ⟨-, none⟩
    · rw [same, settled.clear folder needed]
    · exact none
  fits := settled.fits
  stale := settled.stale

/-- A run that ends well leaves a source and a library that fit each other.  One that fails keeps
what held before it. -/
theorem generate_settled
    (bundled : code.layout = .bundle) (compiles : isBlankText code.compiler = false)
    (apart : Apart code origin) (matched : Matched compiler code origin before)
    (templates : Templates) (source : Source) :
    Update.Meets (generate compiler code templates source) (· = before)
      (fun made store => made.artifact = some (artifactPath code) ∧
        ∃ text library, Settled compiler code origin before text library store)
      (Matched compiler code origin) := by
  unfold generate
  refine .bind (.ofOutcome (fun _ _ _ same => same) ?_) fun plan => ?_
  · rintro _ _ _ rfl
    exact matched
  refine (makeFolder_opened matched).bind fun _ => ?_
  rw [bundled]
  dsimp only
  refine (writeBundle_settled compiles apart matched templates plan _).bind fun made => ?_
  refine .of_each ?_
  rintro store ⟨listed, artifact, text, library, settled⟩
  refine ((emit_meets (writeManifest_settled apart _)).starting settled).bind ?_
  rintro ⟨noted, changed⟩
  dsimp only
  refine .of_each ?_
  rintro later ⟨-, others, sameArtifact, settled⟩
  have keepsSource : origin.locate (sourcePath code) ∈
      (noted.files ++ noted.artifact.toList).map origin.locate :=
    List.mem_map_of_mem (List.mem_append_left _ (others listed))
  have keepsArtifact : origin.locate (artifactPath code) ∈
      (noted.files ++ noted.artifact.toList).map origin.locate := by
    apply List.mem_map_of_mem
    rw [sameArtifact, artifact]
    exact List.mem_append_right _ List.mem_cons_self
  have swept : Update.Meets
      (removeStale code.outputDirectory generatedEndings (noted.files ++ noted.artifact.toList))
      (· = later) (fun _ => Settled compiler code origin before text library)
      (Matched compiler code origin) := by
    refine .removeStale ?_
    rintro _ last _ rfl thinned
    rw [settled.locate] at thinned
    exact settled.thinned thinned keepsSource keepsArtifact
  refine swept.bind fun removed => .pure ?_
  intro last settled
  exact ⟨by rw [sameArtifact, artifact], text, library, settled⟩

theorem matched_run
    (bundled : code.layout = .bundle) (compiles : isBlankText code.compiler = false)
    (apart : Apart code origin) (matched : Matched compiler code origin before)
    (templates : Templates) (source : Source) :
    Matched compiler code origin ((generate compiler code templates source).run.run before).2 := by
  have met := generate_settled bundled compiles apart matched templates source before rfl
  rcases shape : (generate compiler code templates source).run.run before with ⟨outcome, later⟩
  rw [shape] at met
  cases outcome with
  | ok made =>
      obtain ⟨-, _, _, settled⟩ := met
      exact settled.matched
  | error failure => exact met

/-- Every run keeps what holds between runs, whether it ends well or fails. -/
theorem matched_storeAfter
    (bundled : code.layout = .bundle) (compiles : isBlankText code.compiler = false)
    (apart : Apart code origin) (matched : Matched compiler code origin before)
    (history : List (Templates × Source)) :
    Matched compiler code origin (storeAfter compiler code before history) := by
  induction history generalizing before with
  | nil => exact matched
  | cons run rest inductionHypothesis =>
      have next := matched_run bundled compiles apart matched run.1 run.2
      exact inductionHypothesis next

theorem matched_of_isEmptyAt
    (empty : origin.IsEmptyAt (origin.locate code.outputDirectory)) :
    Matched compiler code origin origin := by
  have free := empty (origin.locate (artifactPath code))
    (by rw [locate_artifactPath]; exact List.prefix_append _ _)
    (by rw [locate_artifactPath]; simp)
  refine ⟨⟨rfl, free.2⟩, ?_⟩
  intro library found
  rw [free.1] at found
  cases found

end Runs

/-- After any runs that started from an empty output folder, the library that a run gives is what
the compiler makes of the source exactly if the source compiles.  If it does not, then the run
found both the source and the library, and changed neither. -/
theorem artifact_eq_built_iff
    {compiler : Compiler} {code : Code} {start later : Store}
    {history : List (Templates × Source)} {templates : Templates} {source : Source}
    {made : Generated} {path : String}
    (bundled : code.layout = .bundle) (compiles : isBlankText code.compiler = false)
    (apart : Apart code start) (empty : start.IsEmptyAt (start.locate code.outputDirectory))
    (ran : (generate compiler code templates source).run.run
      (storeAfter compiler code start history) = (.ok made, later))
    (given : made.artifact = some path) :
    ∃ text library,
      later.content? (later.locate (sourcePath code)) = some text ∧
      later.content? (later.locate path) = some library ∧
      (built compiler code text = some library ↔ (built compiler code text).isSome) ∧
      (built compiler code text = none →
        let before := storeAfter compiler code start history
        before.content? (before.locate (sourcePath code)) = some text ∧
          before.content? (before.locate path) = some library) := by
  have matched : Matched compiler code start (storeAfter compiler code start history) :=
    matched_storeAfter bundled compiles apart (matched_of_isEmptyAt empty) history
  have met := generate_settled bundled compiles apart matched templates source _ rfl
  rw [ran] at met
  obtain ⟨artifact, text, library, settled⟩ := met
  rw [given, Option.some.injEq] at artifact
  rw [settled.locate, artifact]
  refine ⟨text, library, settled.source, settled.artifact, ?_, ?_⟩
  · constructor
    · intro same
      rw [same]
      rfl
    · intro isSome
      obtain ⟨fresh, same⟩ := Option.isSome_iff_exists.mp isSome
      rw [same, settled.fits fresh same]
  · intro none
    dsimp only
    rw [matched.locate]
    exact settled.stale none

/-! ## A source that does not compile -/

/-- A source with one table that has no fields. -/
def plainSource (table : String) : Source :=
  { loaded := [⟨.named table .empty, .ofTexts [], 1⟩], isOpen := true }

/-- Templates that write the names of types. -/
def plainTemplates : Templates where
  type := ⟨"type", [slot "name"]⟩
  index := ⟨"index", [forEach "sources" [itself]]⟩
  package := ⟨"manifest", []⟩

/-- A compiler that copies every source but one. -/
def copyCompiler : Compiler := fun call =>
  if call.source == "Broken".toUTF8 then some ⟨false, "broken", none⟩
  else some ⟨true, "", some call.source⟩

/-- A run of the module of one table. -/
def plainRun (table : String) (store : Store) : Outcome Generated × Store :=
  (generate copyCompiler {} plainTemplates (plainSource table)).run.run store

/-- The store after runs of modules of one table each. -/
def plainStore (tables : List String) : Store :=
  storeAfter copyCompiler {} {} (tables.map fun table => (plainTemplates, plainSource table))

theorem exists_of_artifact
    {run : Outcome Generated × Store} {path : String}
    (given : run.1.toOption.bind (·.artifact) = some path) :
    ∃ made, run = (.ok made, run.2) ∧ made.artifact = some path := by
  obtain ⟨outcome, later⟩ := run
  cases outcome with
  | error failure => cases given
  | ok made => exact ⟨made, rfl, given⟩

theorem artifact_eq_built_iff_after_failure :
    ∃ made later, plainRun "Item" (plainStore ["Broken"]) = (.ok made, later) ∧
      made.artifact = some "generated/libtables.rlib" ∧
      ∃ text library,
        later.content? (later.locate (sourcePath {})) = some text ∧
        later.content? (later.locate "generated/libtables.rlib") = some library ∧
        (built copyCompiler {} text = some library ↔ (built copyCompiler {} text).isSome) ∧
        (built copyCompiler {} text = none →
          let before := plainStore ["Broken"]
          before.content? (before.locate (sourcePath {})) = some text ∧
            before.content? (before.locate "generated/libtables.rlib") = some library) := by
  have finished : (plainRun "Item" (plainStore ["Broken"])).1.toOption.bind (·.artifact) =
      some "generated/libtables.rlib" := by
    simp only [plainRun, plainStore, storeAfter, generate, removeStale, removeFiles, Store.listing?,
      Store.fileNames_eq_insertionSort]
    decide +kernel
  obtain ⟨made, ran, given⟩ := exists_of_artifact finished
  have apart : Apart {} {} := by
    constructor <;> decide +kernel
  have output : ({} : Store).locate ({} : Code).outputDirectory = ["generated"] := by
    decide +kernel
  have empty : ({} : Store).IsEmptyAt (({} : Store).locate ({} : Code).outputDirectory) := by
    rw [output]
    rintro location ⟨rest, rfl⟩ _
    exact ⟨rfl, rfl⟩
  exact ⟨made, _, ran, given,
    artifact_eq_built_iff rfl (by decide +kernel) apart empty ran given⟩

/-- After a run that fails because its source does not compile, the same run ends well and gives
the library of the source before. -/
theorem stale_artifact_of_broken_source :
    ∃ made later, plainRun "Broken" (plainStore ["Item", "Broken"]) = (.ok made, later) ∧
      made.artifact = some "generated/libtables.rlib" ∧
      later.content? (later.locate (sourcePath {})) = some "Broken".toUTF8 ∧
      later.content? (later.locate "generated/libtables.rlib") = some "Item".toUTF8 ∧
      built copyCompiler {} "Broken".toUTF8 = none := by
  have evaluated :
      let run := plainRun "Broken" (plainStore ["Item", "Broken"])
      run.1.toOption.bind (·.artifact) = some "generated/libtables.rlib" ∧
        run.2.content? (run.2.locate (sourcePath {})) = some "Broken".toUTF8 ∧
        run.2.content? (run.2.locate "generated/libtables.rlib") = some "Item".toUTF8 := by
    simp only [plainRun, plainStore, storeAfter, generate, removeStale, removeFiles, Store.listing?,
      Store.fileNames_eq_insertionSort]
    decide +kernel
  obtain ⟨finished, source, artifact⟩ := evaluated
  obtain ⟨made, ran, given⟩ := exists_of_artifact finished
  exact ⟨made, _, ran, given, source, artifact, by decide +kernel⟩

end TypedTables.Generate
