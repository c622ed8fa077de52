import TypedTables.Files.Update
import TypedTables.Proofs.Files.Stores
import TypedTables.Proofs.Outcome

/-!
# Assertions about updates

What an update meets it meets from every store that it may start from, whether it ends well or
fails.  Every update has a rule that says which stores it can leave behind.
-/

namespace TypedTables.Files

/-! ## How stores differ -/

/-- The later store has the folders to a location as well; no file was in the way. -/
structure Grown (location : Location) (store later : Store) : Prop where
  clear : store.Clear location
  working : later.working = store.working
  folders : ∀ other, later.hasFolder other = true ↔
    store.hasFolder other = true ∨ other <+: location

/-- A folder was made, with those around it. -/
structure Made (location : Location) (store later : Store) : Prop
    extends Grown location store later where
  content : ∀ other, later.content? other = store.content? other

/-- A file was put into a folder, which was made if it was missing, where no folder was. -/
structure Written (folder location : Location) (content : ByteArray) (store later : Store) : Prop
    extends Grown folder store later where
  free : later.hasFolder location = false
  content : ∀ other, later.content? other =
    if other = location then some content else store.content? other

/-- The stores differ at most inside a folder and in the folders to it. -/
structure Elsewhere (location : Location) (store later : Store) : Prop where
  working : later.working = store.working
  content : ∀ other, ¬ location <+: other → later.content? other = store.content? other
  kept : ∀ other, ¬ location <+: other → store.hasFolder other = true →
    later.hasFolder other = true
  folders : ∀ other, ¬ location <+: other → ¬ other <+: location →
    later.hasFolder other = store.hasFolder other

/-- The later store lacks some files, none of those that are kept. -/
structure Thinned (kept : List Location) (store later : Store) : Prop where
  working : later.working = store.working
  content : ∀ other, later.content? other = store.content? other ∨
    other ∉ kept ∧ later.content? other = none
  folders : later.folders = store.folders

theorem Thinned.refl (kept : List Location) (store : Store) : Thinned kept store store :=
  ⟨rfl, fun _ => Or.inl rfl, rfl⟩

theorem Thinned.content_of_mem
    {kept : List Location} {store later : Store} {location : Location}
    (thinned : Thinned kept store later) (member : location ∈ kept) :
    later.content? location = store.content? location :=
  (thinned.content location).resolve_right fun gone => gone.1 member

/-- A location in a folder that is not kept, with a name that satisfies a test. -/
def IsStale (folder : Location) (test : String → Bool) (kept : List Location)
    (location : Location) : Prop :=
  location ∉ kept ∧ ∃ name, test name = true ∧ location = folder ++ [name]

/-- The stale files of a folder were taken away, and no others. -/
structure Swept (folder : Location) (test : String → Bool) (kept : List Location)
    (store later : Store) : Prop where
  working : later.working = store.working
  gone : ∀ other, IsStale folder test kept other → later.content? other = none
  left : ∀ other, ¬ IsStale folder test kept other → later.content? other = store.content? other
  folders : later.folders = store.folders

theorem Swept.thinned
    {folder : Location} {test : String → Bool} {kept : List Location} {store later : Store}
    (swept : Swept folder test kept store later) : Thinned kept store later where
  working := swept.working
  content other := by
    by_cases stale : IsStale folder test kept other
    · exact Or.inr ⟨stale.1, swept.gone other stale⟩
    · exact Or.inl (swept.left other stale)
  folders := swept.folders

theorem Swept.hasFolder
    {folder : Location} {test : String → Bool} {kept : List Location} {store later : Store}
    (swept : Swept folder test kept store later) (location : Location) :
    later.hasFolder location = store.hasFolder location := by
  rw [Store.hasFolder, swept.folders]
  rfl

theorem Elsewhere.refl (location : Location) (store : Store) : Elsewhere location store store :=
  ⟨rfl, fun _ _ => rfl, fun _ _ given => given, fun _ _ _ => rfl⟩

theorem Elsewhere.trans
    {location : Location} {first second third : Store}
    (before : Elsewhere location first second) (after : Elsewhere location second third) :
    Elsewhere location first third where
  working := after.working.trans before.working
  content other outside := (after.content other outside).trans (before.content other outside)
  kept other outside given := after.kept other outside (before.kept other outside given)
  folders other outside apart :=
    (after.folders other outside apart).trans (before.folders other outside apart)

theorem elsewhere_removeFolder (location : Location) (store : Store) :
    Elsewhere location store (store.removeFolder location) where
  working := rfl
  content other outside := by rw [Store.content?_removeFolder, if_neg outside]
  kept other outside given := by rwa [Store.hasFolder_removeFolder_of_not_prefix outside]
  folders other outside _ := Store.hasFolder_removeFolder_of_not_prefix outside

theorem Made.of_makeFolder?
    {location : Location} {store later : Store}
    (made : store.makeFolder? location = some later) : Made location store later where
  clear := Store.makeFolder?_isSome_iff.mp (by rw [made]; rfl)
  working := Store.working_makeFolder? made
  content _ := Store.content?_makeFolder? made
  folders _ := Store.hasFolder_makeFolder? made

theorem Made.elsewhere
    {location : Location} {store later : Store} (made : Made location store later) :
    Elsewhere location store later where
  working := made.working
  content other _ := made.content other
  kept other _ given := (made.folders other).mpr (Or.inl given)
  folders other _ apart := by
    rw [Bool.eq_iff_iff, made.folders other]
    exact or_iff_left apart

/-- What runs in a scratch folder runs from a store with the empty folder, and the folder is taken
away after it. -/
theorem run_inScratch {α : Type} (path : String) (update : Update α) (store : Store) :
    (inScratch path update).run.run store =
      match (clearFolder path).run.run store with
      | (.ok _, cleared) =>
        match update.run.run cleared with
        | (outcome, later) => (outcome, later.removeFolder (later.locate path))
      | (.error failure, later) => (.error failure, later) := by
  unfold inScratch
  rw [Outcome.run_bind]
  rcases (clearFolder path).run.run store with ⟨outcome, cleared⟩
  cases outcome with
  | error failure => rfl
  | ok nothing =>
      dsimp only
      rw [Outcome.run_bind, Outcome.run_tryCatch, Outcome.run_bind]
      rcases update.run.run cleared with ⟨outcome, later⟩
      cases outcome <;> rfl

/-! ## Rules -/

namespace Update

variable {α β : Type} {before failed : Store → Prop}

/-- From every store with the first property, the update either gives a value and leaves a store
with the second property, or it fails and leaves a store with the third. -/
def Meets (update : Update α) (before : Store → Prop) (after : α → Store → Prop)
    (failed : Store → Prop) : Prop :=
  ∀ store, before store →
    match update.run.run store with
    | (.ok value, later) => after value later
    | (.error _, later) => failed later

namespace Meets

theorem bind
    {update : Update α} {next : α → Update β} {middle : α → Store → Prop}
    {after : β → Store → Prop}
    (first : Meets update before middle failed)
    (rest : ∀ value, Meets (next value) (middle value) after failed) :
    Meets (update >>= next) before after failed := by
  intro store start
  have reached := first store start
  rw [Outcome.run_bind]
  rcases shape : update.run.run store with ⟨outcome, later⟩
  rw [shape] at reached
  cases outcome with
  | ok value => exact rest value later reached
  | error failure => exact reached

theorem weaken
    {update : Update α} {strong after : α → Store → Prop} {weak : Store → Prop}
    (holds : Meets update before strong failed)
    (onValue : ∀ value store, strong value store → after value store)
    (onFailure : ∀ store, failed store → weak store) :
    Meets update before after weak := by
  intro store start
  have reached := holds store start
  rcases shape : update.run.run store with ⟨outcome, later⟩
  rw [shape] at reached
  cases outcome with
  | ok value => exact onValue value later reached
  | error failure => exact onFailure later reached

theorem strengthen
    {update : Update α} {start : Store → Prop} {after : α → Store → Prop}
    (holds : Meets update before after failed) (implies : ∀ store, start store → before store) :
    Meets update start after failed :=
  fun store given => holds store (implies store given)

theorem both
    {update : Update α} {left right : α → Store → Prop}
    (first : Meets update before left failed) (second : Meets update before right failed) :
    Meets update before (fun value store => left value store ∧ right value store) failed := by
  intro store start
  have reachedFirst := first store start
  have reachedSecond := second store start
  rcases shape : update.run.run store with ⟨outcome, later⟩
  rw [shape] at reachedFirst reachedSecond
  cases outcome with
  | ok value => exact ⟨reachedFirst, reachedSecond⟩
  | error failure => exact reachedFirst

/-- What is met from a property is what is met from each store with it. -/
theorem of_each
    {update : Update α} {after : α → Store → Prop}
    (each : ∀ store, before store → Meets update (· = store) after failed) :
    Meets update before after failed :=
  fun store start => each store start store rfl

/-- What is met from a property is met from one store with it. -/
theorem starting
    {update : Update α} {after : α → Store → Prop} {store : Store}
    (holds : Meets update before after failed) (start : before store) :
    Meets update (· = store) after failed := by
  refine holds.strengthen ?_
  rintro _ rfl
  exact start

theorem pure {after : α → Store → Prop} {value : α}
    (holds : ∀ store, before store → after value store) :
    Meets (Pure.pure value) before after failed :=
  holds

theorem throw {after : α → Store → Prop} {failure : Failure}
    (holds : ∀ store, before store → failed store) :
    Meets (MonadExcept.throw failure) before after failed :=
  holds

theorem ofOutcome {after : α → Store → Prop} {outcome : Outcome α}
    (onValue : ∀ value store, outcome = .ok value → before store → after value store)
    (onFailure : ∀ failure store, outcome = .error failure → before store → failed store) :
    Meets (Update.ofOutcome outcome) before after failed := by
  cases outcome with
  | ok value => exact pure fun store => onValue value store rfl
  | error failure => exact throw fun store => onFailure failure store rfl

theorem ofOutcome_bind
    {outcome : Outcome α} {next : α → Update β} {after : β → Store → Prop}
    (onFailure : ∀ store, before store → failed store)
    (rest : ∀ value, outcome = .ok value → Meets (next value) before after failed) :
    Meets (Update.ofOutcome outcome >>= next) before after failed := by
  cases outcome with
  | ok value => exact rest value rfl
  | error failure => exact throw onFailure

theorem get_bind
    {next : Store → Update β} {after : β → Store → Prop}
    (rest : ∀ current, before current → Meets (next current) (· = current) after failed) :
    Meets (MonadState.get >>= next) before after failed :=
  fun store start => rest store start store rfl

theorem set_bind
    {next : Store} {rest : PUnit → Update β} {after : β → Store → Prop}
    (holds : Meets (rest ⟨⟩) (· = next) after failed) :
    Meets (MonadStateOf.set next >>= rest) before after failed :=
  fun _ _ => holds next rfl

theorem changeStore
    {change : Store → Option Store} {after : Unit → Store → Prop}
    (changed : ∀ store later, before store → change store = some later → after () later)
    (refused : ∀ store, before store → change store = none → failed store) :
    Meets (Files.changeStore change) before after failed := by
  unfold Files.changeStore
  refine get_bind ?_
  intro store start
  cases shape : change store with
  | some later =>
      rintro _ rfl
      exact changed _ later start shape
  | none =>
      rintro _ rfl
      exact refused _ start shape

theorem makeFolder
    {path : String} {after : Unit → Store → Prop}
    (blocked : ∀ store, before store → ¬ store.Clear (store.locate path) → failed store)
    (ended : ∀ store later, before store → Made (store.locate path) store later →
      after () later) :
    Meets (Files.makeFolder path) before after failed := by
  refine changeStore ?_ ?_
  · intro store later start shape
    exact ended store later start (.of_makeFolder? shape)
  · intro store start shape
    apply blocked store start
    intro clear
    have isSome := Store.makeFolder?_isSome_iff.mpr clear
    rw [shape] at isSome
    cases isSome

/-- A file is not put where a folder is, or where the folder around it is missing. -/
theorem write
    {path : String} {content : ByteArray} {after : Unit → Store → Prop}
    (blocked : ∀ store, before store → ¬ store.Clear (store.locate (parent path)) → failed store)
    (refused : ∀ store later, before store → Made (store.locate (parent path)) store later →
      (later.hasFolder (store.locate path) = true ∨
        later.hasFolder (store.locate path).dropLast = false) → failed later)
    (written : ∀ store later, before store →
      Written (store.locate (parent path)) (store.locate path) content store later →
      after () later) :
    Meets (Files.write path content) before after failed := by
  have around : Meets (Files.makeFolder (parent path)) before
      (fun _ later => ∃ store, before store ∧ Made (store.locate (parent path)) store later)
      failed :=
    makeFolder blocked fun store _ start made => ⟨store, start, made⟩
  refine around.bind fun _ => changeStore ?_ ?_
  · rintro middle later ⟨store, start, made⟩ put
    rw [Store.locate_congr made.working, Store.put?_eq_some_iff] at put
    obtain ⟨free, _, rfl⟩ := put
    apply written store _ start
    refine ⟨⟨made.clear, made.working, made.folders⟩, free, ?_⟩
    intro other
    rw [Store.content?_putContent, made.content]
  · rintro later ⟨store, start, made⟩ put
    apply refused store later start made
    rw [Store.locate_congr made.working] at put
    exact Store.put?_eq_none_iff.mp put

theorem writeIfChanged
    {path : String} {content : ByteArray} {after : Bool → Store → Prop}
    (unchanged : ∀ store, before store → store.content? (store.locate path) = some content →
      after false store)
    (blocked : ∀ store, before store → ¬ store.Clear (store.locate (parent path)) → failed store)
    (refused : ∀ store later, before store → Made (store.locate (parent path)) store later →
      (later.hasFolder (store.locate path) = true ∨
        later.hasFolder (store.locate path).dropLast = false) → failed later)
    (written : ∀ store later, before store →
      Written (store.locate (parent path)) (store.locate path) content store later →
      after true later) :
    Meets (Files.writeIfChanged path content) before after failed := by
  unfold Files.writeIfChanged
  refine get_bind ?_
  intro store start
  by_cases same : store.content? (store.locate path) = some content
  · rw [if_pos (by simpa using same)]
    rintro _ rfl
    exact unchanged _ start same
  · rw [if_neg (by simpa using same)]
    have wrote : Meets (Files.write path content) (· = store) (fun _ => after true) failed := by
      refine write ?_ ?_ ?_
      · rintro _ rfl
        exact blocked _ start
      · rintro _ later rfl
        exact refused _ later start
      · rintro _ later rfl
        exact written _ later start
    exact wrote.bind fun _ => pure fun _ holds => holds

/-- A folder is not made anew where a file stands or on the way to it. -/
theorem clearFolder
    {path : String} {after : Unit → Store → Prop}
    (proper : ∀ store, before store → store.locate path ≠ [])
    (blocked : ∀ store later, before store → ¬ store.Clear (store.locate path) →
      Elsewhere (store.locate path) store later → failed later)
    (cleared : ∀ store later, before store → store.Clear (store.locate path) →
      Elsewhere (store.locate path) store later → after () later) :
    Meets (Files.clearFolder path) before after failed := by
  unfold Files.clearFolder
  refine get_bind ?_
  intro store start
  have onTheWay := mem_foldersTo.mpr ⟨proper store start, List.prefix_rfl⟩
  have emptied := elsewhere_removeFolder (store.locate path) store
  dsimp only
  by_cases occupied : store.hasFile (store.locate path) = true
  · rw [if_pos occupied]
    rintro _ rfl
    apply blocked _ _ start ?_ (Elsewhere.refl _ _)
    intro clear
    obtain ⟨content, found⟩ := Store.hasFile_iff.mp occupied
    rw [clear _ onTheWay] at found
    cases found
  · have free : store.content? (store.locate path) = none := by
      simpa [Store.hasFile] using occupied
    rw [if_neg occupied]
    refine set_bind (makeFolder ?_ ?_)
    · rintro _ rfl stillBlocked
      rw [Store.locate_congr emptied.working, Store.clear_removeFolder_iff free] at stillBlocked
      exact blocked store _ start stillBlocked emptied
    · rintro _ later rfl made
      rw [Store.locate_congr emptied.working] at made
      have clear := (Store.clear_removeFolder_iff free).mp made.clear
      exact cleared store later start clear (emptied.trans made.elsewhere)

/-- An update in a scratch folder starts from a store with the folder, and what it leaves there is
taken away. -/
theorem inScratch
    {path : String} {update : Update α} {middle after : α → Store → Prop} {broken : Store → Prop}
    (proper : ∀ store, before store → store.locate path ≠ [])
    (blocked : ∀ store later, before store → ¬ store.Clear (store.locate path) →
      Elsewhere (store.locate path) store later → failed later)
    (inside : Meets update
      (fun later => ∃ store, before store ∧ store.Clear (store.locate path) ∧
        Elsewhere (store.locate path) store later)
      middle broken)
    (ended : ∀ value store, middle value store →
      after value (store.removeFolder (store.locate path)))
    (stopped : ∀ store, broken store → failed (store.removeFolder (store.locate path))) :
    Meets (Files.inScratch path update) before after failed := by
  have prepared : Meets (Files.clearFolder path) before
      (fun _ later => ∃ store, before store ∧ store.Clear (store.locate path) ∧
        Elsewhere (store.locate path) store later)
      failed :=
    clearFolder proper blocked fun store later start clear away => ⟨store, start, clear, away⟩
  intro store start
  have ready := prepared store start
  rw [run_inScratch]
  rcases cleaning : (Files.clearFolder path).run.run store with ⟨outcome, cleared⟩
  rw [cleaning] at ready
  cases outcome with
  | error failure => exact ready
  | ok nothing =>
      have reached := inside cleared ready
      dsimp only
      rcases running : update.run.run cleared with ⟨outcome, later⟩
      rw [running] at reached
      cases outcome with
      | error failure => exact stopped later reached
      | ok value => exact ended value later reached

theorem removeFiles
    {folder : String} {test : String → Bool} {kept : List Location}
    {after : List String → Store → Prop}
    (unlisted : folder = "" → ∀ store, before store → after [] store)
    (swept : folder ≠ "" → ∀ store later paths, before store →
      Swept (store.locate folder) test kept store later → after paths later) :
    Meets (Files.removeFiles folder test kept) before after failed := by
  unfold Files.removeFiles
  refine get_bind ?_
  intro store start
  dsimp only
  refine set_bind (pure ?_)
  rintro _ rfl
  by_cases empty : folder = ""
  · rw [Store.listing?, if_pos (by simp [empty])]
    exact unlisted empty store start
  rw [Store.listing?, if_neg (by simpa using empty), Option.getD_some, Store.foldl_remove]
  apply swept empty store _ _ start
  have listed : ∀ other,
      other ∈ ((store.fileNames (store.locate folder)).filter fun name =>
          test name && !kept.contains (store.locate folder ++ [name])).map
            (store.locate folder ++ [·]) ↔
        IsStale (store.locate folder) test kept other ∧ store.hasFile other = true := by
    intro other
    simp only [List.mem_map, List.mem_filter, Store.mem_fileNames, Bool.and_eq_true,
      Bool.not_eq_true', List.contains_eq_mem, decide_eq_false_iff_not]
    constructor
    · rintro ⟨name, ⟨present, passes, notKept⟩, rfl⟩
      exact ⟨⟨notKept, name, passes, rfl⟩, present⟩
    · rintro ⟨⟨notKept, name, passes, rfl⟩, present⟩
      exact ⟨name, ⟨present, passes, notKept⟩, rfl⟩
  refine ⟨rfl, ?_, ?_, rfl⟩
  · intro other stale
    rw [Store.content?_without]
    by_cases present : store.hasFile other = true
    · rw [if_pos ((listed other).mpr ⟨stale, present⟩)]
    · rw [if_neg fun member => present ((listed other).mp member).2]
      simpa [Store.hasFile] using present
  · intro other fresh
    rw [Store.content?_without, if_neg fun member => fresh ((listed other).mp member).1]

theorem sweepStale
    {folder : String} {endings kept : List String} {after : List String → Store → Prop}
    (unlisted : folder = "" → ∀ store, before store → after [] store)
    (swept : folder ≠ "" → ∀ store later paths, before store →
      Swept (store.locate folder) (fun name => endings.any (name.endsWith ·))
        (kept.map store.locate) store later → after paths later) :
    Meets (Files.removeStale folder endings kept) before after failed := by
  unfold Files.removeStale
  refine get_bind fun store start => removeFiles ?_ ?_
  · rintro empty _ rfl
    exact unlisted empty _ start
  · rintro proper _ later paths rfl sweeps
    exact swept proper _ later paths start sweeps

theorem removeStale
    {folder : String} {endings kept : List String} {after : List String → Store → Prop}
    (thinned : ∀ store later paths, before store → Thinned (kept.map store.locate) store later →
      after paths later) :
    Meets (Files.removeStale folder endings kept) before after failed := by
  refine sweepStale ?_ ?_
  · intro _ store start
    exact thinned store store [] start (Thinned.refl _ store)
  · intro _ store later paths start swept
    exact thinned store later paths start swept.thinned

end Meets

end Update

end TypedTables.Files
