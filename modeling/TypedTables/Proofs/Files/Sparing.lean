import TypedTables.Proofs.Files.Updates

/-!
# Updates that spare a file

An update spares a location if it leaves the file there as it is, or leaves none there if there was
none, whether it ends well or fails.  Every update has a rule that says which locations it spares.
-/

namespace TypedTables.Files

/-- Relative paths start where they started at first, and a location holds what it held. -/
structure Held (origin : Store) (location : Location) (held : Option ByteArray) (store : Store) :
    Prop where
  working : store.working = origin.working
  content : store.content? location = held

variable {α β : Type} {origin : Store} {location : Location} {held : Option ByteArray}

/-- An update leaves what a location holds, whether it ends well or fails. -/
abbrev Spares (origin : Store) (location : Location) (held : Option ByteArray)
    (update : Update α) : Prop :=
  Update.Meets update (Held origin location held) (fun _ => Held origin location held)
    (Held origin location held)

theorem Held.locate {store : Store} (kept : Held origin location held store) :
    store.locate = origin.locate :=
  Store.locate_congr kept.working

theorem writeIfChanged_held (path : String) (content : ByteArray) :
    Update.Meets (writeIfChanged path content) (fun store => store.working = origin.working)
      (fun _ => Held origin (origin.locate path) (some content)) fun _ => True := by
  refine .writeIfChanged ?_ (fun _ _ _ => trivial) (fun _ _ _ _ _ => trivial) ?_
  · intro store same found
    rw [Store.locate_congr same] at found
    exact ⟨same, found⟩
  · intro store later same written
    refine ⟨written.working.trans same, ?_⟩
    rw [written.content, Store.locate_congr same, if_pos rfl]

namespace Spares

theorem content_run
    {update : Update α} {store : Store} (spares : Spares origin location held update)
    (start : Held origin location held store) :
    (update.run.run store).2.content? location = held := by
  have reached := spares store start
  rcases shape : update.run.run store with ⟨outcome, later⟩
  rw [shape] at reached
  cases outcome with
  | ok value => exact Held.content reached
  | error failure => exact Held.content reached

theorem pure (value : α) : Spares origin location held (Pure.pure value) :=
  Update.Meets.pure fun _ kept => kept

theorem ofOutcome (outcome : Outcome α) :
    Spares origin location held (Update.ofOutcome outcome) :=
  Update.Meets.ofOutcome (fun _ _ _ kept => kept) fun _ _ _ kept => kept

theorem bind
    {update : Update α} {next : α → Update β} (first : Spares origin location held update)
    (rest : ∀ value, Spares origin location held (next value)) :
    Spares origin location held (update >>= next) :=
  Update.Meets.bind first rest

theorem get_bind
    {next : Store → Update β}
    (rest : ∀ store, Held origin location held store → Spares origin location held (next store)) :
    Spares origin location held (MonadState.get >>= next) := by
  refine Update.Meets.get_bind fun store kept => (rest store kept).strengthen ?_
  rintro _ rfl
  exact kept

theorem makeFolder (path : String) : Spares origin location held (Files.makeFolder path) := by
  refine Update.Meets.makeFolder (fun _ kept _ => kept) ?_
  intro store later kept made
  exact ⟨made.working.trans kept.working, (made.content location).trans kept.content⟩

theorem writeIfChanged
    {path : String} (content : ByteArray) (apart : origin.locate path ≠ location) :
    Spares origin location held (Files.writeIfChanged path content) := by
  refine Update.Meets.writeIfChanged (fun _ kept _ => kept) (fun _ kept _ => kept) ?_ ?_
  · intro store later kept made _
    exact ⟨made.working.trans kept.working, (made.content location).trans kept.content⟩
  · intro store later kept written
    refine ⟨written.working.trans kept.working, ?_⟩
    rw [written.content, kept.locate, if_neg (Ne.symm apart), kept.content]

/-- A file that is there is not written anew. -/
theorem writeIfAbsent (path : String) (content : ByteArray) (present : held.isSome = true) :
    Spares origin location held (Files.writeIfAbsent path content) := by
  unfold Files.writeIfAbsent
  refine get_bind fun store kept => ?_
  dsimp only
  split
  · exact pure false
  · next free =>
      apply writeIfChanged content
      intro same
      apply free
      rw [kept.locate, same, Store.hasFile, kept.content, present]
      rfl

theorem removeFiles
    {folder : String} {test : String → Bool} {listed : List Location}
    (fresh : ¬ IsStale (origin.locate folder) test listed location) :
    Spares origin location held (Files.removeFiles folder test listed) := by
  refine Update.Meets.removeFiles (fun _ _ kept => kept) ?_
  intro _ store later _ kept swept
  rw [kept.locate] at swept
  exact ⟨swept.working.trans kept.working, (swept.left location fresh).trans kept.content⟩

theorem removeStale
    {folder : String} {endings : List String} (listed : List String)
    (fresh : ∀ name, location = origin.locate folder ++ [name] →
      endings.any (name.endsWith ·) = false) :
    Spares origin location held (Files.removeStale folder endings listed) := by
  refine Update.Meets.sweepStale (fun _ _ kept => kept) ?_
  intro _ store later _ kept swept
  rw [kept.locate] at swept
  refine ⟨swept.working.trans kept.working, ?_⟩
  rw [swept.left, kept.content]
  rintro ⟨_, name, ends, same⟩
  exact absurd ends (by simpa using fresh name same)

/-- A scratch folder is not made where a file is. -/
theorem clearFolder_occupied {path : String} (present : held.isSome = true)
    (occupied : origin.locate path = location) :
    Update.Meets (clearFolder path) (Held origin location held) (fun _ _ => False)
      (Held origin location held) := by
  unfold clearFolder
  refine Update.Meets.get_bind fun store kept => ?_
  have isFile : store.hasFile (store.locate path) = true := by
    rw [kept.locate, occupied, Store.hasFile, kept.content, present]
  dsimp only
  rw [if_pos isFile]
  rintro _ rfl
  exact kept

/-- A scratch folder is taken away with what is in it, but it is not made where a file is. -/
theorem inScratch
    {path : String} {update : Update α} (inside : Spares origin location held update)
    (present : held.isSome = true)
    (outside : origin.locate path <+: location → origin.locate path = location) :
    Spares origin location held (Files.inScratch path update) := by
  by_cases within : origin.locate path <+: location
  · unfold Files.inScratch
    exact (clearFolder_occupied present (outside within)).bind fun _ _ never => never.elim
  · have elsewhere : ∀ store later, Held origin location held store →
        Elsewhere (store.locate path) store later → Held origin location held later := by
      intro store later kept away
      rw [kept.locate] at away
      exact ⟨away.working.trans kept.working, (away.content location within).trans kept.content⟩
    have dropped : ∀ store, Held origin location held store →
        Held origin location held (store.removeFolder (store.locate path)) := by
      intro store kept
      exact elsewhere store _ kept (elsewhere_removeFolder _ store)
    refine Update.Meets.inScratch ?_ (fun store later kept _ => elsewhere store later kept)
      (inside.strengthen ?_) (fun _ => dropped) dropped
    · intro store kept top
      apply within
      rw [← kept.locate, top]
      exact List.nil_prefix
    · rintro later ⟨store, kept, _, away⟩
      exact elsewhere store later kept away

end Spares

end TypedTables.Files
