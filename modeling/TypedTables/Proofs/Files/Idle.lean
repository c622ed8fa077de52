import TypedTables.Proofs.Files.Updates

/-!
# Updates that find their work done

An update is idle in a store if it gives a value and leaves the store as it is: the folder to make
is there, the file to write holds its content, and no file is stale.
-/

namespace TypedTables.Files.Update

variable {α β : Type} {store : Store}

/-- The update gives a value and leaves the store as it is. -/
def Idle (update : Update α) (store : Store) (value : α) : Prop :=
  update.run.run store = (.ok value, store)

namespace Idle

theorem pure (value : α) : Idle (Pure.pure value) store value :=
  rfl

theorem ofOutcome {outcome : Outcome α} {value : α} (ended : outcome = .ok value) :
    Idle (Update.ofOutcome outcome) store value := by
  rw [ended]
  exact pure value

theorem bind
    {update : Update α} {next : α → Update β} {value : α} {result : β}
    (first : Idle update store value) (rest : Idle (next value) store result) :
    Idle (update >>= next) store result := by
  have ended : update.run.run store = (.ok value, store) := first
  unfold Idle
  rw [Outcome.run_bind, ended]
  exact rest

theorem get_bind
    {next : Store → Update β} {result : β} (rest : Idle (next store) store result) :
    Idle (MonadState.get >>= next) store result :=
  rest

/-! ## Files and folders that are there -/

theorem makeFolder
    {path : String} (clear : store.Clear (store.locate path))
    (present : ∀ other, other <+: store.locate path → store.hasFolder other = true) :
    Idle (Files.makeFolder path) store () := by
  have free : (foldersTo (store.locate path)).any store.hasFile = false := by
    rw [List.any_eq_false]
    intro folder needed
    rw [Store.hasFile, clear folder needed]
    decide
  have nothing : (foldersTo (store.locate path)).filter (!store.folders.contains ·) = [] := by
    rw [List.filter_eq_nil_iff]
    intro folder needed
    obtain ⟨nonempty, onTheWay⟩ := mem_foldersTo.mp needed
    have isFolder := present folder onTheWay
    have shown : folder.isEmpty = false := by simpa using nonempty
    rw [Store.hasFolder, shown, Bool.false_or] at isFolder
    rw [isFolder]
    decide
  have same : store.makeFolder? (store.locate path) = some store := by
    unfold Store.makeFolder?
    dsimp only
    rw [free, nothing, List.append_nil]
    rfl
  unfold Files.makeFolder changeStore
  apply get_bind
  dsimp only
  rw [same]
  rfl

theorem writeIfChanged
    {path : String} {content : ByteArray}
    (found : store.content? (store.locate path) = some content) :
    Idle (Files.writeIfChanged path content) store false := by
  unfold Files.writeIfChanged
  apply get_bind
  rw [found, if_pos (beq_self_eq_true _)]
  exact pure false

theorem writeIfAbsent
    {path : String} {content : ByteArray}
    (occupied : store.hasFile (store.locate path) = true ∨
      store.hasFolder (store.locate path) = true) :
    Idle (Files.writeIfAbsent path content) store false := by
  unfold Files.writeIfAbsent
  apply get_bind
  dsimp only
  rw [if_pos (by rwa [Bool.or_eq_true])]
  exact pure false

theorem removeStale
    {folder : String} {endings kept : List String}
    (none : folder ≠ "" → ∀ name, endings.any (name.endsWith ·) = true →
      store.hasFile (store.locate folder ++ [name]) = true →
      store.locate folder ++ [name] ∈ kept.map store.locate) :
    Idle (Files.removeStale folder endings kept) store [] := by
  have nothing : (((store.listing? folder).getD []).filter fun name =>
      endings.any (name.endsWith ·) &&
        !(kept.map store.locate).contains (store.locate folder ++ [name])) = [] := by
    by_cases empty : folder = ""
    · rw [Store.listing?, if_pos (by simp [empty])]
      rfl
    rw [Store.listing?, if_neg (by simpa using empty), Option.getD_some, List.filter_eq_nil_iff]
    intro name listed
    have isFile := Store.mem_fileNames.mp listed
    by_cases ends : endings.any (name.endsWith ·) = true
    · rw [List.contains_iff_mem.mpr (none empty name ends isFile)]
      simp
    · simp [ends]
  unfold Files.removeStale
  apply get_bind
  unfold Files.removeFiles
  apply get_bind
  dsimp only
  rw [nothing]
  rfl

end Idle

end TypedTables.Files.Update
