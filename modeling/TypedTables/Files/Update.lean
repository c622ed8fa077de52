import TypedTables.Failure
import TypedTables.Files.Store

/-!
# Updates of stores

An update reads and changes a store.  What it has changed stays changed when it fails.
-/

namespace TypedTables.Files

/-- An operation that reads and changes a store, and may fail. -/
abbrev Update (α : Type) := ExceptT Failure (StateM Store) α

/-- The failure of an update gives back no value, but what was changed stays changed. -/
def Update.ofOutcome {α : Type} (outcome : Outcome α) : Update α :=
  match outcome with
  | .ok value => pure value
  | .error failure => throw failure

/-- Changes the store as far as it can be changed. -/
def changeStore (change : Store → Option Store) : Update Unit := do
  match change (← get) with
  | some changed => set changed
  | none => throw .inputOutput

def parent (path : String) : String :=
  let names := (Text.split "/" path).dropLast
  if names == [""] then "/" else String.intercalate "/" names

/-- Makes the folder that a path names, with those around it. -/
def makeFolder (path : String) : Update Unit :=
  changeStore fun store => store.makeFolder? (store.locate path)

/-- Puts a file at a path, with the folders around it. -/
def write (path : String) (content : ByteArray) : Update Unit := do
  makeFolder (parent path)
  changeStore fun store => store.put? (store.locate path) content

/-- Puts a file at a path unless it holds the same content; whether it was put there. -/
def writeIfChanged (path : String) (content : ByteArray) : Update Bool := do
  let store ← get
  if store.content? (store.locate path) == some content then return false
  else
    write path content
    return true

/-- Puts a file at a path unless something is there; whether it was put there. -/
def writeIfAbsent (path : String) (content : ByteArray) : Update Bool := do
  let store ← get
  let location := store.locate path
  if store.hasFile location || store.hasFolder location then return false
  else writeIfChanged path content

/-- Takes files out of a folder whose names satisfy a test, but not those at some locations; the
paths of the files taken out, in ascending order.  Where there is no folder to list, nothing is
taken. -/
def removeFiles (folder : String) (test : String → Bool) (kept : List Location) :
    Update (List String) := do
  let store ← get
  let location := store.locate folder
  let names := ((store.listing? folder).getD []).filter fun name =>
    test name && !kept.contains (location ++ [name])
  set (names.foldl (fun (left : Store) name => left.remove (location ++ [name])) store)
  return names.map (join folder)

/-- Takes files out of a folder whose names end in one of some texts, but not those of some
paths. -/
def removeStale (folder : String) (endings kept : List String) : Update (List String) := do
  let store ← get
  removeFiles folder (fun name => endings.any (name.endsWith ·)) (kept.map store.locate)

def clearFolder (path : String) : Update Unit := do
  let store ← get
  let location := store.locate path
  if store.hasFile location then throw .inputOutput
  set (store.removeFolder location)
  makeFolder path

def dropFolder (path : String) : Update Unit :=
  modify fun store => store.removeFolder (store.locate path)

/-- Runs an update inside a folder that is empty before it, and that is taken away after it, also
when the update fails. -/
def inScratch {α : Type} (path : String) (update : Update α) : Update α := do
  clearFolder path
  try
    let value ← update
    dropFolder path
    return value
  catch failure =>
    dropFolder path
    throw failure

end TypedTables.Files
