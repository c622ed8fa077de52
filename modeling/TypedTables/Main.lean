import TypedTables.CommandLine

/-!
# The program

The program takes the files that a command needs from the disk into a store, builds in the store,
and puts the changes back on the disk.  External compilers are not run.
-/

namespace TypedTables

open TypedTables.Files

def diskPath (location : Location) : String :=
  "/" ++ String.intercalate "/" location

/-- Takes a file from the disk, if it is there. -/
def takeFile (store : Store) (location : Location) : IO Store := do
  try
    let content ← IO.FS.readBinFile (diskPath location)
    return { store with files := putContent location content store.files }
  catch _ => return store

/-- Takes a folder from the disk with everything in it, if it is there. -/
partial def takeFolder (store : Store) (location : Location) : IO Store := do
  try
    let folder ← IO.FS.realPath (diskPath location)
    if ← folder.isDir then
      let entries ← folder.readDir
      let mut taken := (store.makeFolder? location).getD store
      for entry in entries do
        let inside := location ++ [entry.fileName]
        if ← entry.path.isDir then taken ← takeFolder taken inside
        else taken ← takeFile taken inside
      return taken
    else return store
  catch _ => return store

/-- Puts the changes of a store back on the disk. -/
def putBack (before after : Store) : IO Unit := do
  for (location, _) in before.files do
    if !after.hasFile location then IO.FS.removeFile (diskPath location)
  for folder in after.folders do
    if !before.hasFolder folder then IO.FS.createDirAll (diskPath folder)
  for (location, content) in after.files do
    if before.content? location != some content then
      IO.FS.writeBinFile (diskPath location) content

/-- The folders that a build with some settings reads or writes. -/
def foldersOf (settings : Config.Settings) : List String :=
  [settings.input.directory, settings.output.path, settings.code.outputDirectory]

/-- The files that a build with some settings reads outside its folders. -/
def filesOf (settings : Config.Settings) : List String :=
  settings.code.templatePath.toList ++ settings.code.indexTemplatePath.toList

/-- The variables of the environment that a text refers to, with their values. -/
def variablesOf (text : String) : IO (List (String × String)) := do
  let values ← (Config.referredNames text).mapM fun name => return (name, ← IO.getEnv name)
  return values.filterMap fun (name, value) => value.map fun found => (name, found)

/-- Runs the build that a command asks for; the exit code of the program. -/
def runCommand (command : CommandLine.Command) : IO UInt32 := do
  let here ← IO.currentDir
  let start : Store := { working := components here.toString }
  let store ← takeFile start (start.locate command.config)
  let text := store.text? command.config
  let found ← variablesOf (text.getD "")
  let value? (name : String) : Option String := found.lookup name
  let mut before := store
  if let .ok settings := Config.load value? command.config text then
    for folder in foldersOf settings do before ← takeFolder before (start.locate folder)
    for file in filesOf settings do before ← takeFile before (start.locate file)
  let (outcome, after) := (CommandLine.run (fun _ => none) value? command).run before
  putBack before after
  match outcome with
  | .ok _ => return 0
  | .error failure =>
    IO.eprintln ("Error: " ++ failure.message)
    return 1

end TypedTables

/-- Reads the command line and runs the build that it asks for. -/
def main (arguments : List String) : IO UInt32 := do
  match TypedTables.CommandLine.read ("tablegen" :: arguments) with
  | .ok command => TypedTables.runCommand command
  | .error .displayHelp =>
    IO.println TypedTables.CommandLine.usage
    return 0
  | .error .displayVersion =>
    IO.println TypedTables.CommandLine.version
    return 0
  | .error refusal =>
    IO.eprintln refusal.name
    return 2
