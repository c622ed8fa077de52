import TypedTables.Files.Path

/-!
# Stores of files

A store holds files and folders.  A path names a location in it: a list of names from the root on,
where a relative path starts at the working folder.
-/

namespace TypedTables.Files

/-- Where a file or folder is: the names on the way to it. -/
abbrev Location := List String

/-- Files with their bytes, and folders. -/
structure Store where
  working : Location := []
  files : List (Location × ByteArray) := []
  folders : List Location := []

/-- Goes one name on from a location; two points go back. -/
def advance (location : Location) (name : String) : Location :=
  if name == ".." then location.dropLast else location ++ [name]

/-- Gives a location new content, or adds it at the end. -/
def putContent (location : Location) (content : ByteArray) :
    List (Location × ByteArray) → List (Location × ByteArray)
  | [] => [(location, content)]
  | (other, old) :: rest =>
    if other == location then (location, content) :: rest
    else (other, old) :: putContent location content rest

/-- The folders that a location needs, the location itself included, from the outermost on. -/
def foldersTo (location : Location) : List Location :=
  (List.range location.length).map fun count => location.take (count + 1)

namespace Store

def locate (store : Store) (path : String) : Location :=
  (components path).foldl advance (if path.startsWith "/" then [] else store.working)

def content? (store : Store) (location : Location) : Option ByteArray :=
  store.files.lookup location

def hasFolder (store : Store) (location : Location) : Bool :=
  location.isEmpty || store.folders.contains location

def hasFile (store : Store) (location : Location) : Bool :=
  (store.content? location).isSome

/-- Puts a file at a location whose folder exists and that is no folder itself. -/
def put? (store : Store) (location : Location) (content : ByteArray) : Option Store :=
  if store.hasFolder location || !store.hasFolder location.dropLast then none
  else some { store with files := putContent location content store.files }

/-- Makes a folder and those around it; no file may be in the way. -/
def makeFolder? (store : Store) (location : Location) : Option Store :=
  let needed := foldersTo location
  if needed.any store.hasFile then none
  else some { store with folders := store.folders ++ needed.filter (!store.folders.contains ·) }

def remove (store : Store) (location : Location) : Store :=
  { store with files := store.files.filter (·.1 != location) }

def removeFolder (store : Store) (location : Location) : Store :=
  { store with
    files := store.files.filter fun entry => !location.isPrefixOf entry.1
    folders := store.folders.filter fun folder => !location.isPrefixOf folder }

/-- The names of the files in a folder, in ascending order. -/
def fileNames (store : Store) (folder : Location) : List String :=
  let names := store.files.filterMap fun entry =>
    if entry.1.dropLast == folder then entry.1.getLast? else none
  names.mergeSort fun left right => !decide (right < left)

/-- The names of the files in the folder that a path names, in ascending order.  An empty path names
none. -/
def listing? (store : Store) (path : String) : Option (List String) :=
  if path.isEmpty then none else some (store.fileNames (store.locate path))

/-- The locations below a folder at which there are files, relative to it, folder by folder and
by ascending name. -/
def filesBelow (store : Store) (folder : Location) : List Location :=
  let found := store.files.filterMap fun entry =>
    if folder.isPrefixOf entry.1 then some (entry.1.drop folder.length) else none
  found.mergeSort fun left right => !decide (right < left)

/-- The text of the file that a path names, if it is one. -/
def text? (store : Store) (path : String) : Option String :=
  (store.content? (store.locate path)).bind String.fromUTF8?

end Store

end TypedTables.Files
