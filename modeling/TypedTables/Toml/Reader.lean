import TypedTables.Toml.Statement

/-!
# Reading TOML

Statements are carried out one after the other on the tables read so far.  A table may get a head
only once, and not after it came to be by a key with points.
-/

namespace TypedTables.Toml

/-- The entries read so far, and the path of the head in force. -/
structure Build where
  entries : List (String × Item) := []
  path : List String := []
  deriving Repr

/-- Changes the entries at a path of heads, making the tables on it that are missing. -/
def changeAt? (change : List (String × Item) → Option (List (String × Item))) :
    List String → List (String × Item) → Option (List (String × Item))
  | [], entries => change entries
  | name :: path, entries =>
    match entries.lookup name with
    | none =>
      (changeAt? change path []).map fun inner => putItem name (.table .implied inner) entries
    | some (.table origin inner) =>
      (changeAt? change path inner).map fun changed => putItem name (.table origin changed) entries
    | some (.tables (row :: others)) =>
      (changeAt? change path row).map fun changed =>
        putItem name (.tables (changed :: others)) entries
    | some _ => none

def putHead? (name : String) (entries : List (String × Item)) : Option (List (String × Item)) :=
  match entries.lookup name with
  | none => some (putItem name (.table .head []) entries)
  | some (.table .implied inner) => some (putItem name (.table .head inner) entries)
  | some _ => none

def putListHead? (name : String) (entries : List (String × Item)) :
    Option (List (String × Item)) :=
  match entries.lookup name with
  | none => some (putItem name (.tables [[]]) entries)
  | some (.tables rows) => some (putItem name (.tables ([] :: rows)) entries)
  | some _ => none

def changeLast? (change : String → List (String × Item) → Option (List (String × Item)))
    (path : List String) (entries : List (String × Item)) : Option (List (String × Item)) :=
  match path.getLast? with
  | some name => changeAt? (change name) path.dropLast entries
  | none => none

namespace Build

def run? (build : Build) : Statement → Option Build
  | .head path => do return ⟨← changeLast? putHead? path build.entries, path⟩
  | .listHead path => do return ⟨← changeLast? putListHead? path build.entries, path⟩
  | .assign path value => do
    return { build with
      entries := ← changeAt? (assign? value (path.length == 1) path) build.path build.entries }

end Build

def read? (text : String) : Option Document := do
  let chars := match text.toList with
    | '\uFEFF' :: rest => rest
    | all => all
  let statements ← statements? chars.length chars
  let build ← statements.foldlM Build.run? {}
  return .mapping (entryDocuments build.entries)

end TypedTables.Toml
