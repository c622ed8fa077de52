import TypedTables.Text.Segments

/-!
# Paths

A path is a text whose names are separated by slashes.  A name's extension is what follows its
last point, unless the point is its first character.
-/

namespace TypedTables.Files

open TypedTables.Text

/-- The names along a path, without empty ones and without those that stay where they are. -/
def components (path : String) : List String :=
  (split "/" path).filter fun name => !name.isEmpty && name != "."

/-- The last name of a path, unless it goes up. -/
def fileName? (path : String) : Option String :=
  (components path).getLast?.filter (· != "..")

/-- Splits a name at its last point: what stands before it and behind it. -/
def splitExtension (name : String) : String × Option String :=
  match (piecesBy (· == '.') name.toList).reverse with
  | extension :: first :: others =>
    let stem := List.intercalate ['.'] (first :: others).reverse
    if stem.isEmpty then (name, none) else (String.ofList stem, some (String.ofList extension))
  | _ => (name, none)

def extension? (path : String) : Option String :=
  (fileName? path).bind fun name => (splitExtension name).2

/-- The last name of a path without its extension. -/
def stem? (path : String) : Option String :=
  (fileName? path).map fun name => (splitExtension name).1

/-- A path inside a directory; an absolute one stands for itself. -/
def join (directory path : String) : String :=
  if path.startsWith "/" || directory.isEmpty then path
  else if directory.endsWith "/" then directory ++ path
  else directory ++ "/" ++ path

end TypedTables.Files
