import TypedTables.Files.Store
import TypedTables.Pattern.Cache

/-!
# Scanning for input files

The input files are those below a folder whose path matches one pattern and does not match
another.  Lock files of office programs are skipped.  An empty pattern is no pattern.
-/

namespace TypedTables.Files

open TypedTables.Pattern

def lockMark : String := "~$"

/-- Whether patterns admit a path: the first one, if there is one, has to match, and the second
must not. -/
def isAdmitted (cache : Cache) (wanted : String) (unwanted : Option String) (path : String) :
    Outcome Bool × Cache :=
  let (isWanted, cache) := if wanted.isEmpty then (.ok true, cache) else cache.isMatch wanted path
  match isWanted, unwanted.filter (!·.isEmpty) with
  | .ok true, some pattern =>
    let (found, cache) := cache.isMatch pattern path
    (found.map (!·), cache)
  | answer, _ => (answer, cache)

/-- The paths that patterns admit, in their order. -/
def admitted (wanted : String) (unwanted : Option String) :
    Cache → List String → Outcome (List String) × Cache
  | cache, [] => (.ok [], cache)
  | cache, path :: rest =>
    match isAdmitted cache wanted unwanted (Text.replaceChar '\\' '/' path) with
    | (.error failure, next) => (.error failure, next)
    | (.ok isIn, next) =>
      let (others, last) := admitted wanted unwanted next rest
      (others.map fun paths => if isIn then path :: paths else paths, last)

/-- The paths of the input files below a folder, folder by folder and by ascending name. -/
def scan (store : Store) (cache : Cache) (directory wanted : String) (unwanted : Option String) :
    Outcome (List String) × Cache :=
  let folder := if directory.isEmpty then "." else directory
  let location := store.locate folder
  if store.hasFolder location then
    let below := (store.filesBelow location).filter fun names =>
      !names.getLast?.any (·.startsWith lockMark)
    admitted wanted unwanted cache (below.map fun names => names.foldl join folder)
  else (.error (.inputNotFound folder), cache)

end TypedTables.Files
