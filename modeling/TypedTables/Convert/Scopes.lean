import TypedTables.Convert.ScopeKind
import TypedTables.Schema.Table

/-!
# Open scopes

A composite cell opens a scope for every list and record inside it.  The separator at a place is
the one for the depth of its innermost scope, counted among the scopes of the same kind.
-/

namespace TypedTables.Convert

open TypedTables.Schema

/-- The separators of lists and of records, the outermost first. -/
structure Separators where
  array : List String
  object : List String
  deriving Repr, DecidableEq

/-- The scopes that are open, the innermost first, and how many of each kind there are. -/
structure Scopes where
  kinds : List ScopeKind := []
  arrayDepth : Nat := 0
  objectDepth : Nat := 0
  deriving Repr, DecidableEq, Inhabited

namespace Scopes

def enter (kind : ScopeKind) (scopes : Scopes) : Scopes :=
  match kind with
  | .array => { scopes with kinds := kind :: scopes.kinds, arrayDepth := scopes.arrayDepth + 1 }
  | .object => { scopes with kinds := kind :: scopes.kinds, objectDepth := scopes.objectDepth + 1 }

/-- The scopes without the innermost one, which is of a kind. -/
def leave (kind : ScopeKind) (scopes : Scopes) : Scopes :=
  match kind with
  | .array =>
    { scopes with kinds := scopes.kinds.drop 1, arrayDepth := scopes.arrayDepth - 1 }
  | .object =>
    { scopes with kinds := scopes.kinds.drop 1, objectDepth := scopes.objectDepth - 1 }

def innermost? (scopes : Scopes) : Option ScopeKind :=
  scopes.kinds.head?

def depth (scopes : Scopes) : ScopeKind → Nat
  | .array => scopes.arrayDepth
  | .object => scopes.objectDepth

end Scopes

namespace Separators

/-- The separators of a kind for a field: its own ones, if it has any. -/
def listFor (separators : Separators) (field : Field) : ScopeKind → List String
  | .array => if field.arraySeparators.isEmpty then separators.array else field.arraySeparators
  | .object => if field.objectSeparators.isEmpty then separators.object else field.objectSeparators

/-- The separator at a place of a field's cell. -/
def separatorAt (separators : Separators) (field : Field) (scopes : Scopes) : Outcome String :=
  match scopes.innermost? with
  | none => .error (.separatorOutsideScope field.name)
  | some kind =>
    let list := separators.listFor field kind
    match list[scopes.depth kind - 1]? with
    | some separator => .ok separator
    | none => .error (.separatorOverflow field.name kind (scopes.depth kind) list)

end Separators

end TypedTables.Convert
