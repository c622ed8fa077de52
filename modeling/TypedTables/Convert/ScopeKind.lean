/-!
# Kinds of separator scopes

A composite cell opens one scope per level of nesting; lists and records are separated by lists of
separators of their own.
-/

namespace TypedTables.Convert

/-- What a level of a composite cell separates. -/
inductive ScopeKind
  | array
  | object
  deriving Repr, DecidableEq, Inhabited

def ScopeKind.title : ScopeKind → String
  | array => "Array"
  | object => "Object"

end TypedTables.Convert
