import TypedTables.Number.Binary

/-!
# Documents

The tree that a structured text (JSON, YAML or TOML) holds.  Mappings keep their entries in the
order of the text, repeated keys included, so that a reader of the tree can refuse them.
-/

namespace TypedTables

/-- A tree of scalars, lists and mappings.  A `plain` scalar is an unquoted one whose type is
settled by what is asked of it. -/
inductive Document
  | null
  | bool (value : Bool)
  | integer (value : Int)
  | float (value : Number.BinaryFloat)
  | text (value : String)
  | plain (value : String)
  | list (items : List Document)
  | mapping (entries : List (String × Document))
  deriving Repr, Inhabited

namespace Document

/-- The value under a key of a mapping, the first when the key is repeated. -/
def get? (key : String) : Document → Option Document
  | mapping entries => (entries.find? (·.1 == key)).map (·.2)
  | _ => none

def text? : Document → Option String
  | text value => some value
  | _ => none

def items? : Document → Option (List Document)
  | list items => some items
  | _ => none

end Document

end TypedTables
