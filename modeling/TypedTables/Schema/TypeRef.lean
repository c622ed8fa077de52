import TypedTables.Schema.Primitive

/-!
# Field types

The type of a field is a primitive, a list of another type, a table or an enumeration of the same
schema, or a type that the generated code names verbatim.
-/

namespace TypedTables.Schema

/-- A resolved field type. -/
inductive TypeRef
  | primitive (type : Primitive)
  | array (element : TypeRef)
  /-- A table that is not an enumeration, by its name. -/
  | table (name : String)
  | enumeration (name : String)
  /-- A type known to the generated code only. -/
  | external (name : String)
  deriving Repr, DecidableEq, Inhabited

namespace TypeRef

def display : TypeRef → String
  | primitive type => type.name
  | array element => element.display ++ "[]"
  | table name => name
  | enumeration name => name
  | external name => name

def primitive? : TypeRef → Option Primitive
  | primitive type => some type
  | _ => none

def element? : TypeRef → Option TypeRef
  | array element => some element
  | _ => none

end TypeRef

end TypedTables.Schema
