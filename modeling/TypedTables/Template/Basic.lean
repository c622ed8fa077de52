import TypedTables.Document

/-!
# Templates

A template is a text with places to fill in.  A place refers to the data by a path, or asks a
helper for a text; a block asks a helper to render what stands between its start and its end.
-/

namespace TypedTables.Template

/-- Where in the data a value is looked up. -/
structure Place where
  /-- A variable of the loop around it rather than a member of the data. -/
  isVariable : Bool := false
  /-- Whether the keys start at the whole data. -/
  fromRoot : Bool := false
  /-- How many blocks further out the keys start. -/
  levels : Nat := 0
  keys : List String
  deriving Repr, DecidableEq, Inhabited

/-- The name that a place is written as, when it is a name only. -/
def Place.name? (place : Place) : Option String :=
  match place with
  | ⟨false, false, 0, [name]⟩ => some name
  | _ => none

/-- What a helper is given, or what is filled in. -/
inductive Operand
  | literal (value : Document)
  | place (place : Place)
  | call (name : String) (arguments : List Operand) (options : List (String × Operand))
  deriving Repr, Inhabited

/-- How a block is opened: its helper with what it is given, and the names for its values. -/
structure Head where
  name : String
  arguments : List Operand := []
  options : List (String × Operand) := []
  binders : List String := []
  deriving Repr, Inhabited

/-- A part of a template. -/
inductive Node
  | text (value : String)
  | insert (operand : Operand)
  /-- What cannot be rendered, such as a reference to another template. -/
  | missing
  | block (head : Head) (body : List Node) (otherwise : Option (List Node))
  deriving Repr, Inhabited

end TypedTables.Template
