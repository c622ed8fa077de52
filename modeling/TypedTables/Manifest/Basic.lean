import TypedTables.Schema.Table

/-!
# Type manifests

A manifest describes every generated type.  Data is written against it, in the same run or in a
later one that reads the manifest back.
-/

namespace TypedTables.Manifest

open TypedTables.Schema TypedTables.Text

/-- How a member of a generated type is reached. -/
inductive Access
  | field
  | property (readable writable : Bool)
  deriving Repr, DecidableEq, Inhabited

/-- A member of a generated type. -/
structure Member where
  name : String
  /-- The name that a column has for the member, when it differs. -/
  rename : Option String := none
  access : Access := .field
  isPrivate : Bool := false
  /-- Made by the compiler rather than declared. -/
  synthesized : Bool := false
  type : TypeRef
  isKey : Bool := false
  index : Nat := 0
  description : Option String := none
  deriving Repr, DecidableEq, Inhabited

/-- A variant of a generated enumeration. -/
structure Variant where
  name : String
  label : String
  value : Option Int := none
  description : Option String := none
  deriving Repr, DecidableEq, Inhabited

/-- A generated type. -/
structure Descriptor where
  name : String
  space : Option String := none
  /-- The table that the type was generated from. -/
  table : String
  kind : TableKind
  description : Option String := none
  members : List Member := []
  variants : List Variant := []
  deriving Repr, DecidableEq, Inhabited

/-- Every generated type of a module. -/
structure Model where
  moduleName : String
  space : Option String := none
  types : List Descriptor := []
  deriving Repr, DecidableEq, Inhabited

def qualify (space : Option String) (name : String) : String :=
  match space with
  | some outer => if outer.isEmpty then name else outer ++ "::" ++ name
  | none => name

/-- What stands behind the last pair of colons of a name. -/
def simpleName : List Char → List Char
  | [] => []
  | c :: rest =>
    let tail := simpleName rest
    if tail.length < rest.length then tail
    else if [':', ':'].isPrefixOf (c :: rest) then rest.drop 1
    else c :: rest

def Member.bindingName (member : Member) : String :=
  member.rename.getD member.name

def Descriptor.fullName (descriptor : Descriptor) : String :=
  qualify descriptor.space descriptor.name

/-- The variant with a label or name, letter case and outer white space ignored. -/
def Descriptor.variant? (descriptor : Descriptor) (name : String) : Option Variant :=
  let wanted := trim name
  descriptor.variants.find? fun variant =>
    equalIgnoringAsciiCase variant.label wanted || equalIgnoringAsciiCase variant.name wanted

namespace Model

/-- The position of the first type that satisfies a test. -/
def position? (model : Model) (test : Descriptor → Bool) : Option Nat :=
  model.types.findIdx? test

/-- The position of the type with a full name, or else with the last segment of the name. -/
def find? (model : Model) (name : String) : Option Nat :=
  model.position? (equalIgnoringAsciiCase ·.fullName name) <|>
    let simple := String.ofList (simpleName name.toList)
    model.position? (equalIgnoringAsciiCase ·.name simple)

def forTable? (model : Model) (table : String) : Option Descriptor :=
  model.types.find? fun descriptor => equalIgnoringAsciiCase descriptor.table table

def fileName (moduleName : String) : String :=
  moduleName ++ fileSuffix
where
  /-- What the names of manifest files end in. -/
  fileSuffix : String := ".types.json"

end Model

end TypedTables.Manifest
