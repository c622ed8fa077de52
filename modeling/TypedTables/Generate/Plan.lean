import TypedTables.Config.Settings
import TypedTables.Generate.Declaration
import TypedTables.Generate.Variants

/-!
# Plans

A plan is everything that is generated for the tables of a source: the manifest that data is bound
by, and the declarations that templates are filled in with.  The names of the types come first, so
that tables can refer to each other in any order.
-/

namespace TypedTables.Generate

open TypedTables.Schema TypedTables.Manifest TypedTables.Discover TypedTables.Text
open TypedTables.Config (Code)

/-- The manifest and the declarations of a source's types, in the order of its tables. -/
structure Plan where
  model : Model
  declarations : List Declaration
  deriving Repr

/-- Names of types by the lower-case names of their tables. -/
abbrev TypeNames := List (String × String)

/-- Names the type of one more table.  The name is an identifier that no other type has, the case
of letters ignored. -/
def nameType (code : Code) (names : TypeNames) (table : Table) : Outcome TypeNames := do
  let name ← table.parameters.format code.typeNameTemplate
  if !Naming.isIdentifier name then throw (.invalidTypeName table.name name)
  if names.any fun entry => lowercase entry.2 == lowercase name then
    throw (.repeatedTypeName table.name name)
  return setEntry (lowercase table.name) name names

def nameTypes (code : Code) (tables : TableSet) : Outcome TypeNames :=
  tables.tables.foldlM (nameType code) []

def typeName (names : TypeNames) (table : String) : Outcome String :=
  match entryValue? (lowercase table) names with
  | some name => .ok name
  | none => .error (.unknownTableType table)

/-- How the generated code writes a type inside another one. -/
def spellInner (names : TypeNames) : TypeRef → Outcome String
  | .primitive type => .ok type.codeName
  | .array element => do return "Vec<" ++ (← spellInner names element) ++ ">"
  | .enumeration table => typeName names table
  | .table table => typeName names table
  | .external path => .ok path

/-- How the generated code writes the type of a member: a table held by reference is optional and
boxed, so that tables can hold each other. -/
def spell (tables : TableSet) (names : TypeNames) (type : TypeRef) : Outcome String := do
  let inner ← spellInner names type
  match type with
  | .table table =>
    if (tables.get? table).any (·.kind == .reference) then return "Option<Box<" ++ inner ++ ">>"
    else return inner
  | _ => return inner

/-- Describes the members of a table's type for some of its fields, given the identifiers of the
members before them. -/
def describeMembers (tables : TableSet) (names : TypeNames) (table : Table) (seen : List String) :
    List Field → Outcome (List (Member × MemberDeclaration))
  | [] => .ok []
  | field :: rest => do
    let name := Naming.snakeCase field.name
    if seen.contains name then throw (.memberCollision table.name name)
    let type ← field.resolvedType
    let spelled ← spell tables names type
    let member : Member :=
      { name, rename := some field.name, type, isKey := field.isKey, index := field.index,
        description := field.description }
    let declaration : MemberDeclaration :=
      ⟨name, field.name, spelled, docLines field.description⟩
    return (member, declaration) :: (← describeMembers tables names table (name :: seen) rest)

/-- Whether values of a type can be keys of a look-up. -/
def isHashable : TypeRef → Bool
  | .primitive type => type.isHashable
  | .enumeration _ => true
  | _ => false

/-- The look-up of a table by its key field, if its key can be one. -/
def indexOf (table : Table) (members : List MemberDeclaration) :
    Outcome (Option IndexDeclaration) :=
  match table.keyField? with
  | none => .ok none
  | some key => do
    if !isHashable (← key.resolvedType) then return none
    return (members.find? (·.column == key.name)).map fun member =>
      ⟨"index_by_" ++ Naming.withoutRawMark member.name, member.name, key.name, member.type⟩

def declareVariant (variant : Variant) : VariantDeclaration :=
  ⟨variant.name, variant.label, variant.value, docLines variant.description⟩

def planTable (source : Source) (code : Code) (names : TypeNames) (isFirst : Bool)
    (table : Table) : Outcome (Descriptor × Declaration) := do
  let name := (entryValue? (lowercase table.name) names).getD table.name
  let space := code.space.filter (!·.isEmpty)
  let descriptor : Descriptor :=
    { name, space, table := table.name, kind := table.kind, description := table.description }
  let declaration : Declaration :=
    { name, table := table.name, isEnum := table.isEnum, doc := docLines table.description,
      isFirst, moduleName := code.moduleName, space }
  if table.isEnum then
    let variants ← variantsOf source table
    return ({ descriptor with variants },
      { declaration with variants := variants.map declareVariant })
  else
    let members ← describeMembers source.tables names table [] table.fields
    let declared := members.map (·.2)
    let index ← if code.generateIndexer then indexOf table declared else pure none
    return ({ descriptor with members := members.map (·.1) },
      { declaration with members := declared, index })

/-- Plans the types of tables, given whether the next one is the first. -/
def planTables (source : Source) (code : Code) (names : TypeNames) :
    Bool → List Table → Outcome (List (Descriptor × Declaration))
  | _, [] => .ok []
  | isFirst, table :: rest => do
    let planned ← planTable source code names isFirst table
    return planned :: (← planTables source code names false rest)

/-- Plans the types of every table of a source. -/
def Plan.ofSource (source : Source) (code : Code) : Outcome Plan := do
  let names ← nameTypes code source.tables
  let planned ← planTables source code names true source.tables.tables
  return {
    model := {
      moduleName := code.moduleName
      space := code.space.filter (!·.isEmpty)
      types := planned.map (·.1) }
    declarations := planned.map (·.2) }

end TypedTables.Generate
