import TypedTables.Config.Settings
import TypedTables.Schema.Table

/-!
# Declared types

A sheet declares a type by the name of a primitive, of another table, or of a mapped type, with a
pair of brackets for each level of lists.  Nothing at all declares a text.
-/

namespace TypedTables.Discover

open TypedTables.Schema TypedTables.Config TypedTables.Text

/-- Takes pairs of brackets off the end of a text, whose characters come in reverse order: their
number, and the rest. -/
def peelBrackets (reversed : List Char) : Nat × List Char :=
  match _kept : reversed.dropWhile isBlank with
  | ']' :: '[' :: rest =>
    let (depth, base) := peelBrackets rest
    (depth + 1, base)
  | base => (0, base)
  termination_by reversed.length
  decreasing_by
    have shorter := (List.dropWhile_suffix isBlank (l := reversed)).length_le
    rw [_kept] at shorter
    simp only [List.length_cons] at shorter
    omega

/-- The number of list levels of a declared type, and the name of what the lists hold. -/
def declaredParts (declared : String) : Nat × String :=
  let (depth, base) := peelBrackets declared.toList.reverse
  (depth, trim (String.ofList base.reverse))

def nest : Nat → TypeRef → TypeRef
  | 0, type => type
  | depth + 1, type => .array (nest depth type)

/-- The name that the last mapping of a declared name stands for. -/
def mapped? (mappings : List TypeMapping) (name : String) : Option String :=
  let wanted := lowercase name
  (mappings.reverse.find? fun mapping => lowercase (trim mapping.mapping) == wanted).map
    fun mapping => trim mapping.name

/-- The primitive that a name without brackets declares, itself or by a mapping. -/
def builtinBase? (mappings : List TypeMapping) (name : String) : Option TypeRef :=
  if name.isEmpty then some (.primitive .string)
  else (Primitive.ofName? ((mapped? mappings name).getD name)).map .primitive

/-- The type that a text declares without any table: a primitive, or lists of one. -/
def builtinType? (mappings : List TypeMapping) (declared : String) : Option TypeRef :=
  let (depth, name) := declaredParts declared
  (builtinBase? mappings name).map (nest depth)

/-- The type of a table, as a field of another table has it. -/
def tableType (table : Table) : TypeRef :=
  if table.isEnum then .enumeration table.name else .table table.name

/-- The type that a name without brackets declares: a primitive, a table, or a mapped type. -/
def baseType (mappings : List TypeMapping) (tables : TableSet) (name : String) : Outcome TypeRef :=
  match builtinBase? mappings name with
  | some type => .ok type
  | none =>
    let mapped := mapped? mappings name
    match tables.get? (Naming.sanitize (mapped.getD name)), mapped with
    | some table, _ => .ok (tableType table)
    | none, some code => .ok (.external code)
    | none, none => .error (.unknownType name)

/-- The type that a text declares among some tables. -/
def declaredType (mappings : List TypeMapping) (tables : TableSet) (declared : String) :
    Outcome TypeRef := do
  let (depth, name) := declaredParts declared
  return nest depth (← baseType mappings tables name)

end TypedTables.Discover
