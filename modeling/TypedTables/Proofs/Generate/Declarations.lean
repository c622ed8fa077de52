import TypedTables.Proofs.Generate.Planning

/-!
# Declared types

Every table of a source is declared as a type of its own.  The declaration of a record has a member
for each field, and that of an enumeration a variant for each of the table's variants.
-/

namespace TypedTables.Generate

open TypedTables.Schema TypedTables.Manifest TypedTables.Discover TypedTables.Text
open TypedTables.Config (Code)

variable {source : Source} {code : Code} {names : TypeNames}

/-- The declaration that a table is planned as. -/
def DeclaredAs
    (source : Source) (code : Code) (names : TypeNames) (table : Table)
    (declaration : Declaration) : Prop :=
  ∃ isFirst descriptor, planTable source code names isFirst table = .ok (descriptor, declaration)

namespace DeclaredAs

variable {table : Table} {declaration : Declaration}

/-- What a declaration says of its table, whatever the table is. -/
theorem declares (declaredAs : DeclaredAs source code names table declaration) :
    ∃ descriptor, Headed code names table descriptor ∧ Declares table (descriptor, declaration) := by
  obtain ⟨isFirst, descriptor, ran⟩ := declaredAs
  refine ⟨descriptor, ?_⟩
  cases isEnum : table.isEnum with
  | true =>
      obtain ⟨head, heading, _⟩ := planTable_enum isEnum ran
      exact ⟨head, heading⟩
  | false =>
      obtain ⟨head, heading, _⟩ := planTable_record isEnum ran
      exact ⟨head, heading⟩

theorem isEnum (declaredAs : DeclaredAs source code names table declaration) :
    declaration.isEnum = table.isEnum := by
  obtain ⟨_, _, heading⟩ := declaredAs.declares
  exact heading.isEnum

theorem index (declaredAs : DeclaredAs source code names table declaration) :
    ∀ index ∈ declaration.index, ∃ member ∈ declaration.members, LooksUp index member := by
  obtain ⟨_, _, heading⟩ := declaredAs.declares
  exact heading.index

/-- A record has a member for each field, and no variants. -/
theorem record
    (declaredAs : DeclaredAs source code names table declaration) (notEnum : table.isEnum = false) :
    List.Forall₂ (DeclaresField source.tables names) table.fields declaration.members ∧
      declaration.variants = [] := by
  obtain ⟨isFirst, descriptor, ran⟩ := declaredAs
  obtain ⟨_, heading, none, members, described, _, same⟩ := planTable_record notEnum ran
  have variants := heading.variants
  rw [none] at variants
  rw [same]
  exact ⟨declaresField_describeMembers described, variants⟩

/-- An enumeration has a declared variant for each one of its table, and no members. -/
theorem enumeration
    (declaredAs : DeclaredAs source code names table declaration) (isEnum : table.isEnum = true) :
    declaration.members = [] ∧ ∃ variants, variantsOf source table = .ok variants ∧
      declaration.variants = variants.map declareVariant := by
  obtain ⟨isFirst, descriptor, ran⟩ := declaredAs
  obtain ⟨_, heading, _, memberless, variants⟩ := planTable_enum isEnum ran
  exact ⟨memberless, descriptor.variants, variants, heading.variants⟩

end DeclaredAs

/-- Declarations of the tables of a source whose types refer to its tables. -/
structure Declared
    (source : Source) (code : Code) (names : TypeNames) (declarations : List Declaration) :
    Prop where
  tables : (source.tables.tables.map fun table => lowercase table.name).Nodup
  named : Named code source.tables.tables names
  typed : ∀ table ∈ source.tables.tables, ∀ column ∈ table.fields,
    ∃ type, column.type = some type ∧ RefersTo source.tables type
  each : List.Forall₂ (DeclaredAs source code names) source.tables.tables declarations

theorem Declared.name
    {declarations : List Declaration} {table : Table} {declaration : Declaration}
    (declared : Declared source code names declarations) (member : table ∈ source.tables.tables)
    (declaredAs : DeclaredAs source code names table declaration) :
    declaration.name = typeNameOf code table ∧ declaration.table = table.name := by
  have found : (entryValue? (lowercase table.name) names).getD table.name =
      typeNameOf code table := by
    rw [declared.named.typeName? declared.tables member]
    rfl
  obtain ⟨descriptor, head, heading⟩ := declaredAs.declares
  exact ⟨heading.name.trans (head.name.trans found), heading.tableName⟩

theorem declared_of_ofSource
    {plan : Plan} (resolved : source.Resolved)
    (planned : Plan.ofSource source code = .ok plan) :
    ∃ names, nameTypes code source.tables = .ok names ∧
      Declared source code names plan.declarations := by
  have distinct : (source.tables.tables.map fun table => lowercase table.name).Nodup := by
    rw [Source.tables, List.map_map]
    exact resolved.names
  obtain ⟨names, types, namesRan, _, sameDeclarations, each⟩ := planned_of_ofSource planned
  refine ⟨names, namesRan, distinct, named_nameTypes distinct namesRan, ?_, ?_⟩
  · intro table member
    obtain ⟨entry, loaded, rfl⟩ := List.mem_map.mp member
    exact resolved.types entry loaded
  · rw [sameDeclarations, List.forall₂_map_right_iff]
    exact each.imp fun _ planned ⟨isFirst, ran⟩ => ⟨isFirst, planned.1, ran⟩

end TypedTables.Generate
