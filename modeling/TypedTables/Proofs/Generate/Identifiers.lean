import TypedTables.Generate.Code
import TypedTables.Proofs.Convert.Enumerations
import TypedTables.Proofs.Generate.Declarations
import TypedTables.Proofs.Naming.Legality

/-!
# Identifiers of the generated code

The generated code takes the names of members and variants from columns and rows, in a style of
casing that escapes keywords.  The names of types and namespaces are used as they are, once they are
words.  So all identifiers are legal exactly if columns and rows have a letter or digit in their
names, and no type or namespace is named by a keyword or an underscore.
-/

namespace TypedTables.Generate

open TypedTables.Schema TypedTables.Manifest TypedTables.Discover TypedTables.Text
open TypedTables.Naming
open TypedTables.Config (Code Settings)

/-! ## Names in the generated code -/

/-- The names that a declaration brings in: its own, and those of its members, its variants and its
look-up. -/
def Declaration.identifiers (declaration : Declaration) : List String :=
  declaration.name :: (declaration.members.map (·.name) ++ declaration.variants.map (·.name) ++
    declaration.index.toList.map (·.method))

/-- The names in the code that a plan is generated as: those of the namespaces around a bundle or
else of the modules of the types, and those of the declarations. -/
def Plan.identifiers (plan : Plan) (code : Code) : Outcome (List String) := do
  let declared := plan.declarations.flatMap (·.identifiers)
  match code.layout with
  | .bundle => return (← spacesOf code) ++ declared
  | .perType | .perTypeWithManifest =>
    return plan.declarations.map (fun declaration => snakeCase declaration.name) ++ declared

/-- A name that is used as it is may be one of the code. -/
def IsFree (name : String) : Prop :=
  name ∉ keywords ∧ name ≠ "_"

/-- The type of a table has legal names. -/
structure Nameable (source : Source) (code : Code) (table : Table) : Prop where
  type : IsFree (typeNameOf code table)
  fields : table.isEnum = false → ∀ field ∈ table.fields, HasLetterOrDigit field.name
  labels : table.isEnum = true → ∀ columns rows, variantColumns table = .ok columns →
    source.rows table.name = .ok rows → ∀ label ∈ labelsOf columns rows, HasLetterOrDigit label

/-- What stands around the declarations has legal names. -/
def NameableAround (source : Source) (code : Code) : Prop :=
  match code.layout with
  | .bundle => ∀ spaces, spacesOf code = .ok spaces → ∀ space ∈ spaces, IsFree space
  | .perType | .perTypeWithManifest =>
    ∀ table ∈ source.tables.tables, HasLetterOrDigit (typeNameOf code table)

/-! ## Declarations -/

section Declarations

variable {source : Source} {code : Code} {names : TypeNames} {table : Table}
  {declaration : Declaration} (declaredAs : DeclaredAs source code names table declaration)

include declaredAs

theorem legal_members_iff (notEnum : table.isEnum = false) :
    (∀ member ∈ declaration.members, IsLegal member.name) ↔
      ∀ field ∈ table.fields, HasLetterOrDigit field.name := by
  obtain ⟨ofField, ofMember⟩ := Outcome.exists_of_forall₂ (declaredAs.record notEnum).1
  constructor
  · intro legal field inFields
    obtain ⟨member, inMembers, declares⟩ := ofField field inFields
    rw [← isLegal_snakeCase_iff, ← declares.name]
    exact legal member inMembers
  · intro named member inMembers
    obtain ⟨field, inFields, declares⟩ := ofMember member inMembers
    rw [declares.name, isLegal_snakeCase_iff]
    exact named field inFields

theorem legal_variants_iff (isEnum : table.isEnum = true) :
    (∀ variant ∈ declaration.variants, IsLegal variant.name) ↔
      ∀ columns rows, variantColumns table = .ok columns → source.rows table.name = .ok rows →
        ∀ label ∈ labelsOf columns rows, HasLetterOrDigit label := by
  obtain ⟨_, variants, ran, declared⟩ := declaredAs.enumeration isEnum
  obtain ⟨columns, rows, placed, listed, read⟩ := rowsRead_of_variantsOf ran
  have each : (∀ variant ∈ declaration.variants, IsLegal variant.name) ↔
      ∀ label ∈ labelsOf columns rows, HasLetterOrDigit label := by
    rw [declared, ← read.labels, List.forall_mem_map, List.forall_mem_map]
    refine forall₂_congr fun variant inVariants => ?_
    dsimp only [declareVariant]
    rw [read.identifiers variant inVariants]
    exact isLegal_pascalCase_iff variant.label
  rw [each]
  constructor
  · intro named otherColumns otherRows otherPlaced otherListed
    rw [placed, Except.ok.injEq] at otherPlaced
    rw [listed, Except.ok.injEq] at otherListed
    rw [← otherPlaced, ← otherListed]
    exact named
  · intro named
    exact named columns rows placed listed

theorem legal_index : ∀ index ∈ declaration.index, IsLegal index.method := by
  intro index isIndex
  obtain ⟨member, inMembers, looksUp⟩ := declaredAs.index index isIndex
  have notEnum : table.isEnum = false := by
    by_contra isEnum
    rw [(declaredAs.enumeration (by simpa using isEnum)).1] at inMembers
    cases inMembers
  obtain ⟨field, _, declares⟩ :=
    (Outcome.exists_of_forall₂ (declaredAs.record notEnum).1).2 member inMembers
  rw [looksUp, declares.name]
  exact isLegal_lookUp fun _ => isIdentifierChar_of_mem_module

theorem legal_declaration_iff
    (named : declaration.name = typeNameOf code table)
    (word : isIdentifier (typeNameOf code table) = true) :
    (∀ identifier ∈ declaration.identifiers, IsLegal identifier) ↔ Nameable source code table := by
  have type : IsLegal declaration.name ↔ IsFree (typeNameOf code table) := by
    rw [named]
    exact isLegal_iff_of_isIdentifier word
  have index : ∀ method ∈ declaration.index.toList.map (·.method), IsLegal method := by
    rw [List.forall_mem_map]
    exact fun index member => legal_index declaredAs index (Option.mem_toList.mp member)
  rw [Declaration.identifiers, List.forall_mem_cons, List.forall_mem_append,
    List.forall_mem_append, List.forall_mem_map, List.forall_mem_map, type, and_iff_left index]
  cases isEnum : table.isEnum with
  | true =>
      rw [(declaredAs.enumeration isEnum).1, legal_variants_iff declaredAs isEnum]
      constructor
      · intro ⟨free, _, labels⟩
        exact ⟨free, fun notEnum => absurd isEnum (by simp [notEnum]), fun _ => labels⟩
      · intro nameable
        exact ⟨nameable.type, by simp, nameable.labels isEnum⟩
  | false =>
      rw [(declaredAs.record isEnum).2, legal_members_iff declaredAs isEnum]
      constructor
      · intro ⟨free, fields, _⟩
        exact ⟨free, fun _ => fields, fun some => absurd some (by simp [isEnum])⟩
      · intro nameable
        exact ⟨nameable.type, nameable.fields isEnum, by simp⟩

end Declarations

/-! ## Plans -/

theorem isIdentifier_of_spacesOf
    {code : Code} {spaces : List String} (checked : spacesOf code = .ok spaces) :
    ∀ space ∈ spaces, isIdentifier space = true := by
  unfold spacesOf at checked
  split at checked
  · cases checked
    simp
  · dsimp only at checked
    split at checked
    · cases checked
    · next none =>
        cases checked
        simpa using none

variable {source : Source} {code : Code} {plan : Plan} {names : TypeNames}

theorem legal_declarations_iff
    (declared : Declared source code names plan.declarations) :
    (∀ identifier ∈ plan.declarations.flatMap (·.identifiers), IsLegal identifier) ↔
      ∀ table ∈ source.tables.tables, Nameable source code table := by
  rw [List.forall_mem_flatMap]
  refine (Outcome.forall_iff_of_forall₂ declared.each ?_).symm
  intro table member declaration declaredAs
  exact (legal_declaration_iff declaredAs (declared.name member declaredAs).1
    (declared.named.identifiers table member)).symm

theorem legal_modules_iff
    (declared : Declared source code names plan.declarations) :
    (∀ identifier ∈ plan.declarations.map fun declaration => snakeCase declaration.name,
      IsLegal identifier) ↔
      ∀ table ∈ source.tables.tables, HasLetterOrDigit (typeNameOf code table) := by
  rw [List.forall_mem_map]
  refine (Outcome.forall_iff_of_forall₂ declared.each ?_).symm
  intro table member declaration declaredAs
  rw [isLegal_snakeCase_iff, (declared.name member declaredAs).1]

/-- The identifiers of the generated code are legal exactly if the columns of records and the rows
of enumerations have a letter or digit in their names, and the types and namespaces are named by
neither a keyword nor an underscore.  A style of casing makes a legal identifier of any name with a
letter or digit, and of no other. -/
theorem identifiers_legal_iff
    {settings : Settings} {run : Naming.Scope} {identifiers : List String}
    (reached : Source.Reached settings run source) (isOpen : source.isOpen = true)
    (planned : Plan.ofSource source code = .ok plan)
    (written : plan.identifiers code = .ok identifiers) :
    ((∀ identifier ∈ identifiers, IsLegal identifier) ↔
      (∀ table ∈ source.tables.tables, Nameable source code table) ∧
        NameableAround source code) ∧
      ∀ name, (IsLegal (snakeCase name) ↔ HasLetterOrDigit name) ∧
        (IsLegal (pascalCase name) ↔ HasLetterOrDigit name) := by
  refine ⟨?_, fun name => ⟨isLegal_snakeCase_iff name, isLegal_pascalCase_iff name⟩⟩
  obtain ⟨names, _, declared⟩ :=
    declared_of_ofSource (Source.resolved_of_reached reached isOpen) planned
  have declarations := legal_declarations_iff declared
  have modules := legal_modules_iff declared
  unfold Plan.identifiers at written
  unfold NameableAround
  cases layout : code.layout with
  | bundle =>
      rw [layout] at written
      obtain ⟨spaces, checked, same⟩ := Outcome.bind_eq_ok_iff.mp written
      cases same
      have legal : (∀ space ∈ spaces, IsLegal space) ↔ ∀ space ∈ spaces, IsFree space :=
        forall₂_congr fun space member =>
          isLegal_iff_of_isIdentifier (isIdentifier_of_spacesOf checked space member)
      rw [List.forall_mem_append, declarations, legal, and_comm]
      refine and_congr_right fun _ => ⟨?_, fun free => free spaces checked⟩
      intro free others same
      rw [checked, Except.ok.injEq] at same
      exact same ▸ free
  | perType =>
      rw [layout] at written
      cases written
      rw [List.forall_mem_append, declarations, modules, and_comm]
  | perTypeWithManifest =>
      rw [layout] at written
      cases written
      rw [List.forall_mem_append, declarations, modules, and_comm]

/-! ## A table with a column -/

/-- The source of a table with a column. -/
def columnSource (label column : String) : Source :=
  (({} : Source).openWith {} .empty
    (.ofList [(label, .ofTexts [[], [column], ["int"], [], [], ["1"]])])).1

theorem reached_columnSource (label column : String) :
    Source.Reached {} .empty (columnSource label column) :=
  Source.Reached.opened _ Source.Reached.new

/-- The identifiers of the code that is generated in a namespace for a table with a column. -/
def columnIdentifiers (label column space : String) : Option (List String) := do
  let code : Code := { space := some space }
  let plan ← (Plan.ofSource (columnSource label column) code).toOption
  (plan.identifiers code).toOption

theorem identifiers_legal_iff_items :
    ∃ plan, Plan.ofSource (columnSource "Item" "Id") { space := some "game" } = .ok plan ∧
      plan.identifiers { space := some "game" } = .ok ["game", "Item", "id"] ∧
      ∀ table ∈ (columnSource "Item" "Id").tables.tables,
        Nameable (columnSource "Item" "Id") { space := some "game" } table := by
  have shown : columnIdentifiers "Item" "Id" "game" = some ["game", "Item", "id"] := by
    decide +kernel
  obtain ⟨plan, planGiven, named⟩ := Option.bind_eq_some_iff.mp shown
  have planned := Outcome.eq_ok_of_toOption planGiven
  have written := Outcome.eq_ok_of_toOption named
  have legal : ∀ identifier ∈ ["game", "Item", "id"], IsLegal identifier := by
    have free : ∀ identifier ∈ ["game", "Item", "id"],
        isIdentifier identifier = true ∧ identifier ∉ keywords ∧ identifier ≠ "_" := by
      decide
    intro identifier member
    obtain ⟨word, others⟩ := free identifier member
    exact (isLegal_iff_of_isIdentifier word).mpr others
  have reached := reached_columnSource "Item" "Id"
  have isOpen : (columnSource "Item" "Id").isOpen = true := by
    decide +kernel
  refine ⟨plan, planned, written, ?_⟩
  exact ((identifiers_legal_iff reached isOpen planned written).1.mp legal).1

/-- A namespace and a table that are named by keywords, and a column whose name has no ASCII letter,
bring names into the code that are no identifiers. -/
theorem keywords_and_underscore_written :
    columnIdentifiers "type" "日本" "fn" = some ["fn", "type", "_"] ∧
      ∀ identifier ∈ ["fn", "type", "_"], ¬IsLegal identifier := by
  refine ⟨by decide +kernel, ?_⟩
  have illegal : ∀ identifier ∈ ["fn", "type", "_"],
      isIdentifier identifier = true ∧ ¬(identifier ∉ keywords ∧ identifier ≠ "_") := by
    decide
  intro identifier member
  obtain ⟨word, taken⟩ := illegal identifier member
  rwa [isLegal_iff_of_isIdentifier word]

end TypedTables.Generate
