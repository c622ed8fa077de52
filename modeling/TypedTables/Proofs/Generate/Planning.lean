import Mathlib.Data.List.Nodup
import TypedTables.Binding.Members
import TypedTables.Generate.Plan
import TypedTables.Proofs.Discover.Opening
import TypedTables.Proofs.Text.Ascii

/-!
# Planned types

What a plan says about the tables it was made from: every table has a type of its own, whose
members are the fields of the table in their order.
-/

namespace TypedTables.Generate

open TypedTables.Schema TypedTables.Manifest TypedTables.Discover TypedTables.Text
open TypedTables.Config (Code)

variable {source : Source} {code : Code} {names : TypeNames}

/-! ## Names of types -/

/-- The name of a table's type. -/
def typeNameOf (code : Code) (table : Table) : String :=
  match table.parameters.format code.typeNameTemplate with
  | .ok name => name
  | .error _ => ""

/-- Names of types that are identifiers, no two of them equal when letter case is ignored, each
under the lower-case name of its table. -/
structure Named (code : Code) (tables : List Table) (names : TypeNames) : Prop where
  entries : names = tables.map fun table => (lowercase table.name, typeNameOf code table)
  formatted : ∀ table ∈ tables,
    table.parameters.format code.typeNameTemplate = .ok (typeNameOf code table)
  identifiers : ∀ table ∈ tables, Naming.isIdentifier (typeNameOf code table) = true
  distinct : (tables.map fun table => lowercase (typeNameOf code table)).Nodup

theorem named_nil : Named code [] [] where
  entries := rfl
  formatted := by simp
  identifiers := by simp
  distinct := List.nodup_nil

theorem nameType_eq_ok
    {table : Table} {next : TypeNames} (ran : nameType code names table = .ok next) :
    table.parameters.format code.typeNameTemplate = .ok (typeNameOf code table) ∧
      Naming.isIdentifier (typeNameOf code table) = true ∧
      (∀ entry ∈ names, lowercase entry.2 ≠ lowercase (typeNameOf code table)) ∧
      next = setEntry (lowercase table.name) (typeNameOf code table) names := by
  unfold nameType at ran
  obtain ⟨name, formatted, checked⟩ := Outcome.bind_eq_ok_iff.mp ran
  have same : typeNameOf code table = name := by
    unfold typeNameOf
    rw [formatted]
  rw [same]
  dsimp only at checked
  split at checked
  · cases checked
  · next identifier =>
      split at checked
      · cases checked
      · next unused =>
          cases checked
          exact ⟨formatted, by simpa using identifier, by simpa using unused, rfl⟩

/-- Naming the type of one more table. -/
theorem named_nameType
    {before : List Table} {table : Table} {next : TypeNames}
    (named : Named code before names)
    (absent : lowercase table.name ∉ before.map fun table => lowercase table.name)
    (ran : nameType code names table = .ok next) :
    Named code (before ++ [table]) next := by
  obtain ⟨formatted, identifier, unused, same⟩ := nameType_eq_ok ran
  have notThere : lowercase table.name ∉ entryKeys names := by
    rw [named.entries]
    simpa [entryKeys] using absent
  refine ⟨?_, ?_, ?_, ?_⟩
  · rw [same, setEntry_of_not_mem notThere, named.entries, List.map_append]
    rfl
  · intro other member
    rcases List.mem_append.mp member with earlier | last
    · exact named.formatted other earlier
    · rw [List.mem_singleton.mp last]
      exact formatted
  · intro other member
    rcases List.mem_append.mp member with earlier | last
    · exact named.identifiers other earlier
    · rw [List.mem_singleton.mp last]
      exact identifier
  · rw [List.map_append, List.map_singleton, ← List.concat_eq_append, List.nodup_concat]
    refine ⟨?_, named.distinct⟩
    intro present
    obtain ⟨other, otherMember, otherSame⟩ := List.mem_map.mp present
    have entryMember : (lowercase other.name, typeNameOf code other) ∈ names := by
      rw [named.entries]
      exact List.mem_map.mpr ⟨other, otherMember, rfl⟩
    exact unused _ entryMember otherSame

theorem key_not_mem_of_nodup
    {items before after : List Table} {table : Table} {key : Table → String}
    (distinct : (items.map key).Nodup) (parts : items = before ++ table :: after) :
    key table ∉ before.map key := by
  intro present
  rw [parts, List.map_append, List.nodup_append] at distinct
  exact distinct.2.2 _ present (key table) (by simp) rfl

theorem named_nameTypes
    {tables : TableSet} (distinct : (tables.tables.map fun table => lowercase table.name).Nodup)
    (ran : nameTypes code tables = .ok names) : Named code tables.tables names := by
  refine Outcome.foldlM_invariant (Named code) named_nil ?_ ran
  intro before table after names next parts named stepped
  exact named_nameType named (key_not_mem_of_nodup distinct parts) stepped

theorem Named.typeName?
    {tables : List Table} (named : Named code tables names)
    (distinct : (tables.map fun table => lowercase table.name).Nodup)
    {table : Table} (member : table ∈ tables) :
    entryValue? (lowercase table.name) names = some (typeNameOf code table) := by
  apply entryValue?_of_mem
  · rw [named.entries]
    simpa [entryKeys, Function.comp_def] using distinct
  · rw [named.entries]
    exact List.mem_map.mpr ⟨table, member, rfl⟩

/-- Tables are told apart by the names of their types, the case of ASCII letters ignored. -/
theorem Named.table_eq
    {tables : List Table} (named : Named code tables names)
    {left right : Table} (leftMember : left ∈ tables) (rightMember : right ∈ tables)
    (same : asciiLower (typeNameOf code left) = asciiLower (typeNameOf code right)) :
    left = right := by
  have sameLower : lowercase (typeNameOf code left) = lowercase (typeNameOf code right) := by
    rw [lowercase_of_ascii (ascii_of_isIdentifier (named.identifiers left leftMember)),
      lowercase_of_ascii (ascii_of_isIdentifier (named.identifiers right rightMember)), same]
  exact List.inj_on_of_nodup_map named.distinct leftMember rightMember sameLower

/-! ## Members -/

/-- The member that a column is bound to, under the name of the column. -/
def boundColumn (field : Field) : String × Binding.BoundMember :=
  (field.name,
    ⟨field.name, Naming.snakeCase field.name, field.type.getD (.primitive .string), field.index⟩)

theorem boundColumn_type {field : Field} {type : TypeRef} (typed : field.type = some type) :
    (boundColumn field).2.type = type := by
  simp [boundColumn, typed]

/-- The members of fields, each as its field says, under identifiers of their own. -/
structure Described
    (tables : TableSet) (names : TypeNames) (seen : List String) (fields : List Field)
    (members : List Member) : Prop where
  bound : members.map (fun member => (member.bindingName, Binding.bind member)) =
    fields.map boundColumn
  reachable : ∀ member ∈ members, Binding.isReachable member = true
  typed : ∀ field ∈ fields, ∃ type, field.type = some type ∧
    ∃ spelled, spell tables names type = .ok spelled
  identifiers : (fields.map fun field => Naming.snakeCase field.name).Nodup
  unseen : ∀ field ∈ fields, Naming.snakeCase field.name ∉ seen

/-- The declaration of a member says what its field does. -/
structure DeclaresField
    (tables : TableSet) (names : TypeNames) (field : Field) (declaration : MemberDeclaration) :
    Prop where
  name : declaration.name = Naming.snakeCase field.name
  column : declaration.column = field.name
  doc : declaration.doc = docLines field.description
  type : ∃ type, field.type = some type ∧ spell tables names type = .ok declaration.type

theorem describeMembers_cons_eq_ok
    {tables : TableSet} {table : Table} {seen : List String} {field : Field} {rest : List Field}
    {members : List (Member × MemberDeclaration)}
    (ran : describeMembers tables names table seen (field :: rest) = .ok members) :
    Naming.snakeCase field.name ∉ seen ∧
      ∃ member declaration others, DeclaresField tables names field declaration ∧
        (member.bindingName, Binding.bind member) = boundColumn field ∧
        Binding.isReachable member = true ∧
        describeMembers tables names table (Naming.snakeCase field.name :: seen) rest =
          .ok others ∧
        members = (member, declaration) :: others := by
  unfold describeMembers at ran
  dsimp only at ran
  split at ran
  · cases ran
  · next notSeen =>
      obtain ⟨type, resolved, typed⟩ := Outcome.bind_eq_ok_iff.mp ran
      obtain ⟨spelled, spelt, described⟩ := Outcome.bind_eq_ok_iff.mp typed
      obtain ⟨others, restRan, same⟩ := Outcome.bind_eq_ok_iff.mp described
      cases same
      have hasType : field.type = some type := by
        unfold Field.resolvedType at resolved
        split at resolved
        · next found =>
            cases resolved
            exact found
        · cases resolved
      have declares : DeclaresField tables names field
          ⟨Naming.snakeCase field.name, field.name, spelled, docLines field.description⟩ := by
        refine ⟨?_, ?_, ?_, type, hasType, spelt⟩ <;> dsimp only
      refine ⟨by simpa using notSeen, _, _, others, declares, ?_, rfl, restRan, rfl⟩
      simp [Member.bindingName, Binding.bind, boundColumn, hasType]

theorem described_describeMembers
    {tables : TableSet} {table : Table} {seen : List String} {fields : List Field}
    {members : List (Member × MemberDeclaration)}
    (ran : describeMembers tables names table seen fields = .ok members) :
    Described tables names seen fields (members.map (·.1)) := by
  induction fields generalizing seen members with
  | nil =>
      cases ran
      exact ⟨rfl, by simp, by simp, List.nodup_nil, by simp⟩
  | cons field rest inductionHypothesis =>
      obtain ⟨notSeen, member, declaration, others, declares, bound, reachable, restRan, same⟩ :=
        describeMembers_cons_eq_ok ran
      have later := inductionHypothesis restRan
      rw [same, List.map_cons]
      refine ⟨?_, ?_, ?_, ?_, ?_⟩
      · rw [List.map_cons, List.map_cons, later.bound, bound]
      · intro other present
        rcases List.mem_cons.mp present with atHead | inRest
        · rw [atHead]
          exact reachable
        · exact later.reachable other inRest
      · intro other present
        rcases List.mem_cons.mp present with atHead | inRest
        · obtain ⟨type, hasType, spelt⟩ := declares.type
          rw [atHead]
          exact ⟨type, hasType, _, spelt⟩
        · exact later.typed other inRest
      · rw [List.map_cons, List.nodup_cons]
        refine ⟨?_, later.identifiers⟩
        intro present
        obtain ⟨other, otherMember, otherSame⟩ := List.mem_map.mp present
        apply later.unseen other otherMember
        rw [otherSame]
        exact List.mem_cons_self
      · intro other present
        rcases List.mem_cons.mp present with atHead | inRest
        · rw [atHead]
          exact notSeen
        · intro earlier
          exact later.unseen other inRest (List.mem_cons_of_mem _ earlier)

theorem declaresField_describeMembers
    {tables : TableSet} {table : Table} {seen : List String} {fields : List Field}
    {members : List (Member × MemberDeclaration)}
    (ran : describeMembers tables names table seen fields = .ok members) :
    List.Forall₂ (DeclaresField tables names) fields (members.map (·.2)) := by
  induction fields generalizing seen members with
  | nil =>
      cases ran
      exact .nil
  | cons field rest inductionHypothesis =>
      obtain ⟨_, member, declaration, others, declares, _, _, restRan, same⟩ :=
        describeMembers_cons_eq_ok ran
      rw [same, List.map_cons]
      exact .cons declares (inductionHypothesis restRan)

theorem Described.fieldNames
    {tables : TableSet} {seen : List String} {fields : List Field} {members : List Member}
    (described : Described tables names seen fields members) :
    (fields.map (·.name)).Nodup := by
  have identifiers := described.identifiers
  unfold List.Nodup at identifiers ⊢
  rw [List.pairwise_map] at identifiers ⊢
  apply identifiers.imp
  intro left right different same
  apply different
  rw [same]

/-! ## Types -/

/-- The type that a table is planned as. -/
def PlannedAs
    (source : Source) (code : Code) (names : TypeNames) (table : Table)
    (descriptor : Descriptor) : Prop :=
  ∃ isFirst declaration, planTable source code names isFirst table = .ok (descriptor, declaration)

/-- What the type of a table is, except for its members and variants. -/
structure Headed (code : Code) (names : TypeNames) (table : Table) (descriptor : Descriptor) :
    Prop where
  name : descriptor.name = (entryValue? (lowercase table.name) names).getD table.name
  space : descriptor.space = code.space.filter (!·.isEmpty)
  tableName : descriptor.table = table.name
  kind : descriptor.kind = table.kind
  description : descriptor.description = table.description

theorem Headed.eq
    {table : Table} {left right : Descriptor}
    (headLeft : Headed code names table left) (headRight : Headed code names table right)
    (sameMembers : left.members = right.members)
    (sameVariants : left.variants = right.variants) : left = right := by
  have sameName := headLeft.name.trans headRight.name.symm
  have sameSpace := headLeft.space.trans headRight.space.symm
  have sameTable := headLeft.tableName.trans headRight.tableName.symm
  have sameKind := headLeft.kind.trans headRight.kind.symm
  have sameDescription := headLeft.description.trans headRight.description.symm
  cases left
  cases right
  simp only [Descriptor.mk.injEq]
  exact ⟨sameName, sameSpace, sameTable, sameKind, sameDescription, sameMembers, sameVariants⟩

/-- A look-up goes by a member, and is named after it. -/
def LooksUp (index : IndexDeclaration) (member : MemberDeclaration) : Prop :=
  index = ⟨"index_by_" ++ Naming.withoutRawMark member.name, member.name, member.column,
    member.type⟩

theorem looksUp_indexOf
    {table : Table} {members : List MemberDeclaration} {found : Option IndexDeclaration}
    (ran : indexOf table members = .ok found) :
    ∀ index ∈ found, ∃ member ∈ members, LooksUp index member := by
  rintro index rfl
  unfold indexOf at ran
  split at ran
  · cases ran
  · next key _ =>
      obtain ⟨type, _, ran⟩ := Outcome.bind_eq_ok_iff.mp ran
      split at ran
      · cases ran
      · obtain ⟨member, isMember, rfl⟩ := Option.map_eq_some_iff.mp (Except.ok.inj ran)
        have ofKey : member.column = key.name := by simpa using List.find?_some isMember
        exact ⟨member, List.mem_of_find?_eq_some isMember, by rw [LooksUp, ofKey]⟩

/-- A declaration says what its table and the type of it do. -/
structure Declares (table : Table) (planned : Descriptor × Declaration) : Prop where
  name : planned.2.name = planned.1.name
  tableName : planned.2.table = table.name
  isEnum : planned.2.isEnum = table.isEnum
  doc : planned.2.doc = docLines table.description
  variants : planned.2.variants = planned.1.variants.map declareVariant
  index : ∀ index ∈ planned.2.index, ∃ member ∈ planned.2.members, LooksUp index member

theorem planTable_enum
    {isFirst : Bool} {table : Table} {planned : Descriptor × Declaration}
    (isEnum : table.isEnum = true)
    (ran : planTable source code names isFirst table = .ok planned) :
    Headed code names table planned.1 ∧ Declares table planned ∧ planned.1.members = [] ∧
      planned.2.members = [] ∧ variantsOf source table = .ok planned.1.variants := by
  unfold planTable at ran
  dsimp only at ran
  rw [if_pos isEnum] at ran
  obtain ⟨variants, found, same⟩ := Outcome.bind_eq_ok_iff.mp ran
  cases same
  exact ⟨⟨rfl, rfl, rfl, rfl, rfl⟩, ⟨rfl, rfl, rfl, rfl, rfl, by simp⟩, rfl, rfl, found⟩

theorem planTable_record
    {isFirst : Bool} {table : Table} {planned : Descriptor × Declaration}
    (notEnum : table.isEnum = false)
    (ran : planTable source code names isFirst table = .ok planned) :
    Headed code names table planned.1 ∧ Declares table planned ∧ planned.1.variants = [] ∧
      ∃ members, describeMembers source.tables names table [] table.fields = .ok members ∧
        planned.1.members = members.map (·.1) ∧ planned.2.members = members.map (·.2) := by
  unfold planTable at ran
  dsimp only at ran
  rw [if_neg (by simp [notEnum])] at ran
  obtain ⟨members, described, indexed⟩ := Outcome.bind_eq_ok_iff.mp ran
  obtain ⟨found, looksUp, same⟩ : ∃ found : Option IndexDeclaration,
      (∀ index ∈ found, ∃ member ∈ members.map (·.2), LooksUp index member) ∧ _ := by
    split at indexed
    · obtain ⟨found, ran, same⟩ := Outcome.bind_eq_ok_iff.mp indexed
      exact ⟨found, looksUp_indexOf ran, same⟩
    · exact ⟨none, by simp, indexed⟩
  cases same
  exact ⟨⟨rfl, rfl, rfl, rfl, rfl⟩, ⟨rfl, rfl, rfl, rfl, rfl, looksUp⟩, rfl, members, described, rfl,
    rfl⟩

theorem plannedAs_enum
    {table : Table} {descriptor : Descriptor} (isEnum : table.isEnum = true)
    (planned : PlannedAs source code names table descriptor) :
    Headed code names table descriptor ∧ descriptor.members = [] ∧
      variantsOf source table = .ok descriptor.variants := by
  obtain ⟨isFirst, declaration, ran⟩ := planned
  obtain ⟨head, _, members, _, variants⟩ := planTable_enum isEnum ran
  exact ⟨head, members, variants⟩

theorem plannedAs_record
    {table : Table} {descriptor : Descriptor} (notEnum : table.isEnum = false)
    (planned : PlannedAs source code names table descriptor) :
    Headed code names table descriptor ∧ descriptor.variants = [] ∧
      ∃ members, describeMembers source.tables names table [] table.fields = .ok members ∧
        descriptor.members = members.map (·.1) := by
  obtain ⟨isFirst, declaration, ran⟩ := planned
  obtain ⟨head, _, variants, members, described, same, _⟩ := planTable_record notEnum ran
  exact ⟨head, variants, members, described, same⟩

/-- What a planned type is does not depend on whether it is the first. -/
theorem plannedAs_unique
    {table : Table} {left right : Descriptor}
    (plannedLeft : PlannedAs source code names table left)
    (plannedRight : PlannedAs source code names table right) : left = right := by
  cases isEnum : table.isEnum with
  | true =>
      obtain ⟨headLeft, membersLeft, variantsLeft⟩ := plannedAs_enum isEnum plannedLeft
      obtain ⟨headRight, membersRight, variantsRight⟩ := plannedAs_enum isEnum plannedRight
      rw [variantsLeft, Except.ok.injEq] at variantsRight
      exact headLeft.eq headRight (membersLeft.trans membersRight.symm) variantsRight
  | false =>
      obtain ⟨headLeft, variantsLeft, membersLeft, ranLeft, sameLeft⟩ :=
        plannedAs_record isEnum plannedLeft
      obtain ⟨headRight, variantsRight, membersRight, ranRight, sameRight⟩ :=
        plannedAs_record isEnum plannedRight
      rw [ranLeft, Except.ok.injEq] at ranRight
      refine headLeft.eq headRight ?_ (variantsLeft.trans variantsRight.symm)
      rw [sameLeft, sameRight, ranRight]

/-- Tables are planned one after the other. -/
theorem forall₂_planTables
    {isFirst : Bool} {tables : List Table} {planned : List (Descriptor × Declaration)}
    (ran : planTables source code names isFirst tables = .ok planned) :
    List.Forall₂
      (fun table planned => ∃ isFirst, planTable source code names isFirst table = .ok planned)
      tables planned := by
  induction tables generalizing isFirst planned with
  | nil =>
      cases ran
      exact .nil
  | cons table rest inductionHypothesis =>
      unfold planTables at ran
      obtain ⟨first, firstPlanned, restRan⟩ := Outcome.bind_eq_ok_iff.mp ran
      obtain ⟨others, othersPlanned, same⟩ := Outcome.bind_eq_ok_iff.mp restRan
      cases same
      exact .cons ⟨isFirst, firstPlanned⟩ (inductionHypothesis othersPlanned)

/-- A plan has a type and a declaration for every table, in the order of the tables. -/
theorem planned_of_ofSource {plan : Plan} (planned : Plan.ofSource source code = .ok plan) :
    ∃ names types, nameTypes code source.tables = .ok names ∧
      plan.model.types = types.map (·.1) ∧ plan.declarations = types.map (·.2) ∧
      List.Forall₂
        (fun table planned => ∃ isFirst, planTable source code names isFirst table = .ok planned)
        source.tables.tables types := by
  unfold Plan.ofSource at planned
  obtain ⟨names, namesRan, typesPlanned⟩ := Outcome.bind_eq_ok_iff.mp planned
  obtain ⟨types, typesRan, same⟩ := Outcome.bind_eq_ok_iff.mp typesPlanned
  cases same
  exact ⟨names, types, namesRan, rfl, rfl, forall₂_planTables typesRan⟩

theorem forall₂_ofSource {plan : Plan} (planned : Plan.ofSource source code = .ok plan) :
    ∃ names, nameTypes code source.tables = .ok names ∧
      List.Forall₂ (PlannedAs source code names) source.tables.tables plan.model.types := by
  obtain ⟨names, types, namesRan, sameTypes, _, each⟩ := planned_of_ofSource planned
  refine ⟨names, namesRan, ?_⟩
  rw [sameTypes, List.forall₂_map_right_iff]
  exact each.imp fun _ planned ⟨isFirst, ran⟩ => ⟨isFirst, planned.2, ran⟩

end TypedTables.Generate
