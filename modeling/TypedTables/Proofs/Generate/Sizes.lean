import Mathlib.Data.List.Chain
import Mathlib.Logic.Relation
import TypedTables.Proofs.Generate.Declarations

/-!
# Sizes of generated types

A generated type holds another one by value where the type of a member is its name; lists and
optional boxes keep theirs elsewhere.  A type that holds types by value without end has no finite
size, and that is so exactly when tables that hold each other in place come back to one of them.
-/

namespace TypedTables.Generate

open TypedTables.Schema TypedTables.Manifest TypedTables.Discover TypedTables.Text
open TypedTables.Config (Code)

/-! ## Chains -/

section Chains

variable {α : Type} {relation : α → α → Prop} {start : α} {length : Nat}

/-- A chain leads from a start over so many more items, at least. -/
def HasChain (relation : α → α → Prop) (start : α) (length : Nat) : Prop :=
  ∃ rest : List α, length ≤ rest.length ∧ (start :: rest).IsChain relation

/-- From a start an item is reached that comes back to itself. -/
def ReachesCycle (relation : α → α → Prop) (start : α) : Prop :=
  ∃ turn, Relation.ReflTransGen relation start turn ∧ Relation.TransGen relation turn turn

theorem hasChain_zero : HasChain relation start 0 :=
  ⟨[], Nat.le_refl 0, List.isChain_singleton start⟩

theorem hasChain_succ_iff :
    HasChain relation start (length + 1) ↔
      ∃ next, relation start next ∧ HasChain relation next length := by
  constructor
  · intro ⟨rest, enough, chain⟩
    cases rest with
    | nil => cases enough
    | cons next rest =>
        rw [List.isChain_cons_cons] at chain
        exact ⟨next, chain.1, rest, Nat.le_of_succ_le_succ enough, chain.2⟩
  · intro ⟨next, first, rest, enough, chain⟩
    exact ⟨next :: rest, Nat.succ_le_succ enough, List.isChain_cons_cons.mpr ⟨first, chain⟩⟩

theorem ReachesCycle.step (reaches : ReachesCycle relation start) :
    ∃ next, relation start next ∧ ReachesCycle relation next := by
  obtain ⟨turn, reached, around⟩ := reaches
  rcases reached.cases_head with rfl | ⟨next, first, rest⟩
  · obtain ⟨next, first, back⟩ := Relation.TransGen.head'_iff.mp around
    exact ⟨next, first, start, back, around⟩
  · exact ⟨next, first, turn, rest, around⟩

theorem ReachesCycle.hasChain (reaches : ReachesCycle relation start) (length : Nat) :
    HasChain relation start length := by
  induction length generalizing start with
  | zero => exact hasChain_zero
  | succ length inductionHypothesis =>
      obtain ⟨next, first, rest⟩ := reaches.step
      exact hasChain_succ_iff.mpr ⟨next, first, inductionHypothesis rest⟩

/-- A chain that is longer than a list of its items meets one of them twice. -/
theorem reachesCycle_of_hasChain
    {items : List α} (inItems : start ∈ items)
    (closed : ∀ before after, relation before after → after ∈ items)
    (long : HasChain relation start items.length) : ReachesCycle relation start := by
  obtain ⟨rest, enough, chain⟩ := long
  -- Every later item is reached from every earlier one, so an item met twice comes back to itself.
  have ordered : (start :: rest).Pairwise (Relation.TransGen relation) :=
    (chain.imp fun _ _ => Relation.TransGen.single).pairwise
  have inside : start :: rest ⊆ items := by
    intro item member
    rcases List.mem_cons.mp member with rfl | later
    · exact inItems
    · have reached := (List.pairwise_cons.mp ordered).1 item later
      obtain ⟨before, _, last⟩ := Relation.TransGen.tail'_iff.mp reached
      exact closed before item last
  have repeated : ¬(start :: rest).Nodup := by
    intro distinct
    have bounded := (List.subperm_of_subset distinct inside).length_le
    rw [List.length_cons] at bounded
    omega
  obtain ⟨turn, twice⟩ : ∃ turn, [turn, turn].Sublist (start :: rest) := by
    simpa [List.nodup_iff_sublist] using repeated
  have around : Relation.TransGen relation turn turn := by
    simpa using ordered.sublist twice
  rcases List.mem_cons.mp (twice.subset List.mem_cons_self) with rfl | later
  · exact ⟨turn, .refl, around⟩
  · exact ⟨turn, ((List.pairwise_cons.mp ordered).1 turn later).to_reflTransGen, around⟩

end Chains

/-! ## Tables in place of each other -/

/-- A column of a table holds a record of another one in place. -/
def HoldsInPlace (tables : TableSet) (outer inner : Table) : Prop :=
  inner ∈ tables.tables ∧ inner.kind = .inPlace ∧
    ∃ column ∈ outer.fields, column.type = some (.table inner.name)

/-- The tables whose records are held in place. -/
def inPlaceTables (tables : TableSet) : List Table :=
  tables.tables.filter (·.kind == .inPlace)

theorem mem_inPlaceTables {tables : TableSet} {table : Table} :
    table ∈ inPlaceTables tables ↔ table ∈ tables.tables ∧ table.kind = .inPlace := by
  simp [inPlaceTables]

theorem reachesCycle_of_holdsInPlace
    {tables : TableSet} {table : Table} (member : table ∈ tables.tables)
    (inPlace : table.kind = .inPlace)
    (long : HasChain (HoldsInPlace tables) table (inPlaceTables tables).length) :
    ReachesCycle (HoldsInPlace tables) table := by
  apply reachesCycle_of_hasChain (mem_inPlaceTables.mpr ⟨member, inPlace⟩) _ long
  intro outer inner holds
  exact mem_inPlaceTables.mpr ⟨holds.1, holds.2.1⟩

/-- With no more tables in place than there are steps, only a cycle makes that many. -/
theorem hasChain_iff_reachesCycle
    {tables : TableSet} {table : Table} (member : table ∈ tables.tables)
    (inPlace : table.kind = .inPlace) {length : Nat}
    (few : (inPlaceTables tables).length ≤ length) :
    HasChain (HoldsInPlace tables) table length ↔ ReachesCycle (HoldsInPlace tables) table := by
  constructor
  · rintro ⟨rest, enough, chain⟩
    exact reachesCycle_of_holdsInPlace member inPlace ⟨rest, Nat.le_trans few enough, chain⟩
  · intro reaches
    exact reaches.hasChain length

/-! ## Generated types -/

/-- The type of a member is the name of another generated type. -/
def HoldsByValue (declarations : List Declaration) (outer inner : Declaration) : Prop :=
  inner ∈ declarations ∧ ∃ member ∈ outer.members, member.type = inner.name

/-- A generated type has a finite size if the types that it holds by value have one. -/
inductive FiniteSize (declarations : List Declaration) : Declaration → Prop
  | intro {outer : Declaration}
      (held : ∀ inner, HoldsByValue declarations outer inner → FiniteSize declarations inner) :
      FiniteSize declarations outer

theorem exists_of_not_finiteSize
    {declarations : List Declaration} {outer : Declaration}
    (endless : ¬FiniteSize declarations outer) :
    ∃ inner, HoldsByValue declarations outer inner ∧ ¬FiniteSize declarations inner := by
  by_contra none
  simp only [not_exists, not_and, not_not] at none
  exact endless (.intro none)

theorem not_finiteSize_of_holdsItself
    {declarations : List Declaration} {outer : Declaration}
    (holds : HoldsByValue declarations outer outer) : ¬FiniteSize declarations outer := by
  intro finite
  induction finite with
  | intro _ inductionHypothesis => exact inductionHypothesis _ holds holds

/-- No generated type with members is called what the generated code calls the primitive or
external type of a column. -/
def Unshadowed (code : Code) (tables : TableSet) : Prop :=
  ∀ table ∈ tables.tables, ∀ column ∈ table.fields, ∀ inner ∈ tables.tables, inner.isEnum = false →
    (∀ type, column.type = some (.primitive type) → type.codeName ≠ typeNameOf code inner) ∧
      ∀ path, column.type = some (.external path) → path ≠ typeNameOf code inner

variable {source : Source} {code : Code} {names : TypeNames} {tables : TableSet}

/-! ## Spelling -/

theorem spell_table
    (named : Named code tables.tables names)
    (distinct : (tables.tables.map fun table => lowercase table.name).Nodup)
    {table : Table} (member : table ∈ tables.tables) :
    spell tables names (.table table.name) =
      .ok (if table.kind = .reference then "Option<Box<" ++ typeNameOf code table ++ ">>"
        else typeNameOf code table) := by
  have inner : spellInner names (.table table.name) = .ok (typeNameOf code table) := by
    simp only [spellInner, typeName, named.typeName? distinct member]
  simp only [spell, inner, get?_of_mem distinct member]
  by_cases isReference : table.kind = .reference
  · simp [isReference, Bind.bind, Except.bind, pure, Except.pure]
  · simp [isReference, Bind.bind, Except.bind, pure, Except.pure]

theorem ne_of_isIdentifier
    {name inner : String} (identifier : Naming.isIdentifier name = true) (front back : String)
    (bracket : '<' ∈ front.toList) : front ++ inner ++ back ≠ name := by
  rintro rfl
  have allowed := isIdentifierChar_of_mem identifier (c := '<') (by simp [bracket])
  exact absurd allowed (by decide)

/-- Of the types with members only that of a table in place is written as its name. -/
theorem held_of_spell
    (named : Named code tables.tables names)
    (distinct : (tables.tables.map fun table => lowercase table.name).Nodup)
    {inner : Table} (member : inner ∈ tables.tables) (innerNotEnum : inner.isEnum = false)
    {type : TypeRef} (refers : RefersTo tables type)
    (primitive : ∀ target, type = .primitive target → target.codeName ≠ typeNameOf code inner)
    (external : ∀ path, type = .external path → path ≠ typeNameOf code inner)
    (spelled : spell tables names type = .ok (typeNameOf code inner)) :
    type = .table inner.name ∧ inner.kind = .inPlace := by
  have identifier := named.identifiers inner member
  have sameTable : ∀ table ∈ tables.tables, typeNameOf code table = typeNameOf code inner →
      table = inner :=
    fun table tableMember same => named.table_eq tableMember member (congrArg asciiLower same)
  cases type with
  | primitive target => exact absurd (Except.ok.inj spelled) (primitive target rfl)
  | external path => exact absurd (Except.ok.inj spelled) (external path rfl)
  | array item =>
      obtain ⟨_, listSpelled, same⟩ := Outcome.bind_eq_ok_iff.mp spelled
      obtain ⟨itemText, _, listText⟩ := Outcome.bind_eq_ok_iff.mp listSpelled
      cases listText
      exact absurd (Except.ok.inj same) (ne_of_isIdentifier identifier "Vec<" ">" (by decide))
  | table name =>
      obtain ⟨table, tableMember, rfl, notEnum⟩ := refers
      rw [spell_table named distinct tableMember, Except.ok.injEq] at spelled
      by_cases isReference : table.kind = .reference
      · rw [if_pos isReference] at spelled
        exact absurd spelled (ne_of_isIdentifier identifier "Option<Box<" ">>" (by decide))
      · rw [if_neg isReference] at spelled
        obtain rfl := sameTable table tableMember spelled
        exact ⟨rfl, (kind_of_notEnum notEnum).resolve_left isReference⟩
  | enumeration name =>
      obtain ⟨table, tableMember, rfl, isEnum⟩ := refers
      have written : spell tables names (.enumeration table.name) =
          .ok (typeNameOf code table) := by
        simp only [spell, spellInner, typeName, named.typeName? distinct tableMember]
        rfl
      rw [written, Except.ok.injEq] at spelled
      rw [← sameTable table tableMember spelled, isEnum] at innerNotEnum
      cases innerNotEnum

/-! ## Declarations -/

namespace Declared

variable {declarations : List Declaration} {table : Table} {declaration : Declaration}

theorem finiteSize_of_isEnum
    (declaredAs : DeclaredAs source code names table declaration) (isEnum : table.isEnum = true) :
    FiniteSize declarations declaration := by
  constructor
  intro inner ⟨_, member, inMembers, _⟩
  rw [(declaredAs.enumeration isEnum).1] at inMembers
  cases inMembers

/-- A type that is held by value is that of a table in place, or of an enumeration. -/
theorem held_of_holdsByValue
    (declared : Declared source code names declarations)
    (unshadowed : Unshadowed code source.tables) (member : table ∈ source.tables.tables)
    (notEnum : table.isEnum = false)
    (declaredAs : DeclaredAs source code names table declaration) {inner : Declaration}
    (holds : HoldsByValue declarations declaration inner) :
    ∃ held ∈ source.tables.tables, DeclaredAs source code names held inner ∧
      (HoldsInPlace source.tables table held ∨ held.isEnum = true) := by
  obtain ⟨inDeclarations, memberDeclaration, inMembers, sameName⟩ := holds
  obtain ⟨held, heldMember, heldAs⟩ :=
    (Outcome.exists_of_forall₂ declared.each).2 inner inDeclarations
  obtain ⟨column, inFields, declares⟩ :=
    (Outcome.exists_of_forall₂ (declaredAs.record notEnum).1).2 memberDeclaration inMembers
  obtain ⟨type, typed, spelled⟩ := declares.type
  obtain ⟨other, otherTyped, refers⟩ := declared.typed table member column inFields
  rw [typed, Option.some.injEq] at otherTyped
  subst otherTyped
  rw [sameName, (declared.name heldMember heldAs).1] at spelled
  refine ⟨held, heldMember, heldAs, ?_⟩
  cases isEnum : held.isEnum with
  | true => exact Or.inr rfl
  | false =>
      obtain ⟨primitive, external⟩ := unshadowed table member column inFields held heldMember isEnum
      obtain ⟨same, inPlace⟩ :=
        held_of_spell declared.named declared.tables heldMember isEnum refers
          (fun target same => primitive target (same ▸ typed))
          (fun path same => external path (same ▸ typed)) spelled
      exact Or.inl ⟨heldMember, inPlace, column, inFields, same ▸ typed⟩

theorem holdsByValue_of_holdsInPlace
    (declared : Declared source code names declarations) (notEnum : table.isEnum = false)
    (declaredAs : DeclaredAs source code names table declaration) {held : Table}
    {inner : Declaration} (inDeclarations : inner ∈ declarations)
    (heldAs : DeclaredAs source code names held inner)
    (holds : HoldsInPlace source.tables table held) :
    HoldsByValue declarations declaration inner := by
  obtain ⟨heldMember, inPlace, column, inFields, typed⟩ := holds
  obtain ⟨memberDeclaration, inMembers, declares⟩ :=
    (Outcome.exists_of_forall₂ (declaredAs.record notEnum).1).1 column inFields
  obtain ⟨type, otherTyped, spelled⟩ := declares.type
  rw [typed, Option.some.injEq] at otherTyped
  rw [← otherTyped, spell_table declared.named declared.tables heldMember,
    if_neg (by simp [inPlace]), Except.ok.injEq] at spelled
  refine ⟨inDeclarations, memberDeclaration, inMembers, ?_⟩
  rw [← spelled, (declared.name heldMember heldAs).1]

theorem not_reachesCycle_of_finiteSize
    (declared : Declared source code names declarations)
    (finite : FiniteSize declarations declaration) (notEnum : table.isEnum = false)
    (declaredAs : DeclaredAs source code names table declaration) :
    ¬ReachesCycle (HoldsInPlace source.tables) table := by
  -- One step along the way to the cycle is one constructor of the finite size.
  induction finite generalizing table with
  | intro _ inductionHypothesis =>
      intro reaches
      obtain ⟨held, holds, rest⟩ := reaches.step
      obtain ⟨inner, inDeclarations, heldAs⟩ :=
        (Outcome.exists_of_forall₂ declared.each).1 held holds.1
      have byValue :=
        declared.holdsByValue_of_holdsInPlace notEnum declaredAs inDeclarations heldAs holds
      exact inductionHypothesis inner byValue (by simp [Table.isEnum, holds.2.1]) heldAs rest

theorem hasChain_of_not_finiteSize
    (declared : Declared source code names declarations)
    (unshadowed : Unshadowed code source.tables) (member : table ∈ source.tables.tables)
    (declaredAs : DeclaredAs source code names table declaration)
    (endless : ¬FiniteSize declarations declaration) (length : Nat) :
    HasChain (HoldsInPlace source.tables) table length := by
  induction length generalizing table declaration with
  | zero => exact hasChain_zero
  | succ length inductionHypothesis =>
      have notEnum : table.isEnum = false := by
        by_contra isEnum
        exact endless (finiteSize_of_isEnum declaredAs (by simpa using isEnum))
      obtain ⟨inner, byValue, innerEndless⟩ := exists_of_not_finiteSize endless
      obtain ⟨held, heldMember, heldAs, holds⟩ :=
        declared.held_of_holdsByValue unshadowed member notEnum declaredAs byValue
      rcases holds with inPlace | isEnum
      · exact hasChain_succ_iff.mpr
          ⟨held, inPlace, inductionHypothesis heldMember heldAs innerEndless⟩
      · exact absurd (finiteSize_of_isEnum heldAs isEnum) innerEndless

theorem reachesCycle_iff_not_finiteSize
    (declared : Declared source code names declarations)
    (unshadowed : Unshadowed code source.tables) (member : table ∈ source.tables.tables)
    (inPlace : table.kind = .inPlace)
    (declaredAs : DeclaredAs source code names table declaration) :
    ReachesCycle (HoldsInPlace source.tables) table ↔ ¬FiniteSize declarations declaration := by
  constructor
  · intro reaches finite
    exact declared.not_reachesCycle_of_finiteSize finite (by simp [Table.isEnum, inPlace])
      declaredAs reaches
  · intro endless
    exact reachesCycle_of_holdsInPlace member inPlace
      (declared.hasChain_of_not_finiteSize unshadowed member declaredAs endless _)

end Declared

end TypedTables.Generate
