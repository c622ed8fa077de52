import TypedTables.Proofs.Composites
import TypedTables.Proofs.Generate.Sizes

/-!
# Default instances

A table in place has a default instance unless more instances are begun inside each other than may
be.  Without defaults of columns these are the instances along a chain of tables that hold each
other in place, so with few enough tables only a cycle is too long, and then the generated type has
no finite size.
-/

namespace TypedTables

open TypedTables.Schema TypedTables.Manifest TypedTables.Binding TypedTables.Convert
open TypedTables.Discover TypedTables.Generate TypedTables.Text
open TypedTables.Config (Code Settings)

variable {α : Type} {source : Source} {code : Code} {names : TypeNames} {lookup : Lookup}
  {table : Table}

/-! ## Failures -/

/-- The outcome is a failure exactly if something is endless, and says then that a type contains
itself. -/
def FailsIff (endless : Prop) : Outcome α → Prop
  | .ok _ => ¬endless
  | .error failure => endless ∧ ∃ name, failure = .containsItself name

theorem exists_error_iff {endless : Prop} {outcome : Outcome α} (fails : FailsIff endless outcome) :
    (∃ failure, outcome = .error failure) ↔ endless := by
  cases outcome with
  | ok value =>
      have ends : ¬endless := fails
      simp [ends]
  | error failure =>
      have holds : endless := fails.1
      simp [holds]

theorem containsItself_of_error
    {endless : Prop} {outcome : Outcome α} (fails : FailsIff endless outcome) {failure : Failure}
    (failed : outcome = .error failure) : ∃ name, failure = .containsItself name := by
  subst failed
  exact fails.2

theorem collectMembers_failsIff
    {convert : BoundMember → Conversion Value} {endless : BoundMember → Prop} {members : Members}
    (each : ∀ entry ∈ members,
      Satisfies lookup (convert entry.2) (FailsIff (endless entry.2)))
    (entries : List (String × Value)) :
    Satisfies lookup (collectMembers convert members entries)
      (FailsIff (∃ entry ∈ members, endless entry.2)) := by
  induction members generalizing entries with
  | nil =>
      apply Satisfies.pure
      simp [FailsIff]
  | cons entry rest inductionHypothesis =>
      simp only [collectMembers]
      apply Satisfies.bind (each entry List.mem_cons_self)
      · intro value ends
        have endsHere : ¬endless entry.2 := ends
        have later : (∃ other ∈ entry :: rest, endless other.2) ↔
            ∃ other ∈ rest, endless other.2 := by
          simp [endsHere]
        rw [later]
        exact inductionHypothesis (fun other member => each other (List.mem_cons_of_mem _ member)) _
      · intro failure ⟨holds, contains⟩
        exact ⟨⟨entry, List.mem_cons_self, holds⟩, contains⟩

/-- The zero of a type fails where it is a new record that fails. -/
theorem zeroOf_failsIff
    (distinct : (lookup.tables.tables.map fun table => lowercase table.name).Nodup) {fresh : Fresh}
    {endless : Table → Prop}
    (made : ∀ table ∈ lookup.tables.tables, table.kind = .inPlace →
      Satisfies lookup (fresh table) (FailsIff (endless table)))
    {type : TypeRef} (refers : RefersTo lookup.tables type) :
    Satisfies lookup (zeroOf lookup fresh type)
      (FailsIff (∃ inner ∈ lookup.tables.tables, inner.kind = .inPlace ∧
        type = .table inner.name ∧ endless inner)) := by
  cases type with
  | primitive _ | array _ | external _ =>
      apply Satisfies.pure
      simp [FailsIff]
  | enumeration name =>
      simp only [zeroOf]
      split
      · split <;> exact Satisfies.pure (by simp [FailsIff])
      · exact Satisfies.pure (by simp [FailsIff])
  | table name =>
      obtain ⟨table, member, rfl, _⟩ := refers
      have only : ∀ inner ∈ lookup.tables.tables,
          TypeRef.table table.name = .table inner.name → inner = table := by
        intro inner inTables same
        apply List.inj_on_of_nodup_map distinct inTables member
        rw [TypeRef.table.inj same]
      simp only [zeroOf, get?_of_mem distinct member]
      by_cases inPlace : table.kind = .inPlace
      · have same : (∃ inner ∈ lookup.tables.tables, inner.kind = .inPlace ∧
            TypeRef.table table.name = .table inner.name ∧ endless inner) ↔ endless table := by
          constructor
          · rintro ⟨inner, inTables, _, sameName, holds⟩
            rw [← only inner inTables sameName]
            exact holds
          · intro holds
            exact ⟨table, member, inPlace, rfl, holds⟩
        rw [if_pos inPlace, same]
        exact made table member inPlace
      · rw [if_neg inPlace]
        apply Satisfies.pure
        rintro ⟨inner, inTables, innerInPlace, sameName, _⟩
        exact inPlace (only inner inTables sameName ▸ innerInPlace)

/-! ## New records -/

theorem seedMember_of_noDefaults
    {fresh : Fresh} (noDefaults : ∀ column ∈ table.fields, column.default = none)
    (member : BoundMember) :
    seedMember lookup fresh table member = zeroOf lookup fresh member.type := by
  simp only [seedMember]
  cases found : table.field? member.name with
  | none => rfl
  | some column =>
      have inFields : column ∈ table.fields := List.mem_of_find?_eq_some found
      simp [noDefaults column inFields]

/-- The type of a member asks for a record in place that begins so long a chain. -/
def AsksForChain (tables : TableSet) (length : Nat) (member : BoundMember) : Prop :=
  ∃ inner ∈ tables.tables, inner.kind = .inPlace ∧ member.type = .table inner.name ∧
    HasChain (HoldsInPlace tables) inner length

theorem exists_asksForChain_iff
    {tables : TableSet} {descriptor : Descriptor} (columns : Columns tables table descriptor)
    {length : Nat} :
    (∃ entry ∈ declaredMembers descriptor, AsksForChain tables length entry.2) ↔
      HasChain (HoldsInPlace tables) table (length + 1) := by
  have sameType : ∀ column ∈ table.fields, ∀ name,
      column.type = some (.table name) ↔ (boundColumn column).2.type = .table name := by
    intro column inFields name
    obtain ⟨type, typed, _⟩ := columns.typed column inFields
    simp [boundColumn, typed]
  rw [columns.members, hasChain_succ_iff]
  constructor
  · rintro ⟨entry, inMembers, inner, member, inPlace, asks, chain⟩
    obtain ⟨column, inFields, rfl⟩ := List.mem_map.mp inMembers
    exact ⟨inner, ⟨member, inPlace, column, inFields, (sameType column inFields _).mpr asks⟩, chain⟩
  · rintro ⟨inner, ⟨member, inPlace, column, inFields, typed⟩, chain⟩
    exact ⟨boundColumn column, List.mem_map_of_mem inFields, inner, member, inPlace,
      (sameType column inFields _).mp typed, chain⟩

section Records

variable {descriptor : Descriptor} {room : Nat}

theorem instantiate_zero_failsIff
    (distinct : DistinctTypes lookup.catalog.model)
    (bound : lookup.catalog.descriptor? table.name = some descriptor) :
    Satisfies lookup (instantiate lookup 0 table)
      (FailsIff (HasChain (HoldsInPlace lookup.tables) table 0)) := by
  simp only [instantiate, bound]
  apply Satisfies.bind (membersFor_returns distinct (Catalog.mem_types_of_descriptor? bound))
  · intro members _
    exact Satisfies.throw ⟨hasChain_zero, descriptor.name, rfl⟩
  · intro failure impossible
    cases impossible

/-- One more instance follows a chain one step further. -/
theorem instantiate_succ_failsIff
    (prepared : Prepared source code names lookup)
    (bound : lookup.catalog.descriptor? table.name = some descriptor)
    (columns : Columns lookup.tables table descriptor)
    (noDefaults : ∀ column ∈ table.fields, column.default = none)
    (made : ∀ inner ∈ lookup.tables.tables, inner.kind = .inPlace →
      Satisfies lookup (instantiate lookup room inner)
        (FailsIff (HasChain (HoldsInPlace lookup.tables) inner room))) :
    Satisfies lookup (instantiate lookup (room + 1) table)
      (FailsIff (HasChain (HoldsInPlace lookup.tables) table (room + 1))) := by
  have seeds : ∀ entry ∈ declaredMembers descriptor,
      Satisfies lookup (seedMember lookup (instantiate lookup room) table entry.2)
        (FailsIff (AsksForChain lookup.tables room entry.2)) := by
    intro entry inMembers
    rw [seedMember_of_noDefaults noDefaults]
    exact zeroOf_failsIff prepared.distinctTables made (columns.refersTo inMembers)
  rw [← exists_asksForChain_iff columns]
  simp only [instantiate, bound, seedMembers_eq]
  apply Satisfies.bind
    (membersFor_returns prepared.distinctTypes (Catalog.mem_types_of_descriptor? bound))
  · intro members given
    rw [Except.ok.inj given, prepared.membersOf_eq]
    apply Satisfies.bind (collectMembers_failsIff seeds [])
    · intro entries ends
      exact Satisfies.pure ends
    · intro failure fails
      exact fails
  · intro failure impossible
    cases impossible

/-- Without defaults a new record fails where a chain of tables in place is longer than the room for
instances. -/
theorem instantiate_failsIff
    (prepared : Prepared source code names lookup)
    (noDefaults : ∀ table ∈ lookup.tables.tables, ∀ column ∈ table.fields, column.default = none)
    (member : table ∈ lookup.tables.tables) (notEnum : table.isEnum = false) :
    Satisfies lookup (instantiate lookup room table)
      (FailsIff (HasChain (HoldsInPlace lookup.tables) table room)) := by
  induction room generalizing table with
  | zero =>
      obtain ⟨descriptor, bound, _⟩ :=
        prepared.agreement.bound table (prepared.tables ▸ member)
      exact instantiate_zero_failsIff prepared.distinctTypes bound
  | succ room inductionHypothesis =>
      obtain ⟨descriptor, bound, _⟩ :=
        prepared.agreement.bound table (prepared.tables ▸ member)
      apply instantiate_succ_failsIff prepared bound (prepared.columns member notEnum bound)
        (noDefaults table member)
      intro inner innerMember inPlace
      exact inductionHypothesis innerMember (by simp [Table.isEnum, inPlace])

end Records

/-! ## Zeros -/

/-- Without defaults the zero of a table in place fails where a chain is longer than instances may
be begun inside each other. -/
theorem zeroCell_failsIff
    (prepared : Prepared source code names lookup)
    (noDefaults : ∀ table ∈ lookup.tables.tables, ∀ column ∈ table.fields, column.default = none)
    (member : table ∈ lookup.tables.tables) (inPlace : table.kind = .inPlace) :
    FailsIff (HasChain (HoldsInPlace lookup.tables) table instanceLimit)
      (zeroCell lookup (.table table.name)) := by
  have notEnum : table.isEnum = false := by
    simp [Table.isEnum, inPlace]
  have zero : lookup.zero (.table table.name) = instantiate lookup instanceLimit table := by
    simp only [Lookup.zero, zeroOf, get?_of_mem prepared.distinctTables member, if_pos inPlace,
      Lookup.fresh]
  rw [zeroCell, zero]
  exact (instantiate_failsIff prepared noDefaults member notEnum [] soundCache_nil).1

/-- Where no column has a default, the zero of a table in place fails exactly if a chain of more
tables in place than instances may be begun starts there.  With few enough of them that takes a
cycle, and then the generated type has no finite size.  A blank cell becomes the zero of any type
that does not ask for a record of an enumeration. -/
theorem zero_fails_iff_endless
    {settings : Settings} {run : Naming.Scope} {plan : Plan} {catalog : Catalog}
    (reached : Source.Reached settings run source) (isOpen : source.isOpen = true)
    (planned : Plan.ofSource source code = .ok plan)
    (bound : Catalog.ofTables source.tables plan.model code = .ok catalog)
    (separators : Separators)
    (noDefaults : ∀ table ∈ source.tables.tables, ∀ column ∈ table.fields,
      column.default = none) :
    let lookup : Lookup := .ofSource source catalog separators
    let holds := HoldsInPlace source.tables
    (∀ table ∈ source.tables.tables, table.kind = .inPlace →
      (∀ failure, zeroCell lookup (.table table.name) = .error failure →
        failure.kind = .configuration ∧ ∃ name, failure = .containsItself name) ∧
      ((∃ failure, zeroCell lookup (.table table.name) = .error failure) ↔
        ∃ rest, instanceLimit < (table :: rest).length ∧ (table :: rest).IsChain holds) ∧
      ((inPlaceTables source.tables).length ≤ instanceLimit →
        ((∃ failure, zeroCell lookup (.table table.name) = .error failure) ↔
          ReachesCycle holds table)) ∧
      (Unshadowed code source.tables →
        ∃ declaration ∈ plan.declarations, declaration.table = table.name ∧
          (ReachesCycle holds table ↔ ¬FiniteSize plan.declarations declaration))) ∧
    ∀ target, SparesEnumerations source.tables target → ∀ field value, value.isEmpty = true →
      lookup.convert field target {} value = lookup.zero target := by
  intro lookup holds
  have resolved := Source.resolved_of_reached reached isOpen
  obtain ⟨_, _, prepared⟩ := prepared_of_resolved resolved planned bound separators
  refine ⟨?_, ?_⟩
  · intro table member inPlace
    have fails : FailsIff (HasChain holds table instanceLimit)
        (zeroCell lookup (.table table.name)) :=
      zeroCell_failsIff prepared noDefaults member inPlace
    refine ⟨?_, ?_, ?_, ?_⟩
    · intro failure failed
      obtain ⟨name, same⟩ := containsItself_of_error fails failed
      exact ⟨by rw [same]; rfl, name, same⟩
    · rw [exists_error_iff fails]
      simp only [HasChain, List.length_cons, Nat.lt_succ_iff]
    · intro few
      exact (exists_error_iff fails).trans (hasChain_iff_reachesCycle member inPlace few)
    · intro unshadowed
      obtain ⟨_, _, declared⟩ := declared_of_ofSource resolved planned
      obtain ⟨declaration, inDeclarations, declaredAs⟩ :=
        (Outcome.exists_of_forall₂ declared.each).1 table member
      exact ⟨declaration, inDeclarations, (declared.name member declaredAs).2,
        declared.reachesCycle_iff_not_finiteSize unshadowed member inPlace declaredAs⟩
  · intro target spares field value blank
    exact convertLevels_blank prepared spares (by decide) blank _

/-! ## A record that holds itself -/

def nodeSheet : Sheet :=
  .ofTexts [[], ["Next"], ["Node"], ["struct"], [], [""]]

def nodeTable : Table :=
  { Table.named "Node" .empty with
    flags := { isStruct := true }
    fields := [{ name := "Next", declared := "Node", type := some (.table "Node"), column := 1 }] }

def nodeSource : Source :=
  { loaded := [⟨nodeTable, nodeSheet, 6⟩], isOpen := true }

def nodePlan : Plan :=
  { model := {
      moduleName := "tables"
      types := [
        { name := "Node", table := "Node", kind := .inPlace
          members := [{ name := "next", rename := some "Next", type := .table "Node" }] }] }
    declarations := [
      { name := "Node", table := "Node", isEnum := false, doc := [], isFirst := true
        moduleName := "tables", space := none, members := [⟨"next", "Next", "Node", []⟩] }] }

def nodeCatalog : Catalog :=
  ⟨nodePlan.model, [("node", 0)]⟩

theorem reached_nodeSource : Source.Reached {} .empty nodeSource := by
  have opened : Source.ofProvider {} .empty (.ofList [("Node", nodeSheet)]) = .ok nodeSource := by
    with_unfolding_all rfl
  exact Source.Reached.of_ofProvider opened

theorem zero_fails_iff_endless_node :
    (∃ failure, zeroCell (.ofSource nodeSource nodeCatalog ⟨[], []⟩) (.table "Node") =
      .error failure ∧ failure.kind = .configuration) ∧
    ∃ declaration ∈ nodePlan.declarations, declaration.table = "Node" ∧
      ¬FiniteSize nodePlan.declarations declaration := by
  have planned : Plan.ofSource nodeSource {} = .ok nodePlan :=
    Outcome.eq_ok_of_toOption (by decide +kernel)
  have bound : Catalog.ofTables nodeSource.tables nodePlan.model {} = .ok nodeCatalog :=
    Outcome.eq_ok_of_toOption (by decide +kernel)
  have noDefaults : ∀ table ∈ nodeSource.tables.tables, ∀ column ∈ table.fields,
      column.default = none := by
    decide +kernel
  have member : nodeTable ∈ nodeSource.tables.tables := List.mem_singleton_self nodeTable
  have holdsItself : HoldsInPlace nodeSource.tables nodeTable nodeTable :=
    ⟨member, rfl, _, List.mem_singleton_self _, rfl⟩
  have reaches : ReachesCycle (HoldsInPlace nodeSource.tables) nodeTable :=
    ⟨nodeTable, .refl, .single holdsItself⟩
  have unshadowed : Unshadowed {} nodeSource.tables := by
    simp [Unshadowed, Source.tables, nodeSource, nodeTable]
  obtain ⟨kinds, _, few, sized⟩ :=
    (zero_fails_iff_endless reached_nodeSource rfl planned bound ⟨[], []⟩ noDefaults).1
      nodeTable member rfl
  obtain ⟨failure, failed⟩ := (few (by decide)).mpr reaches
  obtain ⟨declaration, inDeclarations, named, endless⟩ := sized unshadowed
  exact ⟨⟨failure, failed, (kinds failure failed).1⟩, declaration, inDeclarations, named,
    endless.mp reaches⟩

/-! ## A record that is called as a primitive type -/

def textSheet : Sheet :=
  .ofTexts [[], ["Name"], ["string"], ["struct"], [], [""]]

def textTable : Table :=
  { Table.named "String" .empty with
    flags := { isStruct := true }
    fields := [
      { name := "Name", declared := "string", type := some (.primitive .string), column := 1 }] }

def shadowSource : Source :=
  { loaded := [⟨textTable, textSheet, 6⟩, ⟨{ hueTable with origin := 1 }, hueSheet, 6⟩]
    isOpen := true }

def textDeclaration : Declaration :=
  { name := "String", table := "String", isEnum := false, doc := [], isFirst := true
    moduleName := "tables", space := none, members := [⟨"name", "Name", "String", []⟩] }

def shadowPlan : Plan :=
  { model := {
      moduleName := "tables"
      types := [
        { name := "String", table := "String", kind := .inPlace
          members := [{ name := "name", rename := some "Name", type := .primitive .string }] },
        hueDescriptor] }
    declarations := [textDeclaration, { hueDeclaration with isFirst := false }] }

def shadowCatalog : Catalog :=
  ⟨shadowPlan.model, [("string", 0), ("hue", 1)]⟩

def shadowLookup : Lookup :=
  .ofSource shadowSource shadowCatalog ⟨[], []⟩

/-- A blank cell becomes a record without members where an enumeration is asked for as a table, and
the zero is nothing.  A record in place called `String` holds itself in generated code, and the
zero is a record. -/
theorem enumeration_record_and_shadowed_string :
    Source.Reached {} .empty shadowSource ∧ Plan.ofSource shadowSource {} = .ok shadowPlan ∧
    Catalog.ofTables shadowSource.tables shadowPlan.model {} = .ok shadowCatalog ∧
    ((shadowLookup.convert { name := "Cell", column := 1 } (.table "Hue") {} .null).run.run []).1 =
      .ok (.record "Hue" []) ∧
    zeroCell shadowLookup (.table "Hue") = .ok .null ∧
    zeroCell shadowLookup (.table "String") = .ok (.record "String" [("Name", .text "")]) ∧
    textDeclaration ∈ shadowPlan.declarations ∧
    ¬FiniteSize shadowPlan.declarations textDeclaration := by
  have opened : Source.ofProvider {} .empty
      (.ofList [("String", textSheet), ("Hue", hueSheet)]) = .ok shadowSource := by
    with_unfolding_all rfl
  have inDeclarations : textDeclaration ∈ shadowPlan.declarations := List.mem_cons_self
  have holdsItself : HoldsByValue shadowPlan.declarations textDeclaration textDeclaration :=
    ⟨inDeclarations, _, List.mem_singleton_self _, rfl⟩
  refine ⟨Source.Reached.of_ofProvider opened, Outcome.eq_ok_of_toOption (by decide +kernel),
    Outcome.eq_ok_of_toOption (by decide +kernel), ?_, ?_, ?_, inDeclarations,
    not_finiteSize_of_holdsItself holdsItself⟩
  · with_unfolding_all rfl
  · with_unfolding_all rfl
  · with_unfolding_all rfl

end TypedTables
