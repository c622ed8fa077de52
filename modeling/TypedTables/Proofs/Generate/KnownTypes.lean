import TypedTables.Proofs.Discover.Schemas
import TypedTables.Proofs.Generate.Planning

/-!
# Known types

Planning can fail for many reasons, but over the tables of an opened source never because a field
has no type or because its type names a table that is not there.
-/

namespace TypedTables.Generate

open TypedTables.Schema TypedTables.Config TypedTables.Discover TypedTables.Text

variable {source : Source} {code : Code} {names : TypeNames}

/-- A failure that says nothing of missing types. -/
def SparesTypes : Failure → Prop
  | .unresolvedType _ _ | .unknownTableType _ => False
  | _ => True

/-! ## Names of types -/

theorem failsOnly_format (scope : Naming.Scope) (template : String) :
    Outcome.FailsOnly SparesTypes (scope.format template) := by
  unfold Naming.Scope.format
  have each : ∀ segment ∈ Naming.segments template.toList,
      Outcome.FailsOnly SparesTypes (scope.expand template segment) := by
    intro segment _
    cases segment with
    | literal c => exact Outcome.failsOnly_ok [c]
    | parameter name =>
        rw [Naming.Scope.expand]
        split
        · exact Outcome.failsOnly_ok _
        · exact Outcome.failsOnly_error trivial
  exact (Outcome.failsOnly_mapM each).bind fun pieces _ => Outcome.failsOnly_ok _

theorem failsOnly_nameTypes (code : Code) (tables : TableSet) :
    Outcome.FailsOnly SparesTypes (nameTypes code tables) := by
  apply Outcome.failsOnly_foldlM
  intro table _ names
  unfold nameType
  refine (failsOnly_format table.parameters code.typeNameTemplate).bind fun name _ => ?_
  dsimp only
  split
  · exact Outcome.failsOnly_error trivial
  · split
    · exact Outcome.failsOnly_error trivial
    · exact Outcome.failsOnly_ok _

/-! ## Types of members -/

/-- Every type that refers to named tables can be written. -/
theorem spell_eq_ok
    {tables : TableSet} (named : Named code tables.tables names)
    (distinct : (tables.tables.map fun table => lowercase table.name).Nodup)
    {type : TypeRef} (refers : RefersTo tables type) :
    ∃ spelled, spell tables names type = .ok spelled := by
  have inner : ∃ spelled, spellInner names type = .ok spelled := by
    have tableNamed : ∀ name isEnum, HasTable tables name isEnum →
        ∃ spelled, typeName names name = .ok spelled := by
      rintro _ _ ⟨table, member, rfl, -⟩
      refine ⟨typeNameOf code table, ?_⟩
      unfold typeName
      rw [named.typeName? distinct member]
    induction type with
    | primitive target => exact ⟨target.codeName, rfl⟩
    | external path => exact ⟨path, rfl⟩
    | table name => exact tableNamed name false refers
    | enumeration name => exact tableNamed name true refers
    | array element inductionHypothesis =>
        obtain ⟨spelled, elementSpelled⟩ := inductionHypothesis refers
        refine ⟨"Vec<" ++ spelled ++ ">", ?_⟩
        unfold spellInner
        rw [elementSpelled]
        rfl
  obtain ⟨spelled, innerSpelled⟩ := inner
  unfold spell
  rw [innerSpelled]
  cases type with
  | table name =>
      by_cases isReference : (tables.get? name).any (·.kind == .reference) = true
      · refine ⟨"Option<Box<" ++ spelled ++ ">>", ?_⟩
        exact if_pos isReference
      · refine ⟨spelled, ?_⟩
        exact if_neg isReference
  | primitive _ | array _ | enumeration _ | external _ => exact ⟨spelled, rfl⟩

/-- Fields whose types refer to tables of a schema. -/
def Typed (tables : TableSet) (fields : List Field) : Prop :=
  ∀ field ∈ fields, ∃ type, field.type = some type ∧ RefersTo tables type

theorem resolvedType_eq_ok {field : Field} {type : TypeRef} (found : field.type = some type) :
    field.resolvedType = .ok type := by
  unfold Field.resolvedType
  rw [found]

theorem failsOnly_describeMembers
    {tables : TableSet} (named : Named code tables.tables names)
    (distinct : (tables.tables.map fun table => lowercase table.name).Nodup)
    (table : Table) (seen : List String) {fields : List Field} (typed : Typed tables fields) :
    Outcome.FailsOnly SparesTypes (describeMembers tables names table seen fields) := by
  induction fields generalizing seen with
  | nil => exact Outcome.failsOnly_ok []
  | cons field rest inductionHypothesis =>
      obtain ⟨type, found, refers⟩ := typed field List.mem_cons_self
      obtain ⟨spelled, spelt⟩ := spell_eq_ok named distinct refers
      have others := inductionHypothesis (Naming.snakeCase field.name :: seen)
        fun other member => typed other (List.mem_cons_of_mem field member)
      unfold describeMembers
      dsimp only
      split
      · exact Outcome.failsOnly_error trivial
      · rw [resolvedType_eq_ok found]
        refine (Outcome.failsOnly_ok type).bind fun _ same => ?_
        cases same
        rw [spelt]
        refine (Outcome.failsOnly_ok spelled).bind fun _ _ => ?_
        exact others.bind fun _ _ => Outcome.failsOnly_ok _

theorem failsOnly_indexOf
    {tables : TableSet} {table : Table} (typed : Typed tables table.fields)
    (members : List MemberDeclaration) :
    Outcome.FailsOnly SparesTypes (indexOf table members) := by
  unfold indexOf
  split
  · exact Outcome.failsOnly_ok _
  · next key found =>
      have inFields : key ∈ table.fields := List.mem_of_find?_eq_some found
      obtain ⟨type, hasType, _⟩ := typed key inFields
      rw [resolvedType_eq_ok hasType]
      refine (Outcome.failsOnly_ok type).bind fun _ _ => ?_
      split
      · exact Outcome.failsOnly_ok _
      · exact Outcome.failsOnly_ok _

/-! ## Variants -/

theorem failsOnly_addVariant
    (table : Table) (columns : VariantColumns) (variants : List Manifest.Variant) (row : RawRow) :
    Outcome.FailsOnly SparesTypes (addVariant table columns variants row) := by
  have value : Outcome.FailsOnly SparesTypes (variantValue table row columns.value) := by
    unfold variantValue
    dsimp only
    split
    · exact Outcome.failsOnly_ok _
    · split
      · exact Outcome.failsOnly_ok _
      · exact Outcome.failsOnly_error trivial
  unfold addVariant
  dsimp only
  split
  · exact Outcome.failsOnly_ok _
  · split
    · exact Outcome.failsOnly_error trivial
    · exact value.bind fun _ _ => Outcome.failsOnly_ok _

theorem failsOnly_variantsOf (source : Source) (table : Table) :
    Outcome.FailsOnly SparesTypes (variantsOf source table) := by
  have columnsFound : Outcome.FailsOnly SparesTypes (variantColumns table) := by
    unfold variantColumns
    split
    · exact Outcome.failsOnly_ok _
    · exact Outcome.failsOnly_error trivial
  have rowsFound : Outcome.FailsOnly SparesTypes (source.rows table.name) := by
    unfold Source.rows
    split
    · exact Outcome.failsOnly_error trivial
    · exact Outcome.failsOnly_ok _
  unfold variantsOf
  refine columnsFound.bind fun columns _ => rowsFound.bind fun rows _ => ?_
  have walked : Outcome.FailsOnly SparesTypes (rows.foldlM (addVariant table columns) []) :=
    Outcome.failsOnly_foldlM (fun row _ variants => failsOnly_addVariant table columns variants row)
      []
  refine walked.bind fun variants _ => ?_
  split
  · exact Outcome.failsOnly_error trivial
  · exact Outcome.failsOnly_ok _

/-! ## Plans -/

theorem failsOnly_planTable
    (named : Named code source.tables.tables names)
    (distinct : (source.tables.tables.map fun table => lowercase table.name).Nodup)
    (isFirst : Bool) {table : Table} (typed : Typed source.tables table.fields) :
    Outcome.FailsOnly SparesTypes (planTable source code names isFirst table) := by
  have members := failsOnly_describeMembers named distinct table [] typed
  unfold planTable
  dsimp only
  split
  · exact (failsOnly_variantsOf source table).bind fun _ _ => Outcome.failsOnly_ok _
  · refine members.bind fun described _ => ?_
    split
    · exact (failsOnly_indexOf typed _).bind fun _ _ => Outcome.failsOnly_ok _
    · exact (Outcome.failsOnly_ok _).bind fun _ _ => Outcome.failsOnly_ok _

theorem failsOnly_planTables
    (named : Named code source.tables.tables names)
    (distinct : (source.tables.tables.map fun table => lowercase table.name).Nodup)
    (isFirst : Bool) {tables : List Table}
    (typed : ∀ table ∈ tables, Typed source.tables table.fields) :
    Outcome.FailsOnly SparesTypes (planTables source code names isFirst tables) := by
  induction tables generalizing isFirst with
  | nil => exact Outcome.failsOnly_ok []
  | cons table rest inductionHypothesis =>
      have first := failsOnly_planTable named distinct isFirst (typed table List.mem_cons_self)
      have others := inductionHypothesis false fun other member =>
        typed other (List.mem_cons_of_mem table member)
      unfold planTables
      exact first.bind fun _ _ => others.bind fun _ _ => Outcome.failsOnly_ok _

theorem failsOnly_ofSource
    {input : Input} (wellFormed : WellFormed input source.tables) (code : Code) :
    Outcome.FailsOnly SparesTypes (Plan.ofSource source code) := by
  unfold Plan.ofSource
  refine (failsOnly_nameTypes code source.tables).bind fun names namesRan => ?_
  have named : Named code source.tables.tables names := named_nameTypes wellFormed.names namesRan
  have planned := failsOnly_planTables named wellFormed.names true wellFormed.types
  exact planned.bind fun _ _ => Outcome.failsOnly_ok _

/-- An opening that succeeds gives a well-formed schema, whatever was opened and closed before, and
planning over it never misses a type. -/
theorem wellFormed_of_openWith
    {settings : Settings} {run : Naming.Scope} {provider : SheetProvider} {last : Source}
    (reached : Source.Reached settings run source)
    (opened : source.openWith settings run provider = (last, .ok ())) :
    WellFormed settings.input last.tables ∧
      ∀ code,
        (∀ field declared, Plan.ofSource last code ≠ .error (.unresolvedType field declared)) ∧
          ∀ table, Plan.ofSource last code ≠ .error (.unknownTableType table) := by
  have again : Source.Reached settings run last := by
    have next := Source.Reached.opened provider reached
    rwa [opened] at next
  have wellFormed : WellFormed settings.input last.tables :=
    Source.wellFormed_of_reached again (Source.isOpen_of_openWith opened)
  refine ⟨wellFormed, fun code => ⟨?_, ?_⟩⟩
  · intro field declared failed
    exact failsOnly_ofSource wellFormed code _ failed
  · intro table failed
    exact failsOnly_ofSource wellFormed code _ failed

/-- A sheet of the table that the sheets of `Source.monsterSheets` miss. -/
def missingSheet : SheetProvider := .ofList [
  ("Monster", .ofTexts [[], ["Id", "Prey"], ["int", "Hero[]"], ["key default(7)"], [], ["1"]])]

/-- A source whose first opening failed is opened again, with the missing table alone. -/
theorem wellFormed_of_openWith_after_failure :
    let left := (({} : Source).openWith {} .empty Source.monsterSheets).1
    let last := (left.openWith {} .empty missingSheet).1
    last.tables.tables.map (·.name) = ["Item", "Hero", "Monster"] ∧
      left.openWith {} .empty missingSheet = (last, .ok ()) ∧
      WellFormed ({} : Settings).input last.tables ∧
      ∀ code,
        (∀ field declared, Plan.ofSource last code ≠ .error (.unresolvedType field declared)) ∧
          ∀ table, Plan.ofSource last code ≠ .error (.unknownTableType table) := by
  have reached : Source.Reached {} .empty
      (({} : Source).openWith {} .empty Source.monsterSheets).1 :=
    Source.Reached.opened Source.monsterSheets Source.Reached.new
  have opened : (({} : Source).openWith {} .empty Source.monsterSheets).1.openWith {} .empty
      missingSheet = ((({} : Source).openWith {} .empty Source.monsterSheets).1.openWith {} .empty
        missingSheet |>.1, .ok ()) := by
    refine Prod.ext ?_ ?_
    · rfl
    · decide +kernel
  exact ⟨by decide +kernel, opened, wellFormed_of_openWith reached opened⟩

end TypedTables.Generate
