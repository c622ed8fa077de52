import TypedTables.Proofs.Loading

/-!
# Cells that cannot be converted

Rows are converted one after the other, and in a row the members in their order, up to the first
cell that fails.  A cell of a column that cannot be coerced is reported with its place.  A member
without a column has no place: what its zero fails with is reported as it is.
-/

namespace TypedTables

open TypedTables.Schema TypedTables.Manifest TypedTables.Binding TypedTables.Convert
open TypedTables.Discover

variable {lookup : Lookup} {source : Source} {table : Table} {row : RawRow} {member : BoundMember}
  {cache : MemberCache} {failure : Failure}

/-! ## The order of cells -/

/-- The cells of rows in the order in which they are converted. -/
def cellsOf (rows : List RawRow) (members : Members) : List (RawRow × BoundMember) :=
  rows.flatMap fun row => members.map fun entry => (row, entry.2)

def convertCellOf (lookup : Lookup) (table : Table) (cell : RawRow × BoundMember) :
    Conversion Value :=
  convertMember lookup table cell.1 cell.2

/-- A conversion without the value that it gives. -/
def ended {α : Type} (conversion : Conversion α) : Conversion Unit :=
  (fun _ => ()) <$> conversion

theorem run_ended {α : Type} (conversion : Conversion α) (cache : MemberCache) :
    ((ended conversion).run.run cache).1 = .error failure ↔
      (conversion.run.run cache).1 = .error failure := by
  rw [ended, map_eq_pure_bind, Outcome.run_bind]
  rcases conversion.run.run cache with ⟨outcome, later⟩
  cases outcome with
  | ok value => simp
  | error other => simp

/-- What ends in the same way after every value ends so after the conversion. -/
theorem ended_bind
    {α β : Type} {conversion : Conversion α} {next : α → Conversion β} {rest : Conversion Unit}
    (same : ∀ value, ended (next value) = rest) :
    ended (conversion >>= next) = ended conversion >>= fun _ => rest := by
  simp only [ended, map_bind, bind_map_left] at same ⊢
  simp only [same]

theorem ended_convertMembers (members : Members) (entries : List (String × Value)) :
    ended (convertMembers lookup table row members entries) =
      ended ((members.map fun entry => (row, entry.2)).mapM (convertCellOf lookup table)) := by
  induction members generalizing entries with
  | nil => simp [convertMembers, ended]
  | cons entry rest inductionHypothesis =>
      rw [List.map_cons, List.mapM_cons, convertMembers]
      rw [ended_bind fun _ => inductionHypothesis _]
      refine (ended_bind fun _ => ?_).symm
      simp [ended]

theorem ended_convertRows (descriptor : Descriptor) (members : Members) (rows : List RawRow) :
    ended (rows.mapM (convertRow lookup table descriptor members)) =
      ended ((cellsOf rows members).mapM (convertCellOf lookup table)) := by
  induction rows with
  | nil => simp [cellsOf, ended]
  | cons row rest inductionHypothesis =>
      have rowEnded : ended (convertRow lookup table descriptor members row) =
          ended ((members.map fun entry => (row, entry.2)).mapM (convertCellOf lookup table)) := by
        rw [← ended_convertMembers members []]
        simp [ended, convertRow]
      calc ended ((row :: rest).mapM (convertRow lookup table descriptor members))
          = ended (convertRow lookup table descriptor members row) >>= fun _ =>
              ended (rest.mapM (convertRow lookup table descriptor members)) := by
            rw [List.mapM_cons]
            exact ended_bind fun _ => by simp [ended]
        _ = ended ((members.map fun entry => (row, entry.2)).mapM (convertCellOf lookup table))
              >>= fun _ => ended ((cellsOf rest members).mapM (convertCellOf lookup table)) := by
            rw [rowEnded, inductionHypothesis]
        _ = ended ((cellsOf (row :: rest) members).mapM (convertCellOf lookup table)) := by
            have cells : cellsOf (row :: rest) members =
                members.map (fun entry => (row, entry.2)) ++ cellsOf rest members := rfl
            rw [cells, List.mapM_append]
            exact (ended_bind fun _ => by simp [ended]).symm

/-! ## Failures that arise -/

/-- A conversion that fails only as conversions begin to fail, and any other. -/
def FailsAsArisen (lookup : Lookup) ⦃α : Type⦄ (conversion _ : Conversion α) : Prop :=
  ∀ cache failure, (conversion.run.run cache).1 = .error failure → Arises lookup failure

theorem compositional_failsAsArisen : Compositional lookup (FailsAsArisen lookup) where
  lift outcome arises cache failure failed := by
    rw [run_lift] at failed
    exact arises failure failed
  collected _ cache failure failed := by cases failed
  bind first rest cache failure failed := by
    rcases Outcome.run_bind_eq_error_iff.mp failed with failed | ⟨value, later, _, failed⟩
    · exact first cache failure failed
    · exact rest value later failure failed

theorem arises_convertCell
    {field : Field} {type : TypeRef} {value : Value}
    (failed : ((lookup.convertCell field type {} value).run.run cache).1 = .error failure) :
    Arises lookup failure :=
  compositional_failsAsArisen.changeTypeOrDefault
    (fun table => compositional_failsAsArisen.instantiate instanceLimit table) type {} value
    cache failure failed

theorem arises_zero
    {type : TypeRef} (failed : ((lookup.zero type).run.run cache).1 = .error failure) :
    Arises lookup failure :=
  compositional_failsAsArisen.zeroOf
    (fun table => compositional_failsAsArisen.instantiate instanceLimit table) type
    cache failure failed

/-- No converter of the chain reports the place of a cell itself. -/
def Convert.Chain.PlacesNothing (chain : Chain) : Prop :=
  ∀ ranked ∈ chain.converters, ∀ run, ranked.converter = .custom run →
    ∀ value target failure, run value target = .error failure → failure.kind ≠ .conversion

theorem placesNothing_standard : Chain.standard.PlacesNothing := by
  intro ranked chained run isCustom
  rw [standard_converters] at chained
  simp only [List.mem_cons, List.not_mem_nil, or_false] at chained
  rcases chained with rfl | rfl <;> cases isCustom

theorem Convert.Arises.kind_ne
    (arises : Arises lookup failure) (unplaced : lookup.chain.PlacesNothing) :
    failure.kind ≠ .conversion := by
  rcases arises with own | ⟨ranked, chained, run, value, target, isCustom, failed⟩
  · intro placed
    simp [placed] at own
  · exact unplaced ranked chained run isCustom value target failure failed

/-! ## Reports -/

/-- The column that a member is read from: the first one of its name. -/
structure ReadFrom (table : Table) (member : BoundMember) (position : Nat) (column : Field) :
    Prop where
  atPosition : table.fields[position]? = some column
  name : column.name = member.name
  first : ∀ earlier ∈ table.fields.take position, earlier.name ≠ member.name

/-- No column has the member's name. -/
def HasNoColumn (table : Table) (member : BoundMember) : Prop :=
  ∀ column ∈ table.fields, column.name ≠ member.name

theorem fieldPosition?_eq_none_iff :
    fieldPosition? table member = none ↔ HasNoColumn table member := by
  simp [fieldPosition?, HasNoColumn]

theorem fieldPosition?_eq_some_iff {position : Nat} :
    fieldPosition? table member = some position ↔
      ∃ column, ReadFrom table member position column := by
  rw [fieldPosition?, List.findIdx?_eq_some_iff_getElem]
  simp only [beq_iff_eq]
  constructor
  · intro ⟨inside, name, first⟩
    refine ⟨table.fields[position], List.getElem?_eq_getElem inside, name, ?_⟩
    intro earlier member
    obtain ⟨place, before, same⟩ := List.mem_take_iff_getElem.mp member
    rw [← same]
    exact first place (by omega)
  · intro ⟨column, read⟩
    obtain ⟨inside, same⟩ := List.getElem?_eq_some_iff.mp read.atPosition
    refine ⟨inside, by rw [same]; exact read.name, ?_⟩
    intro place before
    exact read.first _ (List.mem_take_iff_getElem.mpr ⟨place, by omega, rfl⟩)

theorem run_reporting_eq_error_iff {change : Failure → Failure} {conversion : Conversion Value} :
    ((reporting change conversion).run.run cache).1 = .error failure ↔
      ∃ cause, (conversion.run.run cache).1 = .error cause ∧ failure = change cause := by
  rw [run_reporting]
  rcases conversion.run.run cache with ⟨outcome, later⟩
  cases outcome with
  | ok value => simp
  | error cause => simp [eq_comm]

/-- A cell fails as its column's conversion does, with its place in the report, or without a column
as the zero does. -/
theorem convertMember_eq_error_iff :
    ((convertMember lookup table row member).run.run cache).1 = .error failure ↔
      (∃ position column cause, ReadFrom table member position column ∧
        ((lookup.convertCell column member.type {} (row.cell position)).run.run cache).1 =
          .error cause ∧
        failure = CellContext.report
          ⟨table.name, row.index, column, row.cell position, member.type⟩ cause) ∨
      HasNoColumn table member ∧
        ((lookup.zero member.type).run.run cache).1 = .error failure := by
  rw [convertMember]
  cases found : fieldPosition? table member with
  | none =>
      have noColumn := fieldPosition?_eq_none_iff.mp found
      constructor
      · intro failed
        exact Or.inr ⟨noColumn, failed⟩
      · rintro (⟨position, column, cause, read, _⟩ | ⟨_, failed⟩)
        · rw [fieldPosition?_eq_some_iff.mpr ⟨column, read⟩] at found
          cases found
        · exact failed
  | some position =>
      obtain ⟨column, read⟩ := fieldPosition?_eq_some_iff.mp found
      simp only [read.atPosition, run_reporting_eq_error_iff]
      constructor
      · intro ⟨cause, failed, same⟩
        exact Or.inl ⟨position, column, cause, read, failed, same⟩
      · rintro (⟨other, otherColumn, cause, otherRead, failed, same⟩ | ⟨noColumn, _⟩)
        · rw [fieldPosition?_eq_some_iff.mpr ⟨otherColumn, otherRead⟩, Option.some.injEq] at found
          subst found
          have sameColumn := otherRead.atPosition.symm.trans read.atPosition
          rw [Option.some.injEq] at sameColumn
          subst sameColumn
          exact ⟨cause, failed, same⟩
        · rw [fieldPosition?_eq_none_iff.mpr noColumn] at found
          cases found

/-! ## The first failing cell -/

/-- The conversion of a table's rows comes to the cell of a member in a row: every cell in front of
it is converted. -/
def ComesTo (lookup : Lookup) (source : Source) (table : Table) (cache : MemberCache)
    (row : RawRow) (member : BoundMember) (between : MemberCache) : Prop :=
  ∃ descriptor rows members collected before after values,
    lookup.catalog.descriptor? table.name = some descriptor ∧
    source.rows table.name = .ok rows ∧
    (membersFor lookup descriptor).run.run cache = (.ok members, collected) ∧
    cellsOf rows members = before ++ (row, member) :: after ∧
    (before.mapM (convertCellOf lookup table)).run.run collected = (.ok values, between)

theorem run_membersFor_ne_error (descriptor : Descriptor) :
    ((membersFor lookup descriptor).run.run cache).1 ≠ .error failure := by
  intro impossible
  cases impossible

theorem run_convertRows_eq_error_iff
    {descriptor : Descriptor} {members : Members} {rows : List RawRow} :
    ((rows.mapM (convertRow lookup table descriptor members)).run.run cache).1 = .error failure ↔
      ∃ before row member after values between,
        cellsOf rows members = before ++ (row, member) :: after ∧
        (before.mapM (convertCellOf lookup table)).run.run cache = (.ok values, between) ∧
        ((convertMember lookup table row member).run.run between).1 = .error failure := by
  rw [← run_ended, ended_convertRows, run_ended, Outcome.run_mapM_eq_error_iff]
  simp only [Prod.exists, convertCellOf]

theorem kind_of_rows {name : String} (failed : source.rows name = .error failure) :
    failure.kind = .discovery := by
  rw [Source.rows] at failed
  split at failed
  · cases failed
    rfl
  · cases failed

/-- Loading fails for a cell where it comes to one that cannot be converted. -/
theorem loadRecords_eq_error_iff
    (cellFailure : failure.kind = .conversion ∨ failure.kind = .coercion) :
    ((loadRecords lookup source table).run.run cache).1 = .error failure ↔
      ∃ row member between, ComesTo lookup source table cache row member between ∧
        ((convertMember lookup table row member).run.run between).1 = .error failure := by
  rw [loadRecords]
  cases bound : lookup.catalog.descriptor? table.name with
  | none =>
      constructor
      · intro failed
        cases failed
        simp [Failure.kind] at cellFailure
      · rintro ⟨_, _, _, ⟨descriptor, _, _, _, _, _, _, found, _⟩, _⟩
        rw [bound] at found
        cases found
  | some descriptor =>
      simp only [Outcome.run_bind_eq_error_iff, run_membersFor_ne_error, false_or, run_lift,
        run_convertRows_eq_error_iff]
      constructor
      · rintro ⟨members, collected, gathered, failed | ⟨rows, later, given, before, row, member,
          after, values, between, cells, ran, failed⟩⟩
        · have kind := kind_of_rows failed
          simp [kind] at cellFailure
        · obtain ⟨read, rfl⟩ := Prod.mk.inj given
          exact ⟨row, member, between, ⟨descriptor, rows, members, collected, before, after, values,
            bound, read, gathered, cells, ran⟩, failed⟩
      · rintro ⟨row, member, between, ⟨other, rows, members, collected, before, after, values, found,
          read, gathered, cells, ran⟩, failed⟩
        rw [bound, Option.some.injEq] at found
        subst found
        exact ⟨members, collected, gathered, Or.inr ⟨rows, collected, by rw [read], before, row,
          member, after, values, between, cells, ran, failed⟩⟩

/-- A failure that reports a place is that of the first cell that cannot be coerced, and has the
row, the column and the text of this cell.  A coercion that fails without a place is that of the
zero of a member without a column, where the conversion comes to it. -/
theorem failed_cells_placed
    (unplaced : lookup.chain.PlacesNothing) (source : Source) (table : Table) (cache : MemberCache)
    (failure : Failure) :
    (failure.kind = .conversion →
      (((loadRecords lookup source table).run.run cache).1 = .error failure ↔
        ∃ row member between position column cause,
          ComesTo lookup source table cache row member between ∧
          ReadFrom table member position column ∧
          ((lookup.convertCell column member.type {} (row.cell position)).run.run between).1 =
            .error cause ∧
          cause.kind = .coercion ∧
          failure = .conversion ⟨table.name, row.index, column.name, column.column⟩
            (row.cell position).toText member.type.display cause.message)) ∧
    (failure.kind = .coercion →
      (((loadRecords lookup source table).run.run cache).1 = .error failure ↔
        ∃ row member between, ComesTo lookup source table cache row member between ∧
          HasNoColumn table member ∧
          ((lookup.zero member.type).run.run between).1 = .error failure)) := by
  constructor
  · intro placed
    rw [loadRecords_eq_error_iff (Or.inl placed)]
    constructor
    · intro ⟨row, member, between, comes, failed⟩
      rcases convertMember_eq_error_iff.mp failed with
        ⟨position, column, cause, read, causeFailed, same⟩ | ⟨_, zeroFailed⟩
      · have arises : Arises lookup cause := arises_convertCell causeFailed
        by_cases coercion : cause.kind = .coercion
        · rw [CellContext.report, if_pos coercion] at same
          exact ⟨row, member, between, position, column, cause, comes, read, causeFailed, coercion,
            same⟩
        · rw [CellContext.report, if_neg coercion] at same
          exact absurd placed (same ▸ arises.kind_ne unplaced)
      · exact absurd placed ((arises_zero zeroFailed).kind_ne unplaced)
    · intro ⟨row, member, between, position, column, cause, comes, read, failed, coercion, same⟩
      refine ⟨row, member, between, comes, convertMember_eq_error_iff.mpr (Or.inl ?_)⟩
      refine ⟨position, column, cause, read, failed, ?_⟩
      rw [CellContext.report, if_pos coercion]
      exact same
  · intro bare
    rw [loadRecords_eq_error_iff (Or.inr bare)]
    constructor
    · intro ⟨row, member, between, comes, failed⟩
      rcases convertMember_eq_error_iff.mp failed with
        ⟨position, column, cause, _, _, same⟩ | ⟨noColumn, zeroFailed⟩
      · by_cases coercion : cause.kind = .coercion
        · rw [CellContext.report, if_pos coercion] at same
          rw [same] at bare
          cases bare
        · rw [CellContext.report, if_neg coercion] at same
          exact absurd (same ▸ bare) coercion
      · exact ⟨row, member, between, comes, noColumn, zeroFailed⟩
    · intro ⟨row, member, between, comes, noColumn, failed⟩
      exact ⟨row, member, between, comes,
        convertMember_eq_error_iff.mpr (Or.inr ⟨noColumn, failed⟩)⟩

/-! ## A member without a column -/

/-- The sheet of a table held in place whose column has a default that is no list of integers, and
one of another table. -/
def heroSheets (id : String) : SheetProvider := .ofList [
  ("Stats", .ofTexts [[], ["Tags"], ["int[]"], ["struct default(x)"], [], ["1"]]),
  ("Hero", .ofTexts [[], ["Id"], ["int"], [], [], [id]])]

/-- The types of the tables from when heroes had their stats in a column. -/
def olderModel : Model :=
  { moduleName := "tables"
    types := [
      { name := "Stats", table := "Stats", kind := .inPlace
        members := [
          { name := "tags", rename := some "Tags", type := .array (.primitive .int32) }] },
      { name := "Hero", table := "Hero", kind := .reference
        members := [
          { name := "id", rename := some "Id", type := .primitive .int32 },
          { name := "stats", rename := some "Stats", type := .table "Stats", index := 1 }] }] }

/-- The source of the sheets with the types from an older run, and how loading the heroes fails. -/
structure FailsWith (id : String) (source : Source) (catalog : Catalog) (table : Table)
    (failure : Failure) : Prop where
  opened : Source.ofProvider {} .empty (heroSheets id) = .ok source
  bound : Catalog.ofTables source.tables olderModel {} = .ok catalog
  found : source.tables.get? "Hero" = some table
  failed : ((loadRecords (.ofSource source catalog (.ofInput {})) source table).run.run []).1 =
    .error failure

theorem exists_failsWith {id : String} {failure : Failure}
    (shown : (Source.ofProvider {} .empty (heroSheets id)).toOption.bind (fun source =>
      (Catalog.ofTables source.tables olderModel {}).toOption.bind fun catalog =>
        (source.tables.get? "Hero").bind fun table => Outcome.failure?
          ((loadRecords (.ofSource source catalog (.ofInput {})) source table).run.run []).1) =
      some failure) :
    ∃ source catalog table, FailsWith id source catalog table failure := by
  obtain ⟨source, opened, shown⟩ := Option.bind_eq_some_iff.mp shown
  obtain ⟨catalog, bound, shown⟩ := Option.bind_eq_some_iff.mp shown
  obtain ⟨table, found, shown⟩ := Option.bind_eq_some_iff.mp shown
  exact ⟨source, catalog, table, Outcome.eq_ok_of_toOption opened, Outcome.eq_ok_of_toOption bound,
    found, Outcome.eq_error_of_failure? shown⟩

/-- The default of a column of the stats fails without a place, where heroes have no column for
them. -/
theorem bare_coercion_of_missing_column :
    ∃ source catalog table, FailsWith "1" source catalog table (.coercion "x" "int32") :=
  exists_failsWith (by decide +kernel)

theorem failed_cells_placed_heroes :
    (∃ source catalog table,
      FailsWith "1" source catalog table (.coercion "x" "int32") ∧
      ∃ row member between,
        ComesTo (.ofSource source catalog (.ofInput {})) source table [] row member between ∧
        HasNoColumn table member) ∧
    ∃ source catalog table,
      FailsWith "y" source catalog table
        (.conversion ⟨"Hero", 6, "Id", 1⟩ "y" "int32"
          "Type coercion failed: cannot convert 'y' to int32") ∧
      ∃ row member between position column,
        ComesTo (.ofSource source catalog (.ofInput {})) source table [] row member between ∧
        ReadFrom table member position column ∧ column.name = "Id" ∧ row.index = 6 ∧
        (row.cell position).toText = "y" := by
  constructor
  · obtain ⟨source, catalog, table, fails⟩ :
        ∃ source catalog table, FailsWith "1" source catalog table (.coercion "x" "int32") :=
      exists_failsWith (by decide +kernel)
    refine ⟨source, catalog, table, fails, ?_⟩
    obtain ⟨row, member, between, comes, noColumn, _⟩ :=
      ((failed_cells_placed placesNothing_standard source table [] _).2 rfl).mp fails.failed
    exact ⟨row, member, between, comes, noColumn⟩
  · obtain ⟨source, catalog, table, fails⟩ :
        ∃ source catalog table, FailsWith "y" source catalog table
          (.conversion ⟨"Hero", 6, "Id", 1⟩ "y" "int32"
            "Type coercion failed: cannot convert 'y' to int32") :=
      exists_failsWith (by decide +kernel)
    refine ⟨source, catalog, table, fails, ?_⟩
    obtain ⟨row, member, between, position, column, cause, comes, read, _, _, same⟩ :=
      ((failed_cells_placed placesNothing_standard source table [] _).1 rfl).mp fails.failed
    obtain ⟨place, text, _, _⟩ := Failure.conversion.inj same
    obtain ⟨_, index, name, _⟩ := CellPosition.mk.inj place
    exact ⟨row, member, between, position, column, comes, read, name.symm, index.symm, text.symm⟩

end TypedTables
