import TypedTables.Proofs.Convert.Fitting
import TypedTables.Records

/-!
# Loaded records

Every row of a table becomes a record with exactly the members of the table's type, each with a
value of the type that the generated code has for the member.
-/

namespace TypedTables

open TypedTables.Schema TypedTables.Manifest TypedTables.Binding TypedTables.Convert
open TypedTables.Discover TypedTables.Generate
open TypedTables.Config (Code Settings)

/-- Every cell of a sheet is a raw cell. -/
def ScalarCells (sheet : Sheet) : Prop :=
  ∀ row ∈ sheet.rows, ∀ cell ∈ row, IsScalar cell

variable {source : Source} {code : Code} {names : TypeNames} {lookup : Lookup}

/-! ## Rows -/

theorem isScalar_cell {sheet : Sheet} (cells : ScalarCells sheet) (row column : Nat) :
    IsScalar (sheet.cell row column) := by
  unfold Sheet.cell
  split
  · next row column =>
      cases found : (sheet.rows[row]?).bind (·[column]?) with
      | none => trivial
      | some cell =>
          obtain ⟨cellsOfRow, atRow, atColumn⟩ := Option.bind_eq_some_iff.mp found
          exact cells cellsOfRow (List.mem_of_getElem? atRow) cell (List.mem_of_getElem? atColumn)
  · trivial

theorem isScalar_rowCell
    (scalar : ∀ entry ∈ source.loaded, ScalarCells entry.sheet) {name : String}
    {rows : List RawRow} (read : source.rows name = .ok rows) {row : RawRow} (member : row ∈ rows)
    (position : Nat) : IsScalar (row.cell position) := by
  unfold Source.rows at read
  split at read
  · cases read
  · next entry found =>
      rw [Except.ok.injEq] at read
      rw [← read] at member
      have cells : ScalarCells entry.sheet := scalar entry (List.mem_of_find?_eq_some found)
      obtain ⟨number, _, same⟩ := List.mem_map.mp ((List.takeWhile_sublist _).subset member)
      unfold RawRow.cell
      rw [← same]
      let columns := entry.table.fields.map (·.column)
      cases here : (columns.map (entry.sheet.cell number))[position]? with
      | none => trivial
      | some cell =>
          obtain ⟨column, _, sameCell⟩ := List.mem_map.mp (List.mem_of_getElem? here)
          rw [Option.getD_some, ← sameCell]
          exact isScalar_cell cells number column

/-! ## Members -/

theorem run_reporting
    (change : Failure → Failure) (conversion : Conversion Value) (cache : MemberCache) :
    (reporting change conversion).run.run cache =
      match conversion.run.run cache with
      | (.ok value, later) => (.ok value, later)
      | (.error failure, later) => (.error (change failure), later) := by
  unfold reporting ExceptT.tryCatch
  rw [ExceptT.run_mk, StateT.run_bind]
  rcases shape : conversion.run.run cache with ⟨outcome, later⟩
  have bare : StateT.run conversion cache = (outcome, later) := shape
  rw [bare]
  cases outcome <;> rfl

/-- Giving failures their place keeps what a conversion ensures. -/
theorem reporting_ensures
    {change : Failure → Failure} {conversion : Conversion Value} {post : Value → Prop}
    (holds : Ensures lookup conversion post) :
    Ensures lookup (reporting change conversion) post := by
  intro cache sound
  obtain ⟨given, laterSound⟩ := holds cache sound
  rw [run_reporting]
  rcases shape : conversion.run.run cache with ⟨outcome, later⟩
  rw [shape] at given laterSound
  cases outcome with
  | ok value => exact ⟨given, laterSound⟩
  | error failure =>
      refine ⟨?_, laterSound⟩
      intro value impossible
      cases impossible

/-- The cell of a member's column is converted into a value of the member's type. -/
theorem convertMember_fits
    (prepared : Prepared source code names lookup) {table : Table}
    (defaults : ScalarDefaults table.fields) {row : RawRow}
    (scalar : ∀ position, IsScalar (row.cell position)) {member : BoundMember}
    (refers : RefersTo lookup.tables member.type) :
    Ensures lookup (convertMember lookup table row member)
      (lookup.Fits names .member member.type) := by
  have freshFits : FreshFits lookup names lookup.fresh :=
    instantiate_fits prepared instanceLimit
  have zero : Ensures lookup (lookup.zero member.type) (lookup.Fits names .member member.type) :=
    zeroOf_fits prepared freshFits refers (Or.inl rfl)
  unfold convertMember
  split
  · exact zero
  · next position _ =>
      split
      · exact zero
      · next column atPosition =>
          have inFields : column ∈ table.fields := List.mem_of_getElem? atPosition
          exact reporting_ensures (changeTypeOrDefault_fits prepared freshFits refers
            (defaults column inFields) (scalar position))

theorem convertMembers_eq
    (table : Table) (row : RawRow) (members : Members) (entries : List (String × Value)) :
    convertMembers lookup table row members entries =
      collectMembers (convertMember lookup table row) members entries := by
  induction members generalizing entries with
  | nil => rfl
  | cons entry rest inductionHypothesis =>
      unfold convertMembers collectMembers
      exact congrArg _ (funext fun value => inductionHypothesis _)

/-! ## Records -/

/-- A row becomes a record of the type once its cells are converted into fitting values. -/
theorem convertRow_fits
    {table : Table} {descriptor : Descriptor} {row : RawRow}
    (declared : declaredMembers descriptor =
      descriptor.members.map fun member => (member.bindingName, Binding.bind member))
    (distinct : (descriptor.members.map (·.bindingName)).Nodup)
    (each : ∀ entry ∈ declaredMembers descriptor,
      Ensures lookup (convertMember lookup table row entry.2)
        (lookup.Fits names .member entry.2.type)) :
    Ensures lookup (convertRow lookup table descriptor (declaredMembers descriptor) row)
      (FitsRecord lookup names descriptor) := by
  unfold convertRow
  rw [convertMembers_eq]
  apply Ensures.bind (collectMembers_ensures (fun member => lookup.Fits names .member member.type)
    each (by rw [names_of_declared declared]; exact distinct))
  rintro entries ⟨added, shape, keys, fits⟩
  rw [List.nil_append] at shape
  rw [shape]
  exact Ensures.pure (fitsRecord_of_entries declared distinct ⟨keys, fits⟩)

/-- The records of a table are its rows, each converted into what the conversion of a row ensures. -/
theorem loadRecords_of_rows
    (prepared : Prepared source code names lookup) {table : Table} {descriptor : Descriptor}
    (bound : lookup.catalog.descriptor? table.name = some descriptor)
    {post : RawRow → Value → Prop}
    (each : ∀ rows, source.rows table.name = .ok rows → ∀ row ∈ rows,
      Ensures lookup (convertRow lookup table descriptor (declaredMembers descriptor) row)
        (post row)) :
    Ensures lookup (loadRecords lookup source table) fun records =>
      ∃ rows, source.rows table.name = .ok rows ∧ List.Forall₂ post rows records := by
  have typeMember := Catalog.mem_types_of_descriptor? bound
  unfold loadRecords
  rw [bound]
  dsimp only
  apply Ensures.bind ((membersFor_returns prepared.distinctTypes typeMember).ensures rfl)
  rintro members rfl
  rw [prepared.membersOf_eq]
  refine Ensures.bind (Ensures.lift fun rows read => read) ?_
  intro rows read
  have related := Ensures.mapM_forall₂ (each rows read)
  exact related.weaken fun records all => ⟨rows, read, all⟩

theorem loadRecords_ensures
    (prepared : Prepared source code names lookup)
    (scalar : ∀ entry ∈ source.loaded, ScalarCells entry.sheet) {table : Table}
    (member : table ∈ source.tables.tables) {descriptor : Descriptor}
    (bound : lookup.catalog.descriptor? table.name = some descriptor) :
    Ensures lookup (loadRecords lookup source table) fun records =>
      ∀ record ∈ records, FitsRecord lookup names descriptor record := by
  rw [← prepared.tables] at member
  have declared := prepared.declared member bound
  have each : ∀ rows, source.rows table.name = .ok rows → ∀ row ∈ rows,
      Ensures lookup (convertRow lookup table descriptor (declaredMembers descriptor) row)
        (FitsRecord lookup names descriptor) := by
    intro rows read row inRows
    apply convertRow_fits declared.members declared.distinct
    intro entry present
    exact convertMember_fits prepared (prepared.defaults member)
      (isScalar_rowCell scalar read inRows) (declared.refersTo entry present)
  refine (loadRecords_of_rows prepared bound each).weaken ?_
  rintro records ⟨_, _, related⟩ record present
  obtain ⟨_, _, fits⟩ := (Outcome.exists_of_forall₂ related).2 record present
  exact fits

/-- Where the records of a table can be loaded, each is a record of the table's type with exactly
its members in order, and the value of every member is one of the type that the generated code has
for the member. -/
theorem loadRecords_fits
    {settings : Settings} {run : Naming.Scope} {provider : SheetProvider} {plan : Plan}
    {catalog : Catalog}
    (opened : Source.ofProvider settings run provider = .ok source)
    (planned : Plan.ofSource source code = .ok plan)
    (bound : Catalog.ofTables source.tables plan.model code = .ok catalog)
    (named : nameTypes code source.tables = .ok names)
    (scalar : ∀ entry ∈ source.loaded, ScalarCells entry.sheet) (separators : Separators)
    {table : Table} (member : table ∈ source.tables.tables)
    {cache later : MemberCache} (sound : SoundCache (.ofSource source catalog separators) cache)
    {records : List Value}
    (loaded : (loadRecords (.ofSource source catalog separators) source table).run.run cache =
      (.ok records, later)) :
    ∃ descriptor, catalog.descriptor? table.name = some descriptor ∧
      ∀ record ∈ records,
        FitsRecord (.ofSource source catalog separators) names descriptor record := by
  obtain ⟨other, otherNamed, prepared⟩ := prepared_of_plan opened planned bound separators
  rw [named, Except.ok.injEq] at otherNamed
  subst otherNamed
  obtain ⟨descriptor, found, _⟩ := prepared.agreement.bound table member
  refine ⟨descriptor, found, ?_⟩
  exact (loadRecords_ensures prepared scalar member found).of_run sound loaded

theorem scalarCells_ofTexts (rows : List (List String)) : ScalarCells (.ofTexts rows) := by
  intro row inSheet cell inRow
  obtain ⟨texts, _, rfl⟩ := List.mem_map.mp inSheet
  obtain ⟨text, _, rfl⟩ := List.mem_map.mp inRow
  exact isScalar_ofText text

theorem loadRecords_fits_pairs :
    ∃ records, ((loadRecords (.ofSource pairSource pairCatalog ⟨[], []⟩) pairSource
        pairTable).run.run []).1 = .ok records ∧
      records.map Value.toText = ["Pair \x7b A: 7, B: x \x7d"] ∧
        ∃ descriptor, pairCatalog.descriptor? "Pair" = some descriptor ∧
          ∀ record ∈ records,
            FitsRecord (.ofSource pairSource pairCatalog ⟨[], []⟩) [("pair", "Pair")] descriptor
              record := by
  have named : nameTypes {} pairSource.tables = .ok [("pair", "Pair")] :=
    Outcome.eq_ok_of_toOption (by decide +kernel)
  have scalar : ∀ entry ∈ pairSource.loaded, ScalarCells entry.sheet := by
    intro entry present
    rw [List.mem_singleton.mp present]
    exact scalarCells_ofTexts _
  have shown :
      (((loadRecords (.ofSource pairSource pairCatalog ⟨[], []⟩) pairSource
        pairTable).run.run []).1.toOption.map (·.map Value.toText)) =
          some ["Pair \x7b A: 7, B: x \x7d"] := by
    decide +kernel
  obtain ⟨records, given, texts⟩ := Option.map_eq_some_iff.mp shown
  have loaded := Outcome.eq_ok_of_toOption given
  refine ⟨records, loaded, texts, ?_⟩
  exact loadRecords_fits opened_pairSource planned_pairSource bound_pairSource named scalar
    ⟨[], []⟩ (List.mem_singleton.mpr rfl) soundCache_nil (Prod.ext loaded rfl)

end TypedTables
