import Mathlib.Tactic.IntervalCases
import TypedTables.Generate.Plan
import TypedTables.Proofs.Discover.Grids
import TypedTables.Proofs.Discover.Reopening
import TypedTables.Records

/-!
# Cells that are not seen

A column that is no field of its table is seen only where it is the column of labels and where a
row has a part of its own.  Two runs over sheets that differ in other cells of such columns find
the same tables, read the same rows and load the same records, or fail in the same way.
-/

namespace TypedTables.Discover

open TypedTables.Schema TypedTables.Config TypedTables.Text

variable {settings : Settings} {run : Naming.Scope} {ref : SheetRef} {left right : Sheet}

/-! ## Sheets -/

/-- A cell that nothing depends on: its column is neither the one of labels nor a field of the
sheet's table, and its row has no part of its own. -/
structure Hidden (settings : Settings) (run : Naming.Scope) (ref : SheetRef) (sheet : Sheet)
    (row column : Nat) : Prop where
  label : column ≠ settings.input.labelColumn
  role : ∀ placed, placeRows settings.input sheet = .ok placed → row ∉ placed.map (·.2)
  field : ∀ table first, readHeader settings run ref sheet = .ok (some (table, first)) →
    column ∉ table.fields.map (·.column)

/-- Sheets of one shape that differ in hidden cells only. -/
structure Redrawn (settings : Settings) (run : Naming.Scope) (ref : SheetRef)
    (left right : Sheet) : Prop where
  shape : left.rows.map List.length = right.rows.map List.length
  hidden : ∀ row column, left.cell row column ≠ right.cell row column →
    Hidden settings run ref left row column

theorem rowCount_of_shape (shape : left.rows.map List.length = right.rows.map List.length) :
    left.rowCount = right.rowCount := by
  have lengths := congrArg List.length shape
  rwa [List.length_map, List.length_map] at lengths

theorem columnCount_of_shape (shape : left.rows.map List.length = right.rows.map List.length) :
    left.columnCount = right.columnCount := by
  have counted : ∀ sheet : Sheet, sheet.columnCount = (sheet.rows.map List.length).foldl max 0 := by
    intro sheet
    rw [List.foldl_map]
    rfl
  rw [counted left, counted right, shape]

namespace Redrawn

/-- It suffices to look at the cells of the grid. -/
theorem of_grid
    (shape : left.rows.map List.length = right.rows.map List.length)
    (hidden : ∀ row ≤ left.rowCount, ∀ column ≤ left.columnCount,
      left.cell row column ≠ right.cell row column → Hidden settings run ref left row column) :
    Redrawn settings run ref left right where
  shape := shape
  hidden row column different := by
    have rows := rowCount_of_shape shape
    have columns := columnCount_of_shape shape
    by_cases inside : row ≤ left.rowCount ∧ column ≤ left.columnCount
    · exact hidden row inside.1 column inside.2 different
    · exfalso
      apply different
      rw [cell_of_outside (by omega), cell_of_outside (by omega)]

theorem label (redrawn : Redrawn settings run ref left right) (row : Nat) :
    left.text row settings.input.labelColumn = right.text row settings.input.labelColumn := by
  apply text_of_cell
  by_contra different
  exact (redrawn.hidden row settings.input.labelColumn different).label rfl

theorem placed
    (redrawn : Redrawn settings run ref left right) {placed : PlacedRows}
    (ran : placeRows settings.input left = .ok placed) {row : Nat}
    (member : row ∈ placed.map (·.2)) (column : Nat) :
    left.cell row column = right.cell row column := by
  by_contra different
  exact (redrawn.hidden row column different).role placed ran member

theorem field
    (redrawn : Redrawn settings run ref left right) {table : Table} {first : Nat}
    (read : readHeader settings run ref left = .ok (some (table, first))) {column : Nat}
    (member : column ∈ table.fields.map (·.column)) (row : Nat) :
    left.cell row column = right.cell row column := by
  by_contra different
  exact (redrawn.hidden row column different).field table first read member

end Redrawn

/-! ## Headers -/

theorem placeRows_redrawn (redrawn : Redrawn settings run ref left right) :
    placeRows settings.input left = placeRows settings.input right :=
  placeRows_congr (rowOf_congr (rowCount_of_shape redrawn.shape) redrawn.label)

/-- Hidden cells are not seen when the header of a sheet is read. -/
theorem readHeader_redrawn (redrawn : Redrawn settings run ref left right) :
    readHeader settings run ref left = readHeader settings run ref right :=
  readHeader_congr (placeRows_redrawn redrawn)
    fun _ ran _ member column => redrawn.placed ran member column

/-! ## Sources -/

/-- Entries of one table with sheets that look the same through the columns of its fields. -/
structure AlikeEntry (left right : LoadedTable) : Prop where
  table : left.table = right.table
  dataRow : left.dataRow = right.dataRow
  rowCount : left.sheet.rowCount = right.sheet.rowCount
  cells : ∀ column ∈ left.table.fields.map (·.column), ∀ row,
    left.sheet.cell row column = right.sheet.cell row column

/-- What two loads of a sheet give: the same failure, or sheets that differ in hidden cells. -/
inductive RedrawnLoad (settings : Settings) (run : Naming.Scope) (ref : SheetRef) :
    Outcome Sheet → Outcome Sheet → Prop
  | failed (failure : Failure) :
      RedrawnLoad settings run ref (.error failure) (.error failure)
  | loaded {left right : Sheet} (redrawn : Redrawn settings run ref left right) :
      RedrawnLoad settings run ref (.ok left) (.ok right)

/-- Providers of the same sheets, but for hidden cells. -/
structure RedrawnSheets (settings : Settings) (run : Naming.Scope) (left right : SheetProvider) :
    Prop where
  sheets : left.sheets = right.sheets
  loads : ∀ refs, left.sheets = .ok refs → ∀ ref ∈ refs,
    RedrawnLoad settings run ref (left.load ref) (right.load ref)

namespace Source

/-- Sources that nobody can tell apart by their tables and rows. -/
structure Alike (left right : Source) : Prop where
  isOpen : left.isOpen = right.isOpen
  loaded : List.Forall₂ AlikeEntry left.loaded right.loaded

/-- Outcomes of one kind, with sources that are alike. -/
inductive AlikeOutcome : Outcome Source → Outcome Source → Prop
  | failed (failure : Failure) : AlikeOutcome (.error failure) (.error failure)
  | ok {left right : Source} (alike : Alike left right) : AlikeOutcome (.ok left) (.ok right)

theorem alike_new : Alike {} {} :=
  ⟨rfl, .nil⟩

namespace Alike

variable {left right : Source}

theorem tables (alike : Alike left right) : left.tables = right.tables := by
  have same : left.loaded.map (·.table) = right.loaded.map (·.table) := by
    rw [← List.forall₂_eq_eq_eq, List.forall₂_map_left_iff, List.forall₂_map_right_iff]
    exact alike.loaded.imp fun _ _ entry => entry.table
  unfold Source.tables
  rw [same]

theorem add
    (alike : Alike left right) {first second : LoadedTable} (entry : AlikeEntry first second) :
    AlikeOutcome (left.add first) (right.add second) := by
  have grown : Alike { left with loaded := left.loaded ++ [first] }
      { right with loaded := right.loaded ++ [second] } :=
    ⟨alike.isOpen, List.rel_append alike.loaded (.cons entry .nil)⟩
  unfold Source.add
  rw [alike.tables, entry.table]
  cases right.tables.insert second.table with
  | error failure => exact .failed failure
  | ok _ => exact .ok grown

theorem addSheet
    (alike : Alike left right) {leftSheets rightSheets : SheetProvider}
    (loads : RedrawnLoad settings run ref (leftSheets.load ref) (rightSheets.load ref)) :
    AlikeOutcome (left.addSheet settings run leftSheets ref)
      (right.addSheet settings run rightSheets ref) := by
  unfold Source.addSheet
  generalize leftSheets.load ref = leftLoad at loads ⊢
  generalize rightSheets.load ref = rightLoad at loads ⊢
  cases loads with
  | failed failure => exact .failed failure
  | @loaded leftSheet rightSheet redrawn =>
      show AlikeOutcome (readHeader settings run ref leftSheet >>= _)
        (readHeader settings run ref rightSheet >>= _)
      rw [← readHeader_redrawn redrawn]
      cases read : readHeader settings run ref leftSheet with
      | error failure => exact .failed failure
      | ok header =>
          cases header with
          | none => exact .ok alike
          | some found =>
              obtain ⟨table, first⟩ := found
              have entry : AlikeEntry ⟨table, leftSheet, first⟩ ⟨table, rightSheet, first⟩ :=
                ⟨rfl, rfl, rowCount_of_shape redrawn.shape,
                  fun column member row => redrawn.field read member row⟩
              exact alike.add entry

theorem addSheets
    (alike : Alike left right) {leftSheets rightSheets : SheetProvider} {refs : List SheetRef}
    (loads : ∀ ref ∈ refs,
      RedrawnLoad settings run ref (leftSheets.load ref) (rightSheets.load ref)) :
    Alike (left.addSheets settings run leftSheets refs).1
        (right.addSheets settings run rightSheets refs).1 ∧
      (left.addSheets settings run leftSheets refs).2 =
        (right.addSheets settings run rightSheets refs).2 := by
  induction refs generalizing left right with
  | nil => exact ⟨alike, rfl⟩
  | cons ref rest inductionHypothesis =>
      have step := alike.addSheet (loads ref List.mem_cons_self)
      have others := fun other member => loads other (List.mem_cons_of_mem ref member)
      rw [Source.addSheets, Source.addSheets]
      generalize left.addSheet settings run leftSheets ref = leftStep at step ⊢
      generalize right.addSheet settings run rightSheets ref = rightStep at step ⊢
      cases step with
      | failed failure => exact ⟨alike, rfl⟩
      | ok grown => exact inductionHypothesis grown others

end Alike

theorem alike_resolveTables
    (mappings : List TypeMapping) (tables : TableSet) {left right : List LoadedTable}
    (alike : List.Forall₂ AlikeEntry left right) :
    List.Forall₂ AlikeEntry (resolveTables mappings tables left).1
        (resolveTables mappings tables right).1 ∧
      (resolveTables mappings tables left).2 = (resolveTables mappings tables right).2 := by
  induction alike with
  | nil => exact ⟨.nil, rfl⟩
  | @cons first second leftRest rightRest entry others inductionHypothesis =>
      obtain ⟨othersAlike, sameOutcome⟩ := inductionHypothesis
      have keeps := resolveFields_keeps mappings tables first.table.name first.table.fields
      rw [resolveTables, resolveTables, ← entry.table]
      rcases ran : resolveFields mappings tables first.table.name first.table.fields with
        ⟨fields, outcome⟩
      rw [ran] at keeps
      have sameColumns : fields.map (·.column) = first.table.fields.map (·.column) :=
        map_of_untyped (·.column) (fun _ => rfl) keeps
      have here : AlikeEntry { first with table := { first.table with fields } }
          { second with table := { first.table with fields } } := by
        refine ⟨rfl, entry.dataRow, entry.rowCount, ?_⟩
        intro column member
        apply entry.cells
        rw [← sameColumns]
        exact member
      cases outcome with
      | error failure => exact ⟨.cons here others, rfl⟩
      | ok value => exact ⟨.cons here othersAlike, sameOutcome⟩

namespace Alike

variable {left right : Source}

theorem resolve (alike : Alike left right) (mappings : List TypeMapping) :
    Alike (left.resolve mappings).1 (right.resolve mappings).1 ∧
      (left.resolve mappings).2 = (right.resolve mappings).2 := by
  obtain ⟨loaded, outcome⟩ := alike_resolveTables mappings left.tables alike.loaded
  have resolved : Alike (left.resolve mappings).1 (right.resolve mappings).1 := by
    refine ⟨alike.isOpen, ?_⟩
    have sameTables := alike.tables
    unfold Source.resolve
    rw [← sameTables]
    exact loaded
  refine ⟨resolved, ?_⟩
  have sameTables := resolved.tables
  unfold Source.resolve at sameTables ⊢
  rw [← alike.tables] at sameTables ⊢
  dsimp only at sameTables ⊢
  rw [sameTables, outcome]

theorem discover
    (alike : Alike left right) {leftSheets rightSheets : SheetProvider}
    (redrawn : RedrawnSheets settings run leftSheets rightSheets) :
    Alike (left.discover settings run leftSheets).1
        (right.discover settings run rightSheets).1 ∧
      (left.discover settings run leftSheets).2 =
        (right.discover settings run rightSheets).2 := by
  unfold Source.discover
  rw [← redrawn.sheets]
  split
  · exact ⟨alike, rfl⟩
  · cases listed : leftSheets.sheets with
    | error failure => exact ⟨alike, rfl⟩
    | ok refs =>
        obtain ⟨grown, sameOutcome⟩ := alike.addSheets (redrawn.loads refs listed)
        dsimp only
        rcases leftRan : left.addSheets settings run leftSheets refs with ⟨leftFound, outcome⟩
        rcases rightRan : right.addSheets settings run rightSheets refs with
          ⟨rightFound, rightOutcome⟩
        rw [leftRan, rightRan] at grown sameOutcome
        dsimp only at grown sameOutcome
        rw [← sameOutcome]
        cases outcome with
        | error failure => exact ⟨grown, rfl⟩
        | ok value => exact grown.resolve settings.typeMappings

/-- Openings over sheets that differ in hidden cells end in the same way. -/
theorem openWith
    (alike : Alike left right) {leftSheets rightSheets : SheetProvider}
    (redrawn : RedrawnSheets settings run leftSheets rightSheets) :
    Alike (left.openWith settings run leftSheets).1
        (right.openWith settings run rightSheets).1 ∧
      (left.openWith settings run leftSheets).2 =
        (right.openWith settings run rightSheets).2 := by
  obtain ⟨found, sameOutcome⟩ := alike.discover redrawn
  unfold Source.openWith
  rw [← alike.isOpen]
  split
  · exact ⟨alike, rfl⟩
  · rcases leftRan : left.discover settings run leftSheets with ⟨leftFound, outcome⟩
    rcases rightRan : right.discover settings run rightSheets with ⟨rightFound, rightOutcome⟩
    rw [leftRan, rightRan] at found sameOutcome
    dsimp only at found sameOutcome
    rw [← sameOutcome]
    cases outcome with
    | error failure => exact ⟨found, rfl⟩
    | ok value => exact ⟨⟨rfl, found.loaded⟩, rfl⟩

/-! ## Rows -/

theorem loaded? (alike : Alike left right) (name : String) :
    Option.Rel AlikeEntry (left.loaded? name) (right.loaded? name) := by
  have entries := alike.loaded
  unfold Source.loaded?
  generalize left.loaded = leftEntries at entries ⊢
  generalize right.loaded = rightEntries at entries ⊢
  induction entries with
  | nil => exact .none
  | @cons first second leftRest rightRest entry _ inductionHypothesis =>
      rw [List.find?_cons, List.find?_cons, ← entry.table]
      split
      · exact .some entry
      · exact inductionHypothesis

/-- The rows of alike sources are the same, up to the same first blank one. -/
theorem rows (alike : Alike left right) (name : String) : left.rows name = right.rows name := by
  have found := alike.loaded? name
  unfold Source.rows
  generalize left.loaded? name = leftFound at found ⊢
  generalize right.loaded? name = rightFound at found ⊢
  cases found with
  | none => rfl
  | @some first second entry =>
      dsimp only
      have cells : ∀ row, (first.table.fields.map (·.column)).map (first.sheet.cell row) =
          (first.table.fields.map (·.column)).map (second.sheet.cell row) := by
        intro row
        exact List.map_congr_left fun column member => entry.cells column member row
      rw [← entry.table, ← entry.dataRow, ← entry.rowCount]
      simp only [cells]

end Alike

end Source

end TypedTables.Discover

namespace TypedTables.Generate

open TypedTables.Schema TypedTables.Discover
open TypedTables.Config (Code)

/-! ## Plans -/

variable {left right : Source}

theorem planTable_congr
    (tables : left.tables = right.tables) (rows : ∀ name, left.rows name = right.rows name)
    (code : Code) (names : TypeNames) (isFirst : Bool) (table : Table) :
    planTable left code names isFirst table = planTable right code names isFirst table := by
  have variants : variantsOf left table = variantsOf right table := by
    unfold variantsOf
    rw [rows]
  unfold planTable
  rw [tables, variants]

/-- A plan depends on nothing but the tables and their rows. -/
theorem ofSource_congr
    (tables : left.tables = right.tables) (rows : ∀ name, left.rows name = right.rows name)
    (code : Code) : Plan.ofSource left code = Plan.ofSource right code := by
  have planned : ∀ names isFirst some,
      planTables left code names isFirst some = planTables right code names isFirst some := by
    intro names isFirst some
    induction some generalizing isFirst with
    | nil => rfl
    | cons table rest inductionHypothesis =>
        rw [planTables, planTables, planTable_congr tables rows, inductionHypothesis]
  unfold Plan.ofSource
  rw [tables]
  simp only [planned]

end TypedTables.Generate

namespace TypedTables

open TypedTables.Discover TypedTables.Config TypedTables.Generate

/-! ## Two runs -/

/-- Two runs over sheets that differ in hidden cells only open with the same outcome, find the same
tables and rows, plan the same types, and load the same records or report the same failure. -/
theorem hidden_cells_unseen
    {settings : Settings} {run : Naming.Scope} {leftSheets rightSheets : SheetProvider}
    (redrawn : RedrawnSheets settings run leftSheets rightSheets) :
    let left := ({} : Source).openWith settings run leftSheets
    let right := ({} : Source).openWith settings run rightSheets
    left.2 = right.2 ∧ left.1.tables = right.1.tables ∧
      (∀ name, left.1.rows name = right.1.rows name) ∧
      (∀ code, Plan.ofSource left.1 code = Plan.ofSource right.1 code) ∧
      ∀ lookup table, loadRecords lookup left.1 table = loadRecords lookup right.1 table := by
  obtain ⟨alike, sameOutcome⟩ := Source.alike_new.openWith redrawn
  refine ⟨sameOutcome, alike.tables, alike.rows, ?_, ?_⟩
  · exact ofSource_congr alike.tables alike.rows
  · intro lookup table
    unfold loadRecords
    rw [alike.rows table.name]

/-- A sheet with a column that has no name and one that a keyword excludes. -/
def secretSheet (note secret last : String) : Sheet := .ofTexts [
  ["", "", ""], ["Id", "", "Secret"], ["int", "", "int"], ["key", "", "exclude"], ["", "", ""],
  ["1", note, secret], ["2", "", secret], ["", last, last]]

theorem hidden_secretSheet
    {row column : Nat} (inRow : row ∈ [6, 7, 8]) (inColumn : column ∈ [2, 3]) :
    Hidden {} .empty ⟨"memory", "Item", 0⟩ (secretSheet "seen" "17" "end") row column where
  label same := by
    rw [same] at inColumn
    exact absurd inColumn (by decide)
  role placed ran := by
    have rows : (placeRows ({} : Settings).input (secretSheet "seen" "17" "end")).toOption.map
        (fun placed => placed.map (·.2)) = some [1, 2, 3, 4, 5] := by
      decide +kernel
    rw [ran] at rows
    have placedRows : placed.map (·.2) = [1, 2, 3, 4, 5] := Option.some.inj rows
    rw [placedRows]
    revert row
    decide
  field table first read := by
    have columns : (readHeader {} .empty ⟨"memory", "Item", 0⟩
        (secretSheet "seen" "17" "end")).toOption.map
          (fun header => header.map fun entry => entry.1.fields.map (·.column)) =
        some (some [1]) := by
      decide +kernel
    rw [read] at columns
    have fieldColumns : table.fields.map (·.column) = [1] :=
      Option.some.inj (Option.some.inj columns)
    rw [fieldColumns]
    revert column
    decide

/-- Neither the notes and secrets of rows nor those behind the last row are seen. -/
theorem hidden_cells_unseen_secrets :
    let leftSheets : SheetProvider := .ofList [("Item", secretSheet "seen" "17" "end")]
    let rightSheets : SheetProvider := .ofList [("Item", secretSheet "" "no number" "")]
    let left := ({} : Source).openWith {} .empty leftSheets
    let right := ({} : Source).openWith {} .empty rightSheets
    RedrawnSheets {} .empty leftSheets rightSheets ∧ left.2 = right.2 ∧
      left.1.tables = right.1.tables ∧ (∀ name, left.1.rows name = right.1.rows name) ∧
      (∀ code, Plan.ofSource left.1 code = Plan.ofSource right.1 code) ∧
      ∀ lookup table, loadRecords lookup left.1 table = loadRecords lookup right.1 table := by
  have redrawn : Redrawn {} .empty ⟨"memory", "Item", 0⟩ (secretSheet "seen" "17" "end")
      (secretSheet "" "no number" "") := by
    apply Redrawn.of_grid
    · decide
    · intro row inRows column inColumns different
      have counts : (secretSheet "seen" "17" "end").rowCount = 8 ∧
          (secretSheet "seen" "17" "end").columnCount = 3 := by
        decide
      rw [counts.1] at inRows
      rw [counts.2] at inColumns
      have place : row ∈ [6, 7, 8] ∧ column ∈ [2, 3] := by
        interval_cases row <;> interval_cases column <;>
          first
            | exact absurd rfl different
            | exact ⟨by decide, by decide⟩
      exact hidden_secretSheet place.1 place.2
  have sheets : RedrawnSheets {} .empty
      (.ofList [("Item", secretSheet "seen" "17" "end")])
      (.ofList [("Item", secretSheet "" "no number" "")]) := by
    refine ⟨rfl, ?_⟩
    intro refs listed ref member
    cases listed
    rw [List.mem_singleton.mp member]
    exact .loaded redrawn
  exact ⟨sheets, hidden_cells_unseen sheets⟩

end TypedTables
