import TypedTables.Discover.Header
import TypedTables.Proofs.Outcome

/-!
# Grids of cells

Cells outside a grid are null, and the rows of a header's roles depend on the labels of a grid and
on its height only.
-/

namespace TypedTables.Discover

open TypedTables.Schema TypedTables.Config TypedTables.Text

variable {left right : Sheet}

/-! ## Cells -/

theorem length_le_columnCount {sheet : Sheet} {cells : List Value} (member : cells ∈ sheet.rows) :
    cells.length ≤ sheet.columnCount := by
  have general : ∀ (rows : List (List Value)) (longest : Nat),
      longest ≤ rows.foldl (fun longest row => max longest row.length) longest ∧
        ∀ row ∈ rows,
          row.length ≤ rows.foldl (fun longest row => max longest row.length) longest := by
    intro rows
    induction rows with
    | nil => simp
    | cons first rest inductionHypothesis =>
        intro longest
        obtain ⟨start, others⟩ := inductionHypothesis (max longest first.length)
        rw [List.foldl_cons]
        constructor
        · omega
        · intro row present
          rcases List.mem_cons.mp present with atHead | inRest
          · rw [atHead]
            omega
          · exact others row inRest
  exact (general sheet.rows 0).2 cells member

/-- Outside the grid every cell is null. -/
theorem cell_of_outside
    {sheet : Sheet} {row column : Nat}
    (outside : sheet.rowCount < row ∨ sheet.columnCount < column) :
    sheet.cell row column = .null := by
  unfold Sheet.cell
  split
  · next row column =>
      cases found : (sheet.rows[row]?).bind (·[column]?) with
      | none => rfl
      | some cell =>
          obtain ⟨cells, atRow, atColumn⟩ := Option.bind_eq_some_iff.mp found
          have below : row < sheet.rowCount := (List.getElem?_eq_some_iff.mp atRow).1
          have inRow : column < cells.length := (List.getElem?_eq_some_iff.mp atColumn).1
          have short := length_le_columnCount (List.mem_of_getElem? atRow)
          omega
  · rfl

theorem text_of_cell {row column : Nat} (same : left.cell row column = right.cell row column) :
    left.text row column = right.text row column := by
  unfold Sheet.text
  rw [same]

/-- Further blank rows show nothing. -/
theorem cell_append_blank
    (rows : List (List Value)) {blank : List (List Value)}
    (isBlank : ∀ cells ∈ blank, ∀ cell ∈ cells, cell = .null) (row column : Nat) :
    (⟨rows ++ blank⟩ : Sheet).cell row column = (⟨rows⟩ : Sheet).cell row column := by
  unfold Sheet.cell
  split
  · next row column =>
      dsimp only
      by_cases inside : row < rows.length
      · rw [List.getElem?_append_left inside]
      · rw [List.getElem?_append_right (Nat.le_of_not_lt inside),
          List.getElem?_eq_none (Nat.le_of_not_lt inside), Option.bind_none, Option.getD_none]
        cases found : (blank[row - rows.length]?).bind (·[column]?) with
        | none => rfl
        | some cell =>
            obtain ⟨cells, atRow, atColumn⟩ := Option.bind_eq_some_iff.mp found
            exact isBlank cells (List.mem_of_getElem? atRow) cell (List.mem_of_getElem? atColumn)
  · rfl

theorem text_of_outside {sheet : Sheet} {row column : Nat} (outside : sheet.columnCount < column) :
    sheet.text row column = "" := by
  rw [Sheet.text, cell_of_outside (Or.inr outside)]
  rfl

/-! ## Rows of roles -/

theorem rowOf_congr
    {input : Input} (rows : left.rowCount = right.rowCount)
    (labels : ∀ row, left.text row input.labelColumn = right.text row input.labelColumn) :
    rowOf input left = rowOf input right := by
  funext role
  unfold rowOf
  simp only [labels, rows]

theorem placeRows_of_roles
    {input : Input} (same : ∀ role ∈ input.rows, rowOf input left role = rowOf input right role) :
    placeRows input left = placeRows input right := by
  unfold placeRows
  refine Outcome.foldlM_congr (fun role member placed => ?_) []
  rw [same role member]

theorem placeRows_congr {input : Input} (same : rowOf input left = rowOf input right) :
    placeRows input left = placeRows input right :=
  placeRows_of_roles fun role _ => congrFun same role

/-! ## Headers -/

section Beyond

variable {sheet : Sheet} {width : Nat} (wide : sheet.columnCount ≤ width)

include wide

/-- Columns up to a width that the grid does not exceed, those beyond the grid apart. -/
theorem columns_of_le (first : Nat) :
    ∃ beyond, List.range' first (width + 1 - first) =
        List.range' first (sheet.columnCount + 1 - first) ++ beyond ∧
      ∀ column ∈ beyond, sheet.columnCount < column := by
  obtain ⟨further, total⟩ : ∃ further,
      width + 1 - first = sheet.columnCount + 1 - first + further :=
    Nat.exists_eq_add_of_le (by omega)
  refine ⟨List.range' (first + (sheet.columnCount + 1 - first)) further, ?_, ?_⟩
  · rw [total, List.range'_append_1]
  · intro column member
    rw [List.mem_range'_1] at member
    omega

theorem firstText?_of_le (row column : Nat) :
    firstText? sheet row column =
      ((List.range' column (width + 1 - column)).map (sheet.text row)).find? (!·.isEmpty) := by
  obtain ⟨beyond, columns, outside⟩ := columns_of_le wide column
  have unseen : (beyond.map (sheet.text row)).find? (!·.isEmpty) = none := by
    rw [List.find?_eq_none]
    intro text member
    obtain ⟨place, inBeyond, rfl⟩ := List.mem_map.mp member
    simp [text_of_outside (outside place inBeyond)]
  rw [columns, List.map_append, List.find?_append, unseen, Option.or_none]
  rfl

theorem foldlM_readColumn_of_le
    {input : Input} {mappings : List TypeMapping} {placed : PlacedRows} {nameRow : Nat}
    (start : Table) :
    (fieldColumns input sheet).foldlM (readColumn input mappings sheet placed nameRow) start =
      (List.range' (1 + input.offsetColumn) (width + 1 - (1 + input.offsetColumn))).foldlM
        (readColumn input mappings sheet placed nameRow) start := by
  obtain ⟨beyond, columns, outside⟩ := columns_of_le wide (1 + input.offsetColumn)
  have idle : ∀ column ∈ beyond, ∀ table,
      readColumn input mappings sheet placed nameRow table column = .ok table := by
    intro column member table
    have unnamed : fieldName input sheet placed nameRow column = .ok none := by
      rw [fieldName, text_of_outside (outside column member)]
      rfl
    rw [readColumn, unnamed]
    rfl
  rw [columns, List.foldlM_append]
  refine Eq.trans ?_ (Outcome.bind_congr_ok fun table _ =>
    (Outcome.foldlM_of_idle idle table).symm)
  exact (bind_pure _).symm

end Beyond

section Placed

variable {input : Input} {placed : PlacedRows}
  (agree : ∀ row ∈ placed.map (·.2), ∀ column, left.cell row column = right.cell row column)

include agree

theorem cell_of_lookup {kind : RowKind} {row : Nat} (found : placed.lookup kind = some row)
    (column : Nat) : left.cell row column = right.cell row column := by
  obtain ⟨before, after, parts, _⟩ := List.lookup_eq_some_iff.mp found
  apply agree
  rw [parts]
  simp

theorem readRow_congr : readRow input left placed = readRow input right placed := by
  funext kind column
  unfold readRow
  cases found : placed.lookup kind with
  | none => rfl
  | some row =>
      dsimp only
      rw [text_of_cell (cell_of_lookup agree found column)]

theorem rowDefault_congr : rowDefault input left placed = rowDefault input right placed := by
  funext field
  unfold rowDefault
  rw [readRow_congr agree]

theorem fieldName_congr {nameRow : Nat} (named : placed.lookup .fieldName = some nameRow) :
    fieldName input left placed nameRow = fieldName input right placed nameRow := by
  funext column
  have written : left.text nameRow column = right.text nameRow column :=
    text_of_cell (cell_of_lookup agree named column)
  have excluded : (placed.lookup .exclude).any (fun row => (left.cell row column).isEmpty) =
      (placed.lookup .exclude).any fun row => (right.cell row column).isEmpty := by
    cases found : placed.lookup .exclude with
    | none => rfl
    | some row =>
        rw [Option.any_some, Option.any_some, cell_of_lookup agree found column]
  unfold fieldName
  rw [written, excluded]

theorem readColumn_congr
    {mappings : List TypeMapping} {nameRow : Nat}
    (named : placed.lookup .fieldName = some nameRow) :
    readColumn input mappings left placed nameRow =
      readColumn input mappings right placed nameRow := by
  funext table column
  unfold readColumn
  rw [fieldName_congr agree named, readRow_congr agree, rowDefault_congr agree]

/-- Columns may be read beyond the grid. -/
theorem firstText?_congr (kind : RowKind) (column : Nat) :
    ((placed.lookup kind).bind fun row => firstText? left row column) =
      (placed.lookup kind).bind fun row => firstText? right row column := by
  cases found : placed.lookup kind with
  | none => rfl
  | some row =>
      have texts : left.text row = right.text row := by
        funext column
        exact text_of_cell (cell_of_lookup agree found column)
      have wideLeft := Nat.le_max_left left.columnCount right.columnCount
      have wideRight := Nat.le_max_right left.columnCount right.columnCount
      rw [Option.bind_some, Option.bind_some, firstText?_of_le wideLeft, firstText?_of_le wideRight,
        texts]

theorem foldlM_readColumn_congr
    {mappings : List TypeMapping} {nameRow : Nat}
    (named : placed.lookup .fieldName = some nameRow) (start : Table) :
    (fieldColumns input left).foldlM (readColumn input mappings left placed nameRow) start =
      (fieldColumns input right).foldlM (readColumn input mappings right placed nameRow) start := by
  have wideLeft := Nat.le_max_left left.columnCount right.columnCount
  have wideRight := Nat.le_max_right left.columnCount right.columnCount
  rw [foldlM_readColumn_of_le wideLeft, foldlM_readColumn_of_le wideRight,
    readColumn_congr agree named]

end Placed

/-- A header depends on the rows that its roles place, and on the cells of these rows. -/
theorem readHeader_congr
    {settings : Settings} {run : Naming.Scope} {ref : SheetRef}
    (rows : placeRows settings.input left = placeRows settings.input right)
    (cells : ∀ placed, placeRows settings.input left = .ok placed → ∀ row ∈ placed.map (·.2),
      ∀ column, left.cell row column = right.cell row column) :
    readHeader settings run ref left = readHeader settings run ref right := by
  unfold readHeader
  dsimp only
  rw [← rows]
  refine Outcome.bind_congr_ok fun label _ => ?_
  split
  · rfl
  · split
    · rfl
    · -- From here on both readings look at the same rows.
      refine Outcome.bind_congr_ok fun placed ran => ?_
      have agree := cells placed ran
      cases named : placed.lookup .fieldName with
      | none => rfl
      | some nameRow =>
          dsimp only
          rw [firstText?_congr agree, foldlM_readColumn_congr agree named]

end TypedTables.Discover
