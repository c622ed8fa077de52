import TypedTables.Proofs.Discover.Lines
import TypedTables.Proofs.FailedCells

/-!
# Line numbers

The rows of a table are numbered from the first row of data on, and a cell that cannot be converted
is reported with the number of its row.  For a sheet read from a plain text these are numbers of
lines exactly where nothing is written behind an empty line.
-/

namespace TypedTables

open TypedTables.Schema TypedTables.Binding TypedTables.Convert TypedTables.Discover
open TypedTables.Files TypedTables.Config TypedTables.Text

/-! ## Rows of a table -/

/-- The cells of a row in the columns of a table's fields. -/
def fieldCells (sheet : Sheet) (table : Table) (row : Nat) : List Value :=
  (table.fields.map (·.column)).map (sheet.cell row)

/-- Consecutive rows of a sheet from the first row of data on, up to the first that is blank in
every field. -/
structure RowsOf (sheet : Sheet) (entry : LoadedTable) (rows : List RawRow) : Prop where
  numbers : rows.map (·.index) = List.range' entry.dataRow rows.length
  cells : ∀ row ∈ rows, row.cells = fieldCells sheet entry.table row.index
  visible : ∀ row ∈ rows, ∃ cell ∈ row.cells, cell.isEmpty = false
  ends : ∀ cell ∈ fieldCells sheet entry.table (entry.dataRow + rows.length), cell.isEmpty = true

variable {source : Source} {entry : LoadedTable} {name : String} {rows : List RawRow}

theorem rowsOf_rows
    (found : source.loaded? name = some entry) (read : source.rows name = .ok rows) :
    RowsOf entry.sheet entry rows := by
  let isVisible := fun row : RawRow => !row.cells.all Value.isEmpty
  let numbers := List.range' entry.dataRow (entry.sheet.rowCount + 1 - entry.dataRow)
  let all := numbers.map fun row =>
    (⟨row, fieldCells entry.sheet entry.table row⟩ : RawRow)
  have taken : all.takeWhile isVisible = rows := by
    rw [Source.rows, found] at read
    exact Except.ok.inj read
  have indices : all.map (·.index) = numbers := by
    simp [all, Function.comp_def]
  obtain ⟨behind, isBehind⟩ : ∃ behind, behind = all.dropWhile isVisible := ⟨_, rfl⟩
  have parts : rows ++ behind = all := by
    rw [← taken, isBehind]
    exact List.takeWhile_append_dropWhile
  have count : rows.length + behind.length =
      entry.sheet.rowCount + 1 - entry.dataRow := by
    rw [← List.length_append, parts]
    simp [all, numbers]
  have numbered : rows.map (·.index) ++ behind.map (·.index) =
      List.range' entry.dataRow rows.length ++
        List.range' (entry.dataRow + rows.length) behind.length := by
    rw [← List.map_append, parts, indices, List.range'_append_1, count]
  obtain ⟨here, later⟩ := List.append_inj numbered (by simp)
  refine ⟨here, ?_, ?_, ?_⟩
  · intro row member
    have inAll : row ∈ all := by
      rw [← parts]
      exact List.mem_append_left behind member
    obtain ⟨number, _, rfl⟩ := List.mem_map.mp inAll
    rfl
  · intro row member
    rw [← taken] at member
    simpa [isVisible] using List.mem_takeWhile_imp member
  · cases behind with
    | nil =>
        -- All rows of the sheet are read: the next one is outside.
        have outside : entry.sheet.rowCount < entry.dataRow + rows.length := by
          simp only [List.length_nil] at count
          omega
        intro cell member
        obtain ⟨column, _, rfl⟩ := List.mem_map.mp member
        rw [cell_of_outside (Or.inl outside)]
        rfl
    | cons next rest =>
        have index : next.index = entry.dataRow + rows.length := by
          simpa using (List.cons.inj later).1
        have inAll : next ∈ all := by
          rw [← parts]
          simp
        obtain ⟨number, _, rfl⟩ := List.mem_map.mp inAll
        have blank : (fieldCells entry.sheet entry.table number).all Value.isEmpty = true := by
          have stopped := List.head?_dropWhile_not isVisible all
          rw [← isBehind] at stopped
          simpa [isVisible] using stopped
        rw [← index]
        exact List.all_eq_true.mp blank

theorem RowsOf.congr
    {left right : Sheet} (same : ∀ row column, left.cell row column = right.cell row column)
    (read : RowsOf left entry rows) : RowsOf right entry rows := by
  have cells : fieldCells left entry.table = fieldCells right entry.table := by
    funext row
    exact List.map_congr_left fun column _ => same row column
  exact ⟨read.numbers, cells ▸ read.cells, read.visible, cells ▸ read.ends⟩

/-! ## Failures -/

/-- A reported place shows the cell of the sheet at the row and the column that it names. -/
theorem shown_of_failed
    {lookup : Lookup} {cache : MemberCache} {place : CellPosition} {shown type cause : String}
    (unplaced : lookup.chain.PlacesNothing)
    (found : source.loaded? entry.table.name = some entry)
    (failed : ((loadRecords lookup source entry.table).run.run cache).1 =
      .error (.conversion place shown type cause)) :
    shown = (entry.sheet.cell place.row place.columnIndex).toText := by
  obtain ⟨row, member, between, comes, memberFailed⟩ :=
    (loadRecords_eq_error_iff (Or.inl rfl)).mp failed
  obtain ⟨_, rows, members, _, before, after, _, _, read, _, cells, _⟩ := comes
  have inRows : row ∈ rows := by
    have present : (row, member) ∈ cellsOf rows members := by simp [cells]
    obtain ⟨other, inRows, inRow⟩ := List.mem_flatMap.mp present
    obtain ⟨_, _, same⟩ := List.mem_map.mp inRow
    rw [← (Prod.mk.inj same).1]
    exact inRows
  rcases convertMember_eq_error_iff.mp memberFailed with
    ⟨position, column, failure, readFrom, cellFailed, same⟩ | ⟨_, zeroFailed⟩
  · rw [CellContext.report] at same
    split at same
    · obtain ⟨rfl, rfl, _, _⟩ := Failure.conversion.inj same
      have atPosition : row.cells[position]? = some (entry.sheet.cell row.index column.column) := by
        rw [(rowsOf_rows found read).cells row inRows, fieldCells]
        simp [readFrom.atPosition]
      rw [RawRow.cell, atPosition]
      rfl
    · have arises : Arises lookup failure := arises_convertCell cellFailed
      exact absurd (same ▸ rfl) (arises.kind_ne unplaced)
  · exact absurd rfl ((arises_zero zeroFailed).kind_ne unplaced)

/-! ## Numbers of lines -/

/-- Rows with numbers of their own are the lines with these numbers. -/
theorem readHeader_of_fixed
    {settings : Settings} {run : Naming.Scope} {ref : SheetRef} {left right : Sheet}
    (same : ∀ row column, left.cell row column = right.cell row column)
    (fixed : ∀ role ∈ settings.input.rows, role.row?.isSome) :
    readHeader settings run ref left = readHeader settings run ref right := by
  refine readHeader_congr (placeRows_of_roles fun role member => ?_)
    fun _ _ row _ column => same row column
  obtain ⟨row, given⟩ := Option.isSome_iff_exists.mp (fixed role member)
  rw [rowOf, rowOf, given]

/-- The sheet of a plain text has the cells of its lines exactly if nothing is written behind an
empty line.  Then fixed rows are lines, the rows of a table are the lines from the first one of data
up to the first that is blank, and a failed cell is reported with its line. -/
theorem rows_keep_lines_iff
    {store : Store} {input : Input} {ref : SheetRef} {text : String}
    (stored : store.text? ref.file = some text) (plain : Csv.Plain text) :
    ∃ sheet, (delimitedFiles store input ',').load ref = .ok sheet ∧
      ((∀ row column, sheet.cell row column = (writtenSheet text).cell row column) ↔
        Gapless text) ∧
      (Gapless text →
        (∀ settings run, (∀ role ∈ settings.input.rows, role.row?.isSome) →
          readHeader settings run ref sheet = readHeader settings run ref (writtenSheet text)) ∧
        ∀ (source : Source) entry, source.loaded? entry.table.name = some entry →
          entry.sheet = sheet →
          (∀ rows, source.rows entry.table.name = .ok rows →
            RowsOf (writtenSheet text) entry rows) ∧
          ∀ lookup cache place shown type cause, lookup.chain.PlacesNothing →
            ((loadRecords lookup source entry.table).run.run cache).1 =
              .error (.conversion place shown type cause) →
            shown = ((writtenSheet text).cell place.row place.columnIndex).toText) := by
  refine ⟨_, delimitedSheet_eq stored plain, cells_eq_iff_gapless, ?_⟩
  intro gapless
  have same := cells_eq_iff_gapless.mpr gapless
  refine ⟨fun settings run fixed => readHeader_of_fixed same fixed, ?_⟩
  intro source entry found isRead
  rw [← isRead] at same
  constructor
  · intro rows read
    exact (rowsOf_rows found read).congr same
  · intro lookup cache place shown type cause unplaced failed
    rw [shown_of_failed unplaced found failed, same]

/-! ## A line between two items -/

/-- A table of items with a line between two of them. -/
def itemText (between : String) : String :=
  "Items\nId,Name\nint,string\nkey\n-\n1,Sword\n" ++ between ++ "\n2,Axe\n"

def itemStore (between : String) : Store where
  files := [(["tables", "Item.csv"], (itemText between).toUTF8)]
  folders := [["tables"]]

def itemInput : Input where
  provider := .csv
  directory := "tables"

/-- The rows of items, each with its number and the texts of its cells. -/
def itemRows (between : String) : Option (List (Nat × List String)) := do
  let sheets := sheetsOf (itemStore between) itemInput
  let source ← (Source.ofProvider { input := itemInput } .empty sheets).toOption
  let rows ← (source.rows "Item").toOption
  return rows.map fun row => (row.index, row.cells.map Value.toText)

theorem plain_itemText : ∀ between ∈ [",", ""], Csv.Plain (itemText between) := by
  have characters : ∀ between ∈ [",", ""],
      (itemText between).toList.all (fun c => c != '"' && c != '\r') = true ∧
        (itemText between).toList.head? ≠ some '\ufeff' := by
    decide +kernel
  intro between member
  obtain ⟨all, unmarked⟩ := characters between member
  simp only [List.all_eq_true, Bool.and_eq_true, bne_iff_ne] at all
  exact ⟨fun c present => (all c present).1, fun c present => (all c present).2, unmarked⟩

theorem text?_itemStore :
    ∀ between ∈ [",", ""], (itemStore between).text? "tables/Item.csv" = some (itemText between) := by
  decide +kernel

/-- Behind a line of separators the axe stands at the row of its line. -/
theorem rows_keep_lines_iff_void_line :
    ∃ sheet, (delimitedFiles (itemStore ",") itemInput ',').load ⟨"tables/Item.csv", "Item", 0⟩ =
        .ok sheet ∧
      Gapless (itemText ",") ∧
      ∀ row column, sheet.cell row column = (writtenSheet (itemText ",")).cell row column := by
  have gapless : Gapless (itemText ",") := by decide +kernel
  obtain ⟨sheet, loaded, kept, -⟩ :=
    @rows_keep_lines_iff (itemStore ",") itemInput ⟨"tables/Item.csv", "Item", 0⟩ _
      (text?_itemStore "," (by simp)) (plain_itemText "," (by simp))
  exact ⟨sheet, loaded, gapless, kept.mpr gapless⟩

/-- Behind an empty line the axe is read as the row in front of its line, as if the data had not
ended there. -/
theorem row_behind_empty_line :
    Csv.Plain (itemText "") ∧
      (split "\n" (itemText ""))[6]? = some "" ∧ (split "\n" (itemText ""))[7]? = some "2,Axe" ∧
      itemRows "" = some [(6, ["1", "Sword"]), (7, ["2", "Axe"])] :=
  ⟨plain_itemText "" (by simp), by decide +kernel⟩

end TypedTables
