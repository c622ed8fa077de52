import TypedTables.Discover.Files
import TypedTables.Proofs.Csv.Records
import TypedTables.Proofs.Discover.Grids

/-!
# Lines of delimited text

A plain text is written line by line, with a cell between two commas.  Its sheet is read from the
lines that have a character, so a row keeps the number of its line as long as no empty line stands
in front of it.  The cells of the sheet are those of the lines exactly where nothing is written
behind an empty line.
-/

namespace TypedTables.Discover

open TypedTables.Schema TypedTables.Files TypedTables.Text

/-! ## Rows of lines -/

/-- The cells that are written on a line. -/
def writtenCells (line : String) : List Value :=
  (split "," line).map delimitedCell

/-- The grid that the author of a text sees: a row for each line. -/
def writtenSheet (text : String) : Sheet :=
  ⟨(split "\n" text).map writtenCells⟩

/-- Nothing is written on a line but separators. -/
def IsVoid (line : String) : Prop :=
  ∀ field ∈ split "," line, field = ""

instance (line : String) : Decidable (IsVoid line) :=
  inferInstanceAs (Decidable (∀ field ∈ split "," line, field = ""))

/-- Nothing is written from the first empty line on. -/
def Gapless (text : String) : Prop :=
  ∀ line ∈ (split "\n" text).dropWhile (!·.isEmpty), IsVoid line

instance (text : String) : Decidable (Gapless text) :=
  inferInstanceAs (Decidable (∀ line ∈ (split "\n" text).dropWhile (!·.isEmpty), IsVoid line))

/-- The sheet of a plain text has a row for each line that is not empty. -/
theorem delimitedSheet_eq
    {store : Store} {path text : String} (stored : store.text? path = some text)
    (plain : Csv.Plain text) :
    delimitedSheet store ',' path =
      .ok ⟨((split "\n" text).filter (!·.isEmpty)).map writtenCells⟩ := by
  have read : Csv.records ',' text = ((split "\n" text).filter (!·.isEmpty)).map (split ",") :=
    Csv.records_eq (by decide) rfl plain
  rw [delimitedSheet, stored]
  dsimp only
  rw [read, List.map_map]
  rfl

theorem delimitedCell_eq_null_iff {field : String} : delimitedCell field = .null ↔ field = "" := by
  unfold delimitedCell
  split
  · next empty => simpa using empty
  · next nonempty => simpa using nonempty

theorem isVoid_empty : IsVoid "" := by
  have fields : split "," "" = [""] := by
    rw [split_eq_piecesAt (c := ',') rfl, String.toList_empty, piecesAt]
    rfl
  simp [IsVoid, fields]

theorem writtenCells_of_isVoid {lines : List String} (isVoid : ∀ line ∈ lines, IsVoid line) :
    ∀ cells ∈ lines.map writtenCells, ∀ cell ∈ cells, cell = .null := by
  intro cells member cell inCells
  obtain ⟨line, inLines, rfl⟩ := List.mem_map.mp member
  obtain ⟨field, inLine, rfl⟩ := List.mem_map.mp inCells
  exact delimitedCell_eq_null_iff.mpr (isVoid line inLines field inLine)

/-! ## Cells of lines -/

variable {lines : List String}

/-- Where the lines from the first empty one on are void, the rows read show what the lines do. -/
theorem cell_of_gapless
    (gapless : ∀ line ∈ lines.dropWhile (!·.isEmpty), IsVoid line) (row column : Nat) :
    (⟨(lines.filter (!·.isEmpty)).map writtenCells⟩ : Sheet).cell row column =
      (⟨lines.map writtenCells⟩ : Sheet).cell row column := by
  obtain ⟨before, isBefore⟩ : ∃ before, before = lines.takeWhile (!·.isEmpty) := ⟨_, rfl⟩
  obtain ⟨after, isAfter⟩ : ∃ after, after = lines.dropWhile (!·.isEmpty) := ⟨_, rfl⟩
  have parts : lines = before ++ after := by
    rw [isBefore, isAfter, List.takeWhile_append_dropWhile]
  have whole : before.filter (!·.isEmpty) = before := by
    rw [List.filter_eq_self, isBefore]
    intro line member
    exact List.mem_takeWhile_imp (p := fun line : String => !line.isEmpty) member
  have voidKept : ∀ line ∈ after.filter (!·.isEmpty), IsVoid line :=
    fun line member => gapless line (isAfter ▸ (List.mem_filter.mp member).1)
  rw [← isAfter] at gapless
  rw [parts, List.filter_append, whole, List.map_append, List.map_append,
    cell_append_blank _ (writtenCells_of_isVoid voidKept),
    cell_append_blank _ (writtenCells_of_isVoid gapless)]

theorem exists_last_visible (visible : ∃ line ∈ lines, ¬ IsVoid line) :
    ∃ before line after, lines = before ++ line :: after ∧ ¬ IsVoid line ∧
      ∀ later ∈ after, IsVoid later := by
  induction lines with
  | nil => simp at visible
  | cons first rest inductionHypothesis =>
      by_cases further : ∃ line ∈ rest, ¬ IsVoid line
      · obtain ⟨before, line, after, rfl, written, others⟩ := inductionHypothesis further
        exact ⟨first :: before, line, after, rfl, written, others⟩
      · have others : ∀ line ∈ rest, IsVoid line := by simpa using further
        have written : ¬ IsVoid first := by
          obtain ⟨line, member, written⟩ := visible
          rcases List.mem_cons.mp member with rfl | inRest
          · exact written
          · exact absurd (others line inRest) written
        exact ⟨[], first, rest, rfl, written, others⟩

theorem exists_field {line : String} (written : ¬ IsVoid line) :
    ∃ (column : Nat) (field : String), (split "," line)[column]? = some field ∧ field ≠ "" := by
  unfold IsVoid at written
  push Not at written
  obtain ⟨field, member, nonempty⟩ := written
  obtain ⟨column, found⟩ := List.mem_iff_getElem?.mp member
  exact ⟨column, field, found, nonempty⟩

/-- Rows behind which only void lines follow are the last to show anything. -/
theorem cell_behind
    {before after : List String} (isVoid : ∀ line ∈ after, IsVoid line) {row : Nat}
    (behind : before.length < row) (column : Nat) :
    (⟨(before ++ after).map writtenCells⟩ : Sheet).cell row column = .null := by
  rw [List.map_append, cell_append_blank _ (writtenCells_of_isVoid isVoid)]
  refine cell_of_outside (Or.inl ?_)
  rwa [Sheet.rowCount, List.length_map]

/-- The last line that shows anything is found at its number only where no empty line stands in
front of it. -/
theorem isVoid_of_cell
    (same : ∀ row column, (⟨(lines.filter (!·.isEmpty)).map writtenCells⟩ : Sheet).cell row column =
      (⟨lines.map writtenCells⟩ : Sheet).cell row column)
    {before after : List String} (parts : lines = before ++ "" :: after) :
    ∀ line ∈ after, IsVoid line := by
  by_contra someVisible
  have visible : ∃ line ∈ after, ¬ IsVoid line := by simpa using someVisible
  obtain ⟨middle, line, last, rfl, written, voidLast⟩ := exists_last_visible visible
  -- What stands in front of the line, which is one line less at least where lines are read.
  obtain ⟨front, isFront⟩ : ∃ front, front = before ++ "" :: middle := ⟨_, rfl⟩
  have shape : lines = front ++ line :: last := by simp [parts, isFront]
  have fewer : (front.filter (!·.isEmpty)).length < front.length := by
    have drops : (("" :: middle).filter (!·.isEmpty)).length ≤ middle.length :=
      List.length_filter_le (!·.isEmpty) middle
    have keeps := List.length_filter_le (!·.isEmpty) before
    simp only [isFront, List.filter_append, List.length_append, List.length_cons]
    omega
  obtain ⟨column, field, atColumn, nonempty⟩ := exists_field written
  have shown : (⟨lines.map writtenCells⟩ : Sheet).cell (front.length + 1) (column + 1) =
      delimitedCell field := by
    simp [Sheet.cell, shape, writtenCells, atColumn]
  have unread : (⟨(lines.filter (!·.isEmpty)).map writtenCells⟩ : Sheet).cell
      (front.length + 1) (column + 1) = .null := by
    have voidKept : ∀ later ∈ last.filter (!·.isEmpty), IsVoid later :=
      fun later member => voidLast later (List.mem_filter.mp member).1
    have short : ([line].filter (!·.isEmpty)).length ≤ 1 :=
      List.length_filter_le (!·.isEmpty) [line]
    rw [shape, List.append_cons, List.filter_append, List.filter_append]
    exact cell_behind voidKept (by rw [List.length_append]; omega) (column + 1)
  apply nonempty
  rw [← delimitedCell_eq_null_iff, ← shown, ← same, unread]

/-- The rows read show what the lines do exactly where nothing is written from the first empty line
on. -/
theorem cells_eq_iff_gapless {text : String} :
    (∀ row column,
      (⟨((split "\n" text).filter (!·.isEmpty)).map writtenCells⟩ : Sheet).cell row column =
        (writtenSheet text).cell row column) ↔ Gapless text := by
  refine ⟨fun same => ?_, fun gapless => cell_of_gapless gapless⟩
  unfold Gapless
  cases shape : (split "\n" text).dropWhile (!·.isEmpty) with
  | nil => simp
  | cons first after =>
      have stopped := List.head?_dropWhile_not (fun line : String => !line.isEmpty) (split "\n" text)
      rw [shape] at stopped
      obtain rfl : first = "" := by simpa using stopped
      have parts := (List.takeWhile_append_dropWhile (p := fun line : String => !line.isEmpty)
        (l := split "\n" text)).symm
      rw [shape] at parts
      exact List.forall_mem_cons.mpr ⟨isVoid_empty, isVoid_of_cell same parts⟩

end TypedTables.Discover
