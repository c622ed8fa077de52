import TypedTables.Proofs.Discover.Grids
import TypedTables.Proofs.Outcome
import TypedTables.Proofs.Text.Pieces

/-!
# Roles that locate rows

Several roles of one kind may be listed, of which the first that finds a row in a sheet locates the
row of the kind.  The cells of the row are read with the value pattern of the first role of the
kind, though, whether or not that role found the row.
-/

namespace TypedTables.Discover

open TypedTables.Schema TypedTables.Config TypedTables.Text

variable {input : Input} {sheet : Sheet} {placed : PlacedRows}

/-! ## The role of a row -/

/-- A role locates a row: it finds it, and no role of its kind that is listed earlier finds any. -/
structure Locates (input : Input) (sheet : Sheet) (role : RowRole) (row : Nat) : Prop where
  finds : rowOf input sheet role = .ok (some row)
  first : ∃ before after, input.rows = before ++ role :: after ∧
    ∀ other ∈ before, other.kind = role.kind → rowOf input sheet other = .ok none

/-- What the roles of a kind have found in a sheet: nothing, or a row by the first of them that
finds any. -/
inductive Found (input : Input) (sheet : Sheet) (roles : List RowRole) (kind : RowKind) :
    Option Nat → Prop
  | nothing (each : ∀ role ∈ roles, role.kind = kind → rowOf input sheet role = .ok none) :
      Found input sheet roles kind none
  | row {role : RowRole} {row : Nat} {before after : List RowRole} (ofKind : role.kind = kind)
      (parts : roles = before ++ role :: after)
      (each : ∀ other ∈ before, other.kind = kind → rowOf input sheet other = .ok none)
      (finds : rowOf input sheet role = .ok (some row)) :
      Found input sheet roles kind (some row)

theorem Found.snoc
    {roles : List RowRole} {kind : RowKind} {result : Option Nat}
    (found : Found input sheet roles kind result) {role : RowRole}
    (passes : result = none → role.kind = kind → rowOf input sheet role = .ok none) :
    Found input sheet (roles ++ [role]) kind result := by
  cases found with
  | nothing each =>
      refine .nothing (List.forall_mem_append.mpr ⟨each, List.forall_mem_singleton.mpr ?_⟩)
      exact passes rfl
  | @row locator row before after ofKind parts each finds =>
      have grown : roles ++ [role] = before ++ locator :: (after ++ [role]) := by
        rw [parts, List.append_assoc, List.cons_append]
      exact .row ofKind grown each finds

theorem found_of_placeRows (ran : placeRows input sheet = .ok placed) (kind : RowKind) :
    Found input sheet input.rows kind (placed.lookup kind) := by
  refine Outcome.foldlM_invariant
    (fun roles placed => Found input sheet roles kind (placed.lookup kind))
    (.nothing (List.forall_mem_nil _)) ?_ ran
  intro before role after placed next _ found stepped
  by_cases known : (placed.lookup role.kind).isSome = true
  · rw [if_pos known] at stepped
    cases stepped
    refine found.snoc fun isNone ofKind => ?_
    rw [ofKind, isNone] at known
    cases known
  · rw [if_neg known] at stepped
    obtain ⟨result, finds, placing⟩ := Outcome.bind_eq_ok_iff.mp stepped
    cases result with
    | none =>
        cases placing
        exact found.snoc fun _ _ => finds
    | some row =>
        cases placing
        rw [List.lookup_append]
        cases isPlaced : placed.lookup kind with
        | some earlier =>
            rw [isPlaced] at found
            exact found.snoc fun impossible => by cases impossible
        | none =>
            rw [isPlaced] at found
            by_cases ofKind : role.kind = kind
            · have here : [(role.kind, row)].lookup kind = some row := by simp [ofKind]
              rw [here]
              cases found with
              | nothing each => exact .row ofKind rfl each finds
            · have elsewhere : [(role.kind, row)].lookup kind = none := by
                have other : (kind == role.kind) = false := beq_false_of_ne (Ne.symm ofKind)
                rw [List.lookup_cons, other]
                rfl
              rw [elsewhere]
              exact found.snoc fun _ same => absurd same ofKind

theorem Locates.congr
    {other : Sheet} (same : rowOf input sheet = rowOf input other) {role : RowRole} {row : Nat}
    (locates : Locates input sheet role row) : Locates input other role row := by
  obtain ⟨finds, first⟩ := locates
  rw [same] at finds first
  exact ⟨finds, first⟩

/-- Of a kind, no more than one role locates a row. -/
theorem Locates.eq_of_parts
    {role locator : RowRole} {row : Nat} (locates : Locates input sheet role row)
    {before after : List RowRole} (parts : input.rows = before ++ locator :: after)
    (each : ∀ other ∈ before, other.kind = role.kind → rowOf input sheet other = .ok none)
    (finds : rowOf input sheet locator ≠ .ok none) (sameKind : locator.kind = role.kind) :
    locator = role := by
  obtain ⟨found, front, back, split, earlier⟩ := locates
  rcases List.append_eq_append_iff.mp (parts.symm.trans split) with
    ⟨between, same, rest⟩ | ⟨between, same, rest⟩
  · cases between with
    | nil => exact (List.cons.inj rest).1
    | cons first others =>
        have isLocator : locator = first := (List.cons.inj rest).1
        have member : locator ∈ front := by simp [same, isLocator]
        exact absurd (earlier locator member sameKind) finds
  · cases between with
    | nil => exact (List.cons.inj rest).1.symm
    | cons first others =>
        have isRole : role = first := (List.cons.inj rest).1
        have member : role ∈ before := by simp [same, isRole]
        have nothing := each role member rfl
        rw [found] at nothing
        cases nothing

/-- The placed row of a kind is the one that a role of the kind locates. -/
theorem lookup_eq_some_iff_locates
    (ran : placeRows input sheet = .ok placed) {kind : RowKind} {row : Nat} :
    placed.lookup kind = some row ↔ ∃ role, role.kind = kind ∧ Locates input sheet role row := by
  have found := found_of_placeRows ran kind
  constructor
  · intro placedAt
    rw [placedAt] at found
    cases found with
    | @row role _ before after ofKind parts each finds =>
        refine ⟨role, ofKind, finds, before, after, parts, ?_⟩
        rw [ofKind]
        exact each
  · rintro ⟨role, rfl, locates⟩
    generalize placed.lookup role.kind = result at found
    cases found with
    | nothing each =>
        obtain ⟨found, before, after, parts, _⟩ := locates
        have nothing := each role (by simp [parts]) rfl
        rw [found] at nothing
        cases nothing
    | @row locator other before after ofKind parts each finds =>
        have same : locator = role :=
          locates.eq_of_parts parts each (by rw [finds]; simp) ofKind
        rw [same, locates.finds] at finds
        cases finds
        rfl

/-! ## Cells of located rows -/

/-- What a value pattern takes from a cell. -/
def readBy (pattern : Option String) (text : String) : Outcome String :=
  trim <$> Pattern.extract pattern text

theorem readCell_eq_readBy
    {kind : RowKind} {first : RowRole} (isFirst : input.role? kind = some first) (text : String) :
    readCell input kind text = readBy first.valuePattern text := by
  unfold readCell
  rw [isFirst]
  rfl

/-- The kinds of rows whose cells a header takes values from. -/
def readKinds : List RowKind :=
  [.fieldName, .fieldType, .keyword, .fieldSummary, .defaultValue]

/-- Every cell of the rows with a part of their own is read with the value pattern of the role that
locates the row. -/
def ReadByLocators (input : Input) (sheet : Sheet) : Prop :=
  ∀ role row, role.kind ∈ readKinds → Locates input sheet role row → ∀ column,
    readCell input role.kind (sheet.text row column) =
      readBy role.valuePattern (sheet.text row column)

/-- The input with only those roles that find a row in a sheet. -/
def located (input : Input) (sheet : Sheet) : Input :=
  { input with rows := input.rows.filter fun role => rowOf input sheet role ≠ .ok none }

theorem placeRows_located (input : Input) (sheet : Sheet) :
    placeRows (located input sheet) sheet = placeRows input sheet := by
  have sameRow : rowOf (located input sheet) sheet = rowOf input sheet := rfl
  unfold placeRows
  rw [sameRow, located, List.foldlM_filter]
  congr 1
  funext placed role
  by_cases nothing : rowOf input sheet role = .ok none
  · rw [if_neg (by simp [nothing]), nothing]
    split <;> rfl
  · rw [if_pos (by simp [nothing])]

/-- Among the roles that find a row, the first of a kind is the one that locates the row. -/
theorem role?_located
    {role : RowRole} {row : Nat} (locates : Locates input sheet role row) :
    (located input sheet).role? role.kind = some role := by
  obtain ⟨finds, before, after, parts, earlier⟩ := locates
  unfold Input.role? located
  dsimp only
  rw [List.find?_filter, List.find?_eq_some_iff_append]
  refine ⟨by simp [finds], before, after, parts, ?_⟩
  intro other member
  simp only [decide_eq_true_eq, beq_iff_eq, Bool.not_eq_true', decide_eq_false_iff_not]
  exact fun passes => passes.1 (earlier other member passes.2)

section Located

variable (byLocators : ReadByLocators input sheet) (ran : placeRows input sheet = .ok placed)

include byLocators ran

theorem readCell_located
    {kind : RowKind} (member : kind ∈ readKinds) {row : Nat} (found : placed.lookup kind = some row)
    (column : Nat) :
    readCell input kind (sheet.text row column) =
      readCell (located input sheet) kind (sheet.text row column) := by
  obtain ⟨role, rfl, locates⟩ := (lookup_eq_some_iff_locates ran).mp found
  rw [readCell_eq_readBy (role?_located locates), byLocators role row member locates]

theorem readRow_located {kind : RowKind} (member : kind ∈ readKinds) (column : Nat) :
    readRow input sheet placed kind column =
      readRow (located input sheet) sheet placed kind column := by
  unfold readRow
  split
  · rfl
  · next row found => rw [readCell_located byLocators ran member found]

theorem rowDefault_located (field : Field) :
    rowDefault input sheet placed field = rowDefault (located input sheet) sheet placed field := by
  unfold rowDefault
  rw [readRow_located byLocators ran (by decide)]

theorem fieldName_located
    {nameRow : Nat} (named : placed.lookup .fieldName = some nameRow) (column : Nat) :
    fieldName input sheet placed nameRow column =
      fieldName (located input sheet) sheet placed nameRow column := by
  unfold fieldName
  dsimp only
  rw [readCell_located byLocators ran (by decide) named]

theorem readColumn_located
    {nameRow : Nat} (named : placed.lookup .fieldName = some nameRow)
    (mappings : List TypeMapping) :
    readColumn input mappings sheet placed nameRow =
      readColumn (located input sheet) mappings sheet placed nameRow := by
  have sameTags : passesTags input = passesTags (located input sheet) := rfl
  funext table column
  unfold readColumn
  rw [fieldName_located byLocators ran named, sameTags]
  simp only [readRow_located byLocators ran (show RowKind.fieldType ∈ readKinds by decide),
    readRow_located byLocators ran (show RowKind.keyword ∈ readKinds by decide),
    readRow_located byLocators ran (show RowKind.fieldSummary ∈ readKinds by decide),
    rowDefault_located byLocators ran]

end Located

theorem readHeader_located
    (settings : Settings) (run : Naming.Scope) (ref : SheetRef) {sheet : Sheet}
    (byLocators : ReadByLocators settings.input sheet) :
    readHeader settings run ref sheet =
      readHeader { settings with input := located settings.input sheet } run ref sheet := by
  unfold readHeader
  dsimp only
  rw [placeRows_located]
  have sameLabel : readLabel (located settings.input sheet) = readLabel settings.input := rfl
  rw [sameLabel]
  refine Outcome.bind_congr_ok fun label _ => ?_
  split
  · rfl
  · split
    · rfl
    · refine Outcome.bind_congr_ok fun placed ran => ?_
      split
      · rfl
      · next nameRow named =>
          rw [readColumn_located byLocators ran named]
          rfl

/-! ## Cells behind the grid -/

/-- The sheet with one more cell in a row, behind all of its columns. -/
def widened (sheet : Sheet) (row column : Nat) (cell : Value) : Sheet :=
  ⟨sheet.rows.modify (row - 1) fun cells =>
    cells ++ List.replicate (column - 1 - cells.length) .null ++ [cell]⟩

theorem rowCount_widened (sheet : Sheet) (row column : Nat) (cell : Value) :
    (widened sheet row column cell).rowCount = sheet.rowCount :=
  List.length_modify _ _ _

theorem cell_widened_self
    {row column : Nat} (first : 0 < row) (inside : row ≤ sheet.rowCount)
    (behind : sheet.columnCount < column) (cell : Value) :
    (widened sheet row column cell).cell row column = cell := by
  obtain ⟨row, rfl⟩ := Nat.exists_eq_succ_of_ne_zero (Nat.ne_of_gt first)
  obtain ⟨column, rfl⟩ := Nat.exists_eq_succ_of_ne_zero (Nat.ne_of_gt (Nat.zero_lt_of_lt behind))
  have short := length_le_columnCount (List.getElem_mem (l := sheet.rows) inside)
  have length : (sheet.rows[row] ++
      List.replicate (column - sheet.rows[row].length) Value.null).length = column := by
    rw [List.length_append, List.length_replicate]
    omega
  unfold Sheet.cell widened
  dsimp only
  rw [Nat.succ_sub_one, Nat.succ_sub_one, List.getElem?_modify, List.getElem?_eq_getElem inside]
  simp only [↓reduceIte, Option.map_eq_map, Option.map_some, Option.bind_some]
  rw [List.getElem?_append_right (Nat.le_of_eq length), length]
  simp

theorem cell_widened_of_lt
    {column : Nat} (behind : sheet.columnCount < column) (row : Nat) (cell : Value)
    (otherRow : Nat) {other : Nat} (before : other < column) :
    (widened sheet row column cell).cell otherRow other = sheet.cell otherRow other := by
  unfold Sheet.cell widened
  split
  · next otherRow other =>
      dsimp only
      rw [List.getElem?_modify]
      cases atRow : sheet.rows[otherRow]? with
      | none => rfl
      | some cells =>
          have short := length_le_columnCount (List.mem_of_getElem? atRow)
          simp only [Option.map_eq_map, Option.map_some, Option.bind_some]
          split
          · by_cases inRow : other < cells.length
            · rw [List.append_assoc, List.getElem?_append_left inRow]
            · rw [List.append_assoc, List.getElem?_append_right (Nat.le_of_not_lt inRow),
                List.getElem?_append_left (by rw [List.length_replicate]; omega),
                List.getElem?_replicate_of_lt (by omega),
                List.getElem?_eq_none (Nat.le_of_not_lt inRow)]
              rfl
          · rfl
  · rfl

theorem text_widened_of_lt
    {column : Nat} (behind : sheet.columnCount < column) (row : Nat) (cell : Value)
    (otherRow : Nat) {other : Nat} (before : other < column) :
    (widened sheet row column cell).text otherRow other = sheet.text otherRow other :=
  text_of_cell (cell_widened_of_lt behind row cell otherRow before)

theorem pos_of_rowOf
    {role : RowRole} {row : Nat} (finds : rowOf input sheet role = .ok (some row)) : 0 < row := by
  unfold rowOf at finds
  split at finds
  · next given isGiven =>
      cases finds
      obtain ⟨-, positive⟩ := Option.filter_eq_some_iff.mp isGiven
      simpa using positive
  · split at finds
    · cases finds
    · obtain ⟨matcher, -, found⟩ := Outcome.bind_eq_ok_iff.mp finds
      rw [Outcome.pure_eq_ok_iff] at found
      have member := List.mem_of_find?_eq_some found
      rw [List.mem_range'_1] at member
      omega
  · cases finds

/-! ## Patterns -/

/-- The first role of a kind takes from every text what the role takes that locates the row, as far
as the row can hold the text. -/
def PatternsAgree (input : Input) : Prop :=
  ∀ sheet placed role row, placeRows input sheet = .ok placed → role.kind ∈ readKinds →
    Locates input sheet role row → ∀ first, input.role? role.kind = some first →
      ∀ text, trim text = text → (row ≤ sheet.rowCount ∨ text = "") →
        readBy first.valuePattern text = readBy role.valuePattern text

/-- A text that a row can hold can be written where nothing else looks at it. -/
theorem exists_text
    (sheet : Sheet) (input : Input) {row : Nat} (first : 0 < row) {text : String}
    (trimmed : trim text = text) (held : row ≤ sheet.rowCount ∨ text = "") :
    ∃ other column, rowOf input sheet = rowOf input other ∧ other.text row column = text := by
  by_cases inside : row ≤ sheet.rowCount
  · let column := max sheet.columnCount input.labelColumn + 1
    have behind : sheet.columnCount < column := by omega
    have beforeColumn : input.labelColumn < column := by omega
    refine ⟨widened sheet row column (.text text), column, rowOf_congr ?_ ?_, ?_⟩
    · exact (rowCount_widened sheet row column _).symm
    · exact fun other => (text_widened_of_lt behind row _ other beforeColumn).symm
    · rw [Sheet.text, cell_widened_self first inside behind]
      exact trimmed
  · refine ⟨sheet, 0, rfl, ?_⟩
    rw [held.resolve_left inside, Sheet.text, cell_of_outside (Or.inl (Nat.lt_of_not_le inside))]
    rfl

/-- The cells of every sheet are read with the value patterns of the roles that locate their rows
exactly if these patterns agree with those of the first roles of their kinds.  Where the cells of a
sheet are read so, its header is the one that the locating roles alone give. -/
theorem read_by_locators_iff (input : Input) :
    ((∀ sheet placed, placeRows input sheet = .ok placed → ReadByLocators input sheet) ↔
        PatternsAgree input) ∧
      ∀ settings run ref sheet, settings.input = input → ReadByLocators input sheet →
        readHeader settings run ref sheet =
          readHeader { settings with input := located input sheet } run ref sheet := by
  refine ⟨⟨?_, ?_⟩, ?_⟩
  · intro byLocators sheet placed role row ran member locates first isFirst text trimmed held
    obtain ⟨other, column, same, written⟩ :=
      exists_text sheet input (pos_of_rowOf locates.finds) trimmed held
    rw [placeRows_congr same] at ran
    have read := byLocators other placed ran role row member (locates.congr same) column
    rw [written, readCell_eq_readBy isFirst] at read
    exact read
  · intro agree sheet placed ran role row member locates column
    obtain ⟨before, after, parts, -⟩ := locates.first
    have present : (input.role? role.kind).isSome = true :=
      List.find?_isSome.mpr ⟨role, by simp [parts], beq_self_eq_true _⟩
    obtain ⟨first, isFirst⟩ := Option.isSome_iff_exists.mp present
    rw [readCell_eq_readBy isFirst]
    refine agree sheet placed role row ran member locates first isFirst _ (trim_trim _) ?_
    by_cases inside : row ≤ sheet.rowCount
    · exact Or.inl inside
    · right
      rw [Sheet.text, cell_of_outside (Or.inl (Nat.lt_of_not_le inside))]
      rfl
  · rintro settings run ref sheet rfl byLocators
    exact readHeader_located settings run ref byLocators

/-! ## A fallback -/

/-- A role for a row of types that is marked by its label. -/
def markedTypes : RowRole :=
  { kind := .fieldType, pattern := some "#type", valuePattern := some "^.+!$" }

/-- A role for a row of types in the third place. -/
def thirdRowTypes : RowRole :=
  { kind := .fieldType, index := some 3 }

/-- An input whose types are in the third row where no label marks them. -/
def fallbackInput : Input where
  rows := [{ kind := .fieldName, index := some 2 }, markedTypes, thirdRowTypes,
    { kind := .data, index := some 4 }]

/-- A sheet without a label that marks its types. -/
def itemSheet : Sheet :=
  .ofTexts [["Items"], ["Id"], ["int"], ["1"]]

/-- The row of types is located by the role without a value pattern and read with the pattern of the
other, which takes nothing from its cells: the declared type is lost. -/
theorem types_read_by_other_role :
    placeRows fallbackInput itemSheet = .ok [(.fieldName, 2), (.fieldType, 3), (.data, 4)] ∧
      ¬ReadByLocators fallbackInput itemSheet ∧
      (readHeader { input := fallbackInput } .empty ⟨"memory", "Item", 0⟩
          itemSheet).toOption.join.map (fun header =>
        header.1.fields.map fun field => (field.name, field.declared)) =
          some [("Id", "string")] := by
  refine ⟨by decide +kernel, ?_, by decide +kernel⟩
  intro byLocators
  have locates : Locates fallbackInput itemSheet thirdRowTypes 3 := by
    refine ⟨rfl, [{ kind := .fieldName, index := some 2 }, markedTypes], _, rfl, ?_⟩
    intro other member ofKind
    rcases List.mem_pair.mp member with rfl | rfl
    · cases ofKind
    · decide +kernel
  have read := byLocators thirdRowTypes 3 (by decide) locates 1
  revert read
  decide +kernel

end TypedTables.Discover
