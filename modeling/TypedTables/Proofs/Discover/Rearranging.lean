import Mathlib.Data.List.Find
import TypedTables.Proofs.Discover.Schemas
import TypedTables.Proofs.Discover.Stages

/-!
# Orders of sheets

The order of the sheets decides in which order the tables come, and nothing else.  A table knows the
position of its sheet, but nothing that is read from the sheet depends on it, and types are resolved
only once the names of all tables are known.
-/

namespace TypedTables.Discover

open TypedTables.Schema TypedTables.Config TypedTables.Text

/-- A table as if its sheet were the first of its file. -/
def withoutOrigin (table : Table) : Table :=
  { table with origin := 0 }

/-- What is loaded of a table as if its sheet were the first of its file. -/
def LoadedTable.withoutOrigin (entry : LoadedTable) : LoadedTable :=
  { entry with table := Discover.withoutOrigin entry.table }

/-! ## Headers -/

section Headers

open TypedTables.Keyword (Subject applyToken applyTokens)

/-- A subject as if the sheet of its table were the first of its file. -/
def subjectWithoutOrigin (subject : Subject) : Subject :=
  { subject with table := withoutOrigin subject.table }

theorem applyToken_withoutOrigin (subject : Subject) (token : Keyword.Token) :
    applyToken (subjectWithoutOrigin subject) token =
      subjectWithoutOrigin <$> applyToken subject token := by
  unfold applyToken
  dsimp only
  generalize token.word = word
  split
  -- An index may be no number, and a default may not suit its field.
  case h_9 | h_13 =>
    rw [map_bind]
    rfl
  case h_12 =>
    split <;> rfl
  all_goals rfl

theorem applyTokens_withoutOrigin (tokens : List Keyword.Token) (subject : Subject) :
    applyTokens (subjectWithoutOrigin subject) tokens =
      (subjectWithoutOrigin (applyTokens subject tokens).1, (applyTokens subject tokens).2) := by
  induction tokens generalizing subject with
  | nil => rfl
  | cons token rest inductionHypothesis =>
      rw [applyTokens, applyTokens, applyToken_withoutOrigin]
      cases applyToken subject token with
      | error failure => rfl
      | ok next => exact inductionHypothesis next

theorem applyCell_withoutOrigin (table : Table) (field : Field) (text : String) :
    Keyword.applyCell ⟨withoutOrigin table, field⟩ text =
      (subjectWithoutOrigin (Keyword.applyCell ⟨table, field⟩ text).1,
        (Keyword.applyCell ⟨table, field⟩ text).2) :=
  applyTokens_withoutOrigin (Keyword.tokens text) ⟨table, field⟩

theorem readColumn_withoutOrigin
    (input : Input) (mappings : List TypeMapping) (sheet : Sheet) (placed : PlacedRows)
    (nameRow : Nat) (table : Table) (column : Nat) :
    withoutOrigin <$> readColumn input mappings sheet placed nameRow table column =
      readColumn input mappings sheet placed nameRow (withoutOrigin table) column := by
  unfold readColumn
  rw [map_bind]
  refine congrArg _ (funext fun found => ?_)
  cases found with
  | none => rfl
  | some name =>
      dsimp only
      rw [map_bind]
      refine congrArg _ (funext fun declared => ?_)
      rw [map_bind]
      refine congrArg _ (funext fun keywords => ?_)
      have sameFields : (withoutOrigin table).fields = table.fields := rfl
      simp only [sameFields, applyCell_withoutOrigin]
      generalize Keyword.applyCell (Subject.mk table _) (keywords.getD "") = applied
      obtain ⟨⟨marked, field⟩, failure⟩ := applied
      cases failure with
      | some failure => rfl
      | none =>
          dsimp only [subjectWithoutOrigin]
          by_cases leftOut : (field.isExcluded || !passesTags input field) = true
          · rw [if_pos leftOut, if_pos leftOut]
            rfl
          · rw [if_neg leftOut, if_neg leftOut]
            simp only [map_bind, map_pure, withoutOrigin]

/-- But for its position, a table depends on the label and on the cells of its sheet only. -/
theorem readHeader_withoutOrigin
    (settings : Settings) (run : Naming.Scope) (ref : SheetRef) (sheet : Sheet) :
    Option.map (Prod.map withoutOrigin id) <$> readHeader settings run ref sheet =
      readHeader settings run ⟨"", ref.name, 0⟩ sheet := by
  unfold readHeader
  dsimp only
  rw [map_bind]
  refine congrArg _ (funext fun label => ?_)
  rcases label with _ | ⟨label, description⟩
  · rfl
  · dsimp only
    by_cases unnamed : (Naming.sanitize (trim label)).isEmpty = true
    · rw [if_pos unnamed, if_pos unnamed]
      rfl
    · rw [if_neg unnamed, if_neg unnamed, map_bind]
      refine congrArg _ (funext fun placed => ?_)
      cases placed.lookup .fieldName with
      | none => rfl
      | some nameRow =>
          have columns := Outcome.map_foldlM
            (readColumn_withoutOrigin settings.input settings.typeMappings sheet placed nameRow)
            (fieldColumns settings.input sheet)
          have start : ∀ about, ({ Table.named (Naming.sanitize (trim label)) run with
              origin := 0, description := about } : Table) =
                withoutOrigin { Table.named (Naming.sanitize (trim label)) run with
                  origin := ref.index, description := about } :=
            fun _ => rfl
          dsimp only
          rw [start, ← columns, bind_map_left, map_bind]
          refine congrArg _ (funext fun table => ?_)
          rw [map_pure]
          have sameFields : (withoutOrigin table).fields = table.fields := rfl
          rw [sameFields]
          by_cases empty : table.fields.isEmpty = true
          · rw [if_pos empty, if_pos empty]
            rfl
          · rw [if_neg empty, if_neg empty]
            rfl

end Headers

/-! ## Sheets -/

/-- A sheet as a file gives it to its readers: its label, and what loading it gives. -/
abbrev Content := String × Outcome Sheet

/-- The sheet that a place stands for. -/
def SheetProvider.content (provider : SheetProvider) (ref : SheetRef) : Content :=
  (ref.name, provider.load ref)

/-- Providers of the same sheets, each in an order of its own. -/
def Rearranged (left right : SheetProvider) : Prop :=
  ∃ refs others, left.sheets = .ok refs ∧ right.sheets = .ok others ∧
    (refs.map left.content).Perm (others.map right.content)

theorem Rearranged.symm {left right : SheetProvider} (same : Rearranged left right) :
    Rearranged right left := by
  obtain ⟨refs, others, listed, listedOthers, rearranged⟩ := same
  exact ⟨others, refs, listedOthers, listed, rearranged.symm⟩

theorem content_ofList (sheets : List (String × Sheet)) :
    ∃ refs, (SheetProvider.ofList sheets).sheets = .ok refs ∧
      refs.map (SheetProvider.ofList sheets).content =
        sheets.map fun entry => (entry.1, .ok entry.2) := by
  refine ⟨_, rfl, ?_⟩
  apply List.ext_getElem
  · simp
  · intro position inside _
    have present : position < sheets.length := by simpa using inside
    simp [SheetProvider.content, SheetProvider.ofList, List.getElem?_eq_getElem present]

/-- Two orders of a list of sheets are two providers of the same sheets. -/
theorem rearranged_ofList {sheets others : List (String × Sheet)} (same : sheets.Perm others) :
    Rearranged (.ofList sheets) (.ofList others) := by
  obtain ⟨refs, listed, contents⟩ := content_ofList sheets
  obtain ⟨otherRefs, listedOthers, otherContents⟩ := content_ofList others
  refine ⟨refs, otherRefs, listed, listedOthers, ?_⟩
  rw [contents, otherContents]
  exact same.map _

/-- What is loaded of the table of a sheet, if it is one, as if it were the first of its file. -/
def readContent (settings : Settings) (run : Naming.Scope) (content : Content) :
    Outcome (Option LoadedTable) := do
  let sheet ← content.2
  let header ← readHeader settings run ⟨"", content.1, 0⟩ sheet
  return header.map fun entry => ⟨entry.1, sheet, entry.2⟩

theorem readSheet_withoutOrigin
    (settings : Settings) (run : Naming.Scope) (provider : SheetProvider) (ref : SheetRef) :
    Option.map LoadedTable.withoutOrigin <$> Source.readSheet settings run provider ref =
      readContent settings run (provider.content ref) := by
  unfold Source.readSheet readContent SheetProvider.content
  dsimp only
  rw [map_bind]
  refine congrArg _ (funext fun sheet => ?_)
  rw [← readHeader_withoutOrigin, map_bind, bind_map_left]
  refine congrArg _ (funext fun header => ?_)
  rw [map_pure, Option.map_map, Option.map_map]
  rfl

/-! ## Types -/

theorem declaredType_congr
    {mappings : List TypeMapping} {tables others : TableSet}
    (same : ∀ name, (tables.get? name).map tableType = (others.get? name).map tableType)
    (declared : String) :
    declaredType mappings tables declared = declaredType mappings others declared := by
  have bases : ∀ name, baseType mappings tables name = baseType mappings others name := by
    intro name
    have found := same (Naming.sanitize ((mapped? mappings name).getD name))
    unfold baseType
    cases builtinBase? mappings name with
    | some type => rfl
    | none =>
        dsimp only
        generalize tables.get? (Naming.sanitize ((mapped? mappings name).getD name)) = first
          at found ⊢
        generalize others.get? (Naming.sanitize ((mapped? mappings name).getD name)) = second
          at found ⊢
        cases first with
        | none =>
            cases second with
            | none => rfl
            | some _ => cases found
        | some _ =>
            cases second with
            | none => cases found
            | some _ => exact congrArg Except.ok (Option.some.inj found)
  simp only [declaredType, bases]

theorem typedTable_congr
    {mappings : List TypeMapping} {tables others : TableSet}
    (same : ∀ name, (tables.get? name).map tableType = (others.get? name).map tableType) :
    typedTable mappings tables = typedTable mappings others := by
  have fields : typedField mappings tables = typedField mappings others := by
    funext field
    rw [typedField, typedField, declaredType_congr same]
  funext entry
  rw [typedTable, typedTable, fields]

theorem typedTable_withoutOrigin
    (mappings : List TypeMapping) (tables : TableSet) (entry : LoadedTable) :
    LoadedTable.withoutOrigin <$> typedTable mappings tables entry =
      typedTable mappings tables entry.withoutOrigin := by
  unfold typedTable
  rw [map_bind]
  rfl

/-! ## Tables by name -/

/-- Entries of the same tables, but for the positions of their sheets, in different orders. -/
def SameEntries (left right : List LoadedTable) : Prop :=
  (left.map LoadedTable.withoutOrigin).Perm (right.map LoadedTable.withoutOrigin)

namespace SameEntries

variable {left right : List LoadedTable}

theorem of_read
    (loaded : List LoadedTable) {read others : List (Option LoadedTable)}
    (same : (read.map (Option.map LoadedTable.withoutOrigin)).Perm
      (others.map (Option.map LoadedTable.withoutOrigin))) :
    SameEntries (loaded ++ read.reduceOption) (loaded ++ others.reduceOption) := by
  have tables : (read.reduceOption.map LoadedTable.withoutOrigin).Perm
      (others.reduceOption.map LoadedTable.withoutOrigin) := by
    rw [← List.reduceOption_map, ← List.reduceOption_map]
    exact same.filterMap id
  unfold SameEntries
  rw [List.map_append, List.map_append]
  exact tables.append_left _

theorem checked
    (same : SameEntries left right)
    (passes : ∀ entry ∈ left, entry.table.validateIndices = .ok ()) :
    ∀ entry ∈ right, entry.table.validateIndices = .ok () := by
  intro entry member
  have shown : entry.withoutOrigin ∈ left.map LoadedTable.withoutOrigin :=
    same.mem_iff.mpr (List.mem_map_of_mem member)
  obtain ⟨origin, present, sameEntry⟩ := List.mem_map.mp shown
  have passed : origin.withoutOrigin.table.validateIndices = .ok () := passes origin present
  rw [sameEntry] at passed
  exact passed

theorem namesApart (same : SameEntries left right) :
    Source.NamesApart left ↔ Source.NamesApart right := by
  have names : ∀ loaded : List LoadedTable,
      (loaded.map fun entry => lowercase entry.table.name) =
        (loaded.map LoadedTable.withoutOrigin).map fun entry => lowercase entry.table.name := by
    intro loaded
    rw [List.map_map]
    rfl
  unfold Source.NamesApart
  rw [names left, names right]
  exact (same.map _).nodup_iff

/-- Where names differ, the order of the tables does not decide which of them has a name. -/
theorem find?
    (same : SameEntries left right) (apart : Source.NamesApart left) (name : String) :
    (left.find? fun entry => lowercase entry.table.name == lowercase name).map
        LoadedTable.withoutOrigin =
      (right.find? fun entry => lowercase entry.table.name == lowercase name).map
        LoadedTable.withoutOrigin := by
  have blind : ∀ loaded : List LoadedTable,
      (loaded.find? fun entry => lowercase entry.table.name == lowercase name).map
          LoadedTable.withoutOrigin =
        (loaded.map LoadedTable.withoutOrigin).find? fun entry =>
          lowercase entry.table.name == lowercase name := by
    intro loaded
    rw [List.find?_map]
    rfl
  rw [blind, blind]
  apply List.find?_eq_find?_of_perm same
  rintro first ⟨inFirst, firstNamed⟩ second ⟨inSecond, secondNamed⟩
  have names : ((left.map LoadedTable.withoutOrigin).map
      fun entry => lowercase entry.table.name).Nodup := by
    rw [List.map_map]
    exact apart
  exact List.inj_on_of_nodup_map names inFirst inSecond
    ((eq_of_beq firstNamed).trans (eq_of_beq secondNamed).symm)

/-- A name is that of the same table. -/
theorem get?
    (same : SameEntries left right) (apart : Source.NamesApart left) (name : String) :
    ((TableSet.mk (left.map (·.table))).get? name).map Discover.withoutOrigin =
      ((TableSet.mk (right.map (·.table))).get? name).map Discover.withoutOrigin := by
  have found := congrArg (Option.map (·.table)) (same.find? apart name)
  rw [Option.map_map, Option.map_map] at found
  rw [TableSet.get?, TableSet.get?, List.find?_map, List.find?_map, Option.map_map, Option.map_map]
  exact found

theorem tableType
    (same : SameEntries left right) (apart : Source.NamesApart left) (name : String) :
    ((TableSet.mk (left.map (·.table))).get? name).map Discover.tableType =
      ((TableSet.mk (right.map (·.table))).get? name).map Discover.tableType := by
  have found := congrArg (Option.map Discover.tableType) (same.get? apart name)
  rw [Option.map_map, Option.map_map] at found
  exact found

end SameEntries

/-! ## Openings -/

namespace Source

variable {settings : Settings} {run : Naming.Scope} {left right : SheetProvider} {source : Source}

/-- Sources of the same tables and rows: nothing but the order of the tables, and with it the
positions of their sheets, can tell them apart. -/
structure SameTables (first second : Source) : Prop where
  tables : (first.tables.tables.map withoutOrigin).Perm (second.tables.tables.map withoutOrigin)
  schemas : ∀ name, (first.tables.get? name).map withoutOrigin =
    (second.tables.get? name).map withoutOrigin
  rows : ∀ name, first.rows name = second.rows name

theorem SameTables.refl (source : Source) : SameTables source source :=
  ⟨.refl _, fun _ => rfl, fun _ => rfl⟩

theorem sameTables_of_entries
    {first second : Source} (same : SameEntries first.loaded second.loaded)
    (apart : NamesApart first.loaded) : SameTables first second where
  tables := by
    have tables := same.map (·.table)
    rw [List.map_map, List.map_map] at tables
    rw [Source.tables, Source.tables, List.map_map, List.map_map]
    exact tables
  schemas := same.get? apart
  rows name := by
    have found := same.find? apart name
    unfold rows loaded?
    generalize (first.loaded.find? fun entry => lowercase entry.table.name == lowercase name) =
      here at found ⊢
    generalize (second.loaded.find? fun entry => lowercase entry.table.name == lowercase name) =
      there at found ⊢
    cases here with
    | none =>
        cases there with
        | none => rfl
        | some _ => cases found
    | some entry =>
        cases there with
        | none => cases found
        | some other =>
            have sameEntry : entry.withoutOrigin = other.withoutOrigin := Option.some.inj found
            simp only [LoadedTable.withoutOrigin, Discover.withoutOrigin, LoadedTable.mk.injEq,
              Table.mk.injEq] at sameEntry
            obtain ⟨⟨_, _, _, fields, _, _⟩, sheet, dataRow⟩ := sameEntry
            dsimp only
            rw [fields, sheet, dataRow]

theorem openWith_of_rearranged
    (reached : Reached settings run source) (closed : source.isOpen = false)
    (same : Rearranged left right) {last : Source}
    (opened : source.openWith settings run left = (last, .ok ())) :
    ∃ other, source.openWith settings run right = (other, .ok ()) ∧ SameTables last other := by
  have apart : NamesApart source.loaded := (tidy_of_reached reached).1.names
  have lastApart : NamesApart last.loaded := by
    have names := (tidy_of_reached (Reached.opened left reached)).1.names
    rwa [opened] at names
  obtain ⟨refs, others, listed, listedOthers, rearranged⟩ := same
  obtain ⟨read, done⟩ := (openWith_eq_ok_iff closed apart listed).mp opened
  obtain ⟨readOthers, readRan, readSame⟩ := Outcome.mapM_rearranged
    (readSheet_withoutOrigin settings run left) (readSheet_withoutOrigin settings run right)
    rearranged done.sheets
  have found : SameEntries (source.loaded ++ read.reduceOption)
      (source.loaded ++ readOthers.reduceOption) :=
    .of_read source.loaded readSame
  -- both orders look types up among the same tables
  have typedOthers : ∀ entry, LoadedTable.withoutOrigin <$> typedTable settings.typeMappings
      ⟨(source.loaded ++ readOthers.reduceOption).map (·.table)⟩ entry =
        typedTable settings.typeMappings
          ⟨(source.loaded ++ read.reduceOption).map (·.table)⟩ entry.withoutOrigin := by
    intro entry
    rw [typedTable_congr (found.tableType done.namesApart)]
    exact typedTable_withoutOrigin settings.typeMappings _ entry
  obtain ⟨typed, typedRan, typedSame⟩ := Outcome.mapM_rearranged
    (typedTable_withoutOrigin settings.typeMappings _) typedOthers found done.typed
  have resolved : SameEntries last.loaded typed := typedSame
  refine ⟨⟨typed, true⟩, ?_, sameTables_of_entries resolved lastApart⟩
  refine (openWith_eq_ok_iff closed apart listedOthers).mpr ⟨readOthers, ?_⟩
  exact ⟨done.placed, readRan, found.namesApart.mp done.namesApart, typedRan,
    resolved.checked done.checked, rfl⟩

/-- Opening does not depend on the order of the sheets: it succeeds for both orders or for none, and
if it does the tables and their rows are the same. -/
theorem openWith_rearranged
    (reached : Reached settings run source) (same : Rearranged left right) :
    ((source.openWith settings run left).2 = .ok () ↔
        (source.openWith settings run right).2 = .ok ()) ∧
      ((source.openWith settings run left).2 = .ok () →
        SameTables (source.openWith settings run left).1
          (source.openWith settings run right).1) := by
  cases isOpen : source.isOpen with
  | true =>
      rw [openWith, openWith, if_pos isOpen, if_pos isOpen]
      exact ⟨Iff.rfl, fun _ => .refl source⟩
  | false =>
      refine ⟨⟨?_, ?_⟩, ?_⟩
      · intro succeeds
        obtain ⟨other, opened, _⟩ := openWith_of_rearranged reached isOpen same
          (Prod.ext rfl succeeds)
        rw [opened]
      · intro succeeds
        obtain ⟨other, opened, _⟩ := openWith_of_rearranged reached isOpen same.symm
          (Prod.ext rfl succeeds)
        rw [opened]
      · intro succeeds
        obtain ⟨other, opened, sameTables⟩ := openWith_of_rearranged reached isOpen same
          (Prod.ext rfl succeeds)
        rw [opened]
        exact sameTables

/-- Two sheets of tables that refer to each other. -/
def heroSheets : List (String × Sheet) := [
  ("Hero", .ofTexts [[], ["Id", "Item"], ["int", "Item"], [], [], ["1", "7"]]),
  ("Item", .ofTexts [[], ["Id", "Owners"], ["int", "Hero[]"], [], [], ["7", ""]])]

theorem openWith_rearranged_heroes :
    let forth := ({} : Source).openWith {} .empty (.ofList heroSheets)
    let back := ({} : Source).openWith {} .empty (.ofList heroSheets.reverse)
    forth.2 = .ok () ∧ back.2 = .ok () ∧ SameTables forth.1 back.1 ∧
      forth.1.tables.tables.map (fun table => (table.name, table.origin)) =
        [("Hero", 0), ("Item", 1)] ∧
      back.1.tables.tables.map (fun table => (table.name, table.origin)) =
        [("Item", 0), ("Hero", 1)] := by
  have succeeds : (({} : Source).openWith {} .empty (.ofList heroSheets)).2 = .ok () :=
    Outcome.eq_ok_of_toOption (by decide +kernel)
  obtain ⟨together, sameTables⟩ := openWith_rearranged Reached.new
    (rearranged_ofList (List.reverse_perm heroSheets).symm)
  exact ⟨succeeds, together.mp succeeds, sameTables succeeds, by decide +kernel, by decide +kernel⟩

end Source

end TypedTables.Discover
