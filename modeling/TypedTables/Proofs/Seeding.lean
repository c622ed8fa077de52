import TypedTables.Proofs.Discover.Schemas
import TypedTables.Proofs.Loading

/-!
# Members of new records

A new record gives every member the value that a blank cell has, but it looks the column of a member
up with letter case ignored, and rows do not.  So where columns differ in nothing but letter case,
all their members start as the first of them.
-/

namespace TypedTables

open TypedTables.Schema TypedTables.Manifest TypedTables.Binding TypedTables.Convert
open TypedTables.Discover TypedTables.Generate
open TypedTables.Config (Code Settings)

variable {source : Source} {code : Code} {names : TypeNames} {lookup : Lookup} {fresh : Fresh}

/-- What a blank cell of a column becomes for a member of a type. -/
def blankCell (lookup : Lookup) (column : Field) (type : TypeRef) : Outcome Value :=
  ((lookup.convertCell column type {} .null).run.run []).1

/-- The value of a member of a record. -/
def memberValue? : Value → String → Option Value
  | .record _ entries, name => entryValue? name entries
  | _, _ => none

/-! ## Blank cells -/

/-- A type that does not ask for a record of an enumeration. -/
def SparesEnumerations (tables : TableSet) (type : TypeRef) : Prop :=
  ∀ name table, type = .table name → tables.get? name = some table → table.isEnum = false

theorem sparesEnumerations_of_refersTo
    (prepared : Prepared source code names lookup) {type : TypeRef}
    (refers : RefersTo lookup.tables type) : SparesEnumerations lookup.tables type := by
  rintro name table rfl found
  obtain ⟨other, _, named⟩ := prepared.table_of_hasTable refers
  rw [named.found, Option.some.injEq] at found
  rw [← found]
  exact named.notEnum

/-- Where the innermost scope is no list, a blank value becomes the zero of its type. -/
theorem convertLevels_blank
    (prepared : Prepared source code names lookup) {field : Field} {type : TypeRef}
    (spares : SparesEnumerations lookup.tables type) {scopes : Scopes}
    (outside : scopes.innermost? ≠ some .array) {value : Value} (blank : value.isEmpty = true)
    (levels : Nat) :
    convertLevels lookup fresh field levels type scopes value = zeroOf lookup fresh type := by
  cases type with
  | primitive _ | enumeration _ | external _ =>
      rw [convertLevels_leaf prepared.standard levels (by trivial), convertLast, if_pos blank]
  | array item =>
      rw [convertLevels_array prepared.standard]
      unfold convertList
      rw [if_pos blank]
      rfl
  | table name =>
      rw [convertLevels_table prepared.standard]
      cases found : lookup.tables.get? name with
      | none => simp only [convertRecord, zeroOf, found, convertLast, if_pos blank, pure_bind]
      | some table =>
          have member : table ∈ source.tables.tables := by
            rw [← prepared.tables]
            exact (mem_of_get? found).1
          obtain ⟨descriptor, bound, _⟩ := prepared.agreement.bound table member
          simp only [convertRecord, zeroOf, found, bound, if_pos blank]
          rcases kind_of_notEnum (spares name table rfl found) with reference | inPlace
          · rw [if_pos (by simp [reference, outside]), if_neg (by simp [reference])]
            rfl
          · rw [if_neg (by simp [inPlace]), if_pos inPlace, map_eq_pure_bind, bind_assoc]
            simp

/-- A blank cell is as an empty one. -/
theorem changeTypeOrDefault_blank
    (prepared : Prepared source code names lookup) {field : Field} {type : TypeRef}
    (refers : RefersTo lookup.tables type) {value : Value} (blank : value.isEmpty = true) :
    changeTypeOrDefault lookup fresh field type {} value =
      changeTypeOrDefault lookup fresh field type {} .null := by
  unfold changeTypeOrDefault
  cases field.default with
  | some default =>
      dsimp only
      rw [if_pos blank]
      rfl
  | none =>
      unfold changeType
      dsimp only
      have spares := sparesEnumerations_of_refersTo prepared refers
      rw [convertLevels_blank prepared spares (by decide) blank,
        convertLevels_blank prepared spares (by decide) rfl]

/-- A member starts as a blank cell of the column that its name finds. -/
theorem seedMember_eq
    (prepared : Prepared source code names lookup) {table : Table} {member : BoundMember}
    {column : Field} (found : table.field? member.name = some column)
    (refers : RefersTo lookup.tables member.type) :
    seedMember lookup fresh table member =
      changeTypeOrDefault lookup fresh column member.type {} .null := by
  unfold seedMember
  rw [found]
  dsimp only
  by_cases given : column.default.isSome = true
  · rw [if_pos given]
  · have absent : column.default = none := by simpa using given
    rw [if_neg given, changeTypeOrDefault, absent]
    unfold changeType
    dsimp only
    rw [convertLevels_blank prepared (sparesEnumerations_of_refersTo prepared refers) (by decide)
      rfl]

theorem convertCell_ensures
    (prepared : Prepared source code names lookup) (column : Field) (type : TypeRef) :
    Ensures lookup (lookup.convertCell column type {} .null)
      fun value => blankCell lookup column type = .ok value := by
  have steady : Steady lookup (lookup.convertCell column type {} .null) :=
    changeTypeOrDefault_steady prepared.distinctTypes (prepared.fresh_steady instanceLimit) _ _ _
  obtain ⟨outcome, holds⟩ := steady
  refine Satisfies.weaken holds ?_
  rintro _ rfl value given
  rw [← given]
  exact (holds [] soundCache_nil).1

/-! ## Members of records -/

/-- Entries under the names of a table's columns have one for each column. -/
theorem memberValue?_of_entries
    {tables : TableSet} {table : Table} {descriptor : Descriptor}
    (columns : Columns tables table descriptor) (post : BoundMember → Value → Prop)
    {entries : List (String × Value)}
    (keys : entryKeys entries = (declaredMembers descriptor).map (·.2.name))
    (each : ∀ new ∈ entries, ∃ entry ∈ declaredMembers descriptor,
      new.1 = entry.2.name ∧ post entry.2 new.2)
    {column : Field} (member : column ∈ table.fields) (typeName : String) :
    ∃ value, memberValue? (.record typeName entries) column.name = some value ∧
      post (boundColumn column).2 value := by
  have names : entryKeys entries = table.fields.map (·.name) := by
    rw [keys, columns.members, List.map_map]
    rfl
  have present : column.name ∈ entryKeys entries := by
    rw [names]
    exact List.mem_map_of_mem member
  obtain ⟨value, found⟩ := Option.isSome_iff_exists.mp (entryValue?_isSome_iff.mpr present)
  refine ⟨value, found, ?_⟩
  obtain ⟨entry, inMembers, sameName, holds⟩ := each _ (mem_of_entryValue? found)
  rw [columns.members] at inMembers
  obtain ⟨other, inFields, rfl⟩ := List.mem_map.mp inMembers
  have same : column = other := List.inj_on_of_nodup_map columns.distinct member inFields sameName
  rw [same]
  exact holds

/-- What a member of a loaded record is where the cell of its column is blank. -/
def BlankAs (lookup : Lookup) (table : Table) (row : RawRow) (member : BoundMember)
    (value : Value) : Prop :=
  ∀ position column, table.fields[position]? = some column → column.name = member.name →
    (row.cell position).isEmpty = true → blankCell lookup column member.type = .ok value

theorem convertMember_ensures
    (prepared : Prepared source code names lookup) {table : Table} {descriptor : Descriptor}
    (columns : Columns lookup.tables table descriptor) (row : RawRow) {member : BoundMember}
    (refers : RefersTo lookup.tables member.type) :
    Ensures lookup (convertMember lookup table row member) (BlankAs lookup table row member) := by
  have freshSteady := prepared.fresh_steady instanceLimit
  unfold convertMember
  cases placed : fieldPosition? table member with
  | none =>
      refine (zeroOf_steady prepared.distinctTypes freshSteady _).ensures.weaken ?_
      intro _ _ position column atPosition named
      have apart := List.findIdx?_eq_none_iff.mp placed column (List.mem_of_getElem? atPosition)
      simp [named] at apart
  | some position =>
      obtain ⟨inside, named, _⟩ := List.findIdx?_eq_some_iff_getElem.mp placed
      have atPosition : table.fields[position]? = some table.fields[position] :=
        List.getElem?_eq_getElem inside
      -- no other column has the name of the member
      have only : ∀ other column, table.fields[other]? = some column →
          column.name = member.name → other = position ∧ column = table.fields[position] := by
        intro other column atOther sameName
        have same : column = table.fields[position] :=
          List.inj_on_of_nodup_map columns.distinct (List.mem_of_getElem? atOther)
            (List.getElem_mem inside) (sameName.trans (eq_of_beq named).symm)
        refine ⟨?_, same⟩
        rw [same, ← atPosition] at atOther
        exact ((List.getElem?_inj inside (List.Nodup.of_map _ columns.distinct)).mp
          atOther.symm).symm
      dsimp only
      rw [atPosition]
      dsimp only
      by_cases blank : (row.cell position).isEmpty = true
      · unfold Lookup.convertCell
        rw [changeTypeOrDefault_blank prepared refers blank]
        refine (reporting_ensures (convertCell_ensures prepared _ _)).weaken ?_
        intro value given other column atOther sameName _
        rw [(only other column atOther sameName).2]
        exact given
      · have steady : Steady lookup
            (lookup.convertCell table.fields[position] member.type {} (row.cell position)) :=
          changeTypeOrDefault_steady prepared.distinctTypes freshSteady _ _ _
        refine (reporting_ensures steady.ensures).weaken ?_
        intro value _ other column atOther sameName isBlank
        rw [(only other column atOther sameName).1] at isBlank
        exact absurd isBlank blank

theorem seedMember_ensures
    (prepared : Prepared source code names lookup) {room : Nat} (within : room ≤ instanceLimit)
    {table : Table} {member : BoundMember} {column : Field}
    (found : table.field? member.name = some column)
    (refers : RefersTo lookup.tables member.type) :
    Ensures lookup (seedMember lookup (instantiate lookup room) table member)
      fun value => blankCell lookup column member.type = .ok value := by
  rw [seedMember_eq prepared found refers]
  intro cache sound
  have refined : Refines
      (changeTypeOrDefault lookup (instantiate lookup room) column member.type {} .null)
      (lookup.convertCell column member.type {} .null) :=
    compositional_refines.changeTypeOrDefault (instantiate_refines within) _ _ _
  have steady : Steady lookup
      (changeTypeOrDefault lookup (instantiate lookup room) column member.type {} .null) :=
    changeTypeOrDefault_steady prepared.distinctTypes (prepared.fresh_steady room) _ _ _
  obtain ⟨_, holds⟩ := steady
  refine ⟨?_, (holds cache sound).2⟩
  intro value given
  have ran := refined cache value _ (Prod.ext given rfl)
  exact (convertCell_ensures prepared column member.type).of_run sound ran

/-! ## Records -/

theorem convertRow_blank
    (prepared : Prepared source code names lookup) {table : Table} {descriptor : Descriptor}
    (columns : Columns lookup.tables table descriptor) (row : RawRow) :
    Ensures lookup (convertRow lookup table descriptor (declaredMembers descriptor) row)
      fun record => ∀ column ∈ table.fields,
        ∃ value, memberValue? record column.name = some value ∧
          BlankAs lookup table row (boundColumn column).2 value := by
  unfold convertRow
  rw [convertMembers_eq]
  have apart : (entryKeys ([] : List (String × Value)) ++
      (declaredMembers descriptor).map (·.2.name)).Nodup := by
    rw [names_of_declared columns.declared]
    exact columns.bindingNames_nodup
  refine Ensures.bind (collectMembers_ensures (BlankAs lookup table row) ?_ apart) ?_
  · intro entry present
    exact convertMember_ensures prepared columns row (columns.refersTo present)
  · rintro entries ⟨added, shape, keys, holds⟩
    rw [List.nil_append] at shape
    rw [shape]
    exact Ensures.pure fun column member =>
      memberValue?_of_entries columns (BlankAs lookup table row) keys holds member
        descriptor.fullName

theorem loadRecords_blank
    (prepared : Prepared source code names lookup) {table : Table} {descriptor : Descriptor}
    (columns : Columns lookup.tables table descriptor)
    (found : lookup.catalog.descriptor? table.name = some descriptor)
    {rows : List RawRow} (read : source.rows table.name = .ok rows) :
    Ensures lookup (loadRecords lookup source table)
      (List.Forall₂ (fun row record => ∀ column ∈ table.fields,
        ∃ value, memberValue? record column.name = some value ∧
          BlankAs lookup table row (boundColumn column).2 value) rows) := by
  have each := fun rows (_ : source.rows table.name = .ok rows) row (_ : row ∈ rows) =>
    convertRow_blank prepared columns row
  refine (loadRecords_of_rows prepared found each).weaken ?_
  rintro records ⟨given, same, related⟩
  rw [read, Except.ok.injEq] at same
  rw [same]
  exact related

/-- The column that a member of a new record is seeded from. -/
def namesake (table : Table) (column : Field) : Field :=
  (table.field? column.name).getD column

/-- What a member of a new record is. -/
def SeededAs (lookup : Lookup) (table : Table) (member : BoundMember) (value : Value) : Prop :=
  ∀ column ∈ table.fields, column.name = member.name →
    blankCell lookup (namesake table column) member.type = .ok value

theorem field?_eq_namesake {table : Table} {column : Field} (member : column ∈ table.fields) :
    table.field? column.name = some (namesake table column) := by
  have present : (table.field? column.name).isSome = true := by
    unfold Table.field?
    rw [List.find?_isSome]
    exact ⟨column, member, by simp [Text.equalIgnoringAsciiCase]⟩
  obtain ⟨found, same⟩ := Option.isSome_iff_exists.mp present
  rw [namesake, same]
  rfl

/-- A column is its own namesake if none before it has its name, letter case ignored. -/
theorem namesake_eq_self
    {table : Table} {position : Nat} {column : Field}
    (atColumn : table.fields[position]? = some column)
    (first : ∀ earlier ∈ table.fields.take position,
      Text.equalIgnoringAsciiCase earlier.name column.name = false) :
    namesake table column = column := by
  obtain ⟨inside, rfl⟩ := List.getElem?_eq_some_iff.mp atColumn
  have found : table.field? table.fields[position].name = some table.fields[position] := by
    refine List.find?_eq_some_iff_getElem.mpr ⟨by simp [Text.equalIgnoringAsciiCase], position,
      inside, rfl, ?_⟩
    intro earlier before
    have taken : table.fields[earlier] ∈ table.fields.take position :=
      List.mem_take_iff_getElem.mpr ⟨earlier, by omega, rfl⟩
    simp [first table.fields[earlier] taken]
  rw [namesake, found]
  rfl

theorem instantiate_blank
    (prepared : Prepared source code names lookup) {table : Table} {descriptor : Descriptor}
    (columns : Columns lookup.tables table descriptor)
    (found : lookup.catalog.descriptor? table.name = some descriptor) {room : Nat}
    (within : room ≤ instanceLimit) :
    Ensures lookup (instantiate lookup room table)
      fun record => ∀ column ∈ table.fields,
        ∃ value, memberValue? record column.name = some value ∧
          blankCell lookup (namesake table column) (boundColumn column).2.type = .ok value := by
  have apart : ((membersOf lookup.providers descriptor).map (·.2.name)).Nodup := by
    rw [prepared.memberNames columns]
    exact columns.distinct
  have seeded : ∀ inner < room, ∀ entry ∈ membersOf lookup.providers descriptor,
      Ensures lookup (seedMember lookup (instantiate lookup inner) table entry.2)
        (SeededAs lookup table entry.2) := by
    intro inner below entry present
    rw [prepared.membersOf_eq] at present
    have refers := columns.refersTo present
    rw [columns.members] at present
    obtain ⟨column, member, rfl⟩ := List.mem_map.mp present
    have seedOf : table.field? (boundColumn column).2.name = some (namesake table column) :=
      field?_eq_namesake member
    have inside : inner ≤ instanceLimit := Nat.le_trans (Nat.le_of_lt below) within
    refine (seedMember_ensures prepared inside seedOf refers).weaken ?_
    intro value given other otherMember sameName
    rw [List.inj_on_of_nodup_map columns.distinct otherMember member sameName]
    exact given
  have ensured := instantiate_ensures prepared.distinctTypes found apart (SeededAs lookup table)
    seeded
  refine ensured.weaken ?_
  rintro record ⟨entries, rfl, keys, each⟩ column member
  rw [prepared.membersOf_eq] at keys each
  obtain ⟨value, shown, holds⟩ := memberValue?_of_entries columns (SeededAs lookup table) keys each
    member descriptor.fullName
  exact ⟨value, shown, holds column member rfl⟩

/-- Where a row leaves the cell of a column blank, its member is what a blank cell of that column
is, and the member of a new record is what a blank cell of the column's namesake is.  The two agree
if no column before it has its name, letter case ignored. -/
theorem seeded_as_namesake
    {settings : Settings} {run : Naming.Scope} {plan : Plan} {catalog : Catalog}
    (reached : Source.Reached settings run source) (isOpen : source.isOpen = true)
    (planned : Plan.ofSource source code = .ok plan)
    (bound : Catalog.ofTables source.tables plan.model code = .ok catalog)
    (separators : Separators) {table : Table} (member : table ∈ source.tables.tables)
    (notEnum : table.isEnum = false) {rows : List RawRow} {records : List Value}
    {cache later : MemberCache} (sound : SoundCache (.ofSource source catalog separators) cache)
    (read : source.rows table.name = .ok rows)
    (loaded : (loadRecords (.ofSource source catalog separators) source table).run.run cache =
      (.ok records, later))
    {cache' later' : MemberCache} (sound' : SoundCache (.ofSource source catalog separators) cache')
    {room : Nat} (within : room ≤ instanceLimit) {record : Value}
    (instantiated : (instantiate (.ofSource source catalog separators) room table).run.run cache' =
      (.ok record, later'))
    {number : Nat} {row : RawRow} (atRow : rows[number]? = some row)
    {position : Nat} {column : Field} (atColumn : table.fields[position]? = some column)
    (blank : (row.cell position).isEmpty = true) :
    ∃ type given own seeded, column.type = some type ∧ records[number]? = some given ∧
      memberValue? given column.name = some own ∧
      memberValue? record column.name = some seeded ∧
      blankCell (.ofSource source catalog separators) column type = .ok own ∧
      blankCell (.ofSource source catalog separators) (namesake table column) type = .ok seeded ∧
      ((∀ earlier ∈ table.fields.take position,
        Text.equalIgnoringAsciiCase earlier.name column.name = false) → own = seeded) := by
  obtain ⟨_, _, prepared⟩ := prepared_of_resolved (Source.resolved_of_reached reached isOpen)
    planned bound separators
  obtain ⟨descriptor, found, _⟩ := prepared.agreement.bound table member
  have columns := prepared.columns member notEnum found
  have inFields : column ∈ table.fields := List.mem_of_getElem? atColumn
  obtain ⟨type, typed, _⟩ := columns.typed column inFields
  have sameType : (boundColumn column).2.type = type := by
    rw [boundColumn, typed]
    rfl
  have each := (loadRecords_blank prepared columns found read).of_run sound loaded
  obtain ⟨inside, same⟩ := List.getElem?_eq_some_iff.mp atRow
  have paired := List.forall₂_iff_get.mp each
  have insideRecords : number < records.length := paired.1 ▸ inside
  obtain ⟨own, shown, isBlank⟩ := paired.2 number inside insideRecords column inFields
  have blankThere : ((rows.get ⟨number, inside⟩).cell position).isEmpty = true := by
    rw [List.get_eq_getElem, same]
    exact blank
  have ownGiven := isBlank position column atColumn rfl blankThere
  obtain ⟨seeded, seededShown, seededGiven⟩ :=
    (instantiate_blank prepared columns found within).of_run sound' instantiated column inFields
  rw [sameType] at ownGiven seededGiven
  refine ⟨type, records[number], own, seeded, typed, List.getElem?_eq_getElem insideRecords, shown,
    seededShown, ownGiven, seededGiven, ?_⟩
  intro first
  rw [namesake_eq_self atColumn first, ownGiven] at seededGiven
  exact Except.ok.inj seededGiven

/-! ## Two columns -/

/-- The sheet of a table with two columns, of which a row fills the first. -/
def statsSheets (first second : String) : SheetProvider := .ofList [
  ("Stats", .ofTexts [
    [], [first, second], ["int", "int"], ["struct default(5)", ""], [], ["1", " "]])]

/-- The source of a table with two columns. -/
def statsSource (first second : String) : Source :=
  (({} : Source).openWith {} .empty (statsSheets first second)).1

theorem reached_statsSource (first second : String) :
    Source.Reached {} .empty (statsSource first second) :=
  Source.Reached.opened (statsSheets first second) Source.Reached.new

/-- The records of the rows, and a new record. -/
def statsRecords (source : Source) (catalog : Catalog) (table : Table) :
    Outcome (List Value) × Outcome Value :=
  let lookup : Lookup := .ofSource source catalog ⟨[], []⟩
  (((loadRecords lookup source table).run.run []).1,
    ((instantiate lookup instanceLimit table).run.run []).1)

theorem seeded_as_namesake_stats :
    let source := statsSource "Health" "Mana"
    ∃ plan catalog table records record, Plan.ofSource source {} = .ok plan ∧
      Catalog.ofTables source.tables plan.model {} = .ok catalog ∧
      source.tables.get? "Stats" = some table ∧
      statsRecords source catalog table = (.ok records, .ok record) ∧
      ∃ given own, records[0]? = some given ∧ memberValue? given "Mana" = some own ∧
        memberValue? record "Mana" = some own := by
  have isOpen : (statsSource "Health" "Mana").isOpen = true := by
    decide +kernel
  have shown : (Plan.ofSource (statsSource "Health" "Mana") {}).toOption.bind (fun plan =>
      (Catalog.ofTables (statsSource "Health" "Mana").tables plan.model {}).toOption.bind
        fun catalog => ((statsSource "Health" "Mana").tables.get? "Stats").map fun table =>
          ((table.isEnum, table.fields.map (·.name)),
            ((statsSource "Health" "Mana").rows table.name).toOption.map
              (·.map fun row => (row.cell 1).isEmpty),
            (statsRecords (statsSource "Health" "Mana") catalog table).1.toOption.isSome,
            (statsRecords (statsSource "Health" "Mana") catalog table).2.toOption.isSome)) =
      some ((false, ["Health", "Mana"]), some [true], true, true) := by
    decide +kernel
  obtain ⟨plan, planGiven, shown⟩ := Option.bind_eq_some_iff.mp shown
  obtain ⟨catalog, catalogGiven, shown⟩ := Option.bind_eq_some_iff.mp shown
  obtain ⟨table, tableGiven, shown⟩ := Option.map_eq_some_iff.mp shown
  have planned := Outcome.eq_ok_of_toOption planGiven
  have catalogued := Outcome.eq_ok_of_toOption catalogGiven
  obtain ⟨shape, listed, loaded, instantiated⟩ := by simpa only [Prod.mk.injEq] using shown
  obtain ⟨notEnum, fieldNames⟩ := shape
  obtain ⟨rows, rowsGiven, blanks⟩ := Option.map_eq_some_iff.mp listed
  obtain ⟨records, recordsGiven⟩ := Option.isSome_iff_exists.mp loaded
  obtain ⟨record, recordGiven⟩ := Option.isSome_iff_exists.mp instantiated
  have read := Outcome.eq_ok_of_toOption rowsGiven
  have recordsRan := Outcome.eq_ok_of_toOption recordsGiven
  have recordRan := Outcome.eq_ok_of_toOption recordGiven
  obtain ⟨row, rfl, blank⟩ := List.map_eq_singleton_iff.mp blanks
  have atRow : [row][0]? = some row := rfl
  obtain ⟨first, others, fields, firstName, rest⟩ := List.map_eq_cons_iff.mp fieldNames
  obtain ⟨second, rfl, secondName⟩ := List.map_eq_singleton_iff.mp rest
  have atColumn : table.fields[1]? = some second := by
    rw [fields]
    rfl
  obtain ⟨_, given, own, seeded, _, atRecord, shownOwn, shownSeeded, _, _, agree⟩ :=
    seeded_as_namesake (reached_statsSource "Health" "Mana") isOpen planned catalogued ⟨[], []⟩
      (List.mem_of_find?_eq_some tableGiven) notEnum soundCache_nil read
      (Prod.ext recordsRan rfl) soundCache_nil (Nat.le_refl _) (Prod.ext recordRan rfl)
      atRow atColumn blank
  have apart : ∀ earlier ∈ table.fields.take 1,
      Text.equalIgnoringAsciiCase earlier.name second.name = false := by
    rw [fields, secondName]
    intro earlier member
    rw [List.mem_singleton.mp member, firstName]
    decide +kernel
  rw [secondName] at shownOwn shownSeeded
  rw [← agree apart] at shownSeeded
  exact ⟨plan, catalog, table, records, record, planned, catalogued, tableGiven,
    Prod.ext recordsRan recordRan, given, own, atRecord, shownOwn, shownSeeded⟩

/-- Columns whose names differ in letter case are accepted, and the second starts with the default
of the first, which a row with a blank cell does not have. -/
theorem seeded_with_other_default :
    let source := statsSource "HPx" "HpX"
    ∃ plan catalog table, Plan.ofSource source {} = .ok plan ∧
      Catalog.ofTables source.tables plan.model {} = .ok catalog ∧
      source.tables.get? "Stats" = some table ∧
      (statsRecords source catalog table).1.toOption.map (·.map Value.toText) =
        some ["Stats \x7b HPx: 1, HpX: 0 \x7d"] ∧
      (statsRecords source catalog table).2.toOption.map Value.toText =
        some "Stats \x7b HPx: 5, HpX: 5 \x7d" := by
  have shown : (Plan.ofSource (statsSource "HPx" "HpX") {}).toOption.bind (fun plan =>
      (Catalog.ofTables (statsSource "HPx" "HpX").tables plan.model {}).toOption.bind fun catalog =>
        ((statsSource "HPx" "HpX").tables.get? "Stats").map fun table =>
          ((statsRecords (statsSource "HPx" "HpX") catalog table).1.toOption.map
              (·.map Value.toText),
            (statsRecords (statsSource "HPx" "HpX") catalog table).2.toOption.map
              Value.toText)) =
      some (some ["Stats \x7b HPx: 1, HpX: 0 \x7d"], some "Stats \x7b HPx: 5, HpX: 5 \x7d") := by
    decide +kernel
  obtain ⟨plan, planGiven, shown⟩ := Option.bind_eq_some_iff.mp shown
  obtain ⟨catalog, catalogGiven, shown⟩ := Option.bind_eq_some_iff.mp shown
  obtain ⟨table, tableGiven, shown⟩ := Option.map_eq_some_iff.mp shown
  obtain ⟨loaded, instantiated⟩ := Prod.mk.inj shown
  exact ⟨plan, catalog, table, Outcome.eq_ok_of_toOption planGiven,
    Outcome.eq_ok_of_toOption catalogGiven, tableGiven, loaded, instantiated⟩

end TypedTables
