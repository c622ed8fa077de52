import TypedTables.Proofs.Convert.Encoding
import TypedTables.Proofs.Seeding

/-!
# Composite texts

A record inside a cell is written as its members with a separator between them.  The part at a
position is converted for the column with that serialization index, wherever the column stands in
its sheet, and a member without a part is as in a new record.
-/

namespace TypedTables

open TypedTables.Schema TypedTables.Manifest TypedTables.Binding TypedTables.Convert
open TypedTables.Discover TypedTables.Generate TypedTables.Text
open TypedTables.Config (Code Settings)

variable {source : Source} {code : Code} {names : TypeNames} {lookup : Lookup} {field : Field}
  {table : Table} {column : Field} {parts : List String}

/-! ## The order of parts -/

theorem dense_of_reached
    {settings : Settings} {run : Naming.Scope} (reached : Source.Reached settings run source)
    (isOpen : source.isOpen = true) (member : table ∈ source.tables.tables) : Dense table :=
  ((Source.wellFormed_of_reached reached isOpen).shaped table member).index

theorem nodup_zip_serialized
    (parts : List String) (distinct : (table.fields.map (·.name)).Nodup) :
    ((parts.zip table.serialized).map (·.2.name)).Nodup := by
  have used : (parts.zip table.serialized).map Prod.snd =
      table.serialized.take (min parts.length table.serialized.length) := by
    rw [List.zip_eq_zip_take_min, List.map_snd_zip (by simp)]
  have apart : (table.serialized.map (·.name)).Nodup :=
    ((serialized_perm table).map _).nodup_iff.mpr distinct
  have named : (parts.zip table.serialized).map (·.2.name) =
      ((parts.zip table.serialized).map Prod.snd).map (·.name) := by
    rw [List.map_map]
    rfl
  rw [named, used]
  exact apart.sublist ((List.take_sublist _ _).map _)

/-! ## Filling a record -/

/-- The names of the members of a record. -/
def memberNames : Value → List String
  | .record _ entries => entryKeys entries
  | _ => []

theorem memberValue?_isSome_iff {value : Value} {name : String} :
    (memberValue? value name).isSome ↔ name ∈ memberNames value := by
  cases value with
  | record _ entries => exact entryValue?_isSome_iff
  | _ => simp [memberValue?, memberNames]

/-- A new record that the parts of a text were written to: a part that is not empty to the member
of the column with its index, and no part to any other member. -/
structure Filled
    (lookup : Lookup) (convertPart : TypeRef → String → Conversion Value) (table : Table)
    (parts : List String) (seed record : Value) : Prop where
  members : memberNames record = table.fields.map (·.name)
  written : ∀ column ∈ table.fields, ∀ part, parts[column.index]? = some part →
    part.isEmpty = false → ∃ type value, column.type = some type ∧
      memberValue? record column.name = some value ∧
      Returns lookup (convertPart type part) value
  kept : ∀ column ∈ table.fields, (∀ part ∈ parts[column.index]?, part.isEmpty = true) →
    ∃ value, memberValue? record column.name = some value ∧
      memberValue? seed column.name = some value

namespace Filled

variable {convertPart : TypeRef → String → Conversion Value} {seed record : Value}

theorem exists_memberValue?
    (filled : Filled lookup convertPart table parts seed record) (member : column ∈ table.fields) :
    ∃ value, memberValue? record column.name = some value := by
  apply Option.isSome_iff_exists.mp
  rw [memberValue?_isSome_iff, filled.members]
  exact List.mem_map_of_mem member

theorem memberValue?_eq
    (filled : Filled lookup convertPart table parts seed record) (member : column ∈ table.fields)
    (empty : ∀ part ∈ parts[column.index]?, part.isEmpty = true) :
    memberValue? record column.name = memberValue? seed column.name := by
  obtain ⟨_, now, before⟩ := filled.kept column member empty
  rw [now, before]

theorem returns
    (filled : Filled lookup convertPart table parts seed record) (member : column ∈ table.fields)
    {type : TypeRef} (typed : column.type = some type) {part : String}
    (given : parts[column.index]? = some part) (notEmpty : part.isEmpty = false) {value : Value}
    (shown : memberValue? record column.name = some value) :
    Returns lookup (convertPart type part) value := by
  obtain ⟨other, found, otherTyped, otherShown, returned⟩ :=
    filled.written column member part given notEmpty
  rw [typed, Option.some.injEq] at otherTyped
  rw [shown, Option.some.injEq] at otherShown
  rw [otherTyped, otherShown]
  exact returned

end Filled

/-- What is written to entries part by part: the member of a column has the value of its part, and
a member without a part that is not empty keeps its value. -/
structure Written
    (lookup : Lookup) (member : TypeRef → ValueConversion) (scopes : Scopes)
    (parts : List (String × Field)) (entries filled : List (String × Value)) : Prop where
  keys : entryKeys filled = entryKeys entries
  values : ∀ part ∈ parts, part.1.isEmpty = false → ∃ value,
    entryValue? part.2.name filled = some value ∧
      Returns lookup (member (boundColumn part.2).2.type scopes (.text part.1)) value
  others : ∀ name, (∀ part ∈ parts, part.2.name = name → part.1.isEmpty = true) →
    entryValue? name filled = entryValue? name entries

/-- Parts for columns with names of their own do not disturb each other. -/
theorem fillMembers_ensures
    {member : TypeRef → ValueConversion} {scopes : Scopes} {members : Members}
    {parts : List (String × Field)} {entries : List (String × Value)}
    (steady : ∀ type value, Steady lookup (member type scopes value))
    (distinct : (parts.map (·.2.name)).Nodup)
    (bound : ∀ part ∈ parts, entryValue? part.2.name members = some (boundColumn part.2).2)
    (present : ∀ part ∈ parts, part.2.name ∈ entryKeys entries) :
    Ensures lookup (fillMembers member scopes members parts entries)
      (Written lookup member scopes parts entries) := by
  -- Each part changes the entries that the rest is written to, so the entries vary.
  induction parts generalizing entries with
  | nil => exact Ensures.pure ⟨rfl, by simp, fun _ _ => rfl⟩
  | cons part rest inductionHypothesis =>
      rw [List.map_cons, List.nodup_cons] at distinct
      have restBound := fun other later => bound other (List.mem_cons_of_mem part later)
      have restPresent := fun other later => present other (List.mem_cons_of_mem part later)
      have apart : ∀ other ∈ rest, other.2.name ≠ part.2.name :=
        fun other later same => distinct.1 (same ▸ List.mem_map_of_mem later)
      simp only [fillMembers, bound part List.mem_cons_self]
      by_cases empty : part.1.isEmpty = true
      · simp only [if_pos empty]
        apply (inductionHypothesis distinct.2 restBound restPresent).weaken
        intro filled written
        refine ⟨written.keys, ?_, fun name none => written.others name fun other later =>
          none other (List.mem_cons_of_mem part later)⟩
        intro other given notEmpty
        rcases List.mem_cons.mp given with rfl | later
        · rw [empty] at notEmpty
          cases notEmpty
        · exact written.values other later notEmpty
      · simp only [if_neg empty]
        apply Ensures.bind (steady (boundColumn part.2).2.type (.text part.1)).ensures_returns
        intro value returned
        have kept : entryKeys (setEntry part.2.name value entries) = entryKeys entries :=
          entryKeys_setEntry_of_mem (present part List.mem_cons_self) value
        apply (inductionHypothesis distinct.2 restBound (kept ▸ restPresent)).weaken
        intro filled written
        refine ⟨written.keys.trans kept, ?_, ?_⟩
        · intro other given notEmpty
          rcases List.mem_cons.mp given with rfl | later
          · refine ⟨value, ?_, returned⟩
            rw [written.others _ fun late later same => absurd same (apart late later)]
            exact entryValue?_setEntry_self _ value entries
          · exact written.values other later notEmpty
        · intro name none
          have different : part.2.name ≠ name :=
            fun same => empty (none part List.mem_cons_self same)
          rw [written.others name fun other later => none other (List.mem_cons_of_mem part later)]
          exact entryValue?_setEntry_of_ne different value entries

theorem fillMembers_nil
    {member : TypeRef → ValueConversion} {scopes : Scopes} (parts : List (String × Field))
    (entries : List (String × Value)) :
    fillMembers member scopes [] parts entries = pure entries := by
  induction parts with
  | nil => rfl
  | cons part rest inductionHypothesis => exact inductionHypothesis

/-! ## Texts of records -/

section Texts

variable {name text separator : String} {scopes : Scopes} {descriptor : Descriptor} {room : Nat}

/-- A text that can be seen is converted for a table part by part. -/
theorem changeType_text
    {fresh : Fresh} (standard : lookup.chain = .standard)
    (named : lookup.tables.get? name = some table)
    (bound : lookup.catalog.descriptor? table.name = some descriptor)
    (visible : isBlankText text = false) :
    changeType lookup fresh field (.table name) scopes (.text text) =
      convertText lookup fresh field
        (memberLevels lookup fresh field
          ((lookup.separators.listFor field .object).length - scopes.objectDepth))
        table descriptor scopes text := by
  rw [changeType, convertLevels_table standard]
  simp only [convertRecord, named, bound, if_neg (isEmpty_text visible), map_eq_pure_bind,
    bind_assoc, pure_bind, bind_pure]

/-- A text with more parts than there are columns fails, once its record was seeded. -/
theorem changeType_tooMany
    {fresh : Fresh} (standard : lookup.chain = .standard)
    (named : lookup.tables.get? name = some table)
    (bound : lookup.catalog.descriptor? table.name = some descriptor)
    (visible : isBlankText text = false)
    (here : lookup.separators.separatorAt field (scopes.enter .object) = .ok separator)
    (exceeding : table.fields.length < (split separator text).length) (cache : MemberCache) :
    ((changeType lookup fresh field (.table name) scopes (.text text)).run.run cache).1 =
      ((fresh table).run.run cache).1 >>= fun _ =>
        .error (tooManyParts text table (split separator text).length separator) := by
  simp only [changeType_text standard named bound visible, convertText, Outcome.run_bind, run_lift,
    here, if_pos exceeding]
  rcases (fresh table).run.run cache with ⟨outcome, later⟩
  cases outcome <;> rfl

/-- What a text is converted into holds what is ensured of filling a new record, which has the
members of the table's type. -/
theorem convertText_ensures
    (distinct : DistinctTypes lookup.catalog.model)
    (bound : lookup.catalog.descriptor? table.name = some descriptor)
    (apart : ((membersOf lookup.providers descriptor).map (·.2.name)).Nodup)
    {member : TypeRef → ValueConversion} {post : Value → Prop}
    (here : lookup.separators.separatorAt field (scopes.enter .object) = .ok separator)
    (filling : ∀ seeds, Returns lookup (instantiate lookup room table)
        (.record descriptor.fullName seeds) →
      entryKeys seeds = (membersOf lookup.providers descriptor).map (·.2.name) →
      (split separator text).length ≤ table.fields.length →
      Ensures lookup
        (fillMembers member (scopes.enter .object) (membersOf lookup.providers descriptor)
          ((split separator text).zip table.serialized) seeds)
        fun filled => post (.record descriptor.fullName filled)) :
    Ensures lookup
      (convertText lookup (instantiate lookup room) field member table descriptor scopes text)
      post := by
  have typeMember := Catalog.mem_types_of_descriptor? bound
  have shaped := instantiate_keys distinct room bound apart
  simp only [convertText, here]
  apply Ensures.bind (instantiate_steady distinct room table).ensures_returns
  intro seed seeded
  obtain ⟨seeds, rfl, seedKeys⟩ :=
    shaped.of_run soundCache_nil (Prod.ext (seeded.run soundCache_nil) rfl)
  apply Ensures.bind ((membersFor_returns distinct typeMember).ensures rfl)
  rintro members rfl
  apply Ensures.bind (Ensures.lift fun found same => (Except.ok.inj same).symm)
  rintro found rfl
  by_cases exceeding : table.fields.length < (split found text).length
  · simp only [if_pos exceeding]
    exact Ensures.throw
  · simp only [if_neg exceeding]
    apply Ensures.bind (filling seeds seeded seedKeys (Nat.le_of_not_lt exceeding))
    intro filled holds
    exact Ensures.pure holds

/-- A text for a table that is no enumeration fills a new record. -/
theorem convertText_ensures_filled
    (prepared : Prepared source code names lookup)
    (columns : Columns lookup.tables table descriptor)
    (bound : lookup.catalog.descriptor? table.name = some descriptor) (dense : Dense table)
    {member : TypeRef → ValueConversion}
    (steady : ∀ type value, Steady lookup (member type (scopes.enter .object) value))
    (here : lookup.separators.separatorAt field (scopes.enter .object) = .ok separator) :
    Ensures lookup
      (convertText lookup (instantiate lookup room) field member table descriptor scopes text)
      fun record => (split separator text).length ≤ table.fields.length ∧
        ∃ seed, Returns lookup (instantiate lookup room table) seed ∧
          Filled lookup (fun type part => member type (scopes.enter .object) (.text part)) table
            (split separator text) seed record := by
  have memberNames := prepared.memberNames columns
  apply convertText_ensures prepared.distinctTypes bound (memberNames ▸ columns.distinct) here
  intro seeds seeded seedKeys within
  rw [memberNames] at seedKeys
  have inFields : ∀ part ∈ (split separator text).zip table.serialized,
      part.2 ∈ table.fields :=
    fun part given => mem_serialized.mp (List.of_mem_zip given).2
  have partsBound : ∀ part ∈ (split separator text).zip table.serialized,
      entryValue? part.2.name (membersOf lookup.providers descriptor) =
        some (boundColumn part.2).2 := by
    intro part given
    rw [prepared.membersOf_eq]
    exact columns.entryValue?_boundColumn (inFields part given)
  have inSeeds : ∀ column ∈ table.fields, column.name ∈ entryKeys seeds := by
    intro column inColumns
    rw [seedKeys]
    exact List.mem_map_of_mem inColumns
  apply (fillMembers_ensures steady (nodup_zip_serialized _ columns.distinct) partsBound
    fun part given => inSeeds part.2 (inFields part given)).weaken
  intro filled written
  refine ⟨within, _, seeded, written.keys.trans seedKeys, ?_, ?_⟩
  · intro column inColumns part given notEmpty
    obtain ⟨type, typed, _⟩ := columns.typed column inColumns
    obtain ⟨value, shown, returned⟩ := written.values (part, column)
      (dense.mem_zip_serialized_iff.mpr ⟨inColumns, given⟩) notEmpty
    rw [boundColumn_type typed] at returned
    exact ⟨type, value, typed, shown, returned⟩
  · intro column inColumns empty
    have unwritten : ∀ part ∈ (split separator text).zip table.serialized,
        part.2.name = column.name → part.1.isEmpty = true := by
      intro part given sameName
      obtain ⟨otherMember, atIndex⟩ := dense.mem_zip_serialized_iff.mp given
      have same : part.2 = column :=
        List.inj_on_of_nodup_map columns.distinct otherMember inColumns sameName
      exact empty part.1 (same ▸ atIndex)
    obtain ⟨value, found⟩ :=
      Option.isSome_iff_exists.mp (entryValue?_isSome_iff.mpr (inSeeds column inColumns))
    exact ⟨value, (written.others column.name unwritten).trans found, found⟩

theorem changeType_ensures_seed
    (prepared : Prepared source code names lookup)
    (named : lookup.tables.get? name = some table)
    (bound : lookup.catalog.descriptor? table.name = some descriptor)
    (memberless : descriptor.members = []) (visible : isBlankText text = false)
    (here : lookup.separators.separatorAt field (scopes.enter .object) = .ok separator) :
    Ensures lookup
      (changeType lookup (instantiate lookup room) field (.table name) scopes (.text text))
      fun record => (split separator text).length ≤ table.fields.length ∧
        Returns lookup (instantiate lookup room table) record ∧ memberNames record = [] := by
  have noMembers : membersOf lookup.providers descriptor = [] := by
    simp [prepared.membersOf_eq, declaredMembers, memberless]
  rw [changeType_text prepared.standard named bound visible]
  apply convertText_ensures prepared.distinctTypes bound (by simp [noMembers]) here
  intro seeds seeded seedKeys within
  rw [noMembers] at seedKeys ⊢
  rw [fillMembers_nil]
  exact Ensures.pure ⟨within, seeded, seedKeys⟩

/-- A text for a table that is no enumeration is converted part by part, each as a value of its
own inside the record. -/
theorem changeType_ensures_filled
    (prepared : Prepared source code names lookup)
    (named : lookup.tables.get? name = some table)
    (columns : Columns lookup.tables table descriptor)
    (bound : lookup.catalog.descriptor? table.name = some descriptor) (dense : Dense table)
    (visible : isBlankText text = false)
    (here : lookup.separators.separatorAt field (scopes.enter .object) = .ok separator) :
    Ensures lookup
      (changeType lookup (instantiate lookup room) field (.table name) scopes (.text text))
      fun record => (split separator text).length ≤ table.fields.length ∧
        ∃ seed, Returns lookup (instantiate lookup room table) seed ∧
          Filled lookup
            (fun type part => changeType lookup (instantiate lookup room) field type
              (scopes.enter .object) (.text part))
            table (split separator text) seed record := by
  have members : ∀ type part, memberLevels lookup (instantiate lookup room) field
      ((lookup.separators.listFor field .object).length - scopes.objectDepth) type
      (scopes.enter .object) part =
        changeType lookup (instantiate lookup room) field type (scopes.enter .object) part :=
    memberLevels_eq_changeType here
  simp only [changeType_text prepared.standard named bound visible, ← members]
  apply convertText_ensures_filled prepared columns bound dense _ here
  intro type value
  rw [members]
  exact convertLevels_steady prepared.distinctTypes (prepared.fresh_steady room) _ _ _ _

end Texts

/-! ## Assignment of parts -/

/-- The part at a position goes to the one column with that serialization index, and every other
member is as in a new record, whatever the order of the columns.  A text with more parts than
columns fails. -/
theorem parts_assigned_by_index
    {settings : Settings} {run : Naming.Scope} {plan : Plan} {catalog : Catalog}
    (reached : Source.Reached settings run source) (isOpen : source.isOpen = true)
    (planned : Plan.ofSource source code = .ok plan)
    (bound : Catalog.ofTables source.tables plan.model code = .ok catalog)
    (separators : Separators) {name : String} {table : Table}
    (named : source.tables.get? name = some table) (room : Nat) (field : Field) (scopes : Scopes)
    {text separator : String} (visible : isBlankText text = false)
    (here : separators.separatorAt field (scopes.enter .object) = .ok separator)
    {cache : MemberCache} (sound : SoundCache (.ofSource source catalog separators) cache) :
    let lookup : Lookup := .ofSource source catalog separators
    let fresh := instantiate lookup room
    let convertPart (type : TypeRef) (part : String) :=
      changeType lookup fresh field type (scopes.enter .object) (.text part)
    let parts := split separator text
    let seeded := ((fresh table).run.run cache).1
    let converted :=
      ((changeType lookup fresh field (.table name) scopes (.text text)).run.run cache).1
    (∀ position < table.fields.length,
      ∃! column, column ∈ table.fields ∧ column.index = position) ∧
    (∀ fields : List Field, fields.Perm table.fields →
      { table with fields }.serialized = table.serialized) ∧
    (table.fields.length < parts.length →
      (∃ failure, converted = .error failure) ∧
        ∀ seed, seeded = .ok seed →
          converted = .error (tooManyParts text table parts.length separator) ∧
            (tooManyParts text table parts.length separator).kind = .coercion) ∧
    ∀ record, converted = .ok record →
      parts.length ≤ table.fields.length ∧ ∃ seed, seeded = .ok seed ∧
        (table.isEnum = false → Filled lookup convertPart table parts seed record) ∧
        (table.isEnum = true → record = seed ∧ memberNames record = []) := by
  intro lookup fresh convertPart parts seeded converted
  obtain ⟨_, _, prepared⟩ := prepared_of_resolved (Source.resolved_of_reached reached isOpen)
    planned bound separators
  have member : table ∈ source.tables.tables := (mem_of_get? named).1
  have dense := dense_of_reached reached isOpen member
  obtain ⟨descriptor, found, plannedAs⟩ := prepared.agreement.bound table member
  refine ⟨fun position => dense.existsUnique_index, fun fields => dense.serialized_of_perm, ?_, ?_⟩
  · intro exceeding
    have ran : converted = seeded >>= fun _ =>
        .error (tooManyParts text table parts.length separator) :=
      changeType_tooMany rfl named found visible here exceeding cache
    rw [ran]
    cases seeded with
    | error failure => exact ⟨⟨failure, rfl⟩, nofun⟩
    | ok seed => exact ⟨⟨_, rfl⟩, fun _ _ => ⟨rfl, rfl⟩⟩
  · intro record given
    cases isEnum : table.isEnum with
    | true =>
        obtain ⟨_, memberless, _⟩ := plannedAs_enum isEnum plannedAs
        have ensured : Ensures lookup
            (changeType lookup fresh field (.table name) scopes (.text text)) _ :=
          changeType_ensures_seed prepared named found memberless visible here
        obtain ⟨within, seededAs, noMembers⟩ := (ensured cache sound).1 record given
        exact ⟨within, record, seededAs.run sound, nofun, fun _ => ⟨rfl, noMembers⟩⟩
    | false =>
        have columns := prepared.columns member isEnum found
        have ensured : Ensures lookup
            (changeType lookup fresh field (.table name) scopes (.text text)) _ :=
          changeType_ensures_filled prepared named columns found dense visible here
        obtain ⟨within, seed, seededAs, filled⟩ := (ensured cache sound).1 record given
        exact ⟨within, seed, seededAs.run sound, fun _ => filled, nofun⟩

/-! ## Two columns in a cell

A sheet whose columns stand in one order and are written into a cell in the other. -/

def pointSheet : Sheet :=
  .ofTexts [[], ["X", "Y"], ["int", "int"], ["struct index(1) default(5)", "index(0)"], [], ["1", ""]]

def pointTable : Table :=
  { Table.named "Point" .empty with
    flags := { isStruct := true }
    fields := [
      { name := "X", declared := "int", type := some (.primitive .int32), column := 1, index := 1
        default := some (.int 5) },
      { name := "Y", declared := "int", type := some (.primitive .int32), column := 2
        order := 1 }] }

def pointSource : Source :=
  { loaded := [⟨pointTable, pointSheet, 6⟩], isOpen := true }

def pointDescriptor : Descriptor :=
  { name := "Point", table := "Point", kind := .inPlace
    members := [
      { name := "x", rename := some "X", type := .primitive .int32, index := 1 },
      { name := "y", rename := some "Y", type := .primitive .int32 }] }

def pointPlan : Plan :=
  { model := { moduleName := "tables", types := [pointDescriptor] }
    declarations := [
      { name := "Point", table := "Point", isEnum := false, doc := [], isFirst := true
        moduleName := "tables", space := none
        members := [⟨"x", "X", "i32", []⟩, ⟨"y", "Y", "i32", []⟩] }] }

def pointCatalog : Catalog :=
  ⟨pointPlan.model, [("point", 0)]⟩

theorem reached_pointSource : Source.Reached {} .empty pointSource := by
  have opened : Source.ofProvider {} .empty (.ofList [("Point", pointSheet)]) = .ok pointSource := by
    with_unfolding_all rfl
  exact Source.Reached.of_ofProvider opened

theorem planned_pointSource : Plan.ofSource pointSource {} = .ok pointPlan :=
  Outcome.eq_ok_of_toOption (by decide +kernel)

theorem bound_pointSource :
    Catalog.ofTables pointSource.tables pointPlan.model {} = .ok pointCatalog :=
  Outcome.eq_ok_of_toOption (by decide +kernel)

theorem found_pointTable : pointSource.tables.get? "Point" = some pointTable := by
  with_unfolding_all rfl

def pointLookup : Lookup :=
  .ofSource pointSource pointCatalog ⟨[], [":"]⟩

def pointField : Field :=
  { name := "Cell", column := 1 }

/-- What a text is converted into. -/
def pointOf (text : String) : Conversion Value :=
  changeType pointLookup (instantiate pointLookup instanceLimit) pointField (.table "Point") {}
    (.text text)

theorem serialized_pointTable : pointTable.serialized = pointTable.fields.reverse := by
  have dense := dense_of_reached reached_pointSource rfl (mem_of_get? found_pointTable).1
  rw [← dense.serialized_of_perm (List.reverse_perm _)]
  exact List.mergeSort_of_pairwise (by decide)

theorem toText_pointOf :
    ["7:8", "7", "7:", "7: "].map (fun text =>
        ((pointOf text).run.run []).1.toOption.map Value.toText) =
      [some "Point \x7b X: 8, Y: 7 \x7d", some "Point \x7b X: 5, Y: 7 \x7d",
        some "Point \x7b X: 5, Y: 7 \x7d", some "Point \x7b X: 0, Y: 7 \x7d"] := by
  have bound : pointLookup.catalog.descriptor? pointTable.name = some pointDescriptor := by
    decide +kernel
  have textual : ∀ text, isBlankText text = false →
      pointOf text = convertText pointLookup _ _ _ _ _ {} text :=
    fun _ visible => changeType_text rfl found_pointTable bound visible
  simp only [List.map_cons, List.map_nil, textual "7:8" (by decide), textual "7" (by decide),
    textual "7:" (by decide), textual "7: " (by decide), convertText, serialized_pointTable]
  decide +kernel

theorem parts_assigned_by_index_point :
    ∃ record seed, ((pointOf "7:8").run.run []).1 = .ok record ∧
      record.toText = "Point \x7b X: 8, Y: 7 \x7d" ∧
      Filled pointLookup
        (fun type part => changeType pointLookup (instantiate pointLookup instanceLimit) pointField
          type (({} : Scopes).enter .object) (.text part))
        pointTable (split ":" "7:8") seed record := by
  obtain ⟨record, given, text⟩ := Option.map_eq_some_iff.mp (List.cons.inj toText_pointOf).1
  have converted := Outcome.eq_ok_of_toOption given
  have visible : isBlankText "7:8" = false := by
    decide
  have assigned := parts_assigned_by_index reached_pointSource rfl planned_pointSource
    bound_pointSource ⟨[], [":"]⟩ found_pointTable instanceLimit pointField {} visible rfl
    soundCache_nil
  obtain ⟨_, seed, _, filled, _⟩ := assigned.2.2.2 record converted
  exact ⟨record, seed, converted, text, filled rfl⟩

/-! ## Parts for an enumeration -/

def hueSheet : Sheet :=
  .ofTexts [[], ["Name", "Value"], ["string", "int"], ["enum", ""], [], ["Red", "1"]]

def hueTable : Table :=
  { Table.named "Hue" .empty with
    flags := { isEnum := true }
    fields := [
      { name := "Name", declared := "string", type := some (.primitive .string), column := 1 },
      { name := "Value", declared := "int", type := some (.primitive .int32), column := 2
        order := 1, index := 1 }] }

def hueDescriptor : Descriptor :=
  { name := "Hue", table := "Hue", kind := .enumeration
    variants := [{ name := "Red", label := "Red", value := some 1 }] }

def hueDeclaration : Declaration :=
  { name := "Hue", table := "Hue", isEnum := true, doc := [], isFirst := true
    moduleName := "tables", space := none, variants := [⟨"Red", "Red", some 1, []⟩] }

def variantSource : Source :=
  { loaded := [⟨hueTable, hueSheet, 6⟩], isOpen := true }

def variantPlan : Plan :=
  { model := { moduleName := "tables", types := [hueDescriptor] }, declarations := [hueDeclaration] }

def variantCatalog : Catalog :=
  ⟨variantPlan.model, [("hue", 0)]⟩

def variantLookup : Lookup :=
  .ofSource variantSource variantCatalog ⟨[], [":"]⟩

/-- The type of an enumeration has no members, so that parts which are not empty are lost where it
is asked for as a table. -/
theorem enumeration_loses_parts :
    Source.Reached {} .empty variantSource ∧ Plan.ofSource variantSource {} = .ok variantPlan ∧
    Catalog.ofTables variantSource.tables variantPlan.model {} = .ok variantCatalog ∧
    variantSource.tables.get? "Hue" = some hueTable ∧
    hueTable.fields.map (fun column => (column.name, column.index)) = [("Name", 0), ("Value", 1)] ∧
    split ":" "Red:1" = ["Red", "1"] ∧
    ((changeType variantLookup (instantiate variantLookup instanceLimit) pointField (.table "Hue")
      {} (.text "Red:1")).run.run []).1 = .ok (.record "Hue" []) := by
  have opened : Source.ofProvider {} .empty (.ofList [("Hue", hueSheet)]) = .ok variantSource := by
    with_unfolding_all rfl
  have found : variantSource.tables.get? "Hue" = some hueTable := by
    with_unfolding_all rfl
  have bound : variantLookup.catalog.descriptor? hueTable.name = some hueDescriptor := by
    decide +kernel
  have serialized : hueTable.serialized = hueTable.fields :=
    List.mergeSort_of_pairwise (by decide)
  refine ⟨Source.Reached.of_ofProvider opened, Outcome.eq_ok_of_toOption (by decide +kernel),
    Outcome.eq_ok_of_toOption (by decide +kernel), found, rfl, by decide +kernel, ?_⟩
  rw [changeType_text rfl found bound (by decide), convertText, serialized]
  with_unfolding_all rfl

/-! ## Blank parts -/

/-- The zero of a type. -/
def zeroCell (lookup : Lookup) (type : TypeRef) : Outcome Value :=
  ((lookup.zero type).run.run []).1

theorem zeroOf_ensures
    (prepared : Prepared source code names lookup) {room : Nat} (within : room ≤ instanceLimit)
    (type : TypeRef) :
    Ensures lookup (zeroOf lookup (instantiate lookup room) type)
      fun value => zeroCell lookup type = .ok value := by
  have steady : Steady lookup (zeroOf lookup (instantiate lookup room) type) :=
    zeroOf_steady prepared.distinctTypes (prepared.fresh_steady room) type
  have refined : Refines (zeroOf lookup (instantiate lookup room) type) (lookup.zero type) :=
    compositional_refines.zeroOf (instantiate_refines within) type
  apply steady.ensures_returns.weaken
  intro value returned
  rw [zeroCell, refined [] value _ (Prod.ext (returned.run soundCache_nil) rfl)]

/-- A blank cell of a column without a default is the zero of its type. -/
theorem blankCell_eq_zeroCell
    (prepared : Prepared source code names lookup) {type : TypeRef}
    (refers : RefersTo lookup.tables type) (noDefault : column.default = none) :
    blankCell lookup column type = zeroCell lookup type := by
  have blank : lookup.convertCell column type {} .null = lookup.zero type := by
    simp only [Lookup.convertCell, changeTypeOrDefault, noDefault]
    exact convertLevels_blank prepared (sparesEnumerations_of_refersTo prepared refers)
      (by decide) rfl _
  rw [blankCell, blank, zeroCell]

/-- Inside a record a part of white space alone is the zero of its type. -/
theorem zeroCell_of_blankPart
    (prepared : Prepared source code names lookup) {room : Nat} (within : room ≤ instanceLimit)
    {type : TypeRef} (refers : RefersTo lookup.tables type) {scopes : Scopes} {part : String}
    (blank : isBlankText part = true) {value : Value}
    (returned : Returns lookup
      (changeType lookup (instantiate lookup room) field type (scopes.enter .object) (.text part))
      value) :
    zeroCell lookup type = .ok value := by
  have inRecord : (scopes.enter .object).innermost? ≠ some .array := by
    simp [Scopes.enter, Scopes.innermost?]
  have blankValue : (Value.text part).isEmpty = true := blank
  have zero : changeType lookup (instantiate lookup room) field type (scopes.enter .object)
      (.text part) = zeroOf lookup (instantiate lookup room) type :=
    convertLevels_blank prepared (sparesEnumerations_of_refersTo prepared refers) inRecord
      blankValue _
  rw [zero] at returned
  exact (zeroOf_ensures prepared within type [] soundCache_nil).1 value
    (returned.run soundCache_nil)

/-- A part that is empty leaves its member as in a new record, as one that is left off does.  A part
of white space alone makes its member the zero of its type, whatever its column's default is. -/
theorem blank_part_is_zero
    {settings : Settings} {run : Naming.Scope} {plan : Plan} {catalog : Catalog}
    (reached : Source.Reached settings run source) (isOpen : source.isOpen = true)
    (planned : Plan.ofSource source code = .ok plan)
    (bound : Catalog.ofTables source.tables plan.model code = .ok catalog)
    (separators : Separators) {name : String} {table : Table}
    (named : source.tables.get? name = some table) (notEnum : table.isEnum = false) {room : Nat}
    (within : room ≤ instanceLimit) (field : Field) (scopes : Scopes) {text separator : String}
    (visible : isBlankText text = false)
    (here : separators.separatorAt field (scopes.enter .object) = .ok separator)
    {cache : MemberCache} (sound : SoundCache (.ofSource source catalog separators) cache) :
    let lookup : Lookup := .ofSource source catalog separators
    let fresh := instantiate lookup room
    let parts := split separator text
    ∀ record,
      ((changeType lookup fresh field (.table name) scopes (.text text)).run.run cache).1 =
        .ok record →
      ∃ seed, ((fresh table).run.run cache).1 = .ok seed ∧
        ∀ column ∈ table.fields, ∃ type given start, column.type = some type ∧
          memberValue? record column.name = some given ∧
          memberValue? seed column.name = some start ∧
          blankCell lookup (namesake table column) type = .ok start ∧
          (parts[column.index]? = none → given = start) ∧
          ∀ part, parts[column.index]? = some part → isBlankText part = true →
            (part.isEmpty = false → zeroCell lookup type = .ok given) ∧
            (given = start ↔ part.isEmpty = true ∨ zeroCell lookup type = .ok start) ∧
            ((namesake table column).default = none → given = start) := by
  intro lookup fresh parts record given
  obtain ⟨_, _, prepared⟩ := prepared_of_resolved (Source.resolved_of_reached reached isOpen)
    planned bound separators
  have member : table ∈ source.tables.tables := (mem_of_get? named).1
  obtain ⟨descriptor, found, _⟩ := prepared.agreement.bound table member
  have columns := prepared.columns member notEnum found
  have ensured : Ensures lookup
      (changeType lookup fresh field (.table name) scopes (.text text)) _ :=
    changeType_ensures_filled prepared named columns found
      (dense_of_reached reached isOpen member) visible here
  obtain ⟨_, seed, seeded, filled⟩ := (ensured cache sound).1 record given
  have seededAs : Ensures lookup (fresh table) _ := instantiate_blank prepared columns found within
  refine ⟨seed, seeded.run sound, ?_⟩
  intro column inColumns
  obtain ⟨type, typed, refers⟩ := columns.typed column inColumns
  obtain ⟨start, shown, blank⟩ := (seededAs cache sound).1 seed (seeded.run sound) column inColumns
  obtain ⟨given, givenShown⟩ := filled.exists_memberValue? inColumns
  rw [boundColumn_type typed] at blank
  have isStart : (∀ part ∈ parts[column.index]?, part.isEmpty = true) → given = start := by
    intro empty
    have same := filled.memberValue?_eq inColumns empty
    rw [givenShown, shown, Option.some.injEq] at same
    exact same
  refine ⟨type, given, start, typed, givenShown, shown, blank, ?_, ?_⟩
  · intro absent
    exact isStart (by simp [absent])
  · intro part atIndex blankPart
    cases empty : part.isEmpty with
    | true =>
        have same : given = start := isStart (by simpa [atIndex] using empty)
        exact ⟨nofun, by simp [same], fun _ => same⟩
    | false =>
        have zero : zeroCell lookup type = .ok given :=
          zeroCell_of_blankPart prepared within refers blankPart
            (filled.returns inColumns typed atIndex empty givenShown)
        refine ⟨fun _ => zero, by simp [zero], ?_⟩
        intro noDefault
        rw [blankCell_eq_zeroCell prepared refers noDefault, zero] at blank
        exact Except.ok.inj blank

theorem blank_part_is_zero_point :
    ∃ record seed given, ((pointOf "7:").run.run []).1 = .ok record ∧
      ((instantiate pointLookup instanceLimit pointTable).run.run []).1 = .ok seed ∧
      memberValue? record "X" = some given ∧ memberValue? seed "X" = some given := by
  have shown : ((pointOf "7:").run.run []).1.toOption.map Value.toText =
      some "Point \x7b X: 5, Y: 7 \x7d" := by
    have texts := toText_pointOf
    simp only [List.map_cons, List.cons.injEq] at texts
    exact texts.2.2.1
  obtain ⟨record, converted, _⟩ := Option.map_eq_some_iff.mp shown
  have visible : isBlankText "7:" = false := by
    decide
  obtain ⟨seed, seeded, each⟩ :=
    blank_part_is_zero reached_pointSource rfl planned_pointSource bound_pointSource ⟨[], [":"]⟩
      found_pointTable rfl (Nat.le_refl instanceLimit) pointField {} visible rfl soundCache_nil
      record (Outcome.eq_ok_of_toOption converted)
  obtain ⟨_, given, start, _, shownGiven, shownStart, _, _, blank⟩ :=
    each pointTable.fields[0] (List.getElem_mem _)
  obtain ⟨_, kept, _⟩ := blank "" (by decide +kernel) (by decide)
  rw [← kept.mpr (Or.inl rfl)] at shownStart
  exact ⟨record, seed, given, Outcome.eq_ok_of_toOption converted, seeded, shownGiven, shownStart⟩

/-- A member that has a default is zero where its part is a space, but has the default in a new
record, and where its part is empty or left off. -/
theorem space_part_loses_default :
    ["7", "7:", "7: "].map (fun text =>
        ((pointOf text).run.run []).1.toOption.map Value.toText) =
      [some "Point \x7b X: 5, Y: 7 \x7d", some "Point \x7b X: 5, Y: 7 \x7d",
        some "Point \x7b X: 0, Y: 7 \x7d"] ∧
    ((instantiate pointLookup instanceLimit pointTable).run.run []).1.toOption.map Value.toText =
      some "Point \x7b X: 5, Y: 0 \x7d" :=
  ⟨(List.cons.inj toText_pointOf).2, by decide +kernel⟩

end TypedTables
