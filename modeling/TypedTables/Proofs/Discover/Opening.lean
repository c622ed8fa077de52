import Mathlib.Data.List.Nodup
import TypedTables.Discover.Source
import TypedTables.Proofs.Discover.Columns
import TypedTables.Proofs.Schema.Entries

/-!
# Opened sources

What holds of every source that has been opened: no two tables share a name when letter case is
ignored, every table has fields, and every field has a type that refers to tables of the source.
-/

namespace TypedTables.Discover

open TypedTables.Schema TypedTables.Config TypedTables.Text

/-! ## Headers -/

/-- Every default among the fields is a raw cell. -/
def ScalarDefaults (fields : List Field) : Prop :=
  ∀ field ∈ fields, ∀ default, field.default = some default → IsScalar default

/-- The table of a sheet has fields, and their defaults are raw cells. -/
theorem readHeader_sound
    {settings : Settings} {run : Naming.Scope} {ref : SheetRef} {sheet : Sheet}
    {table : Table} {first : Nat}
    (read : readHeader settings run ref sheet = .ok (some (table, first))) :
    table.fields ≠ [] ∧ ScalarDefaults table.fields := by
  have header : HeaderRead settings run ref sheet table first := headerRead_of_readHeader read
  refine ⟨header.nonempty, header.invariant (fun _ table => ScalarDefaults table.fields) ?_ ?_⟩
  · intro table _ _ empty field member
    rw [empty] at member
    cases member
  · intro _ column _ table next _ holds step
    cases step with
    | skipped flags => exact holds
    | added flags field _ _ _ _ suits =>
        intro other member value found
        rcases List.mem_append.mp member with before | last
        · exact holds other before value found
        · rw [List.mem_singleton.mp last] at found
          exact (suits value found).1

/-! ## Types -/

/-- Whether a table of a schema has a name, and is or is not an enumeration. -/
def HasTable (tables : TableSet) (name : String) (isEnum : Bool) : Prop :=
  ∃ table ∈ tables.tables, table.name = name ∧ table.isEnum = isEnum

theorem kind_of_notEnum {table : Table} (notEnum : table.isEnum = false) :
    table.kind = .reference ∨ table.kind = .inPlace := by
  unfold Table.isEnum at notEnum
  cases kind : table.kind with
  | reference => exact Or.inl rfl
  | inPlace => exact Or.inr rfl
  | enumeration =>
      rw [kind] at notEnum
      cases notEnum

/-- A type that refers to tables of a schema only, each for what it is. -/
def RefersTo (tables : TableSet) : TypeRef → Prop
  | .primitive _ | .external _ => True
  | .array element => RefersTo tables element
  | .table name => HasTable tables name false
  | .enumeration name => HasTable tables name true

theorem refersTo_mono
    {before after : TableSet} {type : TypeRef}
    (carried : ∀ name isEnum, HasTable before name isEnum → HasTable after name isEnum)
    (refers : RefersTo before type) : RefersTo after type := by
  induction type with
  | primitive _ | external _ => trivial
  | array element inductionHypothesis => exact inductionHypothesis refers
  | table name => exact carried name false refers
  | enumeration name => exact carried name true refers

theorem mem_of_get?
    {tables : TableSet} {name : String} {table : Table} (found : tables.get? name = some table) :
    table ∈ tables.tables ∧ lowercase table.name = lowercase name := by
  unfold TableSet.get? at found
  exact ⟨List.mem_of_find?_eq_some found, by simpa using List.find?_some found⟩

/-- A table is found under its own name. -/
theorem get?_of_mem
    {tables : TableSet} (distinct : (tables.tables.map fun table => lowercase table.name).Nodup)
    {table : Table} (member : table ∈ tables.tables) : tables.get? table.name = some table := by
  have present : (tables.get? table.name).isSome := by
    unfold TableSet.get?
    rw [List.find?_isSome]
    exact ⟨table, member, by simp⟩
  obtain ⟨other, found⟩ := Option.isSome_iff_exists.mp present
  obtain ⟨otherMember, sameName⟩ := mem_of_get? found
  rw [found, List.inj_on_of_nodup_map distinct otherMember member sameName]

theorem refersTo_nest
    {tables : TableSet} (depth : Nat) {type : TypeRef} (refers : RefersTo tables type) :
    RefersTo tables (nest depth type) := by
  induction depth with
  | zero => exact refers
  | succ depth inductionHypothesis => exact inductionHypothesis

theorem refersTo_declaredType
    {mappings : List TypeMapping} {tables : TableSet} {declared : String} {type : TypeRef}
    (given : declaredType mappings tables declared = .ok type) : RefersTo tables type := by
  unfold declaredType at given
  obtain ⟨base, based, same⟩ := Outcome.bind_eq_ok_iff.mp given
  cases same
  apply refersTo_nest
  unfold baseType at based
  split at based
  · next builtin =>
      cases based
      unfold builtinBase? at builtin
      split at builtin
      · cases builtin
        trivial
      · obtain ⟨_, _, same⟩ := Option.map_eq_some_iff.mp builtin
        rw [← same]
        trivial
  · dsimp only at based
    split at based
    · next table found =>
        cases based
        have member := (mem_of_get? found).1
        unfold tableType
        by_cases isEnum : table.isEnum = true
        · rw [if_pos isEnum]
          exact ⟨table, member, rfl, isEnum⟩
        · rw [if_neg isEnum]
          exact ⟨table, member, rfl, by simpa using isEnum⟩
    · cases based
      trivial
    · cases based

/-- All of a field but its type. -/
def untyped (field : Field) : Field :=
  { field with type := none }

/-- Resolving changes the types of fields and nothing else, whether it succeeds or not. -/
theorem resolveFields_keeps
    (mappings : List TypeMapping) (tables : TableSet) (tableName : String)
    (fields : List Field) :
    (resolveFields mappings tables tableName fields).1.map untyped = fields.map untyped := by
  induction fields with
  | nil => rfl
  | cons field rest inductionHypothesis =>
      unfold resolveFields
      split
      · rw [List.map_cons, List.map_cons, inductionHypothesis]
        rfl
      · rfl

theorem map_of_untyped
    {α : Type} {before after : List Field} (shown : Field → α)
    (blind : ∀ field, shown (untyped field) = shown field)
    (same : after.map untyped = before.map untyped) : after.map shown = before.map shown := by
  have blindMap : ∀ fields : List Field, (fields.map untyped).map shown = fields.map shown := by
    intro fields
    rw [List.map_map]
    exact List.map_congr_left fun field _ => blind field
  rw [← blindMap after, same, blindMap before]

/-- A field with the type that it declares. -/
def typedField (mappings : List TypeMapping) (tables : TableSet) (field : Field) :
    Outcome Field := do
  let type ← declaredType mappings tables field.declared
  return { field with type := some type }

theorem resolveFields_eq_ok_iff
    {mappings : List TypeMapping} {tables : TableSet} {tableName : String}
    {fields resolved : List Field} :
    resolveFields mappings tables tableName fields = (resolved, .ok ()) ↔
      fields.mapM (typedField mappings tables) = .ok resolved := by
  induction fields generalizing resolved with
  | nil =>
      rw [resolveFields, List.mapM_nil, Outcome.pure_eq_ok_iff, Prod.mk.injEq]
      exact and_iff_left rfl
  | cons field rest inductionHypothesis =>
      simp only [resolveFields, List.mapM_cons, Outcome.bind_eq_ok_iff,
        Outcome.pure_eq_ok_iff, typedField]
      cases declaredType mappings tables field.declared with
      | error cause => simp
      | ok type =>
          rcases shape : resolveFields mappings tables tableName rest with ⟨others, outcome⟩
          simp only [← inductionHypothesis, shape, Prod.mk.injEq]
          constructor
          · rintro ⟨rfl, ended⟩
            exact ⟨_, ⟨type, rfl, rfl⟩, others, ⟨rfl, ended⟩, rfl⟩
          · rintro ⟨_, ⟨_, sameType, rfl⟩, _, ⟨rfl, ended⟩, rfl⟩
            rw [Except.ok.injEq] at sameType
            rw [sameType]
            exact ⟨rfl, ended⟩

theorem mem_resolveFields
    {mappings : List TypeMapping} {tables : TableSet} {tableName : String}
    {fields resolved : List Field} {field : Field}
    (ran : resolveFields mappings tables tableName fields = (resolved, .ok ()))
    (member : field ∈ resolved) :
    ∃ before ∈ fields, ∃ type, declaredType mappings tables before.declared = .ok type ∧
      field = { before with type := some type } := by
  have each := Outcome.mapM_eq_ok_iff.mp (resolveFields_eq_ok_iff.mp ran)
  obtain ⟨before, present, typed⟩ := (Outcome.exists_of_forall₂ each).2 field member
  obtain ⟨type, declared, same⟩ := Outcome.bind_eq_ok_iff.mp typed
  exact ⟨before, present, type, declared, (Outcome.pure_eq_ok_iff.mp same).symm⟩

/-- All that is loaded of a table but its fields. -/
def LoadedTable.withoutFields (entry : LoadedTable) : LoadedTable :=
  { entry with table := { entry.table with fields := [] } }

/-- All that is loaded of a table but the types of its fields. -/
def LoadedTable.untyped (entry : LoadedTable) : LoadedTable :=
  { entry with table := { entry.table with fields := entry.table.fields.map Discover.untyped } }

theorem resolveTables_untyped
    (mappings : List TypeMapping) (tables : TableSet) (loaded : List LoadedTable) :
    (resolveTables mappings tables loaded).1.map LoadedTable.untyped =
      loaded.map LoadedTable.untyped := by
  induction loaded with
  | nil => rfl
  | cons first rest inductionHypothesis =>
      have fields := resolveFields_keeps mappings tables first.table.name first.table.fields
      unfold resolveTables
      dsimp only
      split
      · rw [List.map_cons, List.map_cons, inductionHypothesis]
        simp only [LoadedTable.untyped, fields]
      · simp only [List.map_cons, LoadedTable.untyped, fields]

/-- Resolving changes the fields of the tables and nothing else. -/
theorem resolveTables_keeps
    (mappings : List TypeMapping) (tables : TableSet) (loaded : List LoadedTable) :
    (resolveTables mappings tables loaded).1.map LoadedTable.withoutFields =
      loaded.map LoadedTable.withoutFields := by
  have same := congrArg (List.map LoadedTable.withoutFields)
    (resolveTables_untyped mappings tables loaded)
  rw [List.map_map, List.map_map] at same
  exact same

theorem exists_of_untyped
    {before after : List LoadedTable} {entry : LoadedTable}
    (same : after.map LoadedTable.untyped = before.map LoadedTable.untyped)
    (member : entry ∈ after) : ∃ origin ∈ before, origin.untyped = entry.untyped := by
  have shown : entry.untyped ∈ after.map LoadedTable.untyped := List.mem_map_of_mem member
  rw [same] at shown
  exact List.mem_map.mp shown

/-- A table with the types that its fields declare. -/
def typedTable (mappings : List TypeMapping) (tables : TableSet) (entry : LoadedTable) :
    Outcome LoadedTable := do
  let fields ← entry.table.fields.mapM (typedField mappings tables)
  return { entry with table := { entry.table with fields } }

theorem resolveTables_eq_ok_iff
    {mappings : List TypeMapping} {tables : TableSet} {loaded resolved : List LoadedTable} :
    resolveTables mappings tables loaded = (resolved, .ok ()) ↔
      loaded.mapM (typedTable mappings tables) = .ok resolved := by
  induction loaded generalizing resolved with
  | nil =>
      rw [resolveTables, List.mapM_nil, Outcome.pure_eq_ok_iff, Prod.mk.injEq]
      exact and_iff_left rfl
  | cons entry rest inductionHypothesis =>
      have fieldsRan : ∀ fields,
          resolveFields mappings tables entry.table.name entry.table.fields = (fields, .ok ()) ↔
            entry.table.fields.mapM (typedField mappings tables) = .ok fields :=
        fun _ => resolveFields_eq_ok_iff
      rw [resolveTables]
      simp only [List.mapM_cons, Outcome.bind_eq_ok_iff, Outcome.pure_eq_ok_iff, typedTable,
        ← fieldsRan]
      rcases resolveFields mappings tables entry.table.name entry.table.fields with
        ⟨fields, outcome⟩
      cases outcome with
      | error failure => simp
      | ok value =>
          rcases shape : resolveTables mappings tables rest with ⟨others, last⟩
          simp only [← inductionHypothesis, shape, Prod.mk.injEq]
          constructor
          · rintro ⟨rfl, ended⟩
            exact ⟨_, ⟨fields, ⟨rfl, trivial⟩, rfl⟩, others, ⟨rfl, ended⟩, rfl⟩
          · rintro ⟨_, ⟨_, ⟨rfl, _⟩, rfl⟩, _, ⟨rfl, ended⟩, rfl⟩
            exact ⟨rfl, ended⟩

theorem mem_resolveTables
    {mappings : List TypeMapping} {tables : TableSet} {loaded resolved : List LoadedTable}
    {entry : LoadedTable}
    (ran : resolveTables mappings tables loaded = (resolved, .ok ()))
    (member : entry ∈ resolved) :
    ∃ before ∈ loaded,
      resolveFields mappings tables before.table.name before.table.fields =
        (entry.table.fields, .ok ()) := by
  have each := Outcome.mapM_eq_ok_iff.mp (resolveTables_eq_ok_iff.mp ran)
  obtain ⟨before, present, typed⟩ := (Outcome.exists_of_forall₂ each).2 entry member
  obtain ⟨fields, fieldsTyped, same⟩ := Outcome.bind_eq_ok_iff.mp typed
  refine ⟨before, present, resolveFields_eq_ok_iff.mpr ?_⟩
  rw [← Outcome.pure_eq_ok_iff.mp same]
  exact fieldsTyped

/-! ## Sources -/

namespace Source

/-- Tables with distinct names, with fields, and with raw cells for defaults. -/
structure Found (source : Source) : Prop where
  names : (source.loaded.map fun entry => lowercase entry.table.name).Nodup
  nonempty : ∀ entry ∈ source.loaded, entry.table.fields ≠ []
  defaults : ∀ entry ∈ source.loaded, ScalarDefaults entry.table.fields

/-- What opening makes of a source. -/
structure Resolved (source : Source) : Prop extends Found source where
  types : ∀ entry ∈ source.loaded, ∀ field ∈ entry.table.fields,
    ∃ type, field.type = some type ∧ RefersTo source.tables type

theorem found_empty : Found {} where
  names := List.nodup_nil
  nonempty := by simp
  defaults := by simp

theorem add_eq_ok_iff {source grown : Source} {entry : LoadedTable} :
    source.add entry = .ok grown ↔
      source.tables.get? entry.table.name = none ∧
        grown = { source with loaded := source.loaded ++ [entry] } := by
  unfold add TableSet.insert
  cases found : source.tables.get? entry.table.name with
  | some table => simp [bind, Except.bind]
  | none => simp [bind, Except.bind, pure, Except.pure, eq_comm]

theorem tables_get?_eq_none_iff {source : Source} {name : String} :
    source.tables.get? name = none ↔
      lowercase name ∉ source.loaded.map fun entry => lowercase entry.table.name := by
  unfold TableSet.get? tables
  simp

/-- A sheet adds one table with a name of its own, or none. -/
theorem addSheet_eq_ok
    {settings : Settings} {run : Naming.Scope} {provider : SheetProvider}
    {source grown : Source} {ref : SheetRef}
    (added : source.addSheet settings run provider ref = .ok grown) :
    grown = source ∨ ∃ entry, grown = { source with loaded := source.loaded ++ [entry] } ∧
      source.tables.get? entry.table.name = none ∧
      readHeader settings run ref entry.sheet = .ok (some (entry.table, entry.dataRow)) := by
  unfold addSheet at added
  obtain ⟨sheet, _, header⟩ := Outcome.bind_eq_ok_iff.mp added
  obtain ⟨result, read, continued⟩ := Outcome.bind_eq_ok_iff.mp header
  split at continued
  · next table dataRow =>
      obtain ⟨absent, same⟩ := add_eq_ok_iff.mp continued
      exact Or.inr ⟨⟨table, sheet, dataRow⟩, same, absent, read⟩
  · cases continued
    exact Or.inl rfl

theorem exists_of_mem_addSheets
    {settings : Settings} {run : Naming.Scope} {provider : SheetProvider} {source : Source}
    {refs : List SheetRef} {entry : LoadedTable}
    (member : entry ∈ (source.addSheets settings run provider refs).1.loaded) :
    entry ∈ source.loaded ∨ ∃ ref ∈ refs,
      readHeader settings run ref entry.sheet = .ok (some (entry.table, entry.dataRow)) := by
  induction refs generalizing source with
  | nil => exact Or.inl member
  | cons ref rest inductionHypothesis =>
      unfold addSheets at member
      split at member
      · next grown added =>
          rcases inductionHypothesis member with inGrown | ⟨other, inRest, read⟩
          · rcases addSheet_eq_ok added with same | ⟨last, same, _, read⟩
            · left
              rwa [same] at inGrown
            · rw [same] at inGrown
              rcases List.mem_append.mp inGrown with before | atEnd
              · exact Or.inl before
              · right
                rw [List.mem_singleton.mp atEnd]
                exact ⟨ref, List.mem_cons_self, read⟩
          · exact Or.inr ⟨other, List.mem_cons_of_mem ref inRest, read⟩
      · exact Or.inl member

theorem names_addSheets
    (settings : Settings) (run : Naming.Scope) (provider : SheetProvider)
    (refs : List SheetRef) {source : Source}
    (names : (source.loaded.map fun entry => lowercase entry.table.name).Nodup) :
    ((source.addSheets settings run provider refs).1.loaded.map
      fun entry => lowercase entry.table.name).Nodup := by
  induction refs generalizing source with
  | nil => exact names
  | cons ref rest inductionHypothesis =>
      unfold addSheets
      split
      · next grown added =>
          apply inductionHypothesis
          rcases addSheet_eq_ok added with same | ⟨last, same, absent, _⟩
          · rwa [same]
          · rw [same, List.map_append, List.map_singleton, ← List.concat_eq_append,
              List.nodup_concat]
            exact ⟨tables_get?_eq_none_iff.mp absent, names⟩
      · exact names

theorem found_addSheets
    (settings : Settings) (run : Naming.Scope) (provider : SheetProvider)
    (refs : List SheetRef) {source : Source} (found : Found source) :
    Found (source.addSheets settings run provider refs).1 where
  names := names_addSheets settings run provider refs found.names
  nonempty entry member := by
    rcases exists_of_mem_addSheets member with before | ⟨ref, _, read⟩
    · exact found.nonempty entry before
    · exact (readHeader_sound read).1
  defaults entry member := by
    rcases exists_of_mem_addSheets member with before | ⟨ref, _, read⟩
    · exact found.defaults entry before
    · exact (readHeader_sound read).2

theorem hasTable_iff {source : Source} {name : String} {isEnum : Bool} :
    HasTable source.tables name isEnum ↔
      ∃ entry ∈ source.loaded, entry.table.name = name ∧ entry.table.isEnum = isEnum := by
  constructor
  · rintro ⟨table, member, holds⟩
    obtain ⟨entry, entryMember, same⟩ := List.mem_map.mp member
    exact ⟨entry, entryMember, same ▸ holds⟩
  · rintro ⟨entry, member, holds⟩
    exact ⟨entry.table, List.mem_map_of_mem member, holds⟩

theorem names_of_keeps
    {before after : List LoadedTable} (shown : String → String)
    (keeps : after.map LoadedTable.withoutFields = before.map LoadedTable.withoutFields) :
    (after.map fun entry => shown entry.table.name) =
      before.map fun entry => shown entry.table.name := by
  have names := congrArg (List.map fun entry => shown entry.table.name) keeps
  rw [List.map_map, List.map_map] at names
  exact names

/-- A table with other fields is what it was before. -/
theorem hasTable_of_keeps
    {before after : Source}
    (keeps : after.loaded.map LoadedTable.withoutFields =
      before.loaded.map LoadedTable.withoutFields)
    {name : String} {isEnum : Bool} (given : HasTable before.tables name isEnum) :
    HasTable after.tables name isEnum := by
  obtain ⟨entry, member, sameName, sameEnum⟩ := hasTable_iff.mp given
  have stripped : entry.withoutFields ∈ before.loaded.map LoadedTable.withoutFields :=
    List.mem_map_of_mem member
  rw [← keeps] at stripped
  obtain ⟨other, otherMember, same⟩ := List.mem_map.mp stripped
  simp only [LoadedTable.withoutFields, LoadedTable.mk.injEq, Table.mk.injEq] at same
  refine hasTable_iff.mpr ⟨other, otherMember, same.1.1.trans sameName, ?_⟩
  rw [← sameEnum]
  unfold Table.isEnum Table.kind
  rw [same.1.2.2.2.2.1]

/-- What resolving that succeeds says about the tables before and after. -/
theorem resolve_eq_ok
    {mappings : List TypeMapping} {source resolved : Source}
    (ran : source.resolve mappings = (resolved, .ok ())) :
    resolveTables mappings source.tables source.loaded = (resolved.loaded, .ok ()) ∧
      resolved.isOpen = source.isOpen ∧
      ∀ table ∈ resolved.tables.tables, table.validateIndices = .ok () := by
  unfold resolve at ran
  rcases shape : resolveTables mappings source.tables source.loaded with ⟨loaded, outcome⟩
  rw [shape] at ran
  cases outcome with
  | error failure => cases ran
  | ok value =>
      simp only [Prod.mk.injEq] at ran
      obtain ⟨same, checked⟩ := ran
      subst same
      exact ⟨rfl, rfl, Outcome.forM_eq_ok_iff.mp checked⟩

theorem found_resolve
    {mappings : List TypeMapping} {source : Source} (found : Found source) :
    Found (source.resolve mappings).1 where
  names := by
    have keeps := resolveTables_keeps mappings source.tables source.loaded
    have names := found.names
    rw [← names_of_keeps lowercase keeps] at names
    exact names
  nonempty entry member empty := by
    have keeps := resolveTables_untyped mappings source.tables source.loaded
    obtain ⟨origin, present, same⟩ := exists_of_untyped keeps member
    simp only [LoadedTable.untyped, LoadedTable.mk.injEq, Table.mk.injEq, empty, List.map_nil,
      List.map_eq_nil_iff] at same
    exact found.nonempty origin present same.1.2.2.2.1
  defaults entry member field inFields value given := by
    have keeps := resolveTables_untyped mappings source.tables source.loaded
    obtain ⟨origin, present, same⟩ := exists_of_untyped keeps member
    simp only [LoadedTable.untyped, LoadedTable.mk.injEq, Table.mk.injEq] at same
    have shown : untyped field ∈ entry.table.fields.map untyped := List.mem_map_of_mem inFields
    rw [← same.1.2.2.2.1] at shown
    obtain ⟨before, inOrigin, sameField⟩ := List.mem_map.mp shown
    have sameDefault : (untyped before).default = (untyped field).default := by rw [sameField]
    dsimp only [untyped] at sameDefault
    rw [← sameDefault] at given
    exact found.defaults origin present before inOrigin value given

theorem resolved_of_resolve
    {mappings : List TypeMapping} {source resolved : Source}
    (found : Found source) (ran : source.resolve mappings = (resolved, .ok ())) :
    Resolved resolved := by
  obtain ⟨tablesRan, _, _⟩ := resolve_eq_ok ran
  have keeps := resolveTables_keeps mappings source.tables source.loaded
  rw [tablesRan] at keeps
  have kept : Found resolved := by
    have holds : Found (source.resolve mappings).1 := found_resolve found
    rwa [ran] at holds
  refine ⟨kept, ?_⟩
  intro entry member field fieldMember
  obtain ⟨before, _, ran⟩ := mem_resolveTables tablesRan member
  obtain ⟨_, _, type, declared, same⟩ := mem_resolveFields ran fieldMember
  refine ⟨type, by rw [same], ?_⟩
  have refers := refersTo_declaredType declared
  exact refersTo_mono (fun _ _ => hasTable_of_keeps keeps) refers

theorem discover_eq_ok
    {settings : Settings} {run : Naming.Scope} {provider : SheetProvider}
    {source resolved : Source}
    (ran : source.discover settings run provider = (resolved, .ok ())) :
    ∃ refs found, source.addSheets settings run provider refs = (found, .ok ()) ∧
      found.resolve settings.typeMappings = (resolved, .ok ()) := by
  unfold discover at ran
  split at ran
  · cases ran
  · split at ran
    · cases ran
    · next refs _ =>
        split at ran
        · next found added => exact ⟨refs, found, added, ran⟩
        · cases ran

/-- An opening that succeeds finds the source open, or opens it. -/
theorem openWith_eq_ok
    {settings : Settings} {run : Naming.Scope} {provider : SheetProvider} {source last : Source}
    (opened : source.openWith settings run provider = (last, .ok ())) :
    (source.isOpen = true ∧ last = source) ∨
      ∃ found, source.discover settings run provider = (found, .ok ()) ∧
        last = { found with isOpen := true } := by
  unfold openWith at opened
  by_cases isOpen : source.isOpen = true
  · rw [if_pos isOpen] at opened
    cases opened
    exact Or.inl ⟨isOpen, rfl⟩
  · rw [if_neg isOpen] at opened
    split at opened
    · next found discovered =>
        cases opened
        exact Or.inr ⟨found, discovered, rfl⟩
    · cases opened

/-- A source is opened by reading all the sheets and resolving their tables. -/
theorem ofProvider_eq_ok
    {settings : Settings} {run : Naming.Scope} {provider : SheetProvider} {source : Source}
    (opened : ofProvider settings run provider = .ok source) :
    ∃ refs found resolved,
      ({} : Source).addSheets settings run provider refs = (found, .ok ()) ∧
        found.resolve settings.typeMappings = (resolved, .ok ()) ∧
        source = { resolved with isOpen := true } := by
  unfold ofProvider at opened
  split at opened
  · next last ran =>
      cases opened
      rcases openWith_eq_ok ran with ⟨isOpen, _⟩ | ⟨resolved, discovered, same⟩
      · cases isOpen
      · obtain ⟨refs, found, added, resolving⟩ := discover_eq_ok discovered
        exact ⟨refs, found, resolved, added, resolving, same⟩
  · cases opened

/-- Every opened source is resolved. -/
theorem resolved_of_ofProvider
    {settings : Settings} {run : Naming.Scope} {provider : SheetProvider} {source : Source}
    (opened : ofProvider settings run provider = .ok source) :
    Resolved source := by
  obtain ⟨refs, found, resolved, added, ran, rfl⟩ := ofProvider_eq_ok opened
  have sound := found_addSheets settings run provider refs found_empty
  rw [added] at sound
  have holds := resolved_of_resolve sound ran
  exact ⟨⟨holds.names, holds.nonempty, holds.defaults⟩, holds.types⟩

end Source

end TypedTables.Discover
