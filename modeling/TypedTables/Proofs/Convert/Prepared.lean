import TypedTables.Proofs.Binding.Agreement
import TypedTables.Proofs.Convert.StandardChain

/-!
# Prepared conversions

A conversion is prepared for an opened source when it looks tables and types up in what planning
made of the source, and runs the standard chain with no further providers of members.
-/

namespace TypedTables.Convert

open TypedTables.Schema TypedTables.Manifest TypedTables.Binding TypedTables.Discover
open TypedTables.Generate
open TypedTables.Config (Code Settings)

/-- The look-up of conversions for a source and a catalog of its types. -/
def Lookup.ofSource (source : Source) (catalog : Catalog) (separators : Separators) : Lookup where
  tables := source.tables
  catalog := catalog
  separators := separators

/-- A look-up whose tables and types agree. -/
structure Prepared (source : Source) (code : Code) (names : TypeNames) (lookup : Lookup) :
    Prop where
  resolved : source.Resolved
  agreement : Agreement source code names lookup.catalog
  tables : lookup.tables = source.tables
  standard : lookup.chain = .standard
  providers : lookup.providers = []

/-- What conversions use of a table that is no enumeration and of its type. -/
structure Columns (tables : TableSet) (table : Table) (descriptor : Descriptor) : Prop where
  kind : descriptor.kind = table.kind
  members : declaredMembers descriptor = table.fields.map boundColumn
  declared : declaredMembers descriptor =
    descriptor.members.map fun member => (member.bindingName, Binding.bind member)
  distinct : (table.fields.map (·.name)).Nodup
  nonempty : table.fields ≠ []
  typed : ∀ column ∈ table.fields, ∃ type, column.type = some type ∧ RefersTo tables type
  defaults : ScalarDefaults table.fields

variable {source : Source} {code : Code} {names : TypeNames} {plan : Plan} {catalog : Catalog}
  {lookup : Lookup}

theorem Columns.bindingNames
    {tables : TableSet} {table : Table} {descriptor : Descriptor}
    (columns : Columns tables table descriptor) :
    descriptor.members.map (·.bindingName) = table.fields.map (·.name) := by
  have same := congrArg (List.map Prod.fst) (columns.declared.symm.trans columns.members)
  rw [List.map_map, List.map_map] at same
  exact same

theorem Columns.bindingNames_nodup
    {tables : TableSet} {table : Table} {descriptor : Descriptor}
    (columns : Columns tables table descriptor) :
    (descriptor.members.map (·.bindingName)).Nodup := by
  rw [columns.bindingNames]
  exact columns.distinct

theorem names_of_declared
    {descriptor : Descriptor}
    (declared : declaredMembers descriptor =
      descriptor.members.map fun member => (member.bindingName, Binding.bind member)) :
    (declaredMembers descriptor).map (·.2.name) = descriptor.members.map (·.bindingName) := by
  rw [declared, List.map_map]
  rfl

/-- The member of a column is found under the column's name. -/
theorem Columns.entryValue?_boundColumn
    {tables : TableSet} {table : Table} {descriptor : Descriptor}
    (columns : Columns tables table descriptor) {column : Field} (member : column ∈ table.fields) :
    entryValue? column.name (declaredMembers descriptor) = some (boundColumn column).2 := by
  rw [columns.members]
  apply entryValue?_of_mem
  · simpa [entryKeys, boundColumn, Function.comp_def] using columns.distinct
  · exact List.mem_map.mpr ⟨column, member, rfl⟩

/-- The type of a bound member refers to tables of the source. -/
theorem Columns.refersTo
    {tables : TableSet} {table : Table} {descriptor : Descriptor}
    (columns : Columns tables table descriptor) {entry : String × BoundMember}
    (member : entry ∈ declaredMembers descriptor) : RefersTo tables entry.2.type := by
  rw [columns.members] at member
  obtain ⟨column, inFields, same⟩ := List.mem_map.mp member
  obtain ⟨type, typed, refers⟩ := columns.typed column inFields
  rw [← same, boundColumn_type typed]
  exact refers

/-- What is known of the members of every table's type; that of an enumeration has none. -/
structure Declared (tables : TableSet) (descriptor : Descriptor) : Prop where
  members : declaredMembers descriptor =
    descriptor.members.map fun member => (member.bindingName, Binding.bind member)
  distinct : (descriptor.members.map (·.bindingName)).Nodup
  refersTo : ∀ entry ∈ declaredMembers descriptor, RefersTo tables entry.2.type

theorem Columns.toDeclared
    {tables : TableSet} {table : Table} {descriptor : Descriptor}
    (columns : Columns tables table descriptor) : Declared tables descriptor where
  members := columns.declared
  distinct := columns.bindingNames_nodup
  refersTo _ member := columns.refersTo member

theorem declared_of_memberless
    {tables : TableSet} {descriptor : Descriptor} (memberless : descriptor.members = []) :
    Declared tables descriptor := by
  have noneDeclared : declaredMembers descriptor = [] := by
    unfold declaredMembers
    rw [memberless]
    rfl
  constructor
  · rw [noneDeclared, memberless]
    rfl
  · rw [memberless]
    exact List.nodup_nil
  · rw [noneDeclared]
    simp

/-- A source that is resolved, planned and bound makes a prepared look-up. -/
theorem prepared_of_resolved
    (resolved : source.Resolved) (planned : Plan.ofSource source code = .ok plan)
    (bound : Catalog.ofTables source.tables plan.model code = .ok catalog)
    (separators : Separators) :
    ∃ names, nameTypes code source.tables = .ok names ∧
      Prepared source code names (.ofSource source catalog separators) := by
  obtain ⟨names, named, agreement⟩ := agreement_of_plan resolved planned bound
  exact ⟨names, named, resolved, agreement, rfl, rfl, rfl⟩

theorem prepared_of_plan
    {settings : Settings} {run : Naming.Scope} {provider : SheetProvider}
    (opened : Source.ofProvider settings run provider = .ok source)
    (planned : Plan.ofSource source code = .ok plan)
    (bound : Catalog.ofTables source.tables plan.model code = .ok catalog)
    (separators : Separators) :
    ∃ names, nameTypes code source.tables = .ok names ∧
      Prepared source code names (.ofSource source catalog separators) :=
  prepared_of_resolved (Source.resolved_of_ofProvider opened) planned bound separators

namespace Prepared

theorem exists_loaded
    (prepared : Prepared source code names lookup) {table : Table}
    (member : table ∈ lookup.tables.tables) :
    ∃ entry ∈ source.loaded, entry.table = table := by
  rw [prepared.tables] at member
  exact List.mem_map.mp member

/-- A table that is no enumeration is bound column by column. -/
theorem columns
    (prepared : Prepared source code names lookup) {table : Table} {descriptor : Descriptor}
    (member : table ∈ lookup.tables.tables) (notEnum : table.isEnum = false)
    (found : lookup.catalog.descriptor? table.name = some descriptor) :
    Columns lookup.tables table descriptor := by
  obtain ⟨entry, loaded, same⟩ := prepared.exists_loaded member
  rw [prepared.tables] at member ⊢
  obtain ⟨other, otherFound, planned⟩ := prepared.agreement.bound table member
  rw [found, Option.some.injEq] at otherFound
  subst otherFound same
  obtain ⟨head, _, members, ran, sameMembers⟩ := plannedAs_record notEnum planned
  have described := described_describeMembers ran
  rw [← sameMembers] at described
  have declared := declaredMembers_of_described described
  exact {
    kind := head.kind
    members := declared
    declared := declared.trans described.bound.symm
    distinct := described.fieldNames
    nonempty := prepared.resolved.nonempty entry loaded
    typed := prepared.resolved.types entry loaded
    defaults := prepared.resolved.defaults entry loaded }

theorem declared
    (prepared : Prepared source code names lookup) {table : Table} {descriptor : Descriptor}
    (member : table ∈ lookup.tables.tables)
    (found : lookup.catalog.descriptor? table.name = some descriptor) :
    Declared lookup.tables descriptor := by
  cases isEnum : table.isEnum with
  | false => exact (prepared.columns member isEnum found).toDeclared
  | true =>
      rw [prepared.tables] at member
      obtain ⟨other, otherFound, planned⟩ := prepared.agreement.bound table member
      rw [found, Option.some.injEq] at otherFound
      subst otherFound
      exact declared_of_memberless (plannedAs_enum isEnum planned).2.1

theorem defaults
    (prepared : Prepared source code names lookup) {table : Table}
    (member : table ∈ lookup.tables.tables) : ScalarDefaults table.fields := by
  obtain ⟨entry, loaded, rfl⟩ := prepared.exists_loaded member
  exact prepared.resolved.defaults entry loaded

theorem membersOf_eq
    (prepared : Prepared source code names lookup) (descriptor : Descriptor) :
    membersOf lookup.providers descriptor = declaredMembers descriptor := by
  rw [prepared.providers]
  rfl

theorem memberNames
    (prepared : Prepared source code names lookup) {table : Table} {descriptor : Descriptor}
    (columns : Columns lookup.tables table descriptor) :
    (membersOf lookup.providers descriptor).map (·.2.name) = table.fields.map (·.name) := by
  rw [prepared.membersOf_eq, names_of_declared columns.declared, columns.bindingNames]

theorem distinctTables (prepared : Prepared source code names lookup) :
    (lookup.tables.tables.map fun table => Text.lowercase table.name).Nodup := by
  rw [prepared.tables]
  exact prepared.agreement.tables

theorem distinctTypes (prepared : Prepared source code names lookup) :
    DistinctTypes lookup.catalog.model :=
  prepared.agreement.distinctTypes

/-- A new record takes whatever was collected before it, and keeps the collection sound. -/
theorem fresh_steady (prepared : Prepared source code names lookup) (room : Nat) (table : Table) :
    Steady lookup (instantiate lookup room table) :=
  instantiate_steady prepared.distinctTypes room table

end Prepared

/-! ## New records -/

/-- Gives every member of a record the value that a conversion gives for it. -/
def collectMembers (convert : BoundMember → Conversion Value) :
    Members → List (String × Value) → Conversion (List (String × Value))
  | [], entries => pure entries
  | (_, member) :: rest, entries => do
    let value ← convert member
    collectMembers convert rest (setEntry member.name value entries)

theorem seedMembers_eq
    {fresh : Fresh} (table : Table) (members : Members) (entries : List (String × Value)) :
    seedMembers lookup fresh table members entries =
      collectMembers (seedMember lookup fresh table) members entries := by
  induction members generalizing entries with
  | nil => rfl
  | cons entry rest inductionHypothesis =>
      unfold seedMembers collectMembers
      exact congrArg _ (funext fun value => inductionHypothesis _)

/-- Members with names of their own are collected in their order, each with the value that its
conversion ensures. -/
theorem collectMembers_ensures
    {convert : BoundMember → Conversion Value} (post : BoundMember → Value → Prop)
    {members : Members} {entries : List (String × Value)}
    (each : ∀ entry ∈ members, Ensures lookup (convert entry.2) (post entry.2))
    (apart : (entryKeys entries ++ members.map (·.2.name)).Nodup) :
    Ensures lookup (collectMembers convert members entries) fun collected =>
      ∃ added, collected = entries ++ added ∧ entryKeys added = members.map (·.2.name) ∧
        ∀ new ∈ added, ∃ entry ∈ members, new.1 = entry.2.name ∧ post entry.2 new.2 := by
  induction members generalizing entries with
  | nil => exact Ensures.pure ⟨[], by simp⟩
  | cons entry rest inductionHypothesis =>
      unfold collectMembers
      apply Ensures.bind (each entry List.mem_cons_self)
      intro value holds
      have absent : entry.2.name ∉ entryKeys entries := by
        intro present
        exact (List.nodup_append.mp apart).2.2 _ present entry.2.name (by simp) rfl
      rw [setEntry_of_not_mem absent]
      have restEach : ∀ other ∈ rest, Ensures lookup (convert other.2) (post other.2) :=
        fun other member => each other (List.mem_cons_of_mem entry member)
      apply Ensures.weaken (inductionHypothesis restEach (by simpa using apart))
      rintro collected ⟨added, shape, keys, fits⟩
      refine ⟨(entry.2.name, value) :: added, by simp [shape], by simp [keys], ?_⟩
      intro new member
      rcases List.mem_cons.mp member with atHead | inRest
      · exact ⟨entry, List.mem_cons_self, by rw [atHead], by rw [atHead]; exact holds⟩
      · obtain ⟨other, otherMember, given⟩ := fits new inRest
        exact ⟨other, List.mem_cons_of_mem entry otherMember, given⟩

/-- A new record of a table has the members of the table's type in their order, each with a value
as its seed ensures it. -/
theorem instantiate_ensures
    (distinct : DistinctTypes lookup.catalog.model) {room : Nat} {table : Table}
    {descriptor : Descriptor} (found : lookup.catalog.descriptor? table.name = some descriptor)
    (apart : ((membersOf lookup.providers descriptor).map (·.2.name)).Nodup)
    (post : BoundMember → Value → Prop)
    (each : ∀ inner < room, ∀ entry ∈ membersOf lookup.providers descriptor,
      Ensures lookup (seedMember lookup (instantiate lookup inner) table entry.2)
        (post entry.2)) :
    Ensures lookup (instantiate lookup room table) fun value =>
      ∃ entries, value = .record descriptor.fullName entries ∧
        entryKeys entries = (membersOf lookup.providers descriptor).map (·.2.name) ∧
        ∀ new ∈ entries, ∃ entry ∈ membersOf lookup.providers descriptor,
          new.1 = entry.2.name ∧ post entry.2 new.2 := by
  have typeMember := Catalog.mem_types_of_descriptor? found
  have collected := membersFor_returns distinct typeMember
  have steady : Steady lookup (membersFor lookup descriptor) := ⟨_, collected⟩
  unfold instantiate
  rw [found]
  dsimp only
  cases room with
  | zero =>
      exact Ensures.bind steady.ensures fun _ _ => Ensures.throw
  | succ room =>
      refine Ensures.bind (collected.ensures rfl) ?_
      rintro members rfl
      dsimp only
      rw [seedMembers_eq]
      apply Ensures.bind
        (collectMembers_ensures post (each room (Nat.lt_succ_self room)) (by simpa using apart))
      rintro entries ⟨added, shape, keys, fits⟩
      rw [List.nil_append] at shape
      rw [shape]
      exact Ensures.pure ⟨added, rfl, keys, fits⟩

/-- A new record of a table has the members of the table's type in their order. -/
theorem instantiate_keys
    (distinct : DistinctTypes lookup.catalog.model) (room : Nat) {table : Table}
    {descriptor : Descriptor} (found : lookup.catalog.descriptor? table.name = some descriptor)
    (apart : ((membersOf lookup.providers descriptor).map (·.2.name)).Nodup) :
    Ensures lookup (instantiate lookup room table) fun value =>
      ∃ entries, value = .record descriptor.fullName entries ∧
        entryKeys entries = (membersOf lookup.providers descriptor).map (·.2.name) := by
  have seeded : ∀ inner < room, ∀ entry ∈ membersOf lookup.providers descriptor,
      Ensures lookup (seedMember lookup (instantiate lookup inner) table entry.2) fun _ => True :=
    fun inner _ entry _ =>
      (seedMember_steady distinct (instantiate_steady distinct inner) table entry.2).ensures
  apply Ensures.weaken (instantiate_ensures distinct found apart (fun _ _ => True) seeded)
  rintro value ⟨entries, shape, keys, _⟩
  exact ⟨entries, shape, keys⟩

/-! ## A source of one table

A sheet with two columns and one row of data, and what a run makes of it. -/

def pairSheet : Sheet :=
  .ofTexts [[], ["A", "B"], ["int", "string"], [], [], ["7", "x"]]

def pairTable : Table :=
  { Table.named "Pair" .empty with
    fields := [
      { name := "A", declared := "int", type := some (.primitive .int32), column := 1 },
      { name := "B", declared := "string", type := some (.primitive .string), column := 2,
        order := 1, index := 1 }] }

def pairSource : Source :=
  { loaded := [⟨pairTable, pairSheet, 6⟩], isOpen := true }

def pairDescriptor : Descriptor :=
  { name := "Pair", table := "Pair", kind := .reference
    members := [
      { name := "a", rename := some "A", type := .primitive .int32 },
      { name := "b", rename := some "B", type := .primitive .string, index := 1 }] }

def pairPlan : Plan :=
  { model := { moduleName := "tables", types := [pairDescriptor] }
    declarations := [
      { name := "Pair", table := "Pair", isEnum := false, doc := [], isFirst := true
        moduleName := "tables", space := none
        members := [⟨"a", "A", "i32", []⟩, ⟨"b", "B", "String", []⟩] }] }

def pairCatalog : Catalog :=
  ⟨pairPlan.model, [("pair", 0)]⟩

theorem opened_pairSource :
    Source.ofProvider {} .empty (.ofList [("Pair", pairSheet)]) = .ok pairSource := by
  with_unfolding_all rfl

deriving instance DecidableEq for Plan

theorem planned_pairSource : Plan.ofSource pairSource {} = .ok pairPlan :=
  Outcome.eq_ok_of_toOption (by decide +kernel)

deriving instance DecidableEq for Catalog

theorem bound_pairSource :
    Catalog.ofTables pairSource.tables pairPlan.model {} = .ok pairCatalog :=
  Outcome.eq_ok_of_toOption (by decide +kernel)

end TypedTables.Convert
