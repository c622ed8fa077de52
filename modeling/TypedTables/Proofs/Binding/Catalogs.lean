import TypedTables.Proofs.Binding.Agreement
import TypedTables.Proofs.Generate.KnownTypes

/-!
# Catalogs of planned types

Whenever planning succeeds over an opened source, binding succeeds as well, and every table is
bound to the type that was planned from it.  The members of that type are the fields of the table,
whatever members were collected before.
-/

namespace TypedTables.Binding

open TypedTables.Schema TypedTables.Manifest TypedTables.Discover TypedTables.Generate
open TypedTables.Text TypedTables.Convert
open TypedTables.Config (Code Settings)

variable {source : Source} {code : Code} {names : TypeNames} {plan : Plan} {catalog : Catalog}

/-! ## Binding -/

theorem isSome_find?_of_fullName
    {model : Model} {descriptor : Descriptor} {fullName : String}
    (present : descriptor ∈ model.types) (same : descriptor.fullName = fullName) :
    (model.find? fullName).isSome = true := by
  have matched : (model.position? (equalIgnoringAsciiCase ·.fullName fullName)).isSome = true := by
    unfold Model.position?
    rw [List.findIdx?_isSome, List.any_eq_true]
    exact ⟨descriptor, present, equalIgnoringAsciiCase_iff.mpr (congrArg asciiLower same)⟩
  obtain ⟨position, found⟩ := Option.isSome_iff_exists.mp matched
  unfold Model.find?
  rw [found]
  rfl

/-- Tables can be bound in a model that has a type for each of them. -/
theorem exists_ofTables
    {tables : TableSet} {model : Model} (named : Named code tables.tables names)
    (typed : ∀ table ∈ tables.tables, ∃ descriptor ∈ model.types,
      descriptor.fullName = qualify code.space (typeNameOf code table)) :
    ∃ catalog, Catalog.ofTables tables model code = .ok catalog := by
  refine Outcome.exists_foldlM (fun catalog => catalog.model = model) rfl ?_
  intro table member catalog sameModel
  obtain ⟨descriptor, present, fullName⟩ := typed table member
  have found := isSome_find?_of_fullName present fullName
  obtain ⟨position, atPosition⟩ := Option.isSome_iff_exists.mp found
  refine ⟨{ catalog with
    positions := setEntry (lowercase table.name) position catalog.positions }, ?_, sameModel⟩
  unfold Catalog.add
  rw [named.formatted table member, sameModel]
  refine Outcome.bind_eq_ok_iff.mpr ⟨_, rfl, ?_⟩
  rw [atPosition]
  rfl

/-! ## Members -/

/-- The collected members after the members of some types were asked for. -/
def collected (providers : List Provider) (descriptors : List Descriptor) : MemberCache :=
  descriptors.foldl (fun cache descriptor => (cachedMembers providers descriptor cache).2) []

theorem soundCache_collected
    {lookup : Lookup} (distinct : DistinctTypes lookup.catalog.model)
    {descriptors : List Descriptor}
    (known : ∀ descriptor ∈ descriptors, descriptor ∈ lookup.catalog.model.types) :
    SoundCache lookup (collected lookup.providers descriptors) := by
  suffices general : ∀ cache, SoundCache lookup cache →
      SoundCache lookup
        (descriptors.foldl
          (fun cache descriptor => (cachedMembers lookup.providers descriptor cache).2) cache) from
    general [] soundCache_nil
  induction descriptors with
  | nil => exact fun cache sound => sound
  | cons descriptor rest inductionHypothesis =>
      intro cache sound
      rw [List.foldl_cons]
      apply inductionHypothesis fun other member => known other (List.mem_cons_of_mem _ member)
      have here : descriptor ∈ lookup.catalog.model.types := known descriptor List.mem_cons_self
      exact (membersFor_returns distinct here cache sound).2

/-- A member is the one that a field is written to. -/
structure MemberOf (field : Field) (entry : String × BoundMember) : Prop where
  key : entry.1 = field.name
  name : entry.2.name = field.name
  type : field.type = some entry.2.type
  index : entry.2.index = field.index

theorem memberOf_boundColumn
    {field : Field} {type : TypeRef} (typed : field.type = some type) :
    MemberOf field (boundColumn field) where
  key := rfl
  name := rfl
  type := by
    unfold boundColumn
    rw [typed]
    rfl
  index := rfl

/-- The members of a type that is planned from a table are the fields of the table. -/
theorem memberOf_membersOf
    {table : Table} {descriptor : Descriptor} (notEnum : table.isEnum = false)
    (planned : PlannedAs source code names table descriptor) :
    List.Forall₂ MemberOf table.fields (membersOf [] descriptor) := by
  obtain ⟨_, _, members, ran, same⟩ := plannedAs_record notEnum planned
  have described : Described source.tables names [] table.fields descriptor.members := by
    rw [same]
    exact described_describeMembers ran
  have declared : membersOf [] descriptor = table.fields.map boundColumn :=
    declaredMembers_of_described described
  rw [declared, List.forall₂_map_right_iff, List.forall₂_same]
  intro field inFields
  obtain ⟨type, typed, _⟩ := described.typed field inFields
  exact memberOf_boundColumn typed

/-! ## Tables -/

/-- A table is bound to the type that was planned from it: by every spelling of its name, and, in
the order of its fields, with a member for each of them. -/
structure BoundTo
    (source : Source) (code : Code) (catalog : Catalog) (table : Table) (descriptor : Descriptor) :
    Prop where
  planned : ∃ names, nameTypes code source.tables = .ok names ∧
    PlannedAs source code names table descriptor
  tableName : descriptor.table = table.name
  kind : descriptor.kind = table.kind
  found : ∀ name, lowercase name = lowercase table.name →
    catalog.descriptor? name = some descriptor
  members : table.kind ≠ .enumeration → ∀ earlier,
    (∀ other ∈ earlier, other ∈ catalog.model.types) →
      List.Forall₂ MemberOf table.fields
        (cachedMembers [] descriptor (collected [] earlier)).1

theorem Agreement.boundTo
    (agreement : Agreement source code names catalog)
    (namesRan : nameTypes code source.tables = .ok names)
    {table : Table} {descriptor : Descriptor} (member : table ∈ source.tables.tables)
    (present : descriptor ∈ catalog.model.types)
    (planned : PlannedAs source code names table descriptor) :
    BoundTo source code catalog table descriptor where
  planned := ⟨names, namesRan, planned⟩
  tableName := (headed_of_plannedAs planned).tableName
  kind := (headed_of_plannedAs planned).kind
  found name same := by
    obtain ⟨other, found, otherPlanned⟩ := agreement.bound table member
    rw [plannedAs_unique planned otherPlanned, ← found]
    unfold Catalog.descriptor?
    rw [same]
  members notEnumeration earlier known := by
    let lookup : Lookup := { tables := source.tables, catalog, separators := ⟨[], []⟩ }
    have distinct : DistinctTypes lookup.catalog.model := agreement.distinctTypes
    have sound : SoundCache lookup (collected [] earlier) := soundCache_collected distinct known
    have returned := (membersFor_returns distinct present (collected [] earlier) sound).1
    have same : (cachedMembers [] descriptor (collected [] earlier)).1 = membersOf [] descriptor :=
      Except.ok.inj returned
    rw [same]
    exact memberOf_membersOf (by simpa [Table.isEnum] using notEnumeration) planned

/-- Over an opened source, binding succeeds whenever planning does, and it binds every table to the
type that was planned from it. -/
theorem boundTo_of_plan
    {settings : Settings} {run : Naming.Scope} (reached : Source.Reached settings run source)
    (isOpen : source.isOpen = true) (planned : Plan.ofSource source code = .ok plan) :
    ∃ catalog, Catalog.ofTables source.tables plan.model code = .ok catalog ∧
      catalog.model = plan.model ∧
      List.Forall₂ (BoundTo source code catalog) source.tables.tables plan.model.types := by
  have resolved : source.Resolved := Source.resolved_of_reached reached isOpen
  have distinct := (Source.wellFormed_of_reached reached isOpen).names
  obtain ⟨names, namesRan, pairs⟩ := forall₂_ofSource planned
  have named : Named code source.tables.tables names := named_nameTypes distinct namesRan
  have typed : ∀ table ∈ source.tables.tables, ∃ descriptor ∈ plan.model.types,
      descriptor.fullName = qualify code.space (typeNameOf code table) := by
    intro table member
    obtain ⟨descriptor, present, plannedAs⟩ := (Outcome.exists_of_forall₂ pairs).1 table member
    exact ⟨descriptor, present, fullName_of_plannedAs distinct named member plannedAs⟩
  obtain ⟨catalog, ran⟩ := exists_ofTables named typed
  obtain ⟨sameModel, _⟩ := ofTables_positions distinct named ran
  obtain ⟨others, othersRan, agreement⟩ := agreement_of_plan resolved planned ran
  have sameNames : others = names := Except.ok.inj (othersRan.symm.trans namesRan)
  rw [sameNames] at agreement
  refine ⟨catalog, ran, sameModel, List.forall₂_iff_zip.mpr ⟨pairs.length_eq, ?_⟩⟩
  intro table descriptor inZip
  obtain ⟨member, present⟩ := List.of_mem_zip inZip
  have plannedAs : PlannedAs source code names table descriptor := List.forall₂_zip pairs inZip
  rw [← sameModel] at present
  exact agreement.boundTo namesRan member present plannedAs

/-- Sheets of an enumeration and of a table with a column of it. -/
def rankSheets : SheetProvider := .ofList [
  ("Rank", .ofTexts [[], ["Name", "Value"], ["", "int"], ["enum"], [], ["Low", "1"]]),
  ("Hero", .ofTexts [[], ["Id", "Rank"], ["int", "rank"], ["key"], [], ["1", "low"]])]

/-- Types with names of their own are bound inside a namespace. -/
theorem boundTo_of_plan_ranks :
    let code : Code := { space := some "game", typeNameTemplate := "\x7bTableName\x7dRow" }
    let source := (({} : Source).openWith {} .empty rankSheets).1
    source.isOpen = true ∧ ∃ plan, Plan.ofSource source code = .ok plan ∧
      plan.model.types.map (·.fullName) = ["game::RankRow", "game::HeroRow"] ∧
      ∃ catalog, Catalog.ofTables source.tables plan.model code = .ok catalog ∧
        catalog.model = plan.model ∧
        List.Forall₂ (BoundTo source code catalog) source.tables.tables plan.model.types := by
  have names : (Plan.ofSource (({} : Source).openWith {} .empty rankSheets).1
      { space := some "game", typeNameTemplate := "\x7bTableName\x7dRow" }).toOption.map
        (fun plan => plan.model.types.map (·.fullName)) =
      some ["game::RankRow", "game::HeroRow"] := by
    decide +kernel
  obtain ⟨plan, given, named⟩ := Option.map_eq_some_iff.mp names
  have planned := Outcome.eq_ok_of_toOption given
  have reached : Source.Reached {} .empty (({} : Source).openWith {} .empty rankSheets).1 :=
    Source.Reached.opened rankSheets Source.Reached.new
  have isOpen : (({} : Source).openWith {} .empty rankSheets).1.isOpen = true := by
    decide +kernel
  exact ⟨isOpen, plan, planned, named, boundTo_of_plan reached isOpen planned⟩

end TypedTables.Binding
