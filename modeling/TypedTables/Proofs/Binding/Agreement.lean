import TypedTables.Binding.Catalog
import TypedTables.Proofs.Convert.Steadiness
import TypedTables.Proofs.Generate.Planning

/-!
# Agreement of tables and types

A catalog that is bound right after planning finds for every table the type that was planned from
it, and that type has a member for every field of the table.
-/

namespace TypedTables.Binding

open TypedTables.Schema TypedTables.Manifest TypedTables.Discover TypedTables.Generate
open TypedTables.Text TypedTables.Convert
open TypedTables.Config (Code)

variable {source : Source} {code : Code} {names : TypeNames} {plan : Plan} {catalog : Catalog}

/-! ## Full names -/

theorem qualify_filter (space : Option String) (name : String) :
    qualify (space.filter (!·.isEmpty)) name = qualify space name := by
  cases space with
  | none => rfl
  | some outer =>
      by_cases empty : outer.isEmpty = true
      · rw [Option.filter_some, if_neg (by simp [empty])]
        unfold qualify
        dsimp only
        rw [if_pos empty]
      · rw [Option.filter_some, if_pos (by simp [empty])]

theorem asciiLower_append (left right : String) :
    asciiLower (left ++ right) = asciiLower left ++ asciiLower right := by
  simp [asciiLower]

/-- Names inside one namespace are equal up to letter case when they are so with it. -/
theorem asciiLower_qualify_inj {space : Option String} {left right : String}
    (same : asciiLower (qualify space left) = asciiLower (qualify space right)) :
    asciiLower left = asciiLower right := by
  unfold qualify at same
  split at same
  · split at same
    · exact same
    · rw [asciiLower_append (_ ++ _) left, asciiLower_append (_ ++ _) right] at same
      exact (String.append_right_inj _).mp same
  · exact same

/-! ## Types by table -/

/-- What planning and binding a resolved source give: the names of its types, a type for each of
its tables, and nothing else. -/
structure Agreement (source : Source) (code : Code) (names : TypeNames) (catalog : Catalog) :
    Prop where
  tables : (source.tables.tables.map fun table => lowercase table.name).Nodup
  named : Named code source.tables.tables names
  types : ∀ descriptor ∈ catalog.model.types, ∃ table ∈ source.tables.tables,
    PlannedAs source code names table descriptor
  bound : ∀ table ∈ source.tables.tables, ∃ descriptor,
    catalog.descriptor? table.name = some descriptor ∧
      PlannedAs source code names table descriptor

theorem headed_of_plannedAs
    {table : Table} {descriptor : Descriptor}
    (planned : PlannedAs source code names table descriptor) :
    Headed code names table descriptor := by
  cases isEnum : table.isEnum with
  | true => exact (plannedAs_enum isEnum planned).1
  | false => exact (plannedAs_record isEnum planned).1

/-- The full name of a planned type. -/
theorem fullName_of_plannedAs
    (tables : (source.tables.tables.map fun table => lowercase table.name).Nodup)
    (named : Named code source.tables.tables names)
    {table : Table} {descriptor : Descriptor} (member : table ∈ source.tables.tables)
    (planned : PlannedAs source code names table descriptor) :
    descriptor.fullName = qualify code.space (typeNameOf code table) := by
  have head := headed_of_plannedAs planned
  unfold Descriptor.fullName
  rw [head.name, head.space, named.typeName? tables member, qualify_filter]
  rfl

/-- The type that a model has under the full name of a planned type is the planned one. -/
theorem find?_of_plannedAs
    (tables : (source.tables.tables.map fun table => lowercase table.name).Nodup)
    (named : Named code source.tables.tables names) {model : Model}
    (types : ∀ descriptor ∈ model.types, ∃ table ∈ source.tables.tables,
      PlannedAs source code names table descriptor)
    {table : Table} {descriptor : Descriptor} (member : table ∈ source.tables.tables)
    (planned : PlannedAs source code names table descriptor)
    (present : descriptor ∈ model.types) {position : Nat}
    (found : model.find? (qualify code.space (typeNameOf code table)) = some position) :
    model.types[position]? = some descriptor := by
  have hasFirst :
      (model.position? (equalIgnoringAsciiCase ·.fullName
        (qualify code.space (typeNameOf code table)))).isSome := by
    unfold Model.position?
    rw [List.findIdx?_isSome, List.any_eq_true]
    refine ⟨descriptor, present, ?_⟩
    rw [fullName_of_plannedAs tables named member planned, equalIgnoringAsciiCase_iff]
  obtain ⟨first, atFirst⟩ := Option.isSome_iff_exists.mp hasFirst
  have samePosition : first = position := by
    unfold Model.find? at found
    rw [atFirst] at found
    exact Option.some.inj found
  rw [samePosition] at atFirst
  unfold Model.position? at atFirst
  obtain ⟨inside, matched, _⟩ := List.findIdx?_eq_some_iff_getElem.mp atFirst
  obtain ⟨other, otherMember, otherPlanned⟩ := types _ (List.getElem_mem inside)
  rw [fullName_of_plannedAs tables named otherMember otherPlanned,
    equalIgnoringAsciiCase_iff] at matched
  have sameTable : other = table :=
    named.table_eq otherMember member (asciiLower_qualify_inj matched)
  rw [sameTable] at otherPlanned
  rw [List.getElem?_eq_getElem inside, plannedAs_unique otherPlanned planned]

theorem ofTables_positions
    {tables : TableSet} {model : Model}
    (distinct : (tables.tables.map fun table => lowercase table.name).Nodup)
    (named : Named code tables.tables names)
    (ran : Catalog.ofTables tables model code = .ok catalog) :
    catalog.model = model ∧ ∀ table ∈ tables.tables, ∃ position,
      entryValue? (lowercase table.name) catalog.positions = some position ∧
        model.find? (qualify code.space (typeNameOf code table)) = some position := by
  refine Outcome.foldlM_invariant
    (fun before catalog => catalog.model = model ∧ ∀ table ∈ before, ∃ position,
      entryValue? (lowercase table.name) catalog.positions = some position ∧
        model.find? (qualify code.space (typeNameOf code table)) = some position)
    ⟨rfl, by simp⟩ ?_ ran
  intro before table after state next parts holds stepped
  obtain ⟨sameModel, earlier⟩ := holds
  have member : table ∈ tables.tables := by
    rw [parts]
    simp
  unfold Catalog.add at stepped
  rw [named.formatted table member] at stepped
  obtain ⟨name, formatted, matched⟩ := Outcome.bind_eq_ok_iff.mp stepped
  cases formatted
  split at matched
  · next position found =>
      cases matched
      refine ⟨sameModel, ?_⟩
      intro other present
      rcases List.mem_append.mp present with before | last
      · obtain ⟨otherPosition, atOther, otherFound⟩ := earlier other before
        refine ⟨otherPosition, ?_, otherFound⟩
        have different : lowercase table.name ≠ lowercase other.name := by
          intro same
          apply key_not_mem_of_nodup distinct parts
          rw [same]
          exact List.mem_map_of_mem before
        rw [entryValue?_setEntry_of_ne different]
        exact atOther
      · rw [List.mem_singleton.mp last]
        exact ⟨position, entryValue?_setEntry_self _ _ _, by rw [← sameModel]; exact found⟩
  · cases matched

theorem agreement_of_plan
    (resolved : source.Resolved) (planned : Plan.ofSource source code = .ok plan)
    (ran : Catalog.ofTables source.tables plan.model code = .ok catalog) :
    ∃ names, nameTypes code source.tables = .ok names ∧
      Agreement source code names catalog := by
  have tables : (source.tables.tables.map fun table => lowercase table.name).Nodup := by
    unfold Source.tables
    rw [List.map_map]
    exact resolved.names
  obtain ⟨names, namesRan, pairs⟩ := forall₂_ofSource planned
  have named := named_nameTypes tables namesRan
  obtain ⟨fromTables, fromTypes⟩ := Outcome.exists_of_forall₂ pairs
  obtain ⟨sameModel, positions⟩ := ofTables_positions tables named ran
  refine ⟨names, namesRan, tables, named, ?_, ?_⟩
  · rw [sameModel]
    exact fromTypes
  · intro table member
    obtain ⟨descriptor, present, plannedAs⟩ := fromTables table member
    obtain ⟨position, atTable, found⟩ := positions table member
    refine ⟨descriptor, ?_, plannedAs⟩
    unfold Catalog.descriptor?
    rw [atTable, Option.bind_some, sameModel]
    exact find?_of_plannedAs tables named fromTypes member plannedAs present found

namespace Agreement

/-- A full name stands for one planned type. -/
theorem distinctTypes (agreement : Agreement source code names catalog) :
    DistinctTypes catalog.model := by
  intro left leftMember right rightMember same
  obtain ⟨leftTable, leftPresent, leftPlanned⟩ := agreement.types left leftMember
  obtain ⟨rightTable, rightPresent, rightPlanned⟩ := agreement.types right rightMember
  rw [fullName_of_plannedAs agreement.tables agreement.named leftPresent leftPlanned,
    fullName_of_plannedAs agreement.tables agreement.named rightPresent rightPlanned] at same
  have sameTable : leftTable = rightTable :=
    agreement.named.table_eq leftPresent rightPresent
      (asciiLower_qualify_inj (congrArg asciiLower same))
  rw [sameTable] at leftPlanned
  exact plannedAs_unique leftPlanned rightPlanned

theorem get?_name
    (agreement : Agreement source code names catalog)
    {table : Table} (member : table ∈ source.tables.tables) :
    source.tables.get? table.name = some table :=
  get?_of_mem agreement.tables member

end Agreement

/-! ## Members by column -/

/-- The members of a planned type are those of its table's fields, in their order. -/
theorem declaredMembers_of_described
    {tables : TableSet} {seen : List String} {fields : List Field} {descriptor : Descriptor}
    (described : Described tables names seen fields descriptor.members) :
    declaredMembers descriptor = fields.map boundColumn := by
  have allReachable : descriptor.members.filter isReachable = descriptor.members :=
    List.filter_eq_self.mpr described.reachable
  have bindingNames :
      descriptor.members.map (fun member => (bind member).name) = fields.map (·.name) := by
    have firsts := congrArg (List.map Prod.fst) described.bound
    rw [List.map_map, List.map_map] at firsts
    exact firsts
  unfold declaredMembers
  rw [allReachable, foldl_setEntry_of_nodup (by simpa [bindingNames] using described.fieldNames)]
  exact described.bound

end TypedTables.Binding
