import Mathlib.Data.List.Nodup
import Mathlib.Data.List.Perm.Subperm
import TypedTables.Schema.Table

/-!
# Serialization indices

The parts of a composite cell belong to the columns in the order of their serialization indices.
The check of a table's indices only looks for one that is repeated or has no position; that every
position has an index follows by counting.
-/

namespace TypedTables

open TypedTables.Schema

variable {table : Table} {column : Field}

/-! ## The check -/

theorem misplacedField?_eq_none_iff {count : Nat} {seen : List Nat} {fields : List Field} :
    Table.misplacedField? count seen fields = none ↔
      (∀ field ∈ fields, field.index < count ∧ field.index ∉ seen) ∧
        (fields.map (·.index)).Nodup := by
  induction fields generalizing seen with
  | nil => simp [Table.misplacedField?]
  | cons field rest inductionHypothesis =>
      rw [Table.misplacedField?, List.forall_mem_cons, List.map_cons, List.nodup_cons]
      by_cases placed : (field.index < count && !seen.contains field.index) = true
      · have here : field.index < count ∧ field.index ∉ seen := by simpa using placed
        rw [if_pos placed, inductionHypothesis]
        constructor
        · rintro ⟨others, distinct⟩
          refine ⟨⟨here, fun other inRest => ?_⟩, ?_, distinct⟩
          · obtain ⟨below, unseen⟩ := others other inRest
            exact ⟨below, fun earlier => unseen (List.mem_cons_of_mem _ earlier)⟩
          · intro repeated
            obtain ⟨other, inRest, same⟩ := List.mem_map.mp repeated
            apply (others other inRest).2
            rw [same]
            exact List.mem_cons_self
        · rintro ⟨⟨_, others⟩, unrepeated, distinct⟩
          refine ⟨fun other inRest => ⟨(others other inRest).1, ?_⟩, distinct⟩
          rw [List.mem_cons, not_or]
          refine ⟨fun same => unrepeated ?_, (others other inRest).2⟩
          exact List.mem_map.mpr ⟨other, inRest, same⟩
      · rw [if_neg placed]
        constructor
        · intro impossible
          cases impossible
        · rintro ⟨⟨here, _⟩, _⟩
          exact absurd (by simpa using here) placed

/-- As many different numbers below a bound as there are, are all of them. -/
theorem perm_range_iff {numbers : List Nat} :
    numbers.Perm (List.range numbers.length) ↔
      (∀ number ∈ numbers, number < numbers.length) ∧ numbers.Nodup := by
  constructor
  · intro permuted
    refine ⟨fun number member => ?_, permuted.nodup_iff.mpr List.nodup_range⟩
    exact List.mem_range.mp (permuted.mem_iff.mp member)
  · rintro ⟨below, distinct⟩
    have inside : numbers ⊆ List.range numbers.length := fun number member =>
      List.mem_range.mpr (below number member)
    have lengths : (List.range numbers.length).length ≤ numbers.length :=
      Nat.le_of_eq List.length_range
    exact (List.subperm_of_subset distinct inside).perm_of_length_le lengths

/-- The serialization indices of a table are its positions, in some order. -/
def Dense (table : Table) : Prop :=
  (table.fields.map (·.index)).Perm (List.range table.fields.length)

theorem validateIndices_eq_ok_iff : table.validateIndices = .ok () ↔ Dense table := by
  have checked : table.validateIndices = .ok () ↔
      Table.misplacedField? table.fields.length [] table.fields = none := by
    unfold Table.validateIndices
    split
    · next none => exact iff_of_true rfl none
    · next field found => simp [found]
  have counted := @perm_range_iff (table.fields.map (·.index))
  rw [List.length_map, List.forall_mem_map] at counted
  rw [checked, misplacedField?_eq_none_iff, Dense, counted]
  simp

/-! ## The order of parts -/

theorem serialized_perm (table : Table) : table.serialized.Perm table.fields :=
  List.mergeSort_perm _ _

theorem mem_serialized : column ∈ table.serialized ↔ column ∈ table.fields :=
  (serialized_perm table).mem_iff

theorem serialized_pairwise (table : Table) :
    table.serialized.Pairwise fun left right => left.index ≤ right.index := by
  have sorted := List.pairwise_mergeSort
    (fun (left middle right : Field) (first : decide (left.index ≤ middle.index) = true)
      (second : decide (middle.index ≤ right.index) = true) =>
        decide_eq_true (Nat.le_trans (of_decide_eq_true first) (of_decide_eq_true second)))
    (fun left right : Field => by simpa using Nat.le_total left.index right.index)
    table.fields
  exact sorted.imp of_decide_eq_true

namespace Dense

theorem index_inj
    (dense : Dense table) {left right : Field} (leftMember : left ∈ table.fields)
    (rightMember : right ∈ table.fields) (same : left.index = right.index) : left = right :=
  List.inj_on_of_nodup_map (dense.nodup_iff.mpr List.nodup_range) leftMember rightMember same

theorem map_index_serialized (dense : Dense table) :
    table.serialized.map (·.index) = List.range table.fields.length := by
  have permuted : (table.serialized.map (·.index)).Perm (List.range table.fields.length) :=
    ((serialized_perm table).map _).trans dense
  have ordered : (table.serialized.map (·.index)).Pairwise (· ≤ ·) :=
    List.pairwise_map.mpr (serialized_pairwise table)
  exact permuted.eq_of_pairwise (fun _ _ _ _ => Nat.le_antisymm) ordered List.pairwise_le_range

/-- The order of the parts is that of the indices, whatever the order of the columns. -/
theorem serialized_of_perm
    (dense : Dense table) {fields : List Field} (rearranged : fields.Perm table.fields) :
    { table with fields }.serialized = table.serialized := by
  have sameFields : { table with fields }.serialized.Perm table.serialized :=
    ((serialized_perm { table with fields }).trans rearranged).trans (serialized_perm table).symm
  refine sameFields.eq_of_pairwise ?_ (serialized_pairwise _) (serialized_pairwise table)
  intro left right leftMember rightMember below above
  have leftField := (serialized_perm table).mem_iff.mp (sameFields.mem_iff.mp leftMember)
  have rightField := (serialized_perm table).mem_iff.mp rightMember
  exact dense.index_inj leftField rightField (Nat.le_antisymm below above)

/-- The column of a part is the one whose index is the part's position. -/
theorem serialized_getElem?_eq_some_iff (dense : Dense table) {position : Nat} :
    table.serialized[position]? = some column ↔
      column ∈ table.fields ∧ column.index = position := by
  have indexAt : ∀ other, table.serialized[other]? = some column → column.index = other := by
    intro other found
    have mapped : (table.serialized.map (·.index))[other]? = some column.index := by
      rw [List.getElem?_map, found]
      rfl
    rw [dense.map_index_serialized] at mapped
    obtain ⟨below, same⟩ := List.getElem?_eq_some_iff.mp mapped
    rw [List.getElem_range] at same
    exact same.symm
  constructor
  · intro found
    exact ⟨mem_serialized.mp (List.mem_of_getElem? found), indexAt position found⟩
  · intro ⟨member, atPosition⟩
    obtain ⟨other, found⟩ := List.mem_iff_getElem?.mp (mem_serialized.mpr member)
    rw [← atPosition, indexAt other found]
    exact found

theorem mem_zip_serialized_iff (dense : Dense table) {parts : List String} {part : String} :
    (part, column) ∈ parts.zip table.serialized ↔
      column ∈ table.fields ∧ parts[column.index]? = some part := by
  simp only [List.mem_iff_getElem?, List.getElem?_zip_eq_some,
    dense.serialized_getElem?_eq_some_iff]
  constructor
  · rintro ⟨position, given, member, rfl⟩
    exact ⟨member, given⟩
  · intro ⟨member, given⟩
    exact ⟨column.index, given, member, rfl⟩

theorem existsUnique_index
    (dense : Dense table) {position : Nat} (below : position < table.fields.length) :
    ∃! column, column ∈ table.fields ∧ column.index = position := by
  have present : position ∈ table.fields.map (·.index) :=
    dense.mem_iff.mpr (List.mem_range.mpr below)
  obtain ⟨column, member, same⟩ := List.mem_map.mp present
  refine ⟨column, ⟨member, same⟩, ?_⟩
  intro other otherHolds
  exact dense.index_inj otherHolds.1 member (otherHolds.2.trans same.symm)

end Dense

/-- The check of indices accepts exactly the rearrangements of the positions.  The order of the
parts has every column once, and each stands at the position of its index exactly where the check
accepts the indices. -/
theorem indices_accepted_iff (table : Table) :
    (table.validateIndices = .ok () ↔
      (table.fields.map (·.index)).Perm (List.range table.fields.length)) ∧
    table.serialized.Perm table.fields ∧
    (table.validateIndices = .ok () ↔
      table.serialized.map (·.index) = List.range table.fields.length) := by
  refine ⟨validateIndices_eq_ok_iff, serialized_perm table, ?_⟩
  rw [validateIndices_eq_ok_iff]
  constructor
  · exact Dense.map_index_serialized
  · intro inOrder
    have permuted := (serialized_perm table).map (·.index)
    rw [inOrder] at permuted
    exact permuted.symm

end TypedTables
