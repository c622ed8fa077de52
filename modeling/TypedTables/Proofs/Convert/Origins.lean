import TypedTables.Proofs.Convert.Prepared
import TypedTables.Proofs.Text.Pieces

/-!
# Where floating-point numbers come from

A conversion makes numbers of the parts of its cell and of the defaults of columns, each for the
type of its place, and puts them into lists and records unchanged.  What holds of the numbers that
those parts are coerced into holds of every number inside the result.
-/

namespace TypedTables.Convert

open TypedTables.Schema TypedTables.Manifest TypedTables.Binding TypedTables.Discover
open TypedTables.Generate TypedTables.Number TypedTables.Text
open TypedTables.Config (Code)

/-- A value that stands at a place of a primitive type inside a value of a type. -/
inductive Leaf (catalog : Catalog) (primitive : Primitive) (held : Value) : TypeRef → Value → Prop
  | here : Leaf catalog primitive held (.primitive primitive) held
  | item {element : TypeRef} {items : List Value} {item : Value} (member : item ∈ items)
      (inside : Leaf catalog primitive held element item) :
      Leaf catalog primitive held (.array element) (.array items)
  | member {name typeName : String} {descriptor : Descriptor} {member : Member}
      {members : List (String × Value)} {value : Value}
      (bound : catalog.descriptor? name = some descriptor)
      (declared : member ∈ descriptor.members)
      (entry : (member.bindingName, value) ∈ members)
      (inside : Leaf catalog primitive held member.type value) :
      Leaf catalog primitive held (.table name) (.record typeName members)

/-- Every number at a place of a primitive type is a good one for that type. -/
def AllFloats (catalog : Catalog) (good : Primitive → BinaryFloat → Prop) (type : TypeRef)
    (value : Value) : Prop :=
  ∀ primitive number, Leaf catalog primitive (.float number) type value → good primitive number

/-- A part of a raw cell: the cell itself, or a part of its text. -/
inductive PartOf : Value → Value → Prop
  | whole (value : Value) : PartOf value value
  | piece {part text : String} (inside : part.toList <:+: text.toList) :
      PartOf (.text part) (.text text)

/-- A raw cell whose parts are coerced into good numbers. -/
structure Yields (good : Primitive → BinaryFloat → Prop) (value : Value) : Prop where
  scalar : IsScalar value
  floats : ∀ part, PartOf part value → ∀ type number,
    coercePrimitive part type = .ok (.float number) → good type number

variable {catalog : Catalog} {good : Primitive → BinaryFloat → Prop}

theorem Yields.piece
    {separator text part : String} (yields : Yields good (.text text))
    (member : part ∈ split separator text) : Yields good (.text part) where
  scalar := trivial
  floats other inPart type number := by
    apply yields.floats
    have inside := infix_of_mem_split member
    cases inPart with
    | whole => exact .piece inside
    | piece deeper => exact .piece (deeper.trans inside)

/-! ## Numbers inside values -/

theorem allFloats_coerced
    {value result : Value} {type : Primitive} (yields : Yields good value)
    (coerced : coercePrimitive value type = .ok result) :
    AllFloats catalog good (.primitive type) result := by
  intro primitive number inside
  cases inside with
  | here => exact yields.floats value (.whole value) type number coerced

/-- A blank cell is coerced into zero. -/
theorem allFloats_zero (blankYields : Yields good .null) (type : Primitive) :
    AllFloats catalog good (.primitive type) (Value.zero type) :=
  allFloats_coerced blankYields rfl

/-- A text that is not converted holds no number. -/
theorem allFloats_text (type : TypeRef) (text : String) :
    AllFloats catalog good type (.text text) := by
  intro primitive number inside
  cases inside

theorem allFloats_null (type : TypeRef) : AllFloats catalog good type .null := by
  intro primitive number inside
  cases inside

theorem allFloats_variant (type : TypeRef) (typeName name : String) :
    AllFloats catalog good type (.variant typeName name) := by
  intro primitive number inside
  cases inside

theorem allFloats_external (name : String) (value : Value) :
    AllFloats catalog good (.external name) value := by
  intro primitive number inside
  cases inside

theorem allFloats_array
    {element : TypeRef} {items : List Value}
    (each : ∀ item ∈ items, AllFloats catalog good element item) :
    AllFloats catalog good (.array element) (.array items) := by
  intro primitive number inside
  cases inside with
  | item member inside => exact each _ member primitive number inside

/-- Every number in the entries of a record is good for the member that it is an entry of. -/
def EntryFloats (catalog : Catalog) (good : Primitive → BinaryFloat → Prop)
    (descriptor : Descriptor) (entries : List (String × Value)) : Prop :=
  ∀ member ∈ descriptor.members, ∀ value, (member.bindingName, value) ∈ entries →
    AllFloats catalog good member.type value

theorem allFloats_record
    {name typeName : String} {descriptor : Descriptor} {entries : List (String × Value)}
    (bound : catalog.descriptor? name = some descriptor) :
    AllFloats catalog good (.table name) (.record typeName entries) ↔
      EntryFloats catalog good descriptor entries := by
  constructor
  · intro all member declared value entry primitive number inside
    exact all primitive number (.member bound declared entry inside)
  · intro each primitive number inside
    cases inside with
    | member otherBound declared entry inside =>
        rw [bound, Option.some.injEq] at otherBound
        subst otherBound
        exact each _ declared _ entry primitive number inside

theorem entryFloats_setEntry
    {descriptor : Descriptor} {member : Member} {value : Value}
    {entries : List (String × Value)}
    (distinct : (descriptor.members.map (·.bindingName)).Nodup)
    (declared : member ∈ descriptor.members) (all : AllFloats catalog good member.type value)
    (others : EntryFloats catalog good descriptor entries) :
    EntryFloats catalog good descriptor (setEntry member.bindingName value entries) := by
  intro other otherDeclared otherValue entry
  rcases mem_setEntry entry with new | old
  · obtain ⟨sameName, rfl⟩ := Prod.mk.injEq .. ▸ new
    rw [List.inj_on_of_nodup_map distinct otherDeclared declared sameName]
    exact all
  · exact others other otherDeclared otherValue old

/-! ## Types of tables -/

variable {source : Source} {code : Code} {names : TypeNames} {lookup : Lookup} {field : Field}
  {fresh : Fresh}

/-- Entries that are each good for one of the declared members. -/
theorem Declared.entryFloats
    {tables : TableSet} {descriptor : Descriptor} (declared : Declared tables descriptor)
    {entries : List (String × Value)}
    (each : ∀ new ∈ entries, ∃ entry ∈ declaredMembers descriptor, new.1 = entry.2.name ∧
      AllFloats catalog good entry.2.type new.2) :
    EntryFloats catalog good descriptor entries := by
  intro member present value new
  obtain ⟨entry, inMembers, sameName, all⟩ := each _ new
  rw [declared.members] at inMembers
  obtain ⟨other, otherPresent, rfl⟩ := List.mem_map.mp inMembers
  rw [List.inj_on_of_nodup_map declared.distinct present otherPresent sameName]
  exact all

/-- A table is bound under every name that it is found by. -/
theorem descriptor?_of_get?
    {name : String} {table : Table} (found : lookup.tables.get? name = some table) :
    lookup.catalog.descriptor? name = lookup.catalog.descriptor? table.name := by
  have sameName := List.find?_some found
  simp only [beq_iff_eq] at sameName
  unfold Catalog.descriptor?
  rw [sameName]

/-! ## Conversions -/

/-- New records of the tables of a look-up have good numbers only. -/
def FreshFloats (lookup : Lookup) (good : Primitive → BinaryFloat → Prop) (fresh : Fresh) : Prop :=
  ∀ name table, lookup.tables.get? name = some table →
    Ensures lookup (fresh table) (AllFloats lookup.catalog good (.table name))

theorem zeroOf_floats
    (blankYields : Yields good .null) (made : FreshFloats lookup good fresh) (target : TypeRef) :
    Ensures lookup (zeroOf lookup fresh target) (AllFloats lookup.catalog good target) := by
  unfold zeroOf
  cases target with
  | primitive type => exact Ensures.pure (allFloats_zero blankYields type)
  | array element => exact Ensures.pure (allFloats_array (by simp))
  | external name => exact Ensures.pure (allFloats_null _)
  | enumeration name =>
      dsimp only
      split
      · split
        · exact Ensures.pure (allFloats_variant _ _ _)
        · exact Ensures.pure (allFloats_null _)
      · exact Ensures.pure (allFloats_null _)
  | table name =>
      dsimp only
      split
      · next table found =>
          split
          · exact made name table found
          · exact Ensures.pure (allFloats_null _)
      · exact Ensures.pure (allFloats_null _)

theorem convertLast_floats
    (blankYields : Yields good .null) (made : FreshFloats lookup good fresh) (target : TypeRef)
    {value : Value} (yields : Yields good value) :
    Ensures lookup (convertLast lookup fresh target value)
      (AllFloats lookup.catalog good target) := by
  unfold convertLast
  split
  · exact zeroOf_floats blankYields made target
  · split
    · exact Ensures.lift fun result coerced => allFloats_coerced yields coerced
    · split
      · refine Ensures.lift fun result converted => ?_
        unfold toVariant at converted
        split at converted
        · cases converted
          exact allFloats_variant _ _ _
        · cases converted
      · exact Ensures.throw
    · exact Ensures.pure (allFloats_external _ _)
    · exact yields.scalar.elim
    · exact yields.scalar.elim
    · exact Ensures.throw

theorem convertList_floats
    {element : ValueConversion} {item : TypeRef} {scopes : Scopes} {value : Value}
    (yields : Yields good value)
    (each : ∀ inner part, Yields good part →
      Ensures lookup (element inner part) (AllFloats catalog good item)) :
    Ensures lookup (convertList lookup field element scopes value)
      (AllFloats catalog good (.array item)) := by
  unfold convertList
  split
  · exact Ensures.pure (allFloats_array (by simp))
  · split
    · apply Ensures.bind (Steady.lift _).ensures
      intro separator _
      apply Ensures.bind (Ensures.mapM fun part member => each _ _ (yields.piece member))
      intro items all
      exact Ensures.pure (allFloats_array all)
    · exact yields.scalar.elim
    · apply Ensures.bind (each _ _ yields)
      intro result all
      exact Ensures.pure (allFloats_array (by simpa using all))

/-- Writing the parts of a text to members writes good numbers. -/
theorem fillMembers_floats
    {tables : TableSet} {descriptor : Descriptor} (declared : Declared tables descriptor)
    {member : TypeRef → ValueConversion} {scopes : Scopes}
    {parts : List (String × Field)} {entries : List (String × Value)}
    (each : ∀ part ∈ parts, ∀ type,
      Ensures lookup (member type scopes (.text part.1)) (AllFloats catalog good type))
    (all : EntryFloats catalog good descriptor entries) :
    Ensures lookup (fillMembers member scopes (declaredMembers descriptor) parts entries)
      (EntryFloats catalog good descriptor) := by
  induction parts generalizing entries with
  | nil => exact Ensures.pure all
  | cons part rest inductionHypothesis =>
      have others := fun other inRest => each other (List.mem_cons_of_mem part inRest)
      unfold fillMembers
      split
      · next bound found =>
          have present := mem_of_entryValue? found
          rw [declared.members] at present
          obtain ⟨named, inMembers, same⟩ := List.mem_map.mp present
          obtain rfl : Binding.bind named = bound := congrArg Prod.snd same
          split
          · exact inductionHypothesis others all
          · apply Ensures.bind (each part List.mem_cons_self _)
            intro value valueAll
            apply inductionHypothesis others
            exact entryFloats_setEntry declared.distinct inMembers valueAll all
      · exact inductionHypothesis others all

section Prepared

variable (prepared : Prepared source code names lookup)
include prepared

theorem convertText_floats
    (made : FreshFloats lookup good fresh) {name : String} {table : Table}
    {member : TypeRef → ValueConversion} {descriptor : Descriptor}
    (isTable : lookup.tables.get? name = some table)
    (found : lookup.catalog.descriptor? table.name = some descriptor)
    {scopes : Scopes} {text : String} (yields : Yields good (.text text))
    (each : ∀ inner type part, Yields good (.text part) →
      Ensures lookup (member type inner (.text part)) (AllFloats lookup.catalog good type)) :
    Ensures lookup (convertText lookup fresh field member table descriptor scopes text)
      (AllFloats lookup.catalog good (.table name)) := by
  have declared := prepared.declared (List.mem_of_find?_eq_some isTable) found
  have bound := (descriptor?_of_get? isTable).trans found
  have typeMember := Catalog.mem_types_of_descriptor? found
  unfold convertText
  apply Ensures.bind (made name table isTable)
  intro seeded all
  apply Ensures.bind ((membersFor_returns prepared.distinctTypes typeMember).ensures rfl)
  rintro members rfl
  rw [prepared.membersOf_eq]
  dsimp only
  apply Ensures.bind (Steady.lift _).ensures
  intro separator _
  split
  · exact Ensures.throw
  · split
    · have parts : ∀ part ∈ (split separator text).zip table.serialized, ∀ type,
          Ensures lookup (member type (scopes.enter .object) (.text part.1))
            (AllFloats lookup.catalog good type) :=
        fun part inParts type => each _ type _ (yields.piece (List.of_mem_zip inParts).1)
      apply Ensures.bind (fillMembers_floats declared parts ((allFloats_record bound).mp all))
      intro complete completeAll
      exact Ensures.pure ((allFloats_record bound).mpr completeAll)
    · exact Ensures.pure all

theorem convertRecord_floats
    (made : FreshFloats lookup good fresh) {member : TypeRef → ValueConversion} (name : String)
    {scopes : Scopes} {value : Value} (yields : Yields good value)
    (each : ∀ inner type part, Yields good (.text part) →
      Ensures lookup (member type inner (.text part)) (AllFloats lookup.catalog good type)) :
    Ensures lookup (convertRecord lookup fresh field member name scopes value) fun taken =>
      ∀ result ∈ taken, AllFloats lookup.catalog good (.table name) result := by
  unfold convertRecord
  split
  · exact Ensures.pure (by simp)
  · next table isTable =>
    split
    · exact Ensures.pure (by simp)
    · next descriptor found =>
      split
      · split
        · exact Ensures.pure (by simp [allFloats_null])
        · apply Ensures.map
          apply (made name table isTable).weaken
          simp
      · split
        · exact yields.scalar.elim
        · apply Ensures.map
          apply (convertText_floats prepared made isTable found yields each).weaken
          simp
        · exact Ensures.pure (by simp)

section Conversions

variable (blankYields : Yields good .null)
include blankYields

/-- A conversion has good numbers when the members inside one more record do.  The induction is on
the type: a list is converted with the levels that its items have. -/
theorem convertLevels_floats_of_members
    (made : FreshFloats lookup good fresh) {levels : Nat}
    (members : ∀ inner type part, Yields good (.text part) →
      Ensures lookup (memberLevels lookup fresh field levels type inner (.text part))
        (AllFloats lookup.catalog good type))
    (type : TypeRef) (scopes : Scopes) {value : Value} (yields : Yields good value) :
    Ensures lookup (convertLevels lookup fresh field levels type scopes value)
      (AllFloats lookup.catalog good type) := by
  induction type generalizing scopes value with
  | array element inductionHypothesis =>
      rw [convertLevels_array prepared.standard]
      exact convertList_floats yields fun inner part partYields =>
        inductionHypothesis inner partYields
  | table name =>
      rw [convertLevels_table prepared.standard]
      apply Ensures.bind (convertRecord_floats prepared made name yields members)
      intro taken all
      cases taken with
      | some result => exact Ensures.pure (all result rfl)
      | none => exact convertLast_floats blankYields made _ yields
  | primitive _ | enumeration _ | external _ =>
      rw [convertLevels_leaf prepared.standard levels (by trivial)]
      exact convertLast_floats blankYields made _ yields

theorem convertLevels_floats
    (made : FreshFloats lookup good fresh) (levels : Nat) (type : TypeRef) (scopes : Scopes)
    {value : Value} (yields : Yields good value) :
    Ensures lookup (convertLevels lookup fresh field levels type scopes value)
      (AllFloats lookup.catalog good type) := by
  induction levels generalizing type scopes value with
  | zero =>
      -- The texts of members are kept as they are here, and a text holds no number.
      have members : ∀ inner type part, Yields good (.text part) → Ensures lookup
          (memberLevels lookup fresh field 0 type inner (.text part))
          (AllFloats lookup.catalog good type) :=
        fun _ _ _ _ => Ensures.pure (allFloats_text _ _)
      exact convertLevels_floats_of_members prepared blankYields made members type scopes yields
  | succ levels inductionHypothesis =>
      have members : ∀ inner type part, Yields good (.text part) → Ensures lookup
          (memberLevels lookup fresh field (levels + 1) type inner (.text part))
          (AllFloats lookup.catalog good type) :=
        fun inner type _ partYields => inductionHypothesis type inner partYields
      exact convertLevels_floats_of_members prepared blankYields made members type scopes yields

theorem changeTypeOrDefault_floats
    (made : FreshFloats lookup good fresh) (type : TypeRef)
    (defaultYields : ∀ default, field.default = some default → Yields good default)
    {value : Value} (yields : Yields good value) :
    Ensures lookup (changeTypeOrDefault lookup fresh field type {} value)
      (AllFloats lookup.catalog good type) := by
  have cell : ∀ cell, Yields good cell →
      Ensures lookup (changeType lookup fresh field type {} cell)
        (AllFloats lookup.catalog good type) :=
    fun _ cellYields => convertLevels_floats prepared blankYields made _ type _ cellYields
  unfold changeTypeOrDefault
  split
  · next default given =>
      split
      · exact cell default (defaultYields default given)
      · exact cell value yields
  · exact cell value yields

theorem seedMember_floats
    (made : FreshFloats lookup good fresh) {table : Table}
    (defaults : ∀ column ∈ table.fields, ∀ default, column.default = some default →
      Yields good default) (member : BoundMember) :
    Ensures lookup (seedMember lookup fresh table member)
      (AllFloats lookup.catalog good member.type) := by
  unfold seedMember
  split
  · next column found =>
      split
      · exact changeTypeOrDefault_floats prepared blankYields made _
          (defaults column (List.mem_of_find?_eq_some found)) blankYields
      · exact zeroOf_floats blankYields made _
  · exact zeroOf_floats blankYields made _

/-- The numbers of new records come from the defaults of columns. -/
theorem instantiate_floats
    (defaults : ∀ table ∈ lookup.tables.tables, ∀ column ∈ table.fields, ∀ default,
      column.default = some default → Yields good default) (room : Nat) :
    FreshFloats lookup good (instantiate lookup room) := by
  induction room using Nat.strongRecOn with
  | ind room inductionHypothesis =>
      intro name table isTable
      have member : table ∈ lookup.tables.tables := List.mem_of_find?_eq_some isTable
      cases found : lookup.catalog.descriptor? table.name with
      | none =>
          unfold instantiate
          rw [found]
          exact Ensures.throw
      | some descriptor =>
          have declared := prepared.declared member found
          have seeds : ∀ inner < room, ∀ entry ∈ membersOf lookup.providers descriptor,
              Ensures lookup (seedMember lookup (instantiate lookup inner) table entry.2)
                (AllFloats lookup.catalog good entry.2.type) :=
            fun inner less entry _ => seedMember_floats prepared blankYields
              (inductionHypothesis inner less) (defaults table member) entry.2
          have apart : ((membersOf lookup.providers descriptor).map (·.2.name)).Nodup := by
            rw [prepared.membersOf_eq, names_of_declared declared.members]
            exact declared.distinct
          have made := instantiate_ensures prepared.distinctTypes found apart
            (fun member => AllFloats lookup.catalog good member.type) seeds
          apply made.weaken
          rintro value ⟨entries, rfl, _, each⟩
          rw [prepared.membersOf_eq] at each
          have bound := (descriptor?_of_get? isTable).trans found
          exact (allFloats_record bound).mpr (declared.entryFloats each)

end Conversions

end Prepared

end TypedTables.Convert
