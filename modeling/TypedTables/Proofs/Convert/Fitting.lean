import TypedTables.Proofs.Convert.Prepared

/-!
# Values that fit the generated types

The generated code writes a type for every member, optional where a table is held by reference.
Whatever a conversion gives is a value of that type: null stands only where the type is optional.
-/

namespace TypedTables.Convert

open TypedTables.Schema TypedTables.Manifest TypedTables.Binding TypedTables.Discover
open TypedTables.Generate TypedTables.Text TypedTables.Number
open TypedTables.Config (Code Settings)

/-- Where a type stands: as the type of a member, or as the type of the items of a list. -/
inductive Position
  | member
  | item

/-- A value of the type that the generated code writes for a type at a position.  External types
are known to the generated code only, so they say nothing about their values. -/
inductive Fits (tables : TableSet) (names : TypeNames) (catalog : Catalog) :
    Position → TypeRef → Value → Prop
  | primitive {position : Position} {type : Primitive} {value : Value}
      (inhabits : Inhabits type value) :
      Fits tables names catalog position (.primitive type) value
  | array {position : Position} {element : TypeRef} {items : List Value}
      (each : ∀ item ∈ items, Fits tables names catalog .item element item) :
      Fits tables names catalog position (.array element) (.array items)
  | variant {position : Position} {name : String} {descriptor : Descriptor} {variant : Variant}
      (bound : catalog.descriptor? name = some descriptor)
      (member : variant ∈ descriptor.variants) :
      Fits tables names catalog position (.enumeration name)
        (.variant descriptor.fullName variant.name)
  | record {position : Position} {name : String} {descriptor : Descriptor}
      {members : List (String × Value)}
      (bound : catalog.descriptor? name = some descriptor)
      (keys : entryKeys members = descriptor.members.map (·.bindingName))
      (each : ∀ member ∈ descriptor.members, ∀ value, (member.bindingName, value) ∈ members →
        Fits tables names catalog .member member.type value) :
      Fits tables names catalog position (.table name) (.record descriptor.fullName members)
  | null {name inner : String}
      (innerSpelled : spellInner names (.table name) = .ok inner)
      (spelled : spell tables names (.table name) = .ok ("Option<Box<" ++ inner ++ ">>")) :
      Fits tables names catalog .member (.table name) .null
  | external {position : Position} (name : String) (value : Value) :
      Fits tables names catalog position (.external name) value

variable {source : Source} {code : Code} {names : TypeNames} {lookup : Lookup} {field : Field}
  {position : Position}

/-- The look-up's values of a type at a position. -/
abbrev Lookup.Fits (lookup : Lookup) (names : TypeNames) (position : Position) (type : TypeRef)
    (value : Value) : Prop :=
  Convert.Fits lookup.tables names lookup.catalog position type value

/-! ## Types of the source -/

/-- A name of a table that is no enumeration, with the table and its type. -/
structure Lookup.Names
    (lookup : Lookup) (name : String) (table : Table) (descriptor : Descriptor) : Prop where
  found : lookup.tables.get? name = some table
  exactName : table.name = name
  member : table ∈ lookup.tables.tables
  notEnum : table.isEnum = false
  bound : lookup.catalog.descriptor? name = some descriptor
  columns : Columns lookup.tables table descriptor

namespace Prepared

theorem table_of_hasTable
    (prepared : Prepared source code names lookup) {name : String}
    (given : HasTable lookup.tables name false) :
    ∃ table descriptor, lookup.Names name table descriptor := by
  obtain ⟨table, member, sameName, notEnum⟩ := given
  have inSource := member
  rw [prepared.tables] at inSource
  obtain ⟨descriptor, found, _⟩ := prepared.agreement.bound table inSource
  have columns := prepared.columns member notEnum found
  have here := prepared.agreement.get?_name inSource
  rw [← prepared.tables] at here
  subst sameName
  exact ⟨table, descriptor, here, rfl, member, notEnum, found, columns⟩

/-- An enumeration of the source has at least one variant. -/
theorem enumeration_of_hasTable
    (prepared : Prepared source code names lookup) {name : String}
    (given : HasTable lookup.tables name true) :
    ∃ descriptor, lookup.catalog.descriptor? name = some descriptor ∧
      descriptor.variants ≠ [] := by
  obtain ⟨table, member, sameName, isEnum⟩ := given
  rw [prepared.tables] at member
  obtain ⟨descriptor, found, planned⟩ := prepared.agreement.bound table member
  obtain ⟨_, _, variants⟩ := plannedAs_enum isEnum planned
  rw [sameName] at found
  refine ⟨descriptor, found, ?_⟩
  unfold variantsOf at variants
  obtain ⟨_, _, afterColumns⟩ := Outcome.bind_eq_ok_iff.mp variants
  obtain ⟨_, _, afterRows⟩ := Outcome.bind_eq_ok_iff.mp afterColumns
  obtain ⟨read, _, last⟩ := Outcome.bind_eq_ok_iff.mp afterRows
  intro empty
  rw [empty] at last
  split at last
  · cases last
  · next nonempty =>
      cases last
      exact nonempty rfl

/-- The generated code writes an optional type for a member that holds a table by reference. -/
theorem null_fits
    (prepared : Prepared source code names lookup) {table : Table}
    (member : table ∈ lookup.tables.tables) (reference : table.kind = .reference) :
    lookup.Fits names .member (.table table.name) .null := by
  rw [prepared.tables] at member
  have named := prepared.agreement.named.typeName? prepared.agreement.tables member
  have innerSpelled :
      spellInner names (.table table.name) = .ok (typeNameOf code table) := by
    unfold spellInner typeName
    rw [named]
  apply Fits.null innerSpelled
  unfold spell
  rw [innerSpelled, prepared.tables]
  have here := prepared.agreement.get?_name member
  simp [here, reference, Bind.bind, Except.bind, pure, Except.pure]

end Prepared

/-! ## Conversions -/

/-- New records of the tables of a look-up fit. -/
def FreshFits (lookup : Lookup) (names : TypeNames) (fresh : Fresh) : Prop :=
  ∀ table ∈ lookup.tables.tables, table.isEnum = false → ∀ position,
    Ensures lookup (fresh table) (lookup.Fits names position (.table table.name))

/-- A blank item of a list is met with the list as the innermost scope. -/
def Placed (position : Position) (scopes : Scopes) (value : Value) : Prop :=
  position = .item → value.isEmpty = true → scopes.innermost? = some .array

theorem placed_member (scopes : Scopes) (value : Value) : Placed .member scopes value := by
  intro impossible
  cases impossible

theorem zeroOf_fits
    (prepared : Prepared source code names lookup) {fresh : Fresh}
    (freshFits : FreshFits lookup names fresh) {type : TypeRef}
    (refers : RefersTo lookup.tables type)
    (optional : position = .member ∨ IsLeaf type) :
    Ensures lookup (zeroOf lookup fresh type) (lookup.Fits names position type) := by
  unfold zeroOf
  cases type with
  | primitive type => exact Ensures.pure (Fits.primitive (inhabits_zero type))
  | array element => exact Ensures.pure (Fits.array (by simp))
  | external name => exact Ensures.pure (Fits.external name _)
  | enumeration name =>
      obtain ⟨descriptor, found, nonempty⟩ := prepared.enumeration_of_hasTable refers
      dsimp only
      rw [found]
      dsimp only
      split
      · next variant rest shape =>
          apply Ensures.pure
          exact Fits.variant found (by rw [shape]; exact List.mem_cons_self)
      · next empty => exact absurd empty nonempty
  | table name =>
      obtain ⟨table, descriptor, named⟩ := prepared.table_of_hasTable refers
      have atMember : position = .member := optional.resolve_right id
      dsimp only
      rw [named.found]
      dsimp only
      rw [← named.exactName]
      rcases kind_of_notEnum named.notEnum with reference | inPlace
      · rw [if_neg (by simp [reference]), atMember]
        exact Ensures.pure (prepared.null_fits named.member reference)
      · rw [if_pos inPlace]
        exact freshFits table named.member named.notEnum position

theorem mem_of_numbered?
    {descriptor : Descriptor} {number : Int} {variant : Variant}
    (found : numbered? descriptor number = some variant) : variant ∈ descriptor.variants := by
  unfold numbered? at found
  split at found
  · exact List.mem_of_find?_eq_some found
  · cases found

theorem mem_of_variantFor?
    {descriptor : Descriptor} {value : Value} {variant : Variant}
    (found : variantFor? descriptor value = some variant) : variant ∈ descriptor.variants := by
  unfold variantFor? at found
  split at found
  · exact List.mem_of_find?_eq_some found
  · next text =>
      cases named : descriptor.variant? text with
      | some other =>
          rw [named] at found
          cases found
          exact List.mem_of_find?_eq_some named
      | none =>
          rw [named] at found
          obtain ⟨_, _, here⟩ := Option.bind_eq_some_iff.mp found
          exact mem_of_numbered? here
  · obtain ⟨_, _, here⟩ := Option.bind_eq_some_iff.mp found
    exact mem_of_numbered? here

theorem toVariant_fits
    {name : String} {descriptor : Descriptor} {value result : Value}
    (bound : lookup.catalog.descriptor? name = some descriptor)
    (converted : toVariant descriptor value = .ok result) :
    lookup.Fits names position (.enumeration name) result := by
  unfold toVariant at converted
  split at converted
  · next variant found =>
      rw [Except.ok.injEq] at converted
      rw [← converted]
      exact Fits.variant bound (mem_of_variantFor? found)
  · cases converted

/-- The last converter gives fitting values of the types that are neither lists nor tables. -/
theorem convertLast_leaf_fits
    (prepared : Prepared source code names lookup) {fresh : Fresh}
    (freshFits : FreshFits lookup names fresh) {type : TypeRef}
    (refers : RefersTo lookup.tables type) (leaf : IsLeaf type) (value : Value) :
    Ensures lookup (convertLast lookup fresh type value) (lookup.Fits names position type) := by
  unfold convertLast
  split
  · exact zeroOf_fits prepared freshFits refers (Or.inr leaf)
  · cases type with
    | array _ => exact leaf.elim
    | table _ => exact leaf.elim
    | primitive type =>
        exact Ensures.lift fun result coerced =>
          Fits.primitive (inhabits_coercePrimitive coerced)
    | external name => exact Ensures.pure (Fits.external name value)
    | enumeration name =>
        obtain ⟨descriptor, found, _⟩ := prepared.enumeration_of_hasTable refers
        dsimp only
        rw [found]
        exact Ensures.lift fun result converted => toVariant_fits found converted

/-- A single cell gives a table only if it is blank or a text. -/
theorem convertLast_table_fails
    {fresh : Fresh} {name : String} {value : Value} (scalar : IsScalar value)
    (visible : ¬value.isEmpty = true) {post : Value → Prop} :
    Ensures lookup (convertLast lookup fresh (.table name) value) post := by
  unfold convertLast
  rw [if_neg visible]
  cases value with
  | array _ | record _ _ | variant _ _ => exact scalar.elim
  | null | bool _ | int _ | uint _ | float _ | text _ => exact Ensures.throw

theorem convertList_fits
    {element : ValueConversion} {item : TypeRef} {scopes : Scopes} {value : Value}
    (scalar : IsScalar value)
    (each : ∀ inner part, inner.objectDepth = scopes.objectDepth → IsScalar part →
      Placed .item inner part →
        Ensures lookup (element inner part) (lookup.Fits names .item item)) :
    Ensures lookup (convertList lookup field element scopes value)
      (lookup.Fits names position (.array item)) := by
  unfold convertList
  by_cases blank : value.isEmpty = true
  · rw [if_pos blank]
    exact Ensures.pure (Fits.array (by simp))
  · rw [if_neg blank]
    have single : Ensures lookup (element scopes value) (lookup.Fits names .item item) :=
      each scopes value rfl scalar fun _ isBlank => absurd isBlank blank
    cases value with
    | array _ | record _ _ | variant _ _ => exact scalar.elim
    | text text =>
        apply Ensures.bind (Steady.lift _).ensures
        intro separator _
        have parts : ∀ part ∈ split separator text,
            Ensures lookup (element (scopes.enter .array) (.text part))
              (lookup.Fits names .item item) :=
          fun part _ => each (scopes.enter .array) (.text part) rfl trivial fun _ _ => rfl
        apply Ensures.bind (Ensures.mapM parts)
        intro items fit
        exact Ensures.pure (Fits.array fit)
    | null | bool _ | int _ | uint _ | float _ =>
        apply Ensures.bind single
        intro result fit
        apply Ensures.pure
        apply Fits.array
        intro other member
        rw [List.mem_singleton.mp member]
        exact fit

/-! ## Records -/

/-- Entries under the names of members, each with a value that fits its member. -/
structure FitsEntries
    (lookup : Lookup) (names : TypeNames) (members : Members) (entries : List (String × Value)) :
    Prop where
  keys : entryKeys entries = members.map (·.2.name)
  each : ∀ new ∈ entries, ∃ entry ∈ members, new.1 = entry.2.name ∧
    lookup.Fits names .member entry.2.type new.2

/-- A record of a type: its members in their order, each with a value that fits. -/
def FitsRecord (lookup : Lookup) (names : TypeNames) (descriptor : Descriptor) (record : Value) :
    Prop :=
  ∃ members, record = .record descriptor.fullName members ∧
    entryKeys members = descriptor.members.map (·.bindingName) ∧
    ∀ member ∈ descriptor.members, ∀ value, (member.bindingName, value) ∈ members →
      lookup.Fits names .member member.type value

/-- Entries that fit the members of a type make a record of the type. -/
theorem fitsRecord_of_entries
    {descriptor : Descriptor} {entries : List (String × Value)}
    (declared : declaredMembers descriptor =
      descriptor.members.map fun member => (member.bindingName, Binding.bind member))
    (distinct : (descriptor.members.map (·.bindingName)).Nodup)
    (fits : FitsEntries lookup names (declaredMembers descriptor) entries) :
    FitsRecord lookup names descriptor (.record descriptor.fullName entries) := by
  refine ⟨entries, rfl, ?_, ?_⟩
  · rw [fits.keys, names_of_declared declared]
  · intro member present value here
    obtain ⟨entry, entryMember, sameName, given⟩ := fits.each _ here
    rw [declared] at entryMember
    obtain ⟨other, otherMember, same⟩ := List.mem_map.mp entryMember
    rw [← same] at sameName given
    have sameMember : member = other :=
      List.inj_on_of_nodup_map distinct present otherMember sameName
    rw [sameMember]
    exact given

theorem fits_of_fitsRecord
    {name : String} {descriptor : Descriptor} {record : Value}
    (bound : lookup.catalog.descriptor? name = some descriptor)
    (fits : FitsRecord lookup names descriptor record) :
    lookup.Fits names position (.table name) record := by
  obtain ⟨members, shape, keys, each⟩ := fits
  rw [shape]
  exact Fits.record bound keys each

/-- Writing the parts of a text to members keeps the entries fitting. -/
theorem fillMembers_fits
    {member : TypeRef → ValueConversion} {scopes : Scopes} {members : Members}
    (each : ∀ entry ∈ members, ∀ part,
      Ensures lookup (member entry.2.type scopes (.text part))
        (lookup.Fits names .member entry.2.type))
    {parts : List (String × Field)} {entries : List (String × Value)}
    (fits : FitsEntries lookup names members entries) :
    Ensures lookup (fillMembers member scopes members parts entries)
      (FitsEntries lookup names members) := by
  induction parts generalizing entries with
  | nil => exact Ensures.pure fits
  | cons part rest inductionHypothesis =>
      unfold fillMembers
      split
      · next bound found =>
          have present := mem_of_entryValue? found
          split
          · exact inductionHypothesis fits
          · apply Ensures.bind (each _ present part.1)
            intro value valueFits
            apply inductionHypothesis
            have inKeys : bound.name ∈ entryKeys entries := by
              rw [fits.keys]
              exact List.mem_map.mpr ⟨_, present, rfl⟩
            constructor
            · rw [entryKeys_setEntry_of_mem inKeys, fits.keys]
            · intro new newMember
              rcases mem_setEntry newMember with same | old
              · exact ⟨_, present, by rw [same], by rw [same]; exact valueFits⟩
              · exact fits.each new old
      · exact inductionHypothesis fits

/-- A record that fits a table has entries that fit the members of the table's type. -/
theorem entries_of_fits
    {name : String} {descriptor : Descriptor} {value : Value}
    (bound : lookup.catalog.descriptor? name = some descriptor)
    (declared : declaredMembers descriptor =
      descriptor.members.map fun member => (member.bindingName, Binding.bind member))
    (fits : lookup.Fits names .item (.table name) value) :
    ∃ entries, value = .record descriptor.fullName entries ∧
      FitsEntries lookup names (declaredMembers descriptor) entries := by
  cases fits with
  | @record _ _ other entries otherBound keys each =>
      rw [bound, Option.some.injEq] at otherBound
      subst otherBound
      refine ⟨entries, rfl, ?_, ?_⟩
      · rw [keys, names_of_declared declared]
      · intro new newMember
        have inKeys : new.1 ∈ entryKeys entries := List.mem_map.mpr ⟨new, newMember, rfl⟩
        rw [keys] at inKeys
        obtain ⟨member, present, sameName⟩ := List.mem_map.mp inKeys
        refine ⟨(member.bindingName, Binding.bind member), ?_, sameName.symm, ?_⟩
        · rw [declared]
          exact List.mem_map.mpr ⟨member, present, rfl⟩
        · exact each member present new.2 (by rw [sameName]; exact newMember)

theorem convertText_fits
    (prepared : Prepared source code names lookup) {fresh : Fresh}
    (freshFits : FreshFits lookup names fresh) {name : String} {table : Table}
    {descriptor : Descriptor} (named : lookup.Names name table descriptor)
    {member : TypeRef → ValueConversion} {scopes : Scopes} {text : String}
    (each : ∀ separator,
      lookup.separators.separatorAt field (scopes.enter .object) = .ok separator →
      ∀ type part, RefersTo lookup.tables type →
        Ensures lookup (member type (scopes.enter .object) (.text part))
          (lookup.Fits names .member type)) :
    Ensures lookup (convertText lookup fresh field member table descriptor scopes text)
      (lookup.Fits names position (.table name)) := by
  have bound := named.bound
  have typeMember := Catalog.mem_types_of_descriptor? bound
  have seeds := freshFits table named.member named.notEnum .item
  rw [named.exactName] at seeds
  unfold convertText
  apply Ensures.bind seeds
  intro seeded seededFits
  apply Ensures.bind ((membersFor_returns prepared.distinctTypes typeMember).ensures rfl)
  rintro members rfl
  rw [prepared.membersOf_eq]
  refine Ensures.bind (Ensures.lift fun separator here => each separator here) ?_
  intro separator memberFits
  obtain ⟨entries, shape, fits⟩ := entries_of_fits bound named.columns.declared seededFits
  rw [shape]
  dsimp only
  split
  · exact Ensures.throw
  · have filled : ∀ entry ∈ declaredMembers descriptor, ∀ part,
        Ensures lookup (member entry.2.type (scopes.enter .object) (.text part))
          (lookup.Fits names .member entry.2.type) :=
      fun entry present part => memberFits _ part (named.columns.refersTo present)
    apply Ensures.bind (fillMembers_fits filled fits)
    intro complete completeFits
    apply Ensures.pure
    apply fits_of_fitsRecord bound
    exact fitsRecord_of_entries named.columns.declared named.columns.bindingNames_nodup
      completeFits

/-- What the converter of tables takes fits, and a blank cell it always takes. -/
theorem convertRecord_fits
    (prepared : Prepared source code names lookup) {fresh : Fresh}
    (freshFits : FreshFits lookup names fresh) {name : String}
    (given : HasTable lookup.tables name false)
    {member : TypeRef → ValueConversion} {scopes : Scopes} {value : Value}
    (scalar : IsScalar value) (placed : Placed position scopes value)
    (each : ∀ separator,
      lookup.separators.separatorAt field (scopes.enter .object) = .ok separator →
      ∀ type part, RefersTo lookup.tables type →
        Ensures lookup (member type (scopes.enter .object) (.text part))
          (lookup.Fits names .member type)) :
    Ensures lookup (convertRecord lookup fresh field member name scopes value) fun taken =>
      (∀ result, taken = some result → lookup.Fits names position (.table name) result) ∧
        (taken = none → ¬value.isEmpty = true) := by
  obtain ⟨table, descriptor, named⟩ := prepared.table_of_hasTable given
  unfold convertRecord
  rw [named.found]
  dsimp only
  rw [named.exactName, named.bound]
  dsimp only
  by_cases blank : value.isEmpty = true
  · rw [if_pos blank]
    split
    · next byReference =>
        simp only [Bool.and_eq_true, decide_eq_true_eq, bne_iff_ne] at byReference
        cases position with
        | member =>
            have null := prepared.null_fits named.member byReference.1
            rw [named.exactName] at null
            apply Ensures.pure
            simp [null]
        | item => exact absurd (placed rfl blank) byReference.2
    · have made := freshFits table named.member named.notEnum position
      rw [named.exactName] at made
      apply Ensures.map
      apply made.weaken
      intro result fits
      simp [fits]
  · rw [if_neg blank]
    cases value with
    | array _ | record _ _ | variant _ _ => exact scalar.elim
    | text text =>
        have converted : Ensures lookup
            (convertText lookup fresh field member table descriptor scopes text)
            (lookup.Fits names position (.table name)) :=
          convertText_fits prepared freshFits named each
        apply Ensures.map
        apply converted.weaken
        intro result fits
        simp [fits]
    | null | bool _ | int _ | uint _ | float _ =>
        apply Ensures.pure
        simp [blank]

/-- A conversion fits when the members inside one more record do.  The induction is on the type: a
list is converted with the levels that its items have. -/
theorem convertLevels_fits_of_members
    (prepared : Prepared source code names lookup) {fresh : Fresh}
    (freshFits : FreshFits lookup names fresh) {levels : Nat}
    (members : ∀ scopes : Scopes,
      (lookup.separators.listFor field .object).length ≤ levels + scopes.objectDepth →
      ∀ separator, lookup.separators.separatorAt field (scopes.enter .object) = .ok separator →
      ∀ type part, RefersTo lookup.tables type →
        Ensures lookup
          (memberLevels lookup fresh field levels type (scopes.enter .object) (.text part))
          (lookup.Fits names .member type))
    {type : TypeRef} (refers : RefersTo lookup.tables type) {scopes : Scopes} {value : Value}
    (enough : (lookup.separators.listFor field .object).length ≤ levels + scopes.objectDepth)
    (scalar : IsScalar value) (placed : Placed position scopes value) :
    Ensures lookup (convertLevels lookup fresh field levels type scopes value)
      (lookup.Fits names position type) := by
  induction type generalizing position scopes value with
  | array element inductionHypothesis =>
      rw [convertLevels_array prepared.standard]
      apply convertList_fits scalar
      intro inner part sameDepth partScalar partPlaced
      exact inductionHypothesis refers (by rw [sameDepth]; exact enough) partScalar partPlaced
  | table name =>
      rw [convertLevels_table prepared.standard]
      apply Ensures.bind
        (convertRecord_fits prepared freshFits refers scalar placed (members scopes enough))
      rintro taken ⟨fits, blankTaken⟩
      cases taken with
      | some result => exact Ensures.pure (fits result rfl)
      | none => exact convertLast_table_fails scalar (blankTaken rfl)
  | primitive _ | enumeration _ | external _ =>
      rw [convertLevels_leaf prepared.standard levels (by trivial)]
      exact convertLast_leaf_fits prepared freshFits refers (by trivial) value

/-- Every conversion of a cell, of a part of one or of a default fits.  The induction is on the
levels: without any left there is no separator of records left either. -/
theorem convertLevels_fits
    (prepared : Prepared source code names lookup) {fresh : Fresh}
    (freshFits : FreshFits lookup names fresh) {levels : Nat} {type : TypeRef}
    (refers : RefersTo lookup.tables type) {scopes : Scopes} {value : Value}
    (enough : (lookup.separators.listFor field .object).length ≤ levels + scopes.objectDepth)
    (scalar : IsScalar value) (placed : Placed position scopes value) :
    Ensures lookup (convertLevels lookup fresh field levels type scopes value)
      (lookup.Fits names position type) := by
  induction levels generalizing type position scopes value with
  | zero =>
      apply convertLevels_fits_of_members prepared freshFits ?_ refers enough scalar placed
      intro deeper usedUp separator here
      have absent : (lookup.separators.listFor field .object)[deeper.objectDepth]? = none :=
        List.getElem?_eq_none (by omega)
      unfold Separators.separatorAt at here
      simp [Scopes.enter, Scopes.innermost?, Scopes.depth, absent] at here
  | succ levels inductionHypothesis =>
      apply convertLevels_fits_of_members prepared freshFits ?_ refers enough scalar placed
      intro deeper left separator _ type part memberRefers
      have deeperEnough : (lookup.separators.listFor field .object).length ≤
          levels + (deeper.enter .object).objectDepth := by
        change _ ≤ levels + (deeper.objectDepth + 1)
        omega
      have textScalar : IsScalar (.text part) := trivial
      exact inductionHypothesis memberRefers deeperEnough textScalar (placed_member _ _)

/-! ## Cells and new records -/

theorem changeTypeOrDefault_fits
    (prepared : Prepared source code names lookup) {fresh : Fresh}
    (freshFits : FreshFits lookup names fresh) {type : TypeRef}
    (refers : RefersTo lookup.tables type)
    (defaultScalar : ∀ default, field.default = some default → IsScalar default)
    {value : Value} (scalar : IsScalar value) :
    Ensures lookup (changeTypeOrDefault lookup fresh field type {} value)
      (lookup.Fits names .member type) := by
  have cell : ∀ cell, IsScalar cell →
      Ensures lookup (changeType lookup fresh field type {} cell)
        (lookup.Fits names .member type) :=
    fun cell cellScalar =>
      convertLevels_fits prepared freshFits refers (Nat.le_refl _) cellScalar (placed_member _ _)
  unfold changeTypeOrDefault
  split
  · next default given =>
      split
      · exact cell default (defaultScalar default given)
      · exact cell value scalar
  · exact cell value scalar

theorem seedMember_fits
    (prepared : Prepared source code names lookup) {fresh : Fresh}
    (freshFits : FreshFits lookup names fresh) {table : Table}
    (defaults : ScalarDefaults table.fields) {member : BoundMember}
    (refers : RefersTo lookup.tables member.type) :
    Ensures lookup (seedMember lookup fresh table member)
      (lookup.Fits names .member member.type) := by
  have zero : Ensures lookup (zeroOf lookup fresh member.type)
      (lookup.Fits names .member member.type) :=
    zeroOf_fits prepared freshFits refers (Or.inl rfl)
  unfold seedMember
  split
  · next column found =>
      split
      · have inFields : column ∈ table.fields := List.mem_of_find?_eq_some found
        exact changeTypeOrDefault_fits prepared freshFits refers (defaults column inFields) trivial
      · exact zero
  · exact zero

/-- New records fit, however many may be begun inside each other. -/
theorem instantiate_fits (prepared : Prepared source code names lookup) (room : Nat) :
    FreshFits lookup names (instantiate lookup room) := by
  induction room using Nat.strongRecOn with
  | ind room inductionHypothesis =>
      intro table member notEnum position
      obtain ⟨_, descriptor, named⟩ := prepared.table_of_hasTable ⟨table, member, rfl, notEnum⟩
      have bound := named.bound
      have columns := prepared.columns member notEnum bound
      have seeds : ∀ inner < room, ∀ entry ∈ membersOf lookup.providers descriptor,
          Ensures lookup (seedMember lookup (instantiate lookup inner) table entry.2)
            (lookup.Fits names .member entry.2.type) := by
        intro inner less entry present
        rw [prepared.membersOf_eq] at present
        exact seedMember_fits prepared (inductionHypothesis inner less) columns.defaults
          (columns.refersTo present)
      have made := instantiate_ensures prepared.distinctTypes bound
        (by rw [prepared.memberNames columns]; exact columns.distinct)
        (fun member => lookup.Fits names .member member.type) seeds
      apply made.weaken
      rintro value ⟨entries, shape, keys, each⟩
      rw [prepared.membersOf_eq] at keys each
      rw [shape]
      apply fits_of_fitsRecord bound
      exact fitsRecord_of_entries columns.declared columns.bindingNames_nodup ⟨keys, each⟩

end TypedTables.Convert
