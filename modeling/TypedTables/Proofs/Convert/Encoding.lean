import TypedTables.Proofs.Convert.Prepared
import TypedTables.Proofs.Number.Integer
import TypedTables.Proofs.Schema.Indices
import TypedTables.Proofs.Text.Pieces

/-!
# Writing composite cells

A value is written as the text of a cell by joining its items and members with the separators for
their depth, lists and records counted apart.  Converting the text gives the value back.
-/

namespace TypedTables.Convert

open TypedTables.Schema TypedTables.Manifest TypedTables.Binding TypedTables.Discover
open TypedTables.Generate TypedTables.Text TypedTables.Number
open TypedTables.Config (Code Settings)

/-! ## The writer -/

/-- The separator inside so many scopes of a kind. -/
def separatorText (lookup : Lookup) (field : Field) (kind : ScopeKind) (depth : Nat) : String :=
  ((lookup.separators.listFor field kind)[depth]?).getD ""

/-- The type of a table's column. -/
def columnType (table : Table) (name : String) : TypeRef :=
  ((table.fields.find? (·.name == name)).bind (·.type)).getD (.primitive .string)

mutual

/-- The text of a value inside so many lists and so many records: a list joins its items, a record
its members in the order of their serialization indices, and all else is its own text. -/
def encode (lookup : Lookup) (field : Field) (arrays objects : Nat) : TypeRef → Value → String
  | .array element, .array items =>
    (separatorText lookup field .array arrays).intercalate
      (encodeItems lookup field (arrays + 1) objects element items)
  | .table name, .record _ members =>
    match lookup.tables.get? name with
    | some table =>
      let texts := encodeMembers lookup field arrays (objects + 1) table members
      (separatorText lookup field .object objects).intercalate
        (table.serialized.map fun column => (entryValue? column.name texts).getD "")
    | none => ""
  | _, value => value.toText

/-- The texts of items. -/
def encodeItems (lookup : Lookup) (field : Field) (arrays objects : Nat) (element : TypeRef) :
    List Value → List String
  | [] => []
  | item :: rest =>
    encode lookup field arrays objects element item ::
      encodeItems lookup field arrays objects element rest

/-- The texts of members under their names. -/
def encodeMembers (lookup : Lookup) (field : Field) (arrays objects : Nat) (table : Table) :
    List (String × Value) → List (String × String)
  | [] => []
  | (name, value) :: rest =>
    (name, encode lookup field arrays objects (columnType table name) value) ::
      encodeMembers lookup field arrays objects table rest

end

/-! ## What can be written -/

/-- Separators that can be told apart: none is empty, and no two share a character. -/
structure Separable (arrays objects : List String) : Prop where
  nonempty : ∀ separator ∈ arrays ++ objects, separator ≠ ""
  apart : (arrays ++ objects).Pairwise fun left right =>
    ∀ c ∈ left.toList, c ∉ right.toList

/-- An integer, a boolean or a text with a visible character, as a value of its type. -/
inductive IsPlain : Primitive → Value → Prop
  | signed {type : Primitive} {number : Int}
      (signed : type.isSigned = true) (inRange : type.range.contains number = true) :
      IsPlain type (.int number)
  | unsigned {type : Primitive} {number : Nat}
      (unsigned : type.isUnsigned = true) (inRange : type.range.contains number = true) :
      IsPlain type (.uint number)
  | bool (value : Bool) : IsPlain .bool (.bool value)
  | text {value : String} (visible : isBlankText value = false) : IsPlain .string (.text value)

/-- A new record of the table can be made. -/
def Instantiable (lookup : Lookup) (table : Table) : Prop :=
  ∃ value, ((lookup.fresh table).run.run []).1 = .ok value

/-- A value of a type made of plain values, lists and records, which lies inside so many lists and
records, does not use up the separators of either kind, has no empty list, and has no character of
a separator in the text of a plain value. -/
inductive Writable (lookup : Lookup) (field : Field) : Nat → Nat → TypeRef → Value → Prop
  | plain {arrays objects : Nat} {type : Primitive} {value : Value}
      (plain : IsPlain type value)
      (clear : ∀ kind, ∀ separator ∈ lookup.separators.listFor field kind,
        ∀ c ∈ separator.toList, c ∉ value.toText.toList) :
      Writable lookup field arrays objects (.primitive type) value
  | list {arrays objects : Nat} {element : TypeRef} {items : List Value}
      (room : arrays < (lookup.separators.listFor field .array).length)
      (nonempty : items ≠ [])
      (each : ∀ item ∈ items, Writable lookup field (arrays + 1) objects element item) :
      Writable lookup field arrays objects (.array element) (.array items)
  | record {arrays objects : Nat} {name : String} {table : Table} {descriptor : Descriptor}
      {members : List (String × Value)}
      (room : objects < (lookup.separators.listFor field .object).length)
      (found : lookup.tables.get? name = some table) (notEnum : table.isEnum = false)
      (bound : lookup.catalog.descriptor? table.name = some descriptor)
      (instantiable : Instantiable lookup table)
      (names : entryKeys members = descriptor.members.map (·.bindingName))
      (each : ∀ column ∈ table.fields, ∀ type, column.type = some type →
        ∀ value, (column.name, value) ∈ members →
          Writable lookup field arrays (objects + 1) type value) :
      Writable lookup field arrays objects (.table name) (.record descriptor.fullName members)

variable {lookup : Lookup} {field : Field}

theorem encodeItems_eq_map (arrays objects : Nat) (element : TypeRef) (items : List Value) :
    encodeItems lookup field arrays objects element items =
      items.map (encode lookup field arrays objects element) := by
  induction items with
  | nil => rw [encodeItems, List.map_nil]
  | cons item rest inductionHypothesis =>
      rw [encodeItems, inductionHypothesis, List.map_cons]

theorem entryValue?_encodeMembers
    (arrays objects : Nat) (table : Table) (name : String) (members : List (String × Value)) :
    entryValue? name (encodeMembers lookup field arrays objects table members) =
      (entryValue? name members).map
        (encode lookup field arrays objects (columnType table name)) := by
  induction members with
  | nil => rw [encodeMembers, entryValue?_nil, entryValue?_nil, Option.map_none]
  | cons member rest inductionHypothesis =>
      rw [encodeMembers, entryValue?_cons, entryValue?_cons, inductionHypothesis]
      by_cases same : member.1 = name
      · rw [if_pos same, if_pos same, same, Option.map_some]
      · rw [if_neg same, if_neg same]

theorem encode_plain
    {arrays objects : Nat} {type : Primitive} {value : Value} (plain : IsPlain type value) :
    encode lookup field arrays objects (.primitive type) value = value.toText := by
  cases plain <;> rw [encode] <;> simp

/-! ## Plain values -/

theorem toText_int (number : Int) : (Value.int number).toText = toString number := by
  rw [Value.toText, Value.display]
  intro impossible
  cases impossible

theorem toText_uint (number : Nat) : (Value.uint number).toText = toString (number : Int) := by
  rw [Value.toText, Value.display]
  · rfl
  · intro impossible
    cases impossible

theorem isBlankText_of_plain {type : Primitive} {value : Value} (plain : IsPlain type value) :
    isBlankText value.toText = false := by
  cases plain with
  | signed signed inRange =>
      rw [toText_int]
      exact isBlankText_toString_int _
  | unsigned unsigned inRange =>
      rw [toText_uint]
      exact isBlankText_toString_int _
  | bool value => cases value <;> decide
  | text visible => exact visible

/-- The integers of a type can be written digit by digit. -/
theorem contains_wideIntegers {type : Primitive} {number : Int}
    (inRange : type.range.contains number = true) : wideIntegers.contains number = true := by
  apply contains_of_within ?_ ?_ inRange
  · cases type <;> decide
  · cases type <;> decide

theorem wholeText?_toString {type : Primitive} {number : Int}
    (inRange : type.range.contains number = true) :
    wholeText? (toString number) = some number := by
  unfold wholeText?
  dsimp only
  rw [trim_toString_int, readIntIn?_toString (contains_wideIntegers inRange)]

/-- A value that stands for an integer in the range of a signed type is coerced to it. -/
theorem coercePrimitive_of_signed
    {type : Primitive} {value : Value} {number : Int} (visible : ¬value.isEmpty = true)
    (whole : whole? value = some number) (signed : type.isSigned = true)
    (inRange : type.range.contains number = true) :
    coercePrimitive value type = .ok (.int number) := by
  rw [coercePrimitive_integer visible (Or.inl signed), coerceInteger, whole]
  dsimp only
  rw [if_pos inRange, if_pos signed]

/-- A value that stands for an integer in the range of an unsigned type is coerced to it. -/
theorem coercePrimitive_of_unsigned
    {type : Primitive} {value : Value} {number : Nat} (visible : ¬value.isEmpty = true)
    (whole : whole? value = some (number : Int)) (unsigned : type.isUnsigned = true)
    (inRange : type.range.contains number = true) :
    coercePrimitive value type = .ok (.uint number) := by
  have notSigned : ¬type.isSigned = true := by
    cases type <;> simp [Primitive.isSigned, Primitive.isUnsigned] at unsigned ⊢
  rw [coercePrimitive_integer visible (Or.inr unsigned), coerceInteger, whole]
  dsimp only
  rw [if_pos inRange, if_neg notSigned, Int.toNat_natCast]

/-- A plain value is what its text is coerced to. -/
theorem coercePrimitive_of_plain {type : Primitive} {value : Value}
    (plain : IsPlain type value) :
    coercePrimitive (.text value.toText) type = .ok value := by
  have visible : ¬(Value.text value.toText).isEmpty = true := by
    rw [Value.isEmpty, isBlankText_of_plain plain]
    exact Bool.false_ne_true
  cases plain with
  | signed signed inRange =>
      refine coercePrimitive_of_signed visible ?_ signed inRange
      rw [whole?, toText_int, wholeText?_toString inRange]
  | unsigned unsigned inRange =>
      refine coercePrimitive_of_unsigned visible ?_ unsigned inRange
      rw [whole?, toText_uint, wholeText?_toString inRange]
  | bool value =>
      have read : bool? (.text (Value.bool value).toText) = some value := by
        cases value <;> decide
      unfold coercePrimitive
      rw [if_neg visible]
      dsimp only
      rw [read]
      rfl
  | text _ =>
      unfold coercePrimitive
      rw [if_neg visible]
      rfl

/-! ## Characters of written values -/

/-- The separators that are left inside so many scopes of a kind. -/
def remaining (lookup : Lookup) (field : Field) (kind : ScopeKind) (depth : Nat) : List String :=
  (lookup.separators.listFor field kind).drop depth

/-- A character of no separator, or of one that is left inside so many lists and records. -/
def Inner (lookup : Lookup) (field : Field) (arrays objects : Nat) (c : Char) : Prop :=
  (∀ kind, ∀ separator ∈ lookup.separators.listFor field kind, c ∉ separator.toList) ∨
    (∃ separator ∈ remaining lookup field .array arrays, c ∈ separator.toList) ∨
    ∃ separator ∈ remaining lookup field .object objects, c ∈ separator.toList

theorem remaining_of_lt
    {kind : ScopeKind} {depth : Nat}
    (room : depth < (lookup.separators.listFor field kind).length) :
    remaining lookup field kind depth =
      separatorText lookup field kind depth :: remaining lookup field kind (depth + 1) := by
  unfold remaining separatorText
  rw [List.drop_eq_getElem_cons room, List.getElem?_eq_getElem room, Option.getD_some]

theorem mem_remaining_of_succ
    {kind : ScopeKind} {depth : Nat} {separator : String}
    (member : separator ∈ remaining lookup field kind (depth + 1)) :
    separator ∈ remaining lookup field kind depth := by
  unfold remaining at member ⊢
  rw [← List.drop_drop] at member
  exact List.mem_of_mem_drop member

theorem Inner.of_succ_arrays
    {arrays objects : Nat} {c : Char} (inner : Inner lookup field (arrays + 1) objects c) :
    Inner lookup field arrays objects c := by
  rcases inner with clear | ⟨separator, member, here⟩ | object
  · exact Or.inl clear
  · exact Or.inr (Or.inl ⟨separator, mem_remaining_of_succ member, here⟩)
  · exact Or.inr (Or.inr object)

theorem Inner.of_succ_objects
    {arrays objects : Nat} {c : Char} (inner : Inner lookup field arrays (objects + 1) c) :
    Inner lookup field arrays objects c := by
  rcases inner with clear | array | ⟨separator, member, here⟩
  · exact Or.inl clear
  · exact Or.inr (Or.inl array)
  · exact Or.inr (Or.inr ⟨separator, mem_remaining_of_succ member, here⟩)

theorem separatorText_mem
    {kind : ScopeKind} {depth : Nat}
    (room : depth < (lookup.separators.listFor field kind).length) :
    separatorText lookup field kind depth ∈ lookup.separators.listFor field kind := by
  unfold separatorText
  rw [List.getElem?_eq_getElem room, Option.getD_some]
  exact List.getElem_mem room

/-- A separator is told apart from those that are left inside its scope. -/
theorem separatorText_apart
    {kind : ScopeKind} {depth : Nat} (room : depth < (lookup.separators.listFor field kind).length)
    (apart : (lookup.separators.listFor field kind).Pairwise fun left right =>
      ∀ c ∈ left.toList, c ∉ right.toList) :
    ∀ separator ∈ remaining lookup field kind (depth + 1),
      ∀ c ∈ (separatorText lookup field kind depth).toList, c ∉ separator.toList := by
  have left := List.Pairwise.drop (i := depth) apart
  change (remaining lookup field kind depth).Pairwise _ at left
  rw [remaining_of_lt room, List.pairwise_cons] at left
  exact left.1

/-- The separator of a list is told apart from everything inside the list. -/
theorem not_inner_of_array
    (separable : Separable (lookup.separators.listFor field .array)
      (lookup.separators.listFor field .object))
    {arrays objects : Nat} (room : arrays < (lookup.separators.listFor field .array).length)
    {c : Char} (here : c ∈ (separatorText lookup field .array arrays).toList) :
    ¬Inner lookup field (arrays + 1) objects c := by
  obtain ⟨arraysApart, _, across⟩ := List.pairwise_append.mp separable.apart
  have present := separatorText_mem room
  rintro (clear | ⟨separator, member, there⟩ | ⟨separator, member, there⟩)
  · exact clear .array _ present here
  · exact separatorText_apart room arraysApart separator member c here there
  · exact across _ present separator (List.mem_of_mem_drop member) c here there

/-- The separator of a record is told apart from everything inside the record. -/
theorem not_inner_of_object
    (separable : Separable (lookup.separators.listFor field .array)
      (lookup.separators.listFor field .object))
    {arrays objects : Nat} (room : objects < (lookup.separators.listFor field .object).length)
    {c : Char} (here : c ∈ (separatorText lookup field .object objects).toList) :
    ¬Inner lookup field arrays (objects + 1) c := by
  obtain ⟨_, objectsApart, across⟩ := List.pairwise_append.mp separable.apart
  have present := separatorText_mem room
  rintro (clear | ⟨separator, member, there⟩ | ⟨separator, member, there⟩)
  · exact clear .object _ present here
  · exact across separator (List.mem_of_mem_drop member) _ present c there here
  · exact separatorText_apart room objectsApart separator member c here there

/-! ## Texts of members -/

variable {source : Source} {code : Code} {names : TypeNames}

theorem Columns.columnType_eq
    {tables : TableSet} {table : Table} {descriptor : Descriptor}
    (columns : Columns tables table descriptor) {column : Field} (member : column ∈ table.fields)
    {type : TypeRef} (typed : column.type = some type) :
    columnType table column.name = type := by
  have present : (table.fields.find? (·.name == column.name)).isSome := by
    rw [List.find?_isSome]
    exact ⟨column, member, by simp⟩
  obtain ⟨other, found⟩ := Option.isSome_iff_exists.mp present
  have sameName : other.name = column.name := by simpa using List.find?_some found
  have same : other = column :=
    List.inj_on_of_nodup_map columns.distinct (List.mem_of_find?_eq_some found) member sameName
  unfold columnType
  rw [found, same, Option.bind_some, typed, Option.getD_some]

/-- The text that stands for a column inside the text of a record. -/
def memberText (lookup : Lookup) (field : Field) (arrays objects : Nat) (table : Table)
    (members : List (String × Value)) (column : Field) : String :=
  (entryValue? column.name (encodeMembers lookup field arrays objects table members)).getD ""

theorem encode_record
    {arrays objects : Nat} {name typeName : String} {table : Table}
    {members : List (String × Value)} (found : lookup.tables.get? name = some table) :
    encode lookup field arrays objects (.table name) (.record typeName members) =
      (separatorText lookup field .object objects).intercalate
        (table.serialized.map (memberText lookup field arrays (objects + 1) table members)) := by
  rw [encode, found]
  rfl

/-- Every column stands for a member, and its text is that of the member's value. -/
theorem memberText_eq
    {arrays objects : Nat} {tables : TableSet} {table : Table} {descriptor : Descriptor}
    {members : List (String × Value)} (columns : Columns tables table descriptor)
    (sameNames : entryKeys members = descriptor.members.map (·.bindingName))
    {column : Field} (member : column ∈ table.fields) :
    ∃ type value, column.type = some type ∧ entryValue? column.name members = some value ∧
      memberText lookup field arrays objects table members column =
        encode lookup field arrays objects type value := by
  obtain ⟨type, typed, _⟩ := columns.typed column member
  have present : column.name ∈ entryKeys members := by
    rw [sameNames, columns.bindingNames]
    exact List.mem_map.mpr ⟨column, member, rfl⟩
  obtain ⟨value, given⟩ := Option.isSome_iff_exists.mp (entryValue?_isSome_iff.mpr present)
  refine ⟨type, value, typed, given, ?_⟩
  unfold memberText
  rw [entryValue?_encodeMembers, given, columns.columnType_eq member typed, Option.map_some,
    Option.getD_some]

theorem serialized_ne_nil {table : Table} (nonempty : table.fields ≠ []) :
    table.serialized ≠ [] := by
  intro empty
  have sameLength := (serialized_perm table).length_eq
  rw [empty] at sameLength
  exact nonempty (List.eq_nil_of_length_eq_zero sameLength.symm)

/-- A part of a record's text is the text of a member's value. -/
theorem exists_of_mem_memberTexts
    {arrays objects : Nat} {tables : TableSet} {table : Table} {descriptor : Descriptor}
    {members : List (String × Value)} (columns : Columns tables table descriptor)
    (sameNames : entryKeys members = descriptor.members.map (·.bindingName))
    {piece : String}
    (present : piece ∈
      table.serialized.map (memberText lookup field arrays objects table members)) :
    ∃ column ∈ table.fields, ∃ type value, column.type = some type ∧
      (column.name, value) ∈ members ∧ piece = encode lookup field arrays objects type value := by
  obtain ⟨column, inSerialized, same⟩ := List.mem_map.mp present
  have inFields := mem_serialized.mp inSerialized
  obtain ⟨type, value, typed, given, text⟩ := memberText_eq columns sameNames inFields
  exact ⟨column, inFields, type, value, typed, mem_of_entryValue? given, same.symm.trans text⟩

/-- A text with a visible character and with characters as they may stand inside so many lists and
records. -/
structure Readable
    (lookup : Lookup) (field : Field) (arrays objects : Nat) (text : String) : Prop where
  visible : isBlankText text = false
  inner : ∀ c ∈ text.toList, Inner lookup field arrays objects c

theorem Readable.of_succ_arrays
    {arrays objects : Nat} {text : String}
    (readable : Readable lookup field (arrays + 1) objects text) :
    Readable lookup field arrays objects text where
  visible := readable.visible
  inner c here := (readable.inner c here).of_succ_arrays

theorem Readable.of_succ_objects
    {arrays objects : Nat} {text : String}
    (readable : Readable lookup field arrays (objects + 1) text) :
    Readable lookup field arrays objects text where
  visible := readable.visible
  inner c here := (readable.inner c here).of_succ_objects

theorem readable_intercalate
    {arrays objects : Nat} {separator : String} {pieces : List String}
    (nonempty : pieces ≠ [])
    (separatorInner : ∀ c ∈ separator.toList, Inner lookup field arrays objects c)
    (each : ∀ piece ∈ pieces, Readable lookup field arrays objects piece) :
    Readable lookup field arrays objects (separator.intercalate pieces) := by
  constructor
  · obtain ⟨piece, member⟩ := List.exists_mem_of_ne_nil pieces nonempty
    obtain ⟨c, here, shown⟩ := isBlankText_eq_false_iff.mp (each piece member).visible
    exact isBlankText_eq_false_iff.mpr ⟨c, mem_toList_intercalate_of_mem member here, shown⟩
  · intro c member
    rcases mem_toList_intercalate member with inSeparator | ⟨piece, present, here⟩
    · exact separatorInner c inSeparator
    · exact (each piece present).inner c here

/-- What is written can be seen, and holds no separator of the scopes around it. -/
theorem readable_encode
    (prepared : Prepared source code names lookup)
    {arrays objects : Nat} {type : TypeRef} {value : Value}
    (writable : Writable lookup field arrays objects type value) :
    Readable lookup field arrays objects (encode lookup field arrays objects type value) := by
  induction writable with
  | plain plain clear =>
      rw [encode_plain plain]
      constructor
      · exact isBlankText_of_plain plain
      · intro c member
        exact Or.inl fun kind separator present here => clear kind separator present c here member
  | list room nonempty each inductionHypothesis =>
      rw [encode, encodeItems_eq_map]
      apply readable_intercalate
      · simpa using nonempty
      · intro c here
        refine Or.inr (Or.inl ⟨_, ?_, here⟩)
        rw [remaining_of_lt room]
        exact List.mem_cons_self
      · intro piece member
        obtain ⟨item, itemMember, same⟩ := List.mem_map.mp member
        rw [← same]
        exact (inductionHypothesis item itemMember).of_succ_arrays
  | record room found notEnum bound instantiable sameNames each inductionHypothesis =>
      have columns := prepared.columns (mem_of_get? found).1 notEnum bound
      rw [encode_record found]
      apply readable_intercalate
      · simpa using serialized_ne_nil columns.nonempty
      · intro c here
        refine Or.inr (Or.inr ⟨_, ?_, here⟩)
        rw [remaining_of_lt room]
        exact List.mem_cons_self
      · intro piece member
        obtain ⟨column, inFields, type, value, typed, present, same⟩ :=
          exists_of_mem_memberTexts columns sameNames member
        rw [same]
        exact (inductionHypothesis column inFields type typed value present).of_succ_objects

/-- The text of a list falls apart into the texts of its items. -/
theorem split_encode_list
    (prepared : Prepared source code names lookup)
    (separable : Separable (lookup.separators.listFor field .array)
      (lookup.separators.listFor field .object))
    {arrays objects : Nat} {element : TypeRef} {items : List Value}
    (room : arrays < (lookup.separators.listFor field .array).length) (nonempty : items ≠ [])
    (each : ∀ item ∈ items, Writable lookup field (arrays + 1) objects element item) :
    split (separatorText lookup field .array arrays)
        (encode lookup field arrays objects (.array element) (.array items)) =
      items.map (encode lookup field (arrays + 1) objects element) := by
  rw [encode, encodeItems_eq_map]
  apply split_intercalate
  · exact separable.nonempty _ (List.mem_append_left _ (separatorText_mem room))
  · simpa using nonempty
  · intro piece member c here inPiece
    obtain ⟨item, itemMember, same⟩ := List.mem_map.mp member
    rw [← same] at inPiece
    have inner := (readable_encode prepared (each item itemMember)).inner c inPiece
    exact not_inner_of_array separable room here inner

/-- The text of a record falls apart into the texts of its columns. -/
theorem split_encode_record
    (prepared : Prepared source code names lookup)
    (separable : Separable (lookup.separators.listFor field .array)
      (lookup.separators.listFor field .object))
    {arrays objects : Nat} {name : String} {table : Table} {descriptor : Descriptor}
    {members : List (String × Value)}
    (room : objects < (lookup.separators.listFor field .object).length)
    (found : lookup.tables.get? name = some table)
    (columns : Columns lookup.tables table descriptor)
    (sameNames : entryKeys members = descriptor.members.map (·.bindingName))
    (each : ∀ column ∈ table.fields, ∀ type, column.type = some type →
      ∀ value, (column.name, value) ∈ members →
        Writable lookup field arrays (objects + 1) type value) :
    split (separatorText lookup field .object objects)
        (encode lookup field arrays objects (.table name) (.record descriptor.fullName members)) =
      table.serialized.map (memberText lookup field arrays (objects + 1) table members) := by
  rw [encode_record found]
  apply split_intercalate
  · exact separable.nonempty _ (List.mem_append_right _ (separatorText_mem room))
  · simpa using serialized_ne_nil columns.nonempty
  · intro piece member c here inPiece
    obtain ⟨column, inFields, type, value, typed, present, same⟩ :=
      exists_of_mem_memberTexts columns sameNames member
    rw [same] at inPiece
    have inner := (readable_encode prepared
      (each column inFields type typed value present)).inner c inPiece
    exact not_inner_of_object separable room here inner

/-! ## Reading what was written -/

theorem separatorAt_enter
    {scopes : Scopes} {kind : ScopeKind}
    (room : scopes.depth kind < (lookup.separators.listFor field kind).length) :
    lookup.separators.separatorAt field (scopes.enter kind) =
      .ok (separatorText lookup field kind (scopes.depth kind)) := by
  have innermost : (scopes.enter kind).innermost? = some kind := by
    cases kind <;> rfl
  have deeper : (scopes.enter kind).depth kind - 1 = scopes.depth kind := by
    cases kind <;> rfl
  unfold Separators.separatorAt separatorText
  rw [innermost]
  dsimp only
  rw [deeper, List.getElem?_eq_getElem room]
  rfl

theorem isEmpty_text {text : String} (visible : isBlankText text = false) :
    ¬(Value.text text).isEmpty = true := by
  rw [Value.isEmpty, visible]
  exact Bool.false_ne_true

/-- A text that splits into the texts of items is converted into the list of the items. -/
theorem convertList_text_returns
    {element : ValueConversion} {scopes : Scopes} {text separator : String} {values : List Value}
    (write : Value → String) (visible : isBlankText text = false)
    (here : lookup.separators.separatorAt field (scopes.enter .array) = .ok separator)
    (parts : split separator text = values.map write)
    (each : ∀ item ∈ values,
      Returns lookup (element (scopes.enter .array) (.text (write item))) item) :
    Returns lookup (convertList lookup field element scopes (.text text)) (.array values) := by
  unfold convertList
  rw [if_neg (isEmpty_text visible)]
  dsimp only
  apply Returns.bind (Returns.lift here)
  rw [parts]
  exact Returns.bind (Returns.mapM_map each) Returns.pure

/-- The parts for some columns are written to the members of the columns. -/
theorem fillMembers_returns
    {member : TypeRef → ValueConversion} {scopes : Scopes} {members : Members}
    {text : Field → String} {wanted : Field → Value} {columns : List Field}
    (each : ∀ column ∈ columns, ∃ bound, entryValue? column.name members = some bound ∧
      bound.name = column.name ∧ ¬(text column).isEmpty = true ∧
        Returns lookup (member bound.type scopes (.text (text column))) (wanted column))
    (entries : List (String × Value)) :
    Returns lookup
      (fillMembers member scopes members ((columns.map text).zip columns) entries)
      (columns.foldl (fun entries column => setEntry column.name (wanted column) entries)
        entries) := by
  induction columns generalizing entries with
  | nil => exact Returns.pure
  | cons column rest inductionHypothesis =>
      obtain ⟨bound, found, sameName, visible, given⟩ := each column List.mem_cons_self
      rw [List.map_cons, List.zip_cons_cons, List.foldl_cons]
      unfold fillMembers
      rw [found]
      dsimp only
      rw [if_neg visible]
      apply Returns.bind given
      rw [sameName]
      exact inductionHypothesis
        (fun other present => each other (List.mem_cons_of_mem column present)) _

/-- A new record of a table, where one can be made. -/
theorem fresh_returns
    (prepared : Prepared source code names lookup) {table : Table} {descriptor : Descriptor}
    (columns : Columns lookup.tables table descriptor)
    (bound : lookup.catalog.descriptor? table.name = some descriptor)
    (instantiable : Instantiable lookup table) :
    ∃ entries, entryKeys entries = table.fields.map (·.name) ∧
      Returns lookup (lookup.fresh table) (.record descriptor.fullName entries) := by
  obtain ⟨value, ran⟩ := instantiable
  have memberNames := prepared.memberNames columns
  have apart := columns.distinct
  rw [← memberNames] at apart
  have shape := instantiate_keys prepared.distinctTypes instanceLimit bound apart
  have given : Returns lookup (lookup.fresh table) value :=
    (prepared.fresh_steady instanceLimit table).returns soundCache_nil ran
  obtain ⟨entries, same, keys⟩ := (shape [] soundCache_nil).1 value ran
  rw [same] at given
  exact ⟨entries, keys.trans memberNames, given⟩

/-- Once every column is written, nothing is left of the entries that were there. -/
theorem Columns.foldl_setEntry_eq
    {tables : TableSet} {table : Table} {descriptor : Descriptor}
    (columns : Columns tables table descriptor) {seeds members : List (String × Value)}
    (seedKeys : entryKeys seeds = table.fields.map (·.name))
    (keys : entryKeys members = table.fields.map (·.name)) {wanted : Field → Value}
    (given : ∀ column ∈ table.fields, entryValue? column.name members = some (wanted column)) :
    table.serialized.foldl
      (fun entries column => setEntry column.name (wanted column) entries) seeds = members := by
  have distinct : (table.serialized.map (·.name)).Nodup :=
    ((serialized_perm table).map _).nodup_iff.mpr columns.distinct
  have kept : entryKeys (table.serialized.foldl
      (fun entries column => setEntry column.name (wanted column) entries) seeds) =
        table.fields.map (·.name) := by
    rw [entryKeys_foldl_setEntry, seedKeys]
    intro column inSerialized
    rw [seedKeys]
    exact List.mem_map.mpr ⟨column, mem_serialized.mp inSerialized, rfl⟩
  apply entries_ext
  · rw [kept, keys]
  · rw [kept]
    exact columns.distinct
  · intro key present
    rw [kept] at present
    obtain ⟨column, inFields, sameName⟩ := List.mem_map.mp present
    have written : entryValue? column.name (table.serialized.foldl
        (fun entries column => setEntry column.name (wanted column) entries) seeds) =
          some (wanted column) :=
      entryValue?_foldl_setEntry distinct (mem_serialized.mpr inFields) seeds
    rw [← sameName, written, given column inFields]

/-- The text of a record is converted into the record, once the texts of its columns are converted
into its members. -/
theorem convertText_returns
    (prepared : Prepared source code names lookup) {table : Table} {descriptor : Descriptor}
    (columns : Columns lookup.tables table descriptor)
    (bound : lookup.catalog.descriptor? table.name = some descriptor)
    (instantiable : Instantiable lookup table)
    {member : TypeRef → ValueConversion} {scopes : Scopes} {text separator : String}
    {members : List (String × Value)} (write : Field → String)
    (sameNames : entryKeys members = descriptor.members.map (·.bindingName))
    (here : lookup.separators.separatorAt field (scopes.enter .object) = .ok separator)
    (parts : split separator text = table.serialized.map write)
    (each : ∀ column ∈ table.fields, ∃ type value, column.type = some type ∧
      entryValue? column.name members = some value ∧ isBlankText (write column) = false ∧
        Returns lookup (member type (scopes.enter .object) (.text (write column))) value) :
    Returns lookup
      (convertText lookup lookup.fresh field member table descriptor scopes text)
      (.record descriptor.fullName members) := by
  obtain ⟨seeds, seedKeys, seeded⟩ := fresh_returns prepared columns bound instantiable
  have typeMember := Catalog.mem_types_of_descriptor? bound
  let wanted : Field → Value := fun column => (entryValue? column.name members).getD .null
  have filled : Returns lookup
      (fillMembers member (scopes.enter .object) (membersOf lookup.providers descriptor)
        ((table.serialized.map write).zip table.serialized) seeds)
      (table.serialized.foldl
        (fun entries column => setEntry column.name (wanted column) entries) seeds) := by
    apply fillMembers_returns
    intro column inSerialized
    have inFields := mem_serialized.mp inSerialized
    obtain ⟨type, value, typed, given, visible, converted⟩ := each column inFields
    refine ⟨(boundColumn column).2, ?_, rfl, ?_, ?_⟩
    · rw [prepared.membersOf_eq]
      exact columns.entryValue?_boundColumn inFields
    · simpa using ne_empty_of_isBlankText visible
    · have sameValue : wanted column = value := by
        simp [wanted, given]
      rw [boundColumn_type typed, sameValue]
      exact converted
  have complete : table.serialized.foldl
      (fun entries column => setEntry column.name (wanted column) entries) seeds = members := by
    apply columns.foldl_setEntry_eq seedKeys (sameNames.trans columns.bindingNames)
    intro column inFields
    obtain ⟨_, value, _, given, _⟩ := each column inFields
    simp [wanted, given]
  rw [complete] at filled
  unfold convertText
  apply Returns.bind seeded
  apply Returns.bind (membersFor_returns prepared.distinctTypes typeMember)
  apply Returns.bind (Returns.lift here)
  dsimp only
  rw [parts, if_neg (by simp [(serialized_perm table).length_eq])]
  exact Returns.bind filled Returns.pure

/-- Converting a written value gives it back, inside any scopes. -/
theorem convertLevels_encode
    (prepared : Prepared source code names lookup)
    (separable : Separable (lookup.separators.listFor field .array)
      (lookup.separators.listFor field .object))
    {arrays objects : Nat} {type : TypeRef} {value : Value}
    (writable : Writable lookup field arrays objects type value)
    {levels : Nat} {scopes : Scopes}
    (arrayDepth : scopes.arrayDepth = arrays) (objectDepth : scopes.objectDepth = objects)
    (enough : levels + objects = (lookup.separators.listFor field .object).length) :
    Returns lookup
      (convertLevels lookup lookup.fresh field levels type scopes
        (.text (encode lookup field arrays objects type value)))
      value := by
  induction writable generalizing levels scopes with
  | plain plain clear =>
      rw [encode_plain plain, convertLevels_leaf prepared.standard levels (by trivial)]
      unfold convertLast
      rw [if_neg (isEmpty_text (isBlankText_of_plain plain))]
      exact Returns.lift (coercePrimitive_of_plain plain)
  | @list _ _ element _ room nonempty each inductionHypothesis =>
      have readable := readable_encode prepared (Writable.list room nonempty each)
      subst arrayDepth objectDepth
      rw [convertLevels_array prepared.standard]
      have parts := split_encode_list prepared separable room nonempty each
      apply convertList_text_returns _ readable.visible (separatorAt_enter room) parts
      intro item member
      exact inductionHypothesis item member rfl rfl enough
  | @record _ _ _ table _ members room found notEnum bound instantiable sameNames each
      inductionHypothesis =>
      have readable := readable_encode prepared
        (Writable.record room found notEnum bound instantiable sameNames each)
      have columns := prepared.columns (mem_of_get? found).1 notEnum bound
      subst arrayDepth objectDepth
      cases levels with
      | zero => omega
      | succ levels =>
          rw [convertLevels_table prepared.standard]
          unfold convertRecord
          rw [found]
          dsimp only
          rw [bound]
          dsimp only
          rw [if_neg (isEmpty_text readable.visible)]
          have parts := split_encode_record prepared separable room found columns sameNames each
          refine Returns.bind (Returns.map (convertText_returns prepared columns bound instantiable
            _ sameNames (separatorAt_enter room) parts ?_)) Returns.pure
          intro column inFields
          obtain ⟨type, value, typed, given, text⟩ := memberText_eq columns sameNames inFields
          have present := mem_of_entryValue? given
          have written := each column inFields type typed value present
          refine ⟨type, value, typed, given, ?_, ?_⟩
          · rw [text]
            exact (readable_encode prepared written).visible
          · rw [text]
            have sameArrays : (scopes.enter .object).arrayDepth = scopes.arrayDepth := rfl
            have moreObjects : (scopes.enter .object).objectDepth = scopes.objectDepth + 1 := rfl
            exact inductionHypothesis column inFields type typed value present sameArrays
              moreObjects (by omega)

/-- A value that can be written is exactly what its text is converted into, outside any scope and
whatever members were collected before. -/
theorem convert_encode
    {settings : Settings} {run : Naming.Scope} {provider : SheetProvider} {plan : Plan}
    {catalog : Catalog}
    (opened : Source.ofProvider settings run provider = .ok source)
    (planned : Plan.ofSource source code = .ok plan)
    (bound : Catalog.ofTables source.tables plan.model code = .ok catalog)
    (separators : Separators) (field : Field)
    (separable : Separable (separators.listFor field .array) (separators.listFor field .object))
    {type : TypeRef} {value : Value}
    (writable : Writable (.ofSource source catalog separators) field 0 0 type value)
    {cache : MemberCache} (sound : SoundCache (.ofSource source catalog separators) cache) :
    (((Lookup.ofSource source catalog separators).convert field type {}
      (.text (encode (.ofSource source catalog separators) field 0 0 type value))).run.run cache).1 =
        .ok value := by
  obtain ⟨names, _, prepared⟩ := prepared_of_plan opened planned bound separators
  have returned : Returns (.ofSource source catalog separators)
      ((Lookup.ofSource source catalog separators).convert field type {}
        (.text (encode (.ofSource source catalog separators) field 0 0 type value))) value :=
    convertLevels_encode prepared separable writable rfl rfl rfl
  exact returned.run sound

def pairsLookup : Lookup :=
  .ofSource pairSource pairCatalog ⟨["|"], [":"]⟩

def pairsField : Field :=
  { name := "Pairs", column := 1 }

def pairValue (number : Int) (text : String) : Value :=
  .record "Pair" [("A", .int number), ("B", .text text)]

theorem instantiable_pair : Instantiable pairsLookup pairTable :=
  ⟨pairValue 0 "", by with_unfolding_all rfl⟩

theorem found_pairTable : pairsLookup.tables.get? "Pair" = some pairTable := by
  with_unfolding_all rfl

theorem encode_pair (number : Int) (text : String) :
    encode pairsLookup pairsField 1 0 (.table "Pair") (pairValue number text) =
      toString number ++ ":" ++ text := by
  have ordered : pairTable.serialized = pairTable.fields :=
    List.mergeSort_of_pairwise (by decide)
  rw [pairValue, encode_record found_pairTable, ordered]
  with_unfolding_all rfl

theorem writable_pair
    {number : Int} {text : String} (inRange : Primitive.int32.range.contains number = true)
    (visible : isBlankText text = false)
    (clear : (['|', ':'].all fun c =>
      !(toString number).toList.contains c && !text.toList.contains c) = true) :
    Writable pairsLookup pairsField 1 0 (.table "Pair") (pairValue number text) := by
  have separators : ∀ kind, ∀ separator ∈ pairsLookup.separators.listFor pairsField kind,
      ∀ c ∈ separator.toList, c ∈ ['|', ':'] := by
    intro kind
    have listed : ((pairsLookup.separators.listFor pairsField kind).all fun separator =>
        separator.toList.all ['|', ':'].contains) = true := by
      cases kind <;> decide
    simpa using listed
  have absent : ∀ c ∈ ['|', ':'], c ∉ (toString number).toList ∧ c ∉ text.toList := by
    simpa using clear
  have bound : pairsLookup.catalog.descriptor? pairTable.name = some pairDescriptor := by
    decide +kernel
  refine Writable.record (by decide) found_pairTable rfl bound instantiable_pair rfl ?_
  intro column inFields type typed value present
  rcases List.mem_pair.mp inFields with rfl | rfl
  · cases typed
    have same : value = .int number := by simpa using present
    rw [same]
    apply Writable.plain (IsPlain.signed rfl inRange)
    intro kind separator member c here
    rw [toText_int]
    exact (absent c (separators kind separator member c here)).1
  · cases typed
    have same : value = .text text := by simpa using present
    rw [same]
    apply Writable.plain (IsPlain.text visible)
    intro kind separator member c here
    exact (absent c (separators kind separator member c here)).2

theorem convert_encode_pairs :
    ((pairsLookup.convert pairsField (.array (.table "Pair")) {}
      (.text "1:x|-2:y z")).run.run []).1 = .ok (.array [pairValue 1 "x", pairValue (-2) "y z"]) := by
  have separable : Separable ["|"] [":"] := ⟨by simp, by simp⟩
  have writable : Writable pairsLookup pairsField 0 0 (.array (.table "Pair"))
      (.array [pairValue 1 "x", pairValue (-2) "y z"]) := by
    apply Writable.list (by decide) (by simp)
    intro item member
    rcases List.mem_pair.mp member with rfl | rfl
    · exact writable_pair (by decide) (by decide) (by decide)
    · exact writable_pair (by decide) (by decide) (by decide)
  have written : encode pairsLookup pairsField 0 0 (.array (.table "Pair"))
      (.array [pairValue 1 "x", pairValue (-2) "y z"]) = "1:x|-2:y z" := by
    rw [encode, encodeItems, encodeItems, encodeItems, encode_pair, encode_pair]
    decide +kernel
  rw [← written]
  exact convert_encode opened_pairSource planned_pairSource bound_pairSource ⟨["|"], [":"]⟩
    pairsField separable writable soundCache_nil

end TypedTables.Convert
