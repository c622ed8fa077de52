import TypedTables.Proofs.Convert.Encoding
import TypedTables.Proofs.Convert.Enumerations
import TypedTables.Proofs.Convert.Fitting
import TypedTables.Proofs.Number.Printing

/-!
# Converting twice

The values that conversions into a type give are those of a few shapes.  Each of them is left as it
is by a second conversion into the type: a typed value is its own value, a list is converted item by
item, a record passes through, and a variant is found again under its own name.
-/

namespace TypedTables.Convert

open TypedTables.Schema TypedTables.Manifest TypedTables.Binding TypedTables.Discover
open TypedTables.Generate TypedTables.Text TypedTables.Naming TypedTables.Number
open TypedTables.Config (Code Settings)

/-! ## Ends of conversions -/

section Ends

variable {α β : Type}

/-- Every value that the conversion ends in has the property, whatever is collected before it. -/
def EndsIn (conversion : Conversion α) (post : α → Prop) : Prop :=
  ∀ before value after, conversion.run.run before = (.ok value, after) → post value

namespace EndsIn

theorem pure {post : α → Prop} {value : α} (holds : post value) :
    EndsIn (Pure.pure value) post := by
  intro before other after ran
  cases ran
  exact holds

theorem throw {post : α → Prop} {failure : Failure} :
    EndsIn (MonadExcept.throw failure) post := by
  intro before value after ran
  cases ran

theorem lift {post : α → Prop} {outcome : Outcome α}
    (holds : ∀ value, outcome = .ok value → post value) : EndsIn (Convert.lift outcome) post := by
  intro before value after ran
  rw [run_lift] at ran
  exact holds value (congrArg Prod.fst ran)

theorem anything (conversion : Conversion α) : EndsIn conversion fun _ => True :=
  fun _ _ _ _ => trivial

theorem bind
    {conversion : Conversion α} {next : α → Conversion β} {middle : α → Prop} {post : β → Prop}
    (first : EndsIn conversion middle) (rest : ∀ value, middle value → EndsIn (next value) post) :
    EndsIn (conversion >>= next) post := by
  intro before result after ran
  obtain ⟨value, later, firstRan, restRan⟩ := Outcome.run_bind_eq_ok_iff.mp ran
  exact rest value (first before value later firstRan) later result after restRan

theorem map
    {conversion : Conversion α} {change : α → β} {post : β → Prop}
    (holds : EndsIn conversion fun value => post (change value)) :
    EndsIn (change <$> conversion) post := by
  rw [map_eq_pure_bind]
  exact bind holds fun value given => pure given

theorem mapM
    {items : List α} {convert : α → Conversion β} {post : β → Prop}
    (each : ∀ item ∈ items, EndsIn (convert item) post) :
    EndsIn (items.mapM convert) fun values => ∀ value ∈ values, post value := by
  induction items with
  | nil =>
      rw [List.mapM_nil]
      exact pure (List.forall_mem_nil post)
  | cons item rest inductionHypothesis =>
      rw [List.mapM_cons]
      refine bind (each item List.mem_cons_self) fun value holds => ?_
      refine bind (inductionHypothesis fun other member =>
        each other (List.mem_cons_of_mem item member)) fun values allHold => ?_
      exact pure (List.forall_mem_cons.mpr ⟨holds, allHold⟩)

end EndsIn

end Ends

variable {lookup : Lookup} {field : Field} {scopes : Scopes}

/-! ## Converted values -/

/-- A type without floating-point and external parts, no two variants of whose enumerations have a
name in common, letter case ignored. -/
def Repeatable (catalog : Catalog) : TypeRef → Prop
  | .primitive type => type.isFloat = false
  | .array element => Repeatable catalog element
  | .enumeration name => ∀ descriptor, catalog.descriptor? name = some descriptor →
    (descriptor.variants.map (·.label)).Pairwise fun left right =>
      (variantNames left).Disjoint (variantNames right)
  | .table _ => True
  | .external _ => False

/-- A blank cell of a table is no new record. -/
def Vacant (lookup : Lookup) (name : String) : Prop :=
  ∀ table, lookup.tables.get? name = some table → table.kind ≠ .inPlace ∧
    (table.kind = .reference ∨ lookup.catalog.descriptor? table.name = none)

theorem vacant_of_absent {name : String} (absent : lookup.tables.get? name = none) :
    Vacant lookup name := by
  intro table found
  rw [absent] at found
  cases found

theorem vacant_of_get?
    {name : String} {table : Table} (found : lookup.tables.get? name = some table)
    (notInPlace : table.kind ≠ .inPlace)
    (outside : table.kind = .reference ∨ lookup.catalog.descriptor? table.name = none) :
    Vacant lookup name := by
  intro other otherFound
  rw [found, Option.some.injEq] at otherFound
  rw [← otherFound]
  exact ⟨notInPlace, outside⟩

/-- What a conversion of a cell into a type can give. -/
inductive Converted (lookup : Lookup) : TypeRef → Value → Prop
  | plain {type : Primitive} {value : Value} (plain : IsPlain type value) :
      Converted lookup (.primitive type) value
  | blank : Converted lookup (.primitive .string) (.text "")
  | array {element : TypeRef} {items : List Value}
      (each : ∀ item ∈ items, Converted lookup element item) :
      Converted lookup (.array element) (.array items)
  | variant {name : String} {descriptor : Descriptor} {variant : Variant}
      (found : lookup.catalog.descriptor? name = some descriptor)
      (member : variant ∈ descriptor.variants) :
      Converted lookup (.enumeration name) (.variant descriptor.fullName variant.name)
  | noVariant {name : String}
      (bare : ∀ descriptor, lookup.catalog.descriptor? name = some descriptor →
        descriptor.variants = []) :
      Converted lookup (.enumeration name) .null
  | record {name : String} (typeName : String) (members : List (String × Value)) :
      Converted lookup (.table name) (.record typeName members)
  | vacant {name : String} (vacant : Vacant lookup name) : Converted lookup (.table name) .null

/-! ## The first conversion -/

theorem isBlankText_plainText (number : BinaryFloat) : isBlankText number.plainText = false := by
  cases number with
  | nan => decide
  | infinite negative => cases negative <;> decide
  | finite negative significand exponent =>
      obtain ⟨literal, text, _⟩ := exists_literal_plain .double negative significand exponent
      obtain ⟨c, member⟩ := List.exists_mem_of_ne_nil _ literal.text_ne_nil
      rw [BinaryFloat.plainText, text, isBlankText_eq_false_iff, String.toList_ofList]
      exact ⟨c, member, literal.visible_text c member⟩

/-- A cell with something in it has a visible text. -/
theorem isBlankText_toText
    {value : Value} (scalar : IsScalar value) (visible : ¬value.isEmpty = true) :
    isBlankText value.toText = false := by
  cases value with
  | array _ | record _ _ | variant _ _ => exact scalar.elim
  | null => exact absurd rfl visible
  | bool value => cases value <;> decide
  | int number =>
      rw [toText_int]
      exact isBlankText_toString_int number
  | uint number =>
      rw [toText_uint]
      exact isBlankText_toString_int number
  | float number => exact isBlankText_plainText number
  | text text => exact Bool.eq_false_iff.mpr visible

/-- A value of a type that is not floating-point, a text only if it can be seen, is plain. -/
theorem Inhabits.isPlain
    {type : Primitive} {value : Value} (inhabits : Inhabits type value)
    (notFloat : type.isFloat = false)
    (visible : ∀ text, value = .text text → isBlankText text = false) : IsPlain type value := by
  cases inhabits with
  | signed signed inRange => exact .signed signed inRange
  | unsigned unsigned inRange => exact .unsigned unsigned inRange
  | float isFloat _ => exact absurd (notFloat.symm.trans isFloat) Bool.false_ne_true
  | bool value => exact .bool value
  | text text => exact .text (visible text rfl)

theorem converted_zero {type : Primitive} (notFloat : type.isFloat = false) :
    Converted lookup (.primitive type) (Value.zero type) := by
  by_cases string : type = .string
  · rw [string]
    exact .blank
  · refine .plain ((inhabits_zero type).isPlain notFloat ?_)
    intro text same
    cases type <;> first | exact absurd rfl string | cases same

theorem converted_coercePrimitive
    {type : Primitive} {value result : Value} (scalar : IsScalar value)
    (visible : ¬value.isEmpty = true) (notFloat : type.isFloat = false)
    (coerced : coercePrimitive value type = .ok result) :
    Converted lookup (.primitive type) result := by
  refine .plain ((inhabits_coercePrimitive coerced).isPlain notFloat ?_)
  rintro text rfl
  -- Only into texts is a value coerced to a text, which is then its own.
  have inhabits := inhabits_coercePrimitive coerced
  cases inhabits with
  | text _ =>
      have own : plainText? value = some value.toText := by
        cases value <;> first | rfl | exact scalar.elim
      unfold coercePrimitive at coerced
      rw [if_neg visible, own] at coerced
      cases coerced
      exact isBlankText_toText scalar visible

theorem endsIn_instantiate (room : Nat) (table : Table) (name : String) :
    EndsIn (instantiate lookup room table) (Converted lookup (.table name)) := by
  unfold instantiate
  split
  · exact .throw
  · next descriptor _ =>
      refine EndsIn.bind (EndsIn.anything _) fun members _ => ?_
      cases room with
      | zero => exact .throw
      | succ room =>
          refine EndsIn.bind (EndsIn.anything _) fun entries _ => ?_
          exact .pure (.record _ _)

/-- What the last converter makes of a cell is converted, if it is asked for a table only where a
blank cell finds no type. -/
theorem endsIn_convertLast
    {target : TypeRef} {value : Value} (scalar : IsScalar value)
    (repeatable : Repeatable lookup.catalog target)
    (unbound : ∀ name, target = .table name → value.isEmpty = true →
      ∀ table, lookup.tables.get? name = some table →
        lookup.catalog.descriptor? table.name = none) :
    EndsIn (convertLast lookup lookup.fresh target value) (Converted lookup target) := by
  unfold convertLast
  split
  · next blank =>
      unfold zeroOf
      cases target with
      | primitive type => exact .pure (converted_zero repeatable)
      | array element => exact .pure (.array (List.forall_mem_nil _))
      | external name => exact repeatable.elim
      | enumeration name =>
          dsimp only
          split
          · next descriptor found =>
              split
              · next variant rest shape =>
                  exact .pure (.variant found (shape ▸ List.mem_cons_self))
              · next bare =>
                  refine .pure (.noVariant fun other otherFound => ?_)
                  rw [found, Option.some.injEq] at otherFound
                  rw [← otherFound, bare]
          · next absent =>
              refine .pure (.noVariant fun other otherFound => ?_)
              rw [absent] at otherFound
              cases otherFound
      | table name =>
          dsimp only
          split
          · next table found =>
              split
              · exact endsIn_instantiate _ table name
              · next notInPlace =>
                  have none := unbound name rfl blank table found
                  exact .pure (.vacant (vacant_of_get? found notInPlace (Or.inr none)))
          · next absent => exact .pure (.vacant (vacant_of_absent absent))
  · next visible =>
      cases target with
      | primitive type =>
          exact .lift fun result coerced =>
            converted_coercePrimitive scalar visible repeatable coerced
      | external name => exact repeatable.elim
      | enumeration name =>
          dsimp only
          split
          · next descriptor found =>
              refine .lift fun result taken => ?_
              unfold toVariant at taken
              split at taken
              · next variant isVariant =>
                  cases taken
                  exact .variant found (mem_of_variantFor? isVariant)
              · cases taken
          · exact .throw
      | table name | array element =>
          cases value with
          | array _ | record _ _ | variant _ _ => exact scalar.elim
          | null | bool _ | int _ | uint _ | float _ | text _ => exact .throw

theorem endsIn_convertText
    {member : TypeRef → ValueConversion} {table : Table} {descriptor : Descriptor} {text : String}
    (name : String) :
    EndsIn (convertText lookup lookup.fresh field member table descriptor scopes text)
      (Converted lookup (.table name)) := by
  unfold convertText
  refine EndsIn.bind (endsIn_instantiate _ table name) fun seeded converted => ?_
  refine EndsIn.bind (EndsIn.anything _) fun members _ => ?_
  refine EndsIn.bind (EndsIn.anything _) fun separator _ => ?_
  dsimp only
  split
  · exact .throw
  · split
    · refine EndsIn.bind (EndsIn.anything _) fun filled _ => ?_
      exact .pure (.record _ _)
    · exact .pure converted

/-- What the converter for records says to a cell: a converted value, or nothing, and to a blank one
only where it finds no type. -/
inductive RecordTaken (lookup : Lookup) (name : String) (value : Value) : Option Value → Prop
  | taken {result : Value} (converted : Converted lookup (.table name) result) :
      RecordTaken lookup name value (some result)
  | passed (unbound : value.isEmpty = true → ∀ table, lookup.tables.get? name = some table →
        lookup.catalog.descriptor? table.name = none) :
      RecordTaken lookup name value none

theorem endsIn_convertRecord
    {member : TypeRef → ValueConversion} {value : Value} (name : String) :
    EndsIn (convertRecord lookup lookup.fresh field member name scopes value)
      (RecordTaken lookup name value) := by
  unfold convertRecord
  split
  · next absent =>
      refine .pure (.passed fun _ table found => ?_)
      rw [absent] at found
      cases found
  · next table found =>
      split
      · next unbound =>
          refine .pure (.passed fun _ other otherFound => ?_)
          rw [found, Option.some.injEq] at otherFound
          rw [← otherFound, unbound]
      · next descriptor bound =>
          split
          · split
            · next reference =>
                have kind : table.kind = .reference := by
                  simpa using (Bool.and_eq_true_iff.mp reference).1
                have notInPlace : table.kind ≠ .inPlace := by
                  rw [kind]
                  simp
                exact .pure (.taken (.vacant (vacant_of_get? found notInPlace (Or.inl kind))))
            · exact .map fun before value after ran =>
                .taken (endsIn_instantiate _ table name before value after ran)
          · next visible =>
              split
              · exact .pure (.taken (.record _ _))
              · exact .map fun before value after ran =>
                  .taken (endsIn_convertText name before value after ran)
              · exact .pure (.passed fun blank => absurd blank visible)

/-- The first conversion of a cell, at any place in a list or a record. -/
theorem endsIn_convertLevels
    (standard : lookup.chain = .standard) (levels : Nat) {target : TypeRef} {value : Value}
    (scalar : IsScalar value) (repeatable : Repeatable lookup.catalog target) :
    EndsIn (convertLevels lookup lookup.fresh field levels target scopes value)
      (Converted lookup target) := by
  induction target generalizing scopes value with
  | array element inductionHypothesis =>
      rw [convertLevels_array standard]
      unfold convertList
      split
      · exact .pure (.array (List.forall_mem_nil _))
      · have single : EndsIn (convertLevels lookup lookup.fresh field levels element scopes value)
            (Converted lookup element) := inductionHypothesis scalar repeatable
        cases value with
        | array _ | record _ _ | variant _ _ => exact scalar.elim
        | text text =>
            refine EndsIn.bind (EndsIn.anything _) fun separator _ => ?_
            have parts : ∀ part ∈ split separator text,
                EndsIn (convertLevels lookup lookup.fresh field levels element
                  (scopes.enter .array) (.text part)) (Converted lookup element) :=
              fun part _ => inductionHypothesis trivial repeatable
            refine EndsIn.bind (EndsIn.mapM parts) fun items each => ?_
            exact .pure (.array each)
        | null | bool _ | int _ | uint _ | float _ =>
            refine EndsIn.bind single fun item converted => ?_
            exact .pure (.array (List.forall_mem_singleton.mpr converted))
  | table name =>
      rw [convertLevels_table standard]
      refine EndsIn.bind (endsIn_convertRecord name) fun result record => ?_
      cases record with
      | taken converted => exact .pure converted
      | passed unbound =>
          refine endsIn_convertLast scalar repeatable fun other same => ?_
          cases same
          exact unbound
  | primitive _ | enumeration _ | external _ =>
      rw [convertLevels_leaf standard levels (by trivial)]
      exact endsIn_convertLast scalar repeatable fun _ impossible => by cases impossible

/-! ## The second conversion -/

theorem coercePrimitive_self
    {type : Primitive} {value : Value} (plain : IsPlain type value) :
    ¬value.isEmpty = true ∧ coercePrimitive value type = .ok value := by
  have visible : ¬value.isEmpty = true := by
    cases plain with
    | signed _ _ | unsigned _ _ | bool _ => exact Bool.false_ne_true
    | text visible => exact Bool.eq_false_iff.mp visible
  refine ⟨visible, ?_⟩
  cases plain with
  | signed signed inRange => exact coercePrimitive_of_signed visible rfl signed inRange
  | unsigned unsigned inRange => exact coercePrimitive_of_unsigned visible rfl unsigned inRange
  | bool value => rfl
  | text _ =>
      unfold coercePrimitive
      rw [if_neg visible]
      rfl

/-- What names two labels names one, where no two labels have a name in common. -/
theorem eq_of_names
    {labels : List String} (apart : labels.Pairwise fun left right =>
      (variantNames left).Disjoint (variantNames right))
    {text left right : String} (inLeft : left ∈ labels) (inRight : right ∈ labels)
    (namesLeft : Names text left) (namesRight : Names text right) : left = right := by
  refine Classical.byContradiction fun different => ?_
  have symmetric : Std.Symm fun left right : String =>
      (variantNames left).Disjoint (variantNames right) :=
    ⟨fun _ _ disjoint _ inRight inLeft => disjoint inLeft inRight⟩
  exact apart.forall inLeft inRight different namesLeft namesRight

/-- A variant is found under its own identifier, where no two variants have a name in common. -/
theorem variant?_name
    {columns : VariantColumns} {rows : List RawRow} {descriptor : Descriptor}
    (read : RowsRead columns rows descriptor.variants)
    (apart : (descriptor.variants.map (·.label)).Pairwise fun left right =>
      (variantNames left).Disjoint (variantNames right))
    {variant : Variant} (member : variant ∈ descriptor.variants) :
    descriptor.variant? variant.name = some variant := by
  have identifier := read.identifiers variant member
  have inLabels := List.mem_map_of_mem (f := (·.label)) member
  have named : Names variant.name variant.label := by
    rw [Names, identifier, trim_pascalCase]
    exact List.mem_cons_of_mem _ List.mem_cons_self
  obtain ⟨other, otherMember, found, otherNamed⟩ :=
    variant?_of_names read (read.labels ▸ inLabels) named
  have sameLabel : other.label = variant.label :=
    eq_of_names apart (List.mem_map_of_mem otherMember) inLabels otherNamed named
  have sameName : other.name = variant.name := by
    rw [read.identifiers other otherMember, sameLabel, identifier]
  rw [found, List.inj_on_of_nodup_map read.distinct otherMember member sameName]

/-- Every enumeration that is found has the variants of some rows. -/
theorem rowsRead_of_descriptor?
    {source : Source} {code : Code} {names : TypeNames} {catalog : Catalog}
    (agreement : Agreement source code names catalog) {name : String} {descriptor : Descriptor}
    (found : catalog.descriptor? name = some descriptor) {variant : Variant}
    (member : variant ∈ descriptor.variants) :
    ∃ columns rows, RowsRead columns rows descriptor.variants := by
  obtain ⟨table, _, planned⟩ := agreement.types descriptor (Catalog.mem_types_of_descriptor? found)
  cases isEnum : table.isEnum with
  | true =>
      obtain ⟨-, -, variants⟩ := plannedAs_enum isEnum planned
      obtain ⟨columns, rows, -, -, read⟩ := rowsRead_of_variantsOf variants
      exact ⟨columns, rows, read⟩
  | false =>
      obtain ⟨-, none, -⟩ := plannedAs_record isEnum planned
      rw [none] at member
      cases member

theorem mapM_eq_pure
    {items : List Value} {convert : Value → Conversion Value}
    (same : ∀ item ∈ items, convert item = pure item) : items.mapM convert = pure items := by
  induction items with
  | nil => rw [List.mapM_nil]
  | cons item rest inductionHypothesis =>
      obtain ⟨first, others⟩ := List.forall_mem_cons.mp same
      rw [List.mapM_cons, first, inductionHypothesis others, pure_bind, pure_bind]

/-- A record is taken as it is or passed over. -/
theorem convertRecord_record
    {fresh : Fresh} {member : TypeRef → ValueConversion} {name typeName : String}
    {members : List (String × Value)} :
    convertRecord lookup fresh field member name scopes (.record typeName members) = pure none ∨
      convertRecord lookup fresh field member name scopes (.record typeName members) =
        pure (some (.record typeName members)) := by
  unfold convertRecord
  split
  · exact Or.inl rfl
  · split
    · exact Or.inl rfl
    · rw [if_neg (by simp [Value.isEmpty])]
      exact Or.inr rfl

/-- Where a blank cell is no new record, null is taken as it is, or passed over and the zero. -/
theorem convertRecord_null
    {fresh : Fresh} {member : TypeRef → ValueConversion} {name : String}
    (vacant : Vacant lookup name) :
    (convertRecord lookup fresh field member name {} .null = pure none ∧
        zeroOf lookup fresh (.table name) = pure .null) ∨
      convertRecord lookup fresh field member name {} .null = pure (some .null) := by
  unfold convertRecord zeroOf
  dsimp only
  cases found : lookup.tables.get? name with
  | none => exact Or.inl ⟨rfl, rfl⟩
  | some table =>
      obtain ⟨notInPlace, outside⟩ := vacant table found
      dsimp only
      rw [if_neg notInPlace]
      cases bound : lookup.catalog.descriptor? table.name with
      | none => exact Or.inl ⟨rfl, rfl⟩
      | some descriptor =>
          have reference : table.kind = .reference := by
            refine outside.resolve_right fun unbound => ?_
            rw [bound] at unbound
            cases unbound
          dsimp only
          rw [if_pos (by rfl), if_pos (by simp [reference, Scopes.innermost?])]
          exact Or.inr rfl

/-- Every converted value is left as it is where no scope is open. -/
theorem convertLevels_converted
    {source : Source} {code : Code} {names : TypeNames}
    (agreement : Agreement source code names lookup.catalog) (standard : lookup.chain = .standard)
    {fresh : Fresh} (levels : Nat) {target : TypeRef} {value : Value}
    (converted : Converted lookup target value)
    (repeatable : Repeatable lookup.catalog target) :
    convertLevels lookup fresh field levels target {} value = pure value := by
  induction converted with
  | plain plain =>
      obtain ⟨visible, coerced⟩ := coercePrimitive_self plain
      rw [convertLevels_leaf standard levels (by trivial), convertLast,
        if_neg visible, coerced]
      rfl
  | blank =>
      rw [convertLevels_leaf standard levels (by trivial)]
      rfl
  | array each inductionHypothesis =>
      rw [convertLevels_array standard]
      unfold convertList
      rw [if_neg (by simp [Value.isEmpty])]
      dsimp only
      rw [mapM_eq_pure fun item member => inductionHypothesis item member repeatable, pure_bind]
  | @variant name descriptor variant found member =>
      obtain ⟨columns, rows, read⟩ := rowsRead_of_descriptor? agreement found member
      rw [convertLevels_leaf standard levels (by trivial), convertLast,
        if_neg (by simp [Value.isEmpty]), found]
      dsimp only
      rw [toVariant, variantFor?, variant?_name read (repeatable descriptor found) member]
      rfl
  | @noVariant name bare =>
      rw [convertLevels_leaf standard levels (by trivial), convertLast, if_pos (by rfl), zeroOf]
      cases found : lookup.catalog.descriptor? name with
      | none => rfl
      | some descriptor =>
          dsimp only
          rw [bare descriptor found]
  | @record name typeName members =>
      rw [convertLevels_table standard]
      rcases convertRecord_record with passed | taken
      · rw [passed]
        rfl
      · rw [taken]
        rfl
  | @vacant name vacant =>
      rw [convertLevels_table standard]
      rcases convertRecord_null vacant with ⟨passed, zero⟩ | taken
      · rw [passed, pure_bind]
        unfold convertLast
        rw [if_pos (by rfl)]
        exact zero
      · rw [taken]
        rfl

/-- A cell's value is not changed by another conversion into its type, whatever is collected before
either of the two. -/
theorem convert_twice
    {source : Source} {code : Code} {plan : Plan} {settings : Settings} {run : Naming.Scope}
    (reached : Source.Reached settings run source) (isOpen : source.isOpen = true)
    (planned : Plan.ofSource source code = .ok plan)
    (bound : Catalog.ofTables source.tables plan.model code = .ok lookup.catalog)
    (standard : lookup.chain = .standard) {target : TypeRef}
    (repeatable : Repeatable lookup.catalog target) {cell : Value} (scalar : IsScalar cell)
    {before after : MemberCache} {value : Value}
    (ran : (lookup.convert field target {} cell).run.run before = (.ok value, after)) :
    ∀ cache, (lookup.convert field target {} value).run.run cache = (.ok value, cache) := by
  obtain ⟨names, -, agreement⟩ :=
    agreement_of_plan (Source.resolved_of_reached reached isOpen) planned bound
  have converted : Converted lookup target value :=
    endsIn_convertLevels standard _ scalar repeatable before value after ran
  intro cache
  rw [Lookup.convert, changeType, convertLevels_converted agreement standard _ converted repeatable]
  rfl

theorem convert_twice_hues :
    let source := hueSource "Sea Green" "red"
    let hues := TypeRef.array (.array (.enumeration "Hue"))
    ∃ plan catalog value after, Plan.ofSource source {} = .ok plan ∧
      Catalog.ofTables source.tables plan.model {} = .ok catalog ∧
      value.display = "[[Red, SeaGreen], [Red]]" ∧
      ((Lookup.ofSource source catalog ⟨["|", ","], []⟩).convert default hues {}
        (.text "red, SEA GREEN |2")).run.run [] = (.ok value, after) ∧
      ∀ cache, ((Lookup.ofSource source catalog ⟨["|", ","], []⟩).convert default hues {}
        value).run.run cache = (.ok value, cache) := by
  intro source hues
  have isOpen : source.isOpen = true := by
    decide +kernel
  have shown : (Plan.ofSource source {}).toOption.map
      (fun plan => (Catalog.ofTables source.tables plan.model {}).toOption.map fun catalog =>
        ((catalog.descriptor? "Hue").map fun descriptor => descriptor.variants.map (·.label),
          (((Lookup.ofSource source catalog ⟨["|", ","], []⟩).convert default hues {}
            (.text "red, SEA GREEN |2")).run.run []).1.toOption.map Value.display)) =
      some (some (some ["Sea Green", "red"], some "[[Red, SeaGreen], [Red]]")) := by
    decide +kernel
  obtain ⟨plan, planGiven, catalogued⟩ := Option.map_eq_some_iff.mp shown
  obtain ⟨catalog, catalogGiven, both⟩ := Option.map_eq_some_iff.mp catalogued
  obtain ⟨described, displayed⟩ := Prod.mk.inj both
  obtain ⟨descriptor, found, labels⟩ := Option.map_eq_some_iff.mp described
  obtain ⟨value, valueGiven, display⟩ := Option.map_eq_some_iff.mp displayed
  have planned := Outcome.eq_ok_of_toOption planGiven
  have bound := Outcome.eq_ok_of_toOption catalogGiven
  have repeatable : Repeatable catalog hues := by
    intro other otherFound
    rw [found, Option.some.injEq] at otherFound
    rw [← otherFound, labels]
    have names : variantNames "Sea Green" = ["sea green", "seagreen"] ∧
        variantNames "red" = ["red", "red"] := by
      decide +kernel
    simp [names]
  obtain ⟨after, ran⟩ : ∃ after, ((Lookup.ofSource source catalog ⟨["|", ","], []⟩).convert default
      hues {} (.text "red, SEA GREEN |2")).run.run [] = (.ok value, after) :=
    ⟨_, Prod.ext (Outcome.eq_ok_of_toOption valueGiven) rfl⟩
  exact ⟨plan, catalog, value, after, planned, bound, display, ran,
    convert_twice (reached_hueSource "Sea Green" "red") isOpen planned bound rfl repeatable
      (by trivial) ran⟩

end TypedTables.Convert
