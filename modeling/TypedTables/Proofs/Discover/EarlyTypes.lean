import TypedTables.Proofs.Discover.Schemas
import TypedTables.Proofs.Keyword.Changes

/-!
# Types that are known early

While headers are read, the type of a field is known only if it is a primitive or lists of one.
Defaults are coerced into the types that are known then.  Those types are the final ones, and no
other field comes to have a primitive type when the tables are known.
-/

namespace TypedTables.Keyword

open TypedTables.Schema TypedTables.Text

/-! ## Words -/

/-- The default of a field is the one that the last change of it wrote. -/
theorem default_applyAll (subject : Subject) (changes : List Change) :
    (applyAll subject changes).field.default = subject.field.default ∨
      ∃ value, Change.default value ∈ changes ∧
        (applyAll subject changes).field.default = some value := by
  induction changes generalizing subject with
  | nil => exact Or.inl rfl
  | cons change rest inductionHypothesis =>
      rcases inductionHypothesis (change.apply subject) with same | ⟨value, member, given⟩
      · cases change with
        | default value => exact Or.inr ⟨value, List.mem_cons_self, same⟩
        | nothing | mark _ | key | exclusion | arraySeparators _ | objectSeparators _ | index _
        | tag _ => exact Or.inl same
      · exact Or.inr ⟨value, List.mem_cons_of_mem change member, given⟩

theorem defaultValue_of_changeOf
    {subject : Subject} {token : Token} {value : Value}
    (given : changeOf subject token = .ok (.default value)) :
    ∃ parameter, defaultValue subject.field parameter = .ok value := by
  have aimed := aim?_of_changeOf given
  unfold changeOf at given
  rw [← aimed] at given
  obtain ⟨_, found, same⟩ := Outcome.map_eq_ok_iff.mp given
  cases same
  exact ⟨_, found⟩

/-- A default that a cell gives to a field is told by the field as it is in front of the cell. -/
theorem default_of_applyCell
    {subject after : Subject} {text : String} (applied : applyCell subject text = (after, none)) :
    after.field.default = subject.field.default ∨
      ∃ parameter value, defaultValue subject.field parameter = .ok value ∧
        after.field.default = some value := by
  obtain ⟨changes, ran, rfl⟩ := applyTokens_eq_iff.mp applied
  rcases default_applyAll subject changes with same | ⟨value, member, given⟩
  · exact Or.inl same
  · obtain ⟨token, -, told⟩ := (exists_of_mapM_changeOf ran).2 _ member
    obtain ⟨parameter, found⟩ := defaultValue_of_changeOf told
    exact Or.inr ⟨parameter, value, found, given⟩

end TypedTables.Keyword

namespace TypedTables.Discover

open TypedTables.Schema TypedTables.Config TypedTables.Text

/-! ## Defaults -/

/-- A default that a header gives to a field of a type: coerced into the type where that is
primitive, and the bare text elsewhere. -/
inductive GivenDefault : Option TypeRef → Value → Prop
  | coerced {target : Primitive} {cell value : Value}
      (coerced : Convert.coercePrimitive cell target = .ok value) :
      GivenDefault (some (.primitive target)) value
  | written {type : Option TypeRef} (text : String)
      (later : ∀ target, type ≠ some (.primitive target)) :
      GivenDefault type (Value.ofText text)

theorem givenDefault_defaultValue
    {field : Field} {parameter : String} {value : Value}
    (given : Keyword.defaultValue field parameter = .ok value) :
    GivenDefault field.type value := by
  unfold Keyword.defaultValue at given
  cases known : Keyword.primitive? field with
  | none =>
      have later : ∀ target, field.type ≠ some (.primitive target) := by
        intro target hasType
        rw [primitive?_eq_some_iff.mpr hasType] at known
        cases known
      rw [known] at given
      split at given
      · cases given
        exact .written "" later
      · cases given
        exact .written parameter later
  | some target =>
      rw [known] at given
      rw [primitive?_eq_some_iff.mp known]
      split at given
      · cases given
        have asZero : Convert.coercePrimitive .null target = .ok (Value.zero target) := rfl
        exact .coerced asZero
      · dsimp only at given
        split at given
        · next coerced =>
            cases given
            exact .coerced coerced
        · cases given

/-! ## Headers -/

/-- A field with the type that is known without tables, and a default given for that type. -/
structure EarlyTyped (mappings : List TypeMapping) (field : Field) : Prop where
  type : field.type = builtinType? mappings field.declared
  default : ∀ value, field.default = some value → GivenDefault field.type value

variable {settings : Settings} {run : Naming.Scope}

theorem earlyTyped_of_applyCell
    {mappings : List TypeMapping} {table : Table} {name declared keywords : String} {column : Nat}
    {after : Keyword.Subject}
    (applied : Keyword.applyCell ⟨table, startField mappings table name declared column⟩ keywords =
      (after, none)) : EarlyTyped mappings after.field := by
  have marked := marked_applyTokens applied
  have sameType : after.field.type = builtinType? mappings declared :=
    marked.type.trans startField_type
  have sameDeclared : after.field.declared = declared := marked.declared
  refine ⟨by rw [sameType, sameDeclared], ?_⟩
  intro value given
  rcases Keyword.default_of_applyCell applied with same | ⟨parameter, other, told, same⟩
  · rw [same, startField_default] at given
    cases given
  · rw [same, Option.some.injEq] at given
    have fits := givenDefault_defaultValue told
    rw [startField_type] at fits
    rw [← given, sameType]
    exact fits

theorem EarlyTyped.rowDefault
    {mappings : List TypeMapping} {input : Input} {sheet : Sheet} {placed : PlacedRows}
    {field finished : Field} (early : EarlyTyped mappings field)
    (read : rowDefault input sheet placed field = .ok finished) :
    EarlyTyped mappings finished := by
  rcases rowDefault_cases read with rfl | ⟨said, target, value, hasType, coerced, rfl⟩
  · exact early
  · refine ⟨early.type, ?_⟩
    intro other given
    cases given
    dsimp only
    rw [hasType]
    exact .coerced coerced

theorem earlyTyped_of_readColumn
    {mappings : List TypeMapping} {input : Input} {sheet : Sheet} {placed : PlacedRows}
    {nameRow column : Nat} {table next : Table}
    (read : readColumn input mappings sheet placed nameRow table column = .ok next)
    (before : ∀ field ∈ table.fields, EarlyTyped mappings field) :
    ∀ field ∈ next.fields, EarlyTyped mappings field := by
  rcases readColumn_eq_ok read with ⟨-, rfl⟩ |
    ⟨name, declared, keywords, markedTable, markedField, -, -, -, applied, last⟩
  · exact before
  · obtain ⟨flags, sameTable⟩ := (marked_applyTokens applied).table
    have early := earlyTyped_of_applyCell applied
    dsimp only at sameTable early
    rcases last with ⟨-, rfl⟩ | ⟨-, description, finished, -, defaulted, rfl⟩
    · rw [sameTable]
      exact before
    · have described : EarlyTyped mappings { markedField with description } :=
        ⟨early.type, early.default⟩
      intro field member
      rw [sameTable] at member
      rcases List.mem_append.mp member with earlier | atEnd
      · exact before field earlier
      · rw [List.mem_singleton.mp atEnd]
        exact described.rowDefault defaulted

theorem earlyTyped_of_readHeader
    {ref : SheetRef} {sheet : Sheet} {table : Table} {first : Nat}
    (read : readHeader settings run ref sheet = .ok (some (table, first))) :
    ∀ field ∈ table.fields, EarlyTyped settings.typeMappings field := by
  obtain ⟨_, _, placed, nameRow, _, _, _, columns⟩ := (headerRead_of_readHeader read).columns
  refine Outcome.foldlM_invariant
    (fun _ table => ∀ field ∈ table.fields, EarlyTyped settings.typeMappings field)
    (fun _ member => by cases member) ?_ columns
  intro _ column _ state next _ holds stepped
  exact earlyTyped_of_readColumn stepped holds

/-! ## Sources -/

/-- The table of an entry is one that a header gave, the types of its fields aside. -/
def FromHeader (settings : Settings) (run : Naming.Scope) (entry : LoadedTable) : Prop :=
  ∃ ref table first, readHeader settings run ref entry.sheet = .ok (some (table, first)) ∧
    LoadedTable.untyped ⟨table, entry.sheet, first⟩ = entry.untyped

/-- Every field of an entry has the type that it declares among some tables. -/
def FinallyTyped (mappings : List TypeMapping) (entry : LoadedTable) : Prop :=
  ∀ field ∈ entry.table.fields, ∃ tables type, field.type = some type ∧
    declaredType mappings tables field.declared = .ok type

theorem FromHeader.of_untyped
    {before after : LoadedTable} (given : FromHeader settings run before)
    (same : before.untyped = after.untyped) : FromHeader settings run after := by
  obtain ⟨ref, table, first, read, sameTable⟩ := given
  have sameSheet : before.untyped.sheet = after.untyped.sheet := by rw [same]
  dsimp only [LoadedTable.untyped] at sameSheet
  rw [sameSheet] at read sameTable
  exact ⟨ref, table, first, read, sameTable.trans same⟩

namespace Source

variable {source : Source}

theorem fromHeader_addSheets
    (given : ∀ entry ∈ source.loaded, FromHeader settings run entry) (provider : SheetProvider)
    (refs : List SheetRef) :
    ∀ entry ∈ (source.addSheets settings run provider refs).1.loaded,
      FromHeader settings run entry := by
  intro entry member
  rcases exists_of_mem_addSheets member with before | ⟨ref, _, read⟩
  · exact given entry before
  · exact ⟨ref, entry.table, entry.dataRow, read, rfl⟩

theorem fromHeader_resolve
    (given : ∀ entry ∈ source.loaded, FromHeader settings run entry)
    (mappings : List TypeMapping) :
    ∀ entry ∈ (source.resolve mappings).1.loaded, FromHeader settings run entry := by
  intro entry member
  have keeps := resolveTables_untyped mappings source.tables source.loaded
  obtain ⟨origin, present, same⟩ := exists_of_untyped keeps member
  exact (given origin present).of_untyped same

theorem fromHeader_discover
    (given : ∀ entry ∈ source.loaded, FromHeader settings run entry) (provider : SheetProvider) :
    ∀ entry ∈ (source.discover settings run provider).1.loaded,
      FromHeader settings run entry := by
  unfold Source.discover
  split
  · exact given
  · split
    · exact given
    · next refs _ =>
        have grown := fromHeader_addSheets given provider refs
        split
        · next found added =>
            rw [added] at grown
            exact fromHeader_resolve grown settings.typeMappings
        · next found failure added =>
            rw [added] at grown
            exact grown

theorem finallyTyped_of_discover
    {resolved : Source} {provider : SheetProvider}
    (ran : source.discover settings run provider = (resolved, .ok ())) :
    ∀ entry ∈ resolved.loaded, FinallyTyped settings.typeMappings entry := by
  obtain ⟨refs, found, _, resolving⟩ := discover_eq_ok ran
  obtain ⟨tablesRan, _, _⟩ := resolve_eq_ok resolving
  intro entry member field inFields
  obtain ⟨before, _, fieldsRan⟩ := mem_resolveTables tablesRan member
  obtain ⟨origin, _, type, declared, rfl⟩ := mem_resolveFields fieldsRan inFields
  exact ⟨found.tables, type, rfl, declared⟩

/-- However a source is reached, its tables are from headers, and when it is open their fields have
the types that they declare. -/
theorem typed_of_reached (reached : Reached settings run source) :
    (∀ entry ∈ source.loaded, FromHeader settings run entry) ∧
      (source.isOpen = true →
        ∀ entry ∈ source.loaded, FinallyTyped settings.typeMappings entry) := by
  induction reached with
  | new | closed _ _ =>
      refine ⟨?_, ?_⟩
      · intro entry member
        cases member
      · intro _ entry member
        cases member
  | @opened source provider _ inductionHypothesis =>
      obtain ⟨given, typed⟩ := inductionHypothesis
      have found := fromHeader_discover given provider
      by_cases isOpen : source.isOpen = true
      · rw [openWith, if_pos isOpen]
        exact ⟨given, typed⟩
      · rw [openWith, if_neg isOpen]
        split
        · next last ran =>
            rw [ran] at found
            have resolvedTypes := finallyTyped_of_discover ran
            exact ⟨found, fun _ => resolvedTypes⟩
        · next last failure ran =>
            rw [ran] at found
            refine ⟨found, fun impossible => ?_⟩
            have stays := isOpen_discover settings run provider source
            rw [ran] at stays
            exact absurd (stays.symm.trans impossible) isOpen

end Source

/-! ## The early and the final type -/

/-- A field as its header gave it, and as it is in the end: its default is one for the final type,
which was known early if it is primitive. -/
structure KnownEarly (mappings : List TypeMapping) (early final : Field) : Prop where
  same : untyped early = untyped final
  type : early.type = builtinType? mappings final.declared
  primitive : Keyword.primitive? early = Keyword.primitive? final
  default : ∀ value, final.default = some value → GivenDefault final.type value

theorem primitive?_final
    {mappings : List TypeMapping} {tables : TableSet} {declared : String} {type : TypeRef}
    (known : declaredType mappings tables declared = .ok type) (target : Primitive) :
    builtinType? mappings declared = some (.primitive target) ↔ type = .primitive target := by
  rw [builtinType?_eq_some_iff tables, known, Except.ok.injEq]
  exact and_iff_right trivial

theorem GivenDefault.congr
    {early final : Option TypeRef} {value : Value}
    (same : ∀ target, early = some (.primitive target) ↔ final = some (.primitive target))
    (given : GivenDefault early value) : GivenDefault final value := by
  cases given with
  | coerced coerced =>
      rw [(same _).mp rfl]
      exact .coerced coerced
  | written text later =>
      exact .written text fun target typed => later target ((same target).mpr typed)

theorem EarlyTyped.knownEarly
    {mappings : List TypeMapping} {early final : Field} (before : EarlyTyped mappings early)
    (same : untyped early = untyped final) {tables : TableSet} {type : TypeRef}
    (typed : final.type = some type)
    (declared : declaredType mappings tables final.declared = .ok type) :
    KnownEarly mappings early final := by
  have sameDeclared : (untyped early).declared = (untyped final).declared := by rw [same]
  have sameDefault : (untyped early).default = (untyped final).default := by rw [same]
  dsimp only [untyped] at sameDeclared sameDefault
  have earlyType : early.type = builtinType? mappings final.declared := by
    rw [before.type, sameDeclared]
  have agree : ∀ target, early.type = some (.primitive target) ↔
      final.type = some (.primitive target) := by
    intro target
    rw [earlyType, typed, Option.some.injEq]
    exact primitive?_final declared target
  refine ⟨same, earlyType, ?_, ?_⟩
  · apply Option.ext
    intro target
    rw [primitive?_eq_some_iff, primitive?_eq_some_iff]
    exact agree target
  · intro value given
    rw [← sameDefault] at given
    exact (before.default value given).congr agree

theorem knownEarly_of_untyped
    {mappings : List TypeMapping} {early final : List Field}
    (same : early.map untyped = final.map untyped)
    (before : ∀ field ∈ early, EarlyTyped mappings field)
    (after : ∀ field ∈ final, ∃ tables type, field.type = some type ∧
      declaredType mappings tables field.declared = .ok type) :
    List.Forall₂ (KnownEarly mappings) early final := by
  induction early generalizing final with
  | nil =>
      rw [List.map_nil, eq_comm, List.map_eq_nil_iff] at same
      rw [same]
      exact .nil
  | cons first rest inductionHypothesis =>
      obtain ⟨last, others, rfl, sameField, sameRest⟩ := List.map_eq_cons_iff.mp same.symm
      obtain ⟨tables, type, typed, declared⟩ := after last List.mem_cons_self
      refine .cons ?_ (inductionHypothesis sameRest.symm ?_ ?_)
      · exact (before first List.mem_cons_self).knownEarly sameField.symm typed declared
      · exact fun field member => before field (List.mem_cons_of_mem first member)
      · exact fun field member => after field (List.mem_cons_of_mem last member)

/-- What is known of a declared type before any table is agrees with what is known in the end: it is
the final type exactly when that is a primitive or lists of one, whatever tables there are.  So the
type that a default is coerced into is the final type of the field, in every opened source. -/
theorem early_types_final (settings : Settings) (run : Naming.Scope) :
    (∀ declared type tables, builtinType? settings.typeMappings declared = some type ↔
        IsBuiltin type ∧ declaredType settings.typeMappings tables declared = .ok type) ∧
      ∀ source, Source.Reached settings run source → source.isOpen = true →
        ∀ entry ∈ source.loaded, ∃ ref table first,
          readHeader settings run ref entry.sheet = .ok (some (table, first)) ∧
            List.Forall₂ (KnownEarly settings.typeMappings) table.fields entry.table.fields := by
  refine ⟨fun _ _ tables => builtinType?_eq_some_iff tables, ?_⟩
  intro source reached isOpen entry member
  obtain ⟨fromHeader, typed⟩ := Source.typed_of_reached reached
  obtain ⟨ref, table, first, read, same⟩ := fromHeader entry member
  refine ⟨ref, table, first, read, ?_⟩
  have sameFields : (LoadedTable.untyped ⟨table, entry.sheet, first⟩).table.fields =
      entry.untyped.table.fields := by rw [same]
  exact knownEarly_of_untyped sameFields (earlyTyped_of_readHeader read)
    (typed isOpen entry member)

end TypedTables.Discover
