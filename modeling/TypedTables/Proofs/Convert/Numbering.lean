import TypedTables.Proofs.Convert.Enumerations
import TypedTables.Proofs.Generate.Discriminants

/-!
# Numbers of variants

A cell with a number is taken for the first variant that has the number as its value.  That is the
variant of the row with the number exactly if no two rows share a value, which holds wherever the
discriminants in the generated code are distinct.
-/

namespace TypedTables.Generate

open TypedTables.Schema TypedTables.Manifest TypedTables.Discover TypedTables.Text
open TypedTables.Naming TypedTables.Convert TypedTables.Number
open TypedTables.Config (Code)

/-! ## Values of rows -/

/-- A variant that is read from a row. -/
structure VariantOf (table : Table) (columns : VariantColumns) (row : RawRow) (variant : Variant) :
    Prop where
  name : variant.name = pascalCase (row.label columns.name)
  value : variantValue table row columns.value = .ok variant.value

/-- The rows that have variants. -/
def labelled (columns : VariantColumns) (rows : List RawRow) : List RawRow :=
  rows.filter fun row => !(row.label columns.name).isEmpty

theorem mem_labelled {columns : VariantColumns} {rows : List RawRow} {row : RawRow} :
    row ∈ labelled columns rows ↔ row ∈ rows ∧ row.label columns.name ≠ "" := by
  simp [labelled]

theorem forall₂_addVariant
    {table : Table} {columns : VariantColumns} {before : List RawRow} {row : RawRow}
    {variants next : List Variant}
    (read : List.Forall₂ (VariantOf table columns) (labelled columns before) variants)
    (added : addVariant table columns variants row = .ok next) :
    List.Forall₂ (VariantOf table columns) (labelled columns (before ++ [row])) next := by
  unfold labelled at read ⊢
  rw [List.filter_append]
  rcases addVariant_eq_ok added with ⟨blank, rfl⟩ | ⟨visible, -, value, description, given, rfl⟩
  · rw [List.filter_cons_of_neg (by simp [blank]), List.filter_nil, List.append_nil]
    exact read
  · rw [List.filter_cons_of_pos (by simpa using visible), List.filter_nil]
    refine List.rel_append read (List.Forall₂.cons ⟨?_, given⟩ .nil)
    dsimp only

/-- What reading the rows of an enumeration gives. -/
structure Enumerated (table : Table) (columns : VariantColumns) (rows : List RawRow)
    (variants : List Variant) : Prop where
  read : RowsRead columns rows variants
  values : List.Forall₂ (VariantOf table columns) (labelled columns rows) variants

theorem enumerated_of_variantsOf
    {source : Source} {table : Table} {variants : List Variant}
    (ran : variantsOf source table = .ok variants) :
    ∃ columns rows, variantColumns table = .ok columns ∧ source.rows table.name = .ok rows ∧
      Enumerated table columns rows variants := by
  obtain ⟨columns, rows, placed, listed, folded⟩ := fold_of_variantsOf ran
  refine ⟨columns, rows, placed, listed, ?_⟩
  have none : Enumerated table columns [] [] :=
    ⟨⟨rfl, by simp, List.nodup_nil⟩, .nil⟩
  refine Outcome.foldlM_invariant (Enumerated table columns) none ?_ folded
  intro before row after state next _ holds added
  exact ⟨rowsRead_addVariant holds.read added, forall₂_addVariant holds.values added⟩

/-- The values of variants are integers of 64 bits. -/
theorem wide_of_variantValue
    {table : Table} {row : RawRow} {position : Nat} {number : Int}
    (given : variantValue table row position = .ok (some number)) :
    (IntRange.signed 64).contains number = true := by
  unfold variantValue at given
  dsimp only at given
  split at given
  · cases given
  · split at given
    · next coerced =>
        cases given
        have inhabits := inhabits_coercePrimitive coerced
        cases inhabits with
        | signed _ inRange => exact inRange
    · cases given

theorem Enumerated.wide
    {table : Table} {columns : VariantColumns} {rows : List RawRow} {variants : List Variant}
    (enumerated : Enumerated table columns rows variants) {number : Int}
    (member : some number ∈ variants.map (·.value)) :
    (IntRange.signed 64).contains number = true := by
  obtain ⟨variant, inVariants, value⟩ := List.mem_map.mp member
  obtain ⟨row, -, ofRow⟩ := (Outcome.exists_of_forall₂ enumerated.values).2 variant inVariants
  have given := ofRow.value
  rw [value] at given
  exact wide_of_variantValue given

/-! ## Declarations -/

/-- An enumeration is declared with the values of its type's variants. -/
theorem exists_declaration
    {source : Source} {code : Code} {plan : Plan} {names : TypeNames} {table : Table}
    {descriptor : Descriptor} (planned : Plan.ofSource source code = .ok plan)
    (named : nameTypes code source.tables = .ok names)
    (member : table ∈ source.tables.tables) (isEnum : table.isEnum = true)
    (plannedAs : PlannedAs source code names table descriptor) :
    ∃ declaration ∈ plan.declarations, declaration.table = table.name ∧
      declaration.variants.map (·.value) = descriptor.variants.map (·.value) := by
  obtain ⟨sameNames, types, sameNamed, -, declarations, each⟩ := planned_of_ofSource planned
  rw [named, Except.ok.injEq] at sameNamed
  subst sameNamed
  obtain ⟨type, present, isFirst, ran⟩ := (Outcome.exists_of_forall₂ each).1 table member
  have same : type.1 = descriptor := plannedAs_unique ⟨isFirst, type.2, ran⟩ plannedAs
  obtain ⟨-, declares, -⟩ := planTable_enum isEnum ran
  have values : type.2.variants.map (·.value) = type.1.variants.map (·.value) := by
    rw [declares.variants]
    exact List.map_map
  refine ⟨type.2, ?_, declares.tableName, ?_⟩
  · rw [declarations]
    exact List.mem_map_of_mem present
  · rw [values, same]

end TypedTables.Generate

namespace TypedTables.Convert

open TypedTables.Schema TypedTables.Manifest TypedTables.Binding TypedTables.Discover
open TypedTables.Generate TypedTables.Text TypedTables.Naming TypedTables.Number
open TypedTables.Config (Code Settings)

/-! ## Cells -/

/-- A cell that holds a number: as an integer, or as a text that names none of some labels. -/
inductive HoldsNumber (labels : List String) (number : Int) : Value → Prop
  | int : HoldsNumber labels number (.int number)
  | uint {natural : Nat} (same : (natural : Int) = number) :
      HoldsNumber labels number (.uint natural)
  | text {text : String} (reads : readInt? (trim text) = some number)
      (unnamed : ∀ label ∈ labels, ¬Names text label) : HoldsNumber labels number (.text text)

/-- A variant with a value is the one that is found by the value, where none shares it. -/
theorem numbered?_of_nodup
    {descriptor : Descriptor} (distinct : (descriptor.variants.filterMap (·.value)).Nodup)
    {variant : Variant} (member : variant ∈ descriptor.variants) {number : Int}
    (value : variant.value = some number) (wide : (IntRange.signed 64).contains number = true) :
    numbered? descriptor number = some variant := by
  have present : (descriptor.variants.find? (·.value == some number)).isSome = true :=
    List.find?_isSome.mpr ⟨variant, member, by rw [value]; exact beq_self_eq_true _⟩
  obtain ⟨other, found⟩ := Option.isSome_iff_exists.mp present
  have matched := List.find?_some found
  have otherValue : other.value = some number := eq_of_beq matched
  have same : other = variant := by
    refine Classical.byContradiction fun different => ?_
    have apart := List.pairwise_filterMap.mp distinct
    have symmetric : Std.Symm fun left right : Variant =>
        ∀ one, left.value = some one → ∀ two, right.value = some two → one ≠ two :=
      ⟨fun _ _ each one isOne two isTwo same => each two isTwo one isOne same.symm⟩
    exact apart.forall (List.mem_of_find?_eq_some found) member different number otherValue number
      value rfl
  unfold numbered?
  rw [if_pos wide, found, same]

/-- A cell that holds the value of a variant is taken for it, where no variants share values. -/
theorem variantFor?_of_holdsNumber
    {table : Table} {columns : VariantColumns} {rows : List RawRow} {descriptor : Descriptor}
    (enumerated : Enumerated table columns rows descriptor.variants)
    (distinct : (descriptor.variants.filterMap (·.value)).Nodup)
    {variant : Variant} (member : variant ∈ descriptor.variants) {number : Int}
    (value : variant.value = some number) {cell : Value}
    (holds : HoldsNumber (labelsOf columns rows) number cell) :
    ¬cell.isEmpty = true ∧ variantFor? descriptor cell = some variant := by
  have wide : (IntRange.signed 64).contains number = true :=
    enumerated.wide (value ▸ List.mem_map_of_mem member)
  have found := numbered?_of_nodup distinct member value wide
  cases holds with
  | int => exact ⟨Bool.false_ne_true, found⟩
  | uint same =>
      subst same
      exact ⟨Bool.false_ne_true, found⟩
  | @text text reads unnamed =>
      have unfound : descriptor.variant? text = none := by
        refine List.find?_eq_none.mpr fun other otherMember passes => ?_
        have inLabels : other.label ∈ labelsOf columns rows := by
          rw [← enumerated.read.labels]
          exact List.mem_map_of_mem otherMember
        exact unnamed other.label inLabels ((found_iff_names enumerated.read otherMember).mp passes)
      refine ⟨fun blank => ?_, ?_⟩
      · rw [trim_of_isBlankText blank] at reads
        cases reads
      · rw [variantFor?, unfound, reads]
        exact found

/-- The cells that hold the value of a row are taken for its variant. -/
def TakenByNumber (lookup : Lookup) (table : Table) (columns : VariantColumns) (rows : List RawRow)
    (descriptor : Descriptor) : Prop :=
  ∀ row ∈ rows, row.label columns.name ≠ "" →
    ∀ number, variantValue table row columns.value = .ok (some number) →
      ∀ cell, HoldsNumber (labelsOf columns rows) number cell → ∀ field scopes cache,
        (lookup.convertCell field (.enumeration table.name) scopes cell).run.run cache =
          (.ok (.variant descriptor.fullName (pascalCase (row.label columns.name))), cache)

theorem takenByNumber_iff
    {lookup : Lookup} (standard : lookup.chain = .standard) {table : Table}
    {columns : VariantColumns} {rows : List RawRow} {descriptor : Descriptor}
    (found : lookup.catalog.descriptor? table.name = some descriptor)
    (enumerated : Enumerated table columns rows descriptor.variants) :
    TakenByNumber lookup table columns rows descriptor ↔
      (descriptor.variants.filterMap (·.value)).Nodup := by
  obtain ⟨variantOfRow, rowOfVariant⟩ := Outcome.exists_of_forall₂ enumerated.values
  constructor
  · intro taken
    refine List.pairwise_filterMap.mpr
      ((List.pairwise_map.mp enumerated.read.distinct).imp_of_mem ?_)
    rintro left right inLeft inRight different number leftValue _ rightValue rfl
    have asVariant : ∀ variant ∈ descriptor.variants, variant.value = some number →
        (lookup.convertCell default (.enumeration table.name) {} (.int number)).run.run [] =
          (.ok (.variant descriptor.fullName variant.name), []) := by
      intro variant inVariants value
      obtain ⟨row, inRows, ofRow⟩ := rowOfVariant variant inVariants
      obtain ⟨present, visible⟩ := mem_labelled.mp inRows
      rw [ofRow.name]
      exact taken row present visible number (by rw [ofRow.value, value]) _ .int default {} []
    have both := (asVariant left inLeft leftValue).symm.trans (asVariant right inRight rightValue)
    have same := Except.ok.inj (congrArg Prod.fst both)
    exact different (Value.variant.inj same).2
  · intro distinct row present visible number given cell holds field scopes cache
    obtain ⟨variant, inVariants, ofRow⟩ := variantOfRow row (mem_labelled.mpr ⟨present, visible⟩)
    have value : variant.value = some number := Except.ok.inj (ofRow.value.symm.trans given)
    obtain ⟨notEmpty, isVariant⟩ :=
      variantFor?_of_holdsNumber enumerated distinct inVariants value holds
    rw [← ofRow.name]
    exact run_convertCell_variant standard found notEmpty isVariant field scopes cache

/-- What the generated numbers of an enumeration are worth: they are distinct and integers of 64
bits exactly if the runs that the values begin keep apart and end in time.  Cells that hold the
values of rows are taken for the rows' variants exactly if no two rows share a value, as they do
not where the numbers are distinct. -/
theorem discriminants_distinct_iff
    {source : Source} {code : Code} {plan : Plan} {catalog : Catalog} {settings : Settings}
    {run : Naming.Scope} {table : Table}
    (reached : Source.Reached settings run source) (isOpen : source.isOpen = true)
    (planned : Plan.ofSource source code = .ok plan)
    (bound : Catalog.ofTables source.tables plan.model code = .ok catalog)
    (member : table ∈ source.tables.tables) (isEnum : table.isEnum = true)
    (separators : Separators) :
    ∃ columns rows descriptor, variantColumns table = .ok columns ∧
      source.rows table.name = .ok rows ∧ catalog.descriptor? table.name = some descriptor ∧
      Enumerated table columns rows descriptor.variants ∧
      ∃ declaration ∈ plan.declarations, declaration.table = table.name ∧
        declaration.variants.map (·.value) = descriptor.variants.map (·.value) ∧
        ((declaration.discriminants.Nodup ∧
            ∀ number ∈ declaration.discriminants, (IntRange.signed 64).contains number = true) ↔
          (runs (descriptor.variants.map (·.value))).Pairwise Run.Apart ∧
            ∀ run ∈ runs (descriptor.variants.map (·.value)),
              (IntRange.signed 64).contains run.last = true) ∧
        (TakenByNumber (.ofSource source catalog separators) table columns rows descriptor ↔
          (descriptor.variants.filterMap (·.value)).Nodup) ∧
        (declaration.discriminants.Nodup → (descriptor.variants.filterMap (·.value)).Nodup) := by
  obtain ⟨names, named, agreement⟩ :=
    agreement_of_plan (Source.resolved_of_reached reached isOpen) planned bound
  obtain ⟨descriptor, found, plannedAs⟩ := agreement.bound table member
  obtain ⟨-, -, variants⟩ := plannedAs_enum isEnum plannedAs
  obtain ⟨columns, rows, placed, listed, enumerated⟩ := enumerated_of_variantsOf variants
  obtain ⟨declaration, declared, ofTable, values⟩ :=
    exists_declaration planned named member isEnum plannedAs
  refine ⟨columns, rows, descriptor, placed, listed, found, enumerated, declaration, declared,
    ofTable, values, ?_, ?_, ?_⟩
  · unfold Declaration.discriminants
    rw [values, nodup_discriminants_iff,
      within_discriminants_iff (by decide) fun number isValue => enumerated.wide isValue]
  · exact takenByNumber_iff rfl found enumerated
  · intro distinct
    unfold Declaration.discriminants at distinct
    rw [values] at distinct
    have inOrder := (sublist_discriminants 0 (descriptor.variants.map (·.value))).nodup distinct
    rwa [List.filterMap_map] at inOrder

/-! ## Lights -/

/-- The sheet of an enumeration of lights with some values. -/
def lightSheets (values : List String) : SheetProvider := .ofList [
  ("Light", .ofTexts (
    [[], ["Name", "Value"], ["", "int"], ["enum"], []] ++
      ["Red", "Amber", "Green"].zipWith (fun name value => [name, value]) values))]

/-- The source of an enumeration of lights with some values. -/
def lightSource (values : List String) : Source :=
  (({} : Source).openWith {} .empty (lightSheets values)).1

theorem discriminants_distinct_iff_lights :
    let source := lightSource ["", "5", ""]
    ∃ plan catalog, Plan.ofSource source {} = .ok plan ∧
      Catalog.ofTables source.tables plan.model {} = .ok catalog ∧
      (∃ declaration ∈ plan.declarations, declaration.discriminants = [0, 5, 6] ∧
        declaration.discriminants.Nodup) ∧
      ∀ field scopes cache,
        ((Lookup.ofSource source catalog ⟨[], []⟩).convertCell field (.enumeration "Light") scopes
            (.text " 5 ")).run.run cache =
          (.ok (.variant "Light" "Amber"), cache) := by
  intro source
  have isOpen : source.isOpen = true := by
    decide +kernel
  have isTable : source.tables.tables.any
      (fun table => table.isEnum && table.name == "Light") = true := by
    decide +kernel
  have shown : (Plan.ofSource source {}).toOption.map
      (fun plan => (Catalog.ofTables source.tables plan.model {}).toOption.map fun catalog =>
        (catalog.descriptor? "Light").map fun descriptor =>
          (descriptor.fullName, descriptor.variants)) =
      some (some (some ("Light", [⟨"Red", "Red", none, none⟩, ⟨"Amber", "Amber", some 5, none⟩,
        ⟨"Green", "Green", none, none⟩]))) := by
    decide +kernel
  obtain ⟨table, member, isLight⟩ := List.any_eq_true.mp isTable
  obtain ⟨isEnum, named⟩ := Bool.and_eq_true_iff.mp isLight
  obtain ⟨plan, planGiven, bound⟩ := Option.map_eq_some_iff.mp shown
  obtain ⟨catalog, catalogGiven, described⟩ := Option.map_eq_some_iff.mp bound
  have planned := Outcome.eq_ok_of_toOption planGiven
  have catalogued := Outcome.eq_ok_of_toOption catalogGiven
  have reached : Source.Reached {} .empty source :=
    Source.Reached.opened (lightSheets ["", "5", ""]) Source.Reached.new
  obtain ⟨columns, rows, descriptor, -, -, found, enumerated, declaration, declared, -, values,
      distinct, taken, -⟩ :=
    discriminants_distinct_iff reached isOpen planned catalogued member isEnum ⟨[], []⟩
  unfold TakenByNumber at taken
  rw [eq_of_beq named] at found taken
  rw [found, Option.map_some, Option.some.injEq, Prod.mk.injEq] at described
  obtain ⟨fullName, variants⟩ := described
  rw [variants] at values distinct
  refine ⟨plan, catalog, planned, catalogued, ⟨declaration, declared, ?_, ?_⟩, ?_⟩
  · unfold Declaration.discriminants
    rw [values]
    rfl
  · refine (distinct.mpr ⟨?_, ?_⟩).1
    · simp [runs, runsFrom, Run.Apart, Run.last]
    · simp [runs, runsFrom, Run.last, IntRange.contains, IntRange.signed, powerOfTwo]
  · obtain ⟨row, inRows, ofRow⟩ := (Outcome.exists_of_forall₂ enumerated.values).2
      ⟨"Amber", "Amber", some 5, none⟩ (by simp [variants])
    obtain ⟨present, visible⟩ := mem_labelled.mp inRows
    have unnamed : ∀ label ∈ labelsOf columns rows, ¬Names " 5 " label := by
      rw [← enumerated.read.labels, variants]
      unfold Names
      decide +kernel
    have holds : HoldsNumber (labelsOf columns rows) 5 (.text " 5 ") := .text (by decide) unnamed
    have sure := taken.mpr (by rw [variants]; decide) row present visible 5 ofRow.value _ holds
    rw [fullName, ← ofRow.name] at sure
    exact sure

/-- Rows with one value are accepted, with one discriminant for both variants, and the value of the
second is taken for the first. -/
theorem shared_value_taken_for_first :
    let source := lightSource ["1", "1"]
    ∃ plan catalog, Plan.ofSource source {} = .ok plan ∧
      Catalog.ofTables source.tables plan.model {} = .ok catalog ∧
      plan.model.types.map (fun descriptor =>
        descriptor.variants.map fun variant => (variant.label, variant.value)) =
          [[("Red", some 1), ("Amber", some 1)]] ∧
      plan.declarations.map (·.discriminants) = [[1, 1]] ∧
      (((Lookup.ofSource source catalog ⟨[], []⟩).convertCell default (.enumeration "Light") {}
        (.int 1)).run.run []).1.toOption.map Value.toText = some "Red" := by
  intro source
  have shown : (Plan.ofSource source {}).toOption.map
      (fun plan => (plan.model.types.map (fun descriptor =>
          descriptor.variants.map fun variant => (variant.label, variant.value)),
        plan.declarations.map (·.discriminants),
        (Catalog.ofTables source.tables plan.model {}).toOption.map
          fun catalog => (((Lookup.ofSource source catalog ⟨[], []⟩).convertCell default
            (.enumeration "Light") {} (.int 1)).run.run []).1.toOption.map Value.toText)) =
      some ([[("Red", some 1), ("Amber", some 1)]], [[1, 1]], some (some "Red")) := by
    decide +kernel
  obtain ⟨plan, given, all⟩ := Option.map_eq_some_iff.mp shown
  obtain ⟨variants, both⟩ := Prod.mk.inj all
  obtain ⟨numbers, bound⟩ := Prod.mk.inj both
  obtain ⟨catalog, catalogGiven, taken⟩ := Option.map_eq_some_iff.mp bound
  exact ⟨plan, catalog, Outcome.eq_ok_of_toOption given, Outcome.eq_ok_of_toOption catalogGiven,
    variants, numbers, taken⟩

end TypedTables.Convert
