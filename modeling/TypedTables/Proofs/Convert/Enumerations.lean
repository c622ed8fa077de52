import Mathlib.Data.List.Pairwise
import TypedTables.Proofs.Convert.Prepared
import TypedTables.Proofs.Discover.Schemas
import TypedTables.Proofs.Naming.Identifiers
import TypedTables.Proofs.Text.Pieces

/-!
# Cells that name variants

A cell names the variant of a row by the row's label, or by the identifier that is made of the
label, ASCII letter case and outer white space ignored.  Identifiers that differ in letter case are
those of two variants; what names both of them is taken for the first.
-/

namespace TypedTables.Generate

open TypedTables.Schema TypedTables.Manifest TypedTables.Discover TypedTables.Text
open TypedTables.Naming

/-! ## Labels and identifiers -/

/-- What names the variant of a label, in lower case. -/
def variantNames (label : String) : List String :=
  [asciiLower label, asciiLower (pascalCase label)]

/-- Whether a text names the variant of a label. -/
def Names (text label : String) : Prop :=
  asciiLower (trim text) ∈ variantNames label

/-- The labels of the rows that have variants. -/
def labelsOf (columns : VariantColumns) (rows : List RawRow) : List String :=
  (rows.map (·.label columns.name)).filter (!·.isEmpty)

theorem mem_labelsOf {columns : VariantColumns} {rows : List RawRow} {label : String} :
    label ∈ labelsOf columns rows ↔
      (∃ row ∈ rows, row.label columns.name = label) ∧ label ≠ "" := by
  simp [labelsOf]

theorem trim_pascalCase (label : String) : trim (pascalCase label) = pascalCase label :=
  trim_of_all fun _ => isBlank_of_mem_pascalCase

/-- A text that names a variant is not blank. -/
theorem isBlankText_of_names {text label : String} (nonempty : label ≠ "")
    (names : Names text label) : isBlankText text = false := by
  rw [Bool.eq_false_iff]
  intro blank
  rw [Names, trim_of_isBlankText blank, variantNames] at names
  rcases List.mem_cons.mp names with asLabel | asIdentifier
  · exact asciiLower_ne_empty nonempty asLabel.symm
  · exact asciiLower_ne_empty (pascalCase_ne_empty label) (List.mem_singleton.mp asIdentifier).symm

/-- Each of the names of a row's variant is one that a text has. -/
theorem exists_names
    {row : RawRow} {position : Nat} {name : String}
    (member : name ∈ variantNames (row.label position)) :
    ∃ text, asciiLower (trim text) = name := by
  rcases List.mem_cons.mp member with asLabel | asIdentifier
  · exact ⟨(row.cell position).toText, asLabel.symm⟩
  · refine ⟨pascalCase (row.label position), ?_⟩
    rw [trim_pascalCase, List.mem_singleton.mp asIdentifier]

/-! ## Variants of rows -/

/-- Variants are those of rows with labels, in their order, and no two have one identifier. -/
structure RowsRead (columns : VariantColumns) (rows : List RawRow) (variants : List Variant) :
    Prop where
  labels : variants.map (·.label) = labelsOf columns rows
  identifiers : ∀ variant ∈ variants, variant.name = pascalCase variant.label
  distinct : (variants.map (·.name)).Nodup

theorem RowsRead.nodup_identifiers
    {columns : VariantColumns} {rows : List RawRow} {variants : List Variant}
    (read : RowsRead columns rows variants) : ((labelsOf columns rows).map pascalCase).Nodup := by
  have same : (labelsOf columns rows).map pascalCase = variants.map (·.name) := by
    rw [← read.labels, List.map_map]
    refine List.map_congr_left fun variant inVariants => ?_
    rw [Function.comp_apply, read.identifiers variant inVariants]
  rw [same]
  exact read.distinct

theorem addVariant_eq_ok
    {table : Table} {columns : VariantColumns} {variants next : List Variant} {row : RawRow}
    (added : addVariant table columns variants row = .ok next) :
    (row.label columns.name = "" ∧ next = variants) ∨
      row.label columns.name ≠ "" ∧
        pascalCase (row.label columns.name) ∉ variants.map (·.name) ∧
        ∃ value description, variantValue table row columns.value = .ok value ∧ next = variants ++
          [⟨pascalCase (row.label columns.name), row.label columns.name, value, description⟩] := by
  unfold addVariant at added
  dsimp only at added
  split at added
  · next blank =>
      cases added
      exact Or.inl ⟨by simpa using blank, rfl⟩
  · next visible =>
      split at added
      · cases added
      · next fresh =>
          obtain ⟨value, given, last⟩ := Outcome.bind_eq_ok_iff.mp added
          cases last
          right
          refine ⟨by simpa using visible, by simpa using fresh, value, ?_⟩
          exact ⟨_, given, rfl⟩

theorem rowsRead_addVariant
    {table : Table} {columns : VariantColumns} {before : List RawRow} {row : RawRow}
    {variants next : List Variant} (read : RowsRead columns before variants)
    (added : addVariant table columns variants row = .ok next) :
    RowsRead columns (before ++ [row]) next := by
  have grown : labelsOf columns (before ++ [row]) =
      labelsOf columns before ++ [row.label columns.name].filter (!·.isEmpty) := by
    simp [labelsOf]
  rcases addVariant_eq_ok added with ⟨blank, rfl⟩ |
    ⟨visible, fresh, value, description, -, rfl⟩
  · refine ⟨?_, read.identifiers, read.distinct⟩
    rw [grown, read.labels]
    simp [blank]
  · refine ⟨?_, ?_, ?_⟩
    · rw [grown, List.map_append, read.labels]
      simp [visible]
    · intro other member
      rcases List.mem_append.mp member with earlier | last
      · exact read.identifiers other earlier
      · rw [List.mem_singleton.mp last]
    · rw [List.map_append, List.map_singleton, ← List.concat_eq_append, List.nodup_concat]
      dsimp only
      exact ⟨fresh, read.distinct⟩

/-- The variants of a table are those that its rows add one by one. -/
theorem fold_of_variantsOf
    {source : Source} {table : Table} {variants : List Variant}
    (ran : variantsOf source table = .ok variants) :
    ∃ columns rows, variantColumns table = .ok columns ∧ source.rows table.name = .ok rows ∧
      rows.foldlM (addVariant table columns) [] = .ok variants := by
  unfold variantsOf at ran
  obtain ⟨columns, placed, ran⟩ := Outcome.bind_eq_ok_iff.mp ran
  obtain ⟨rows, listed, ran⟩ := Outcome.bind_eq_ok_iff.mp ran
  obtain ⟨found, folded, ran⟩ := Outcome.bind_eq_ok_iff.mp ran
  have same : found = variants := by
    cases found with
    | nil => cases ran
    | cons first rest =>
        cases ran
        rfl
  rw [same] at folded
  exact ⟨columns, rows, placed, listed, folded⟩

theorem rowsRead_of_variantsOf
    {source : Source} {table : Table} {variants : List Variant}
    (ran : variantsOf source table = .ok variants) :
    ∃ columns rows, variantColumns table = .ok columns ∧ source.rows table.name = .ok rows ∧
      RowsRead columns rows variants := by
  obtain ⟨columns, rows, placed, listed, folded⟩ := fold_of_variantsOf ran
  refine ⟨columns, rows, placed, listed, ?_⟩
  have none : RowsRead columns [] [] := ⟨rfl, by simp, List.nodup_nil⟩
  refine Outcome.foldlM_invariant (RowsRead columns) none ?_ folded
  intro before row after state next _ read added
  exact rowsRead_addVariant read added

end TypedTables.Generate

namespace TypedTables.Convert

open TypedTables.Schema TypedTables.Manifest TypedTables.Binding TypedTables.Discover
open TypedTables.Generate TypedTables.Text TypedTables.Naming
open TypedTables.Config (Code Settings)

/-! ## Cells -/

section Cells

variable {lookup : Lookup} {descriptor : Descriptor} {columns : VariantColumns}
  {rows : List RawRow} {text label : String}

/-- A variant is found by the texts that name its label. -/
theorem found_iff_names
    (read : RowsRead columns rows descriptor.variants) {variant : Variant}
    (member : variant ∈ descriptor.variants) :
    (equalIgnoringAsciiCase variant.label (trim text) ||
      equalIgnoringAsciiCase variant.name (trim text)) = true ↔ Names text variant.label := by
  rw [Bool.or_eq_true, equalIgnoringAsciiCase_iff, equalIgnoringAsciiCase_iff,
    read.identifiers variant member, Names, variantNames, List.mem_pair]
  exact or_congr eq_comm eq_comm

/-- A text that names a row is taken for a variant that it names. -/
theorem variant?_of_names
    (read : RowsRead columns rows descriptor.variants) (listed : label ∈ labelsOf columns rows)
    (names : Names text label) :
    ∃ variant ∈ descriptor.variants, descriptor.variant? text = some variant ∧
      Names text variant.label := by
  have present : (descriptor.variant? text).isSome = true := by
    rw [← read.labels] at listed
    obtain ⟨variant, member, rfl⟩ := List.mem_map.mp listed
    exact List.find?_isSome.mpr ⟨variant, member, (found_iff_names read member).mpr names⟩
  obtain ⟨variant, found⟩ := Option.isSome_iff_exists.mp present
  have member : variant ∈ descriptor.variants := List.mem_of_find?_eq_some found
  have passes := List.find?_some found
  exact ⟨variant, member, found, (found_iff_names read member).mp passes⟩

/-- A cell that is taken for a variant becomes the variant, without anything collected. -/
theorem run_convertCell_variant
    (standard : lookup.chain = .standard) {table : String}
    (found : lookup.catalog.descriptor? table = some descriptor) {value : Value}
    (notEmpty : ¬value.isEmpty = true) {variant : Variant}
    (taken : variantFor? descriptor value = some variant)
    (field : Field) (scopes : Scopes) (cache : MemberCache) :
    (lookup.convertCell field (.enumeration table) scopes value).run.run cache =
      (.ok (.variant descriptor.fullName variant.name), cache) := by
  have converted : ∀ levels, convertLevels lookup lookup.fresh field levels (.enumeration table)
      scopes value = pure (.variant descriptor.fullName variant.name) := by
    intro levels
    have leaf : IsLeaf (.enumeration table) := trivial
    rw [convertLevels_leaf standard levels leaf, convertLast, if_neg notEmpty, found]
    dsimp only
    rw [toVariant, taken]
    rfl
  unfold Lookup.convertCell changeTypeOrDefault changeType
  cases field.default with
  | none =>
      dsimp only
      rw [converted]
      rfl
  | some default =>
      dsimp only
      rw [if_neg notEmpty, converted]
      rfl

theorem run_convertCell_text
    (standard : lookup.chain = .standard) {table : String}
    (found : lookup.catalog.descriptor? table = some descriptor)
    (visible : isBlankText text = false) {variant : Variant}
    (taken : descriptor.variant? text = some variant)
    (field : Field) (scopes : Scopes) (cache : MemberCache) :
    (lookup.convertCell field (.enumeration table) scopes (.text text)).run.run cache =
      (.ok (.variant descriptor.fullName variant.name), cache) := by
  have notEmpty : ¬(Value.text text).isEmpty = true := by
    rw [Value.isEmpty, visible]
    exact Bool.false_ne_true
  refine run_convertCell_variant standard found notEmpty ?_ field scopes cache
  rw [variantFor?, taken]
  rfl

end Cells

/-- What the cells of an enumeration are taken for: every text that names a row is taken for its
variant exactly if no two rows have a name in common, letter case ignored. -/
theorem cells_name_rows_iff
    {source : Source} {code : Code} {plan : Plan} {catalog : Catalog} {settings : Settings}
    {run : Naming.Scope} {table : Table}
    (reached : Source.Reached settings run source) (isOpen : source.isOpen = true)
    (planned : Plan.ofSource source code = .ok plan)
    (bound : Catalog.ofTables source.tables plan.model code = .ok catalog)
    (member : table ∈ source.tables.tables) (isEnum : table.isEnum = true)
    (separators : Separators) :
    ∃ columns rows descriptor, variantColumns table = .ok columns ∧
      source.rows table.name = .ok rows ∧ catalog.descriptor? table.name = some descriptor ∧
      RowsRead columns rows descriptor.variants ∧
      ((∀ row ∈ rows, row.label columns.name ≠ "" →
          ∀ text, Names text (row.label columns.name) → ∀ field scopes cache,
            ((Lookup.ofSource source catalog separators).convertCell field
                (.enumeration table.name) scopes (.text text)).run.run cache =
              (.ok (.variant descriptor.fullName (pascalCase (row.label columns.name))), cache)) ↔
        (labelsOf columns rows).Pairwise fun left right =>
          (variantNames left).Disjoint (variantNames right)) := by
  obtain ⟨names, named, agreement⟩ :=
    agreement_of_plan (Source.resolved_of_reached reached isOpen) planned bound
  obtain ⟨descriptor, found, plannedAs⟩ := agreement.bound table member
  obtain ⟨-, -, variants⟩ := plannedAs_enum isEnum plannedAs
  obtain ⟨columns, rows, placed, listed, read⟩ := rowsRead_of_variantsOf variants
  refine ⟨columns, rows, descriptor, placed, listed, found, read, ?_⟩
  constructor
  · intro taken
    refine (List.pairwise_map.mp read.nodup_identifiers).imp_of_mem ?_
    intro left right inLeft inRight different name leftName rightName
    obtain ⟨⟨leftRow, leftMember, rfl⟩, leftVisible⟩ := mem_labelsOf.mp inLeft
    obtain ⟨⟨rightRow, rightMember, rfl⟩, rightVisible⟩ := mem_labelsOf.mp inRight
    obtain ⟨text, rfl⟩ := exists_names leftName
    have asLeft := taken leftRow leftMember leftVisible text leftName default {} []
    have asRight := taken rightRow rightMember rightVisible text rightName default {} []
    have same := Except.ok.inj (congrArg Prod.fst (asLeft.symm.trans asRight))
    exact different (Value.variant.inj same).2
  · intro apart row inRows visible text named field scopes cache
    have inLabels : row.label columns.name ∈ labelsOf columns rows :=
      mem_labelsOf.mpr ⟨⟨row, inRows, rfl⟩, visible⟩
    obtain ⟨variant, inVariants, taken, variantNamed⟩ := variant?_of_names read inLabels named
    have same : variant.label = row.label columns.name := by
      refine Classical.byContradiction fun different => ?_
      have variantListed : variant.label ∈ labelsOf columns rows := by
        rw [← read.labels]
        exact List.mem_map_of_mem inVariants
      have symmetric : Std.Symm fun left right =>
          (variantNames left).Disjoint (variantNames right) :=
        ⟨fun _ _ disjoint _ inRight inLeft => disjoint inLeft inRight⟩
      exact apart.forall variantListed inLabels different variantNamed named
    rw [← same, ← read.identifiers variant inVariants]
    exact run_convertCell_text rfl found (isBlankText_of_names visible named) taken field scopes
      cache

/-! ## Two rows -/

/-- The sheet of an enumeration with two rows. -/
def hueSheets (first second : String) : SheetProvider := .ofList [
  ("Hue", .ofTexts [
    [], ["Name", "Value"], ["", "int"], ["enum"], [], [first, "1"], [second, "2"]])]

/-- The source of an enumeration with two rows. -/
def hueSource (first second : String) : Source :=
  (({} : Source).openWith {} .empty (hueSheets first second)).1

theorem reached_hueSource (first second : String) :
    Source.Reached {} .empty (hueSource first second) :=
  Source.Reached.opened (hueSheets first second) Source.Reached.new

theorem cells_name_rows_iff_hues :
    let source := hueSource "Sea Green" "red"
    ∃ plan catalog, Plan.ofSource source {} = .ok plan ∧
      Catalog.ofTables source.tables plan.model {} = .ok catalog ∧
      ∀ field scopes cache,
        ((Lookup.ofSource source catalog ⟨[], []⟩).convertCell field (.enumeration "Hue") scopes
            (.text " SEAgreen ")).run.run cache =
          (.ok (.variant "Hue" "SeaGreen"), cache) := by
  have isOpen : (hueSource "Sea Green" "red").isOpen = true := by
    decide +kernel
  have isTable : (hueSource "Sea Green" "red").tables.tables.any
      (fun table => table.isEnum && table.name == "Hue") = true := by
    decide +kernel
  have shown : (Plan.ofSource (hueSource "Sea Green" "red") {}).toOption.map
      (fun plan => (Catalog.ofTables (hueSource "Sea Green" "red").tables plan.model
        {}).toOption.map fun catalog => (catalog.descriptor? "Hue").map fun descriptor =>
          (descriptor.fullName, descriptor.variants.map (·.label))) =
      some (some (some ("Hue", ["Sea Green", "red"]))) := by
    decide +kernel
  obtain ⟨table, member, isHue⟩ := List.any_eq_true.mp isTable
  obtain ⟨isEnum, named⟩ := Bool.and_eq_true_iff.mp isHue
  obtain ⟨plan, planGiven, bound⟩ := Option.map_eq_some_iff.mp shown
  obtain ⟨catalog, catalogGiven, described⟩ := Option.map_eq_some_iff.mp bound
  have planned := Outcome.eq_ok_of_toOption planGiven
  have catalogued := Outcome.eq_ok_of_toOption catalogGiven
  obtain ⟨columns, rows, descriptor, -, -, found, read, taken⟩ :=
    cells_name_rows_iff (reached_hueSource "Sea Green" "red") isOpen planned catalogued member
      isEnum ⟨[], []⟩
  rw [eq_of_beq named] at found taken
  rw [found, Option.map_some, Option.some.injEq, Prod.mk.injEq] at described
  obtain ⟨fullName, variants⟩ := described
  rw [← read.labels, variants, fullName] at taken
  have apart : ["Sea Green", "red"].Pairwise fun left right =>
      (variantNames left).Disjoint (variantNames right) := by
    have names : variantNames "Sea Green" = ["sea green", "seagreen"] ∧
        variantNames "red" = ["red", "red"] := by
      decide +kernel
    simp [names]
  have listed : "Sea Green" ∈ labelsOf columns rows := by
    rw [← read.labels, variants]
    exact List.mem_cons_self
  obtain ⟨⟨row, inRows, label⟩, visible⟩ := mem_labelsOf.mp listed
  have sure := taken.mpr apart row inRows
  rw [label] at sure
  have names : Names " SEAgreen " "Sea Green" := by
    unfold Names
    decide +kernel
  have identifier : pascalCase "Sea Green" = "SeaGreen" := by
    decide +kernel
  rw [identifier] at sure
  exact ⟨plan, catalog, planned, catalogued, sure visible _ names⟩

/-- Rows whose identifiers differ in letter case are accepted, and a cell with the label of the
second is taken for the first. -/
theorem second_row_taken_for_first :
    let source := hueSource "FooBar" "foobar"
    ∃ plan catalog, Plan.ofSource source {} = .ok plan ∧
      Catalog.ofTables source.tables plan.model {} = .ok catalog ∧
      plan.model.types.map (fun descriptor =>
        descriptor.variants.map fun variant => (variant.label, variant.name)) =
          [[("FooBar", "FooBar"), ("foobar", "Foobar")]] ∧
      (((Lookup.ofSource source catalog ⟨[], []⟩).convertCell default (.enumeration "Hue") {}
        (.text "foobar")).run.run []).1.toOption.map Value.toText = some "FooBar" := by
  have isOpen : (hueSource "FooBar" "foobar").isOpen = true := by
    decide +kernel
  have shown : (Plan.ofSource (hueSource "FooBar" "foobar") {}).toOption.map
      (fun plan => (plan.model.types.map (fun descriptor =>
          descriptor.variants.map fun variant => (variant.label, variant.name)),
        (Catalog.ofTables (hueSource "FooBar" "foobar").tables plan.model {}).toOption.map
          fun catalog => (((Lookup.ofSource (hueSource "FooBar" "foobar") catalog
            ⟨[], []⟩).convertCell default (.enumeration "Hue") {}
              (.text "foobar")).run.run []).1.toOption.map Value.toText)) =
      some ([[("FooBar", "FooBar"), ("foobar", "Foobar")]], some (some "FooBar")) := by
    decide +kernel
  obtain ⟨plan, given, both⟩ := Option.map_eq_some_iff.mp shown
  obtain ⟨variants, bound⟩ := Prod.mk.inj both
  obtain ⟨catalog, catalogGiven, taken⟩ := Option.map_eq_some_iff.mp bound
  exact ⟨plan, catalog, Outcome.eq_ok_of_toOption given, Outcome.eq_ok_of_toOption catalogGiven,
    variants, taken⟩

end TypedTables.Convert
