import TypedTables.Data.Artifact
import TypedTables.Proofs.Convert.FiniteFloats
import TypedTables.Proofs.Convert.Origins
import TypedTables.Proofs.Loading

/-!
# Floating-point numbers in data files

A floating-point member holds a number wherever it stands in a record, but a number that is not
finite has no text other than null.  Such a number comes from a part of a cell or of a default that
is beyond the bounds of the member's type.
-/

namespace TypedTables

open TypedTables.Schema TypedTables.Manifest TypedTables.Binding TypedTables.Convert
open TypedTables.Discover TypedTables.Generate TypedTables.Number
open TypedTables.Config (Code Settings)

variable {source : Source} {code : Code} {names : TypeNames} {lookup : Lookup}

/-! ## Texts of numbers -/

theorem scalarText_float_eq_null_iff (number : BinaryFloat) :
    Json.scalarText (.float number) = "null" ↔ number.isFinite = false := by
  cases number with
  | nan => exact iff_of_true rfl rfl
  | infinite negative => cases negative <;> exact iff_of_true rfl rfl
  | finite negative significand exponent =>
      apply iff_of_false
      · intro isNull
        have numerals :=
          isNumeral_format Json.floatLayout .double negative significand exponent
        rw [Json.scalarText] at isNull
        rw [isNull] at numerals
        have letter : IsNumeral 'n' := numerals 'n' (by decide)
        exact absurd letter (by unfold IsNumeral; decide)
      · simp [BinaryFloat.isFinite]

/-- At a place of a primitive type a fitting value has a value of the type. -/
theorem inhabits_of_leaf
    {type : TypeRef} {value held : Value} {primitive : Primitive} {position : Position}
    (fits : lookup.Fits names position type value)
    (leaf : Leaf lookup.catalog primitive held type value) : Inhabits primitive held := by
  induction leaf generalizing position with
  | here =>
      cases fits with
      | primitive inhabits => exact inhabits
  | item member _ inductionHypothesis =>
      cases fits with
      | array each => exact inductionHypothesis (each _ member)
  | member bound declared entry _ inductionHypothesis =>
      cases fits with
      | record otherBound keys each =>
          rw [bound, Option.some.injEq] at otherBound
          subst otherBound
          exact inductionHypothesis (each _ declared _ entry)

/-! ## Origins -/

/-- What the numbers in the record of a row are made of: blank cells, the cells of the row and the
defaults of columns. -/
inductive Origin (source : Source) (row : RawRow) : Value → Prop
  | blank : Origin source row .null
  | cell (position : Nat) : Origin source row (row.cell position)
  | default {table : Table} {column : Field} {cell : Value}
      (member : table ∈ source.tables.tables) (inFields : column ∈ table.fields)
      (given : column.default = some cell) : Origin source row cell

/-- A part of an origin is coerced into the number. -/
def Arisen (source : Source) (row : RawRow) (type : Primitive) (number : BinaryFloat) : Prop :=
  ∃ origin part, Origin source row origin ∧ PartOf part origin ∧
    coercePrimitive part type = .ok (.float number)

theorem Origin.yields
    {row : RawRow} {origin : Value} (isOrigin : Origin source row origin)
    (scalar : IsScalar origin) : Yields (Arisen source row) origin where
  scalar := scalar
  floats part inPart _ _ coerced := ⟨origin, part, isOrigin, inPart, coerced⟩

section Rows

variable (prepared : Prepared source code names lookup)
include prepared

theorem default_yields (row : RawRow) :
    ∀ table ∈ lookup.tables.tables, ∀ column ∈ table.fields, ∀ default,
      column.default = some default → Yields (Arisen source row) default := by
  intro table member column inFields default given
  have scalar := prepared.defaults member column inFields default given
  rw [prepared.tables] at member
  exact (Origin.default member inFields given).yields scalar

variable {row : RawRow}

theorem convertMember_floats
    {table : Table} (member : table ∈ lookup.tables.tables)
    (scalar : ∀ position, IsScalar (row.cell position)) (bound : BoundMember) :
    Ensures lookup (convertMember lookup table row bound)
      (AllFloats lookup.catalog (Arisen source row) bound.type) := by
  have blankYields : Yields (Arisen source row) .null := Origin.blank.yields trivial
  have defaults := default_yields prepared row
  have made : FreshFloats lookup (Arisen source row) lookup.fresh :=
    instantiate_floats prepared blankYields defaults instanceLimit
  have zero := zeroOf_floats blankYields made bound.type
  unfold convertMember
  split
  · exact zero
  · next position _ =>
      split
      · exact zero
      · next column atPosition =>
          have inFields : column ∈ table.fields := List.mem_of_getElem? atPosition
          have isOrigin : Origin source row (row.cell position) := Origin.cell position
          have cellYields := isOrigin.yields (scalar position)
          exact reporting_ensures (changeTypeOrDefault_floats prepared blankYields made _
            (defaults table member column inFields) cellYields)

theorem convertRow_floats
    {table : Table} (member : table ∈ lookup.tables.tables)
    (scalar : ∀ position, IsScalar (row.cell position)) {descriptor : Descriptor}
    (found : lookup.catalog.descriptor? table.name = some descriptor) :
    Ensures lookup (convertRow lookup table descriptor (declaredMembers descriptor) row)
      (AllFloats lookup.catalog (Arisen source row) (.table table.name)) := by
  have declared := prepared.declared member found
  unfold convertRow
  rw [convertMembers_eq]
  apply Ensures.bind (collectMembers_ensures
    (fun bound => AllFloats lookup.catalog (Arisen source row) bound.type)
    (fun entry _ => convertMember_floats prepared member scalar entry.2)
    (by rw [names_of_declared declared.members]; exact declared.distinct))
  rintro entries ⟨added, rfl, _, each⟩
  exact Ensures.pure ((allFloats_record found).mpr (declared.entryFloats each))

/-- The numbers of a record have arisen from its own row. -/
theorem loadRecords_floats
    (scalar : ∀ entry ∈ source.loaded, ScalarCells entry.sheet) {table : Table}
    (member : table ∈ source.tables.tables) {descriptor : Descriptor}
    (found : lookup.catalog.descriptor? table.name = some descriptor) :
    Ensures lookup (loadRecords lookup source table) fun records =>
      ∃ rows, source.rows table.name = .ok rows ∧ List.Forall₂ (fun row record =>
        AllFloats lookup.catalog (Arisen source row) (.table table.name) record) rows records := by
  rw [← prepared.tables] at member
  exact loadRecords_of_rows prepared found fun rows read row inRows =>
    convertRow_floats prepared member (isScalar_rowCell scalar read inRows) found

end Rows

/-! ## Data files -/

/-- A cell that is coerced into a floating-point type becomes a number, which is finite exactly where
the cell is bounded.  A floating-point member of a record, at any depth, has been coerced from a part
of a cell of its row or of a default, so its text is null exactly where that part is not bounded. -/
theorem floats_null_iff_unbounded
    {settings : Settings} {run : Naming.Scope} {provider : SheetProvider} {plan : Plan}
    {catalog : Catalog}
    (opened : Source.ofProvider settings run provider = .ok source)
    (planned : Plan.ofSource source code = .ok plan)
    (bound : Catalog.ofTables source.tables plan.model code = .ok catalog)
    (scalar : ∀ entry ∈ source.loaded, ScalarCells entry.sheet) (separators : Separators)
    {table : Table} (member : table ∈ source.tables.tables)
    {cache later : MemberCache} (sound : SoundCache (.ofSource source catalog separators) cache)
    {records : List Value}
    (loaded : (loadRecords (.ofSource source catalog separators) source table).run.run cache =
      (.ok records, later)) :
    (∀ type value result, type.isFloat = true → coercePrimitive value type = .ok result →
      ∃ number, result = .float number ∧ (number.isFinite = true ↔ Bounded type value)) ∧
    ∃ rows, source.rows table.name = .ok rows ∧ List.Forall₂ (fun row record =>
      ∀ type held, type.isFloat = true → Leaf catalog type held (.table table.name) record →
        ∃ number origin part, held = .float number ∧ Origin source row origin ∧
          PartOf part origin ∧ coercePrimitive part type = .ok held ∧
          (Json.scalarText held.toDocument = "null" ↔ ¬Bounded type part)) rows records := by
  constructor
  · intro type value result isFloat coerced
    obtain ⟨number, rfl⟩ := (inhabits_coercePrimitive coerced).exists_float isFloat
    exact ⟨number, rfl, isFinite_iff_bounded isFloat coerced⟩
  · obtain ⟨names, _, prepared⟩ := prepared_of_plan opened planned bound separators
    obtain ⟨descriptor, found, _⟩ := prepared.agreement.bound table member
    obtain ⟨rows, read, related⟩ :=
      (loadRecords_floats prepared scalar member found).of_run sound loaded
    have fits := (loadRecords_ensures prepared scalar member found).of_run sound loaded
    rw [List.forall₂_iff_zip] at related
    refine ⟨rows, read, List.forall₂_iff_zip.mpr ⟨related.1, ?_⟩⟩
    intro row record paired type held isFloat leaf
    have recordFits : Lookup.Fits (.ofSource source catalog separators) names .member
        (.table table.name) record :=
      fits_of_fitsRecord found (fits record (List.of_mem_zip paired).2)
    obtain ⟨number, rfl⟩ := (inhabits_of_leaf recordFits leaf).exists_float isFloat
    obtain ⟨origin, part, isOrigin, inPart, coerced⟩ := related.2 paired type number leaf
    refine ⟨number, origin, part, rfl, isOrigin, inPart, coerced, ?_⟩
    rw [Value.toDocument, scalarText_float_eq_null_iff, ← isFinite_iff_bounded isFloat coerced,
      Bool.not_eq_true]

/-! ## A number beyond the bounds -/

def gaugeSheet : Sheet :=
  .ofTexts [[], ["Max"], ["float"], [], [], ["1e39"]]

def gaugeTable : Table :=
  { Table.named "Gauge" .empty with
    fields := [
      { name := "Max", declared := "float", type := some (.primitive .float32), column := 1 }] }

def gaugeSource : Source :=
  { loaded := [⟨gaugeTable, gaugeSheet, 6⟩], isOpen := true }

def gaugeDescriptor : Descriptor :=
  { name := "Gauge", table := "Gauge", kind := .reference
    members := [{ name := "max", rename := some "Max", type := .primitive .float32 }] }

def gaugePlan : Plan :=
  { model := { moduleName := "tables", types := [gaugeDescriptor] }
    declarations := [
      { name := "Gauge", table := "Gauge", isEnum := false, doc := [], isFirst := true
        moduleName := "tables", space := none, members := [⟨"max", "Max", "f32", []⟩] }] }

def gaugeCatalog : Catalog :=
  ⟨gaugePlan.model, [("gauge", 0)]⟩

/-- The records of the gauges, as they are loaded. -/
def gaugeRecords : Outcome (List Value) :=
  ((loadRecords (.ofSource gaugeSource gaugeCatalog ⟨[], []⟩) gaugeSource gaugeTable).run.run []).1

theorem opened_gaugeSource :
    Source.ofProvider {} .empty (.ofList [("Gauge", gaugeSheet)]) = .ok gaugeSource := by
  with_unfolding_all rfl

theorem planned_gaugeSource : Plan.ofSource gaugeSource {} = .ok gaugePlan :=
  Outcome.eq_ok_of_toOption (by decide +kernel)

theorem bound_gaugeSource :
    Catalog.ofTables gaugeSource.tables gaugePlan.model {} = .ok gaugeCatalog :=
  Outcome.eq_ok_of_toOption (by decide +kernel)

/-- The only member of a record that holds a number. -/
def onlyNumber? : Value → Option (String × BinaryFloat)
  | .record _ [(name, .float number)] => some (name, number)
  | _ => none

theorem exists_of_onlyNumber?
    {record : Value} {name : String} {number : BinaryFloat}
    (given : onlyNumber? record = some (name, number)) :
    ∃ typeName, record = .record typeName [(name, .float number)] := by
  unfold onlyNumber? at given
  split at given
  · next typeName _ _ =>
      cases given
      exact ⟨typeName, rfl⟩
  · cases given

theorem leaf_gaugeRecord (typeName : String) (number : BinaryFloat) :
    Leaf gaugeCatalog .float32 (.float number) (.table "Gauge")
      (.record typeName [("Max", .float number)]) := by
  have bound : gaugeCatalog.descriptor? "Gauge" = some gaugeDescriptor := by rfl
  exact .member bound List.mem_cons_self List.mem_cons_self .here

/-- The number beyond the bounds of the column is infinite, and the data file has null for it. -/
theorem exists_gaugeRecord :
    ∃ record, gaugeRecords = .ok [record] ∧
      Leaf gaugeCatalog .float32 (.float (.infinite false)) (.table "Gauge") record ∧
      Data.serialize { pretty := false } [record] = "[\x7b\"Max\":null\x7d]\n" := by
  have shown : gaugeRecords.toOption.map (fun records =>
      (records.map onlyNumber?, Data.serialize { pretty := false } records)) =
        some ([some ("Max", .infinite false)], "[\x7b\"Max\":null\x7d]\n") := by
    decide +kernel
  obtain ⟨records, given, shown⟩ := Option.map_eq_some_iff.mp shown
  obtain ⟨numbers, written⟩ := Prod.mk.inj shown
  obtain ⟨record, rfl, number⟩ := List.map_eq_singleton_iff.mp numbers
  obtain ⟨typeName, rfl⟩ := exists_of_onlyNumber? number
  exact ⟨_, Outcome.eq_ok_of_toOption given, leaf_gaugeRecord typeName _, written⟩

/-- A cell beyond the bounds, and words for what is no finite number, are coerced all the same. -/
theorem null_for_float_member :
    coercePrimitive (.text "inf") .float64 = .ok (.float (.infinite false)) ∧
    coercePrimitive (.text "nan") .float64 = .ok (.float .nan) ∧
    coercePrimitive (.text "1e39") .float32 = .ok (.float (.infinite false)) ∧
    ∃ record, gaugeRecords = .ok [record] ∧
      Leaf gaugeCatalog .float32 (.float (.infinite false)) (.table "Gauge") record ∧
      Data.serialize { pretty := false } [record] = "[\x7b\"Max\":null\x7d]\n" := by
  refine ⟨?_, ?_, ?_, exists_gaugeRecord⟩
  · exact (coercePrimitive_float64 (by decide)).mpr (by decide +kernel)
  · exact (coercePrimitive_float64 (by decide)).mpr (by decide +kernel)
  · exact (coercePrimitive_float32 (by decide)).mpr ⟨_, rfl, by decide +kernel⟩

theorem floats_null_iff_unbounded_gauge :
    (¬Bounded .float32 (.text "1e39") ∧ Bounded .float64 (.text "1e39")) ∧
    ∃ record row origin part, gaugeRecords = .ok [record] ∧
      gaugeSource.rows "Gauge" = .ok [row] ∧
      Leaf gaugeCatalog .float32 (.float (.infinite false)) (.table "Gauge") record ∧
      Origin gaugeSource row origin ∧ PartOf part origin ∧ ¬Bounded .float32 part := by
  have scalar : ∀ entry ∈ gaugeSource.loaded, ScalarCells entry.sheet := by
    intro entry present
    rw [List.mem_singleton.mp present]
    exact scalarCells_ofTexts _
  obtain ⟨record, given, leaf, _⟩ := exists_gaugeRecord
  obtain ⟨coercions, rows, read, related⟩ :=
    floats_null_iff_unbounded opened_gaugeSource planned_gaugeSource bound_gaugeSource scalar
      ⟨[], []⟩ (List.mem_singleton.mpr rfl) soundCache_nil (Prod.ext given rfl)
  constructor
  · obtain ⟨wide, isWide, finite⟩ :
        ∃ wide, float? (.text "1e39") = some wide ∧ wide.isFinite = true := by
      decide +kernel
    have narrowed : coercePrimitive (.text "1e39") .float32 = .ok (.float (.infinite false)) := by
      rw [coercePrimitive_float32 (by decide)]
      exact ⟨_, rfl, by decide +kernel⟩
    have kept : coercePrimitive (.text "1e39") .float64 = .ok (.float wide) :=
      (coercePrimitive_float64 (by decide)).mpr isWide
    obtain ⟨_, same, narrow⟩ := coercions _ _ _ rfl narrowed
    obtain ⟨_, sameWide, double⟩ := coercions _ _ _ rfl kept
    cases same
    cases sameWide
    exact ⟨fun bounded => Bool.false_ne_true (narrow.mpr bounded), double.mp finite⟩
  · cases related with
    | cons atRow rest =>
        cases rest
        obtain ⟨number, origin, part, same, isOrigin, inPart, _, null⟩ := atRow .float32 _ rfl leaf
        cases same
        exact ⟨record, _, origin, part, given, read, leaf, isOrigin, inPart, null.mp rfl⟩

end TypedTables
