import TypedTables.Discover.Header
import TypedTables.Proofs.Convert.Coercion
import TypedTables.Proofs.Outcome

/-!
# Columns of a header

What reading a column does to a table: it marks the table and adds at most one field.  The words of
the column's keyword cell change neither what the field is called nor where it stands nor what type
it declares, and a default that is given to a field of a primitive type is a value of that type.
-/

namespace TypedTables.Discover

open TypedTables.Schema TypedTables.Config

variable {input : Input} {mappings : List TypeMapping} {sheet : Sheet} {placed : PlacedRows}

/-! ## Raw cells -/

/-- A value that a cell can hold before any conversion. -/
def IsScalar : Value → Prop
  | .null | .bool _ | .int _ | .uint _ | .float _ | .text _ => True
  | .array _ | .record _ _ | .variant _ _ => False

theorem isScalar_of_inhabits {type : Primitive} {value : Value}
    (inhabits : Convert.Inhabits type value) : IsScalar value := by
  cases inhabits <;> trivial

theorem isScalar_ofText (cell : String) : IsScalar (Value.ofText cell) := by
  unfold Value.ofText
  split <;> trivial

/-! ## Defaults -/

/-- A default for a field that the tables are not known to yet: a raw cell, and a value of the
field's type when that is primitive. -/
def Suits (type : Option TypeRef) (value : Value) : Prop :=
  IsScalar value ∧ ∀ target, type = some (.primitive target) → Convert.Inhabits target value

/-- A field without a default, or with one that suits its type. -/
def DefaultSuits (field : Field) : Prop :=
  ∀ value, field.default = some value → Suits field.type value

theorem suits_of_inhabits
    {target : Primitive} {value : Value} (inhabits : Convert.Inhabits target value) :
    Suits (some (.primitive target)) value := by
  have scalar : IsScalar value := isScalar_of_inhabits inhabits
  refine ⟨scalar, ?_⟩
  intro other same
  cases same
  exact inhabits

theorem primitive?_eq_some_iff {field : Field} {target : Primitive} :
    Keyword.primitive? field = some target ↔ field.type = some (.primitive target) := by
  rcases shape : field.type with _ | type
  · simp [Keyword.primitive?, shape]
  · cases type <;> simp [Keyword.primitive?, shape]

theorem suits_of_primitive?_eq_none
    {field : Field} {value : Value} (none : Keyword.primitive? field = none)
    (scalar : IsScalar value) : Suits field.type value := by
  refine ⟨scalar, ?_⟩
  intro target hasType
  have found : Keyword.primitive? field = some target := primitive?_eq_some_iff.mpr hasType
  rw [none] at found
  cases found

theorem suits_defaultValue
    {field : Field} {parameter : String} {value : Value}
    (given : Keyword.defaultValue field parameter = .ok value) : Suits field.type value := by
  unfold Keyword.defaultValue at given
  cases known : Keyword.primitive? field with
  | none =>
      have scalar : IsScalar value := by
        rw [known] at given
        split at given
        · cases given
          trivial
        · cases given
          exact isScalar_ofText parameter
      exact suits_of_primitive?_eq_none known scalar
  | some target =>
      have inhabits : Convert.Inhabits target value := by
        rw [known] at given
        split at given
        · cases given
          exact Convert.inhabits_zero target
        · dsimp only at given
          split at given
          · next coerced =>
              cases given
              exact Convert.inhabits_coercePrimitive coerced
          · cases given
      rw [primitive?_eq_some_iff.mp known]
      exact suits_of_inhabits inhabits

/-! ## Keywords -/

/-- What the words of a cell change: the marks of the table, and of the field neither its name nor
its place nor its type. -/
structure Marked (before after : Keyword.Subject) : Prop where
  table : ∃ flags, after.table = { before.table with flags }
  name : after.field.name = before.field.name
  declared : after.field.declared = before.field.declared
  type : after.field.type = before.field.type
  column : after.field.column = before.field.column
  order : after.field.order = before.field.order
  default : DefaultSuits before.field → DefaultSuits after.field

namespace Marked

theorem refl (subject : Keyword.Subject) : Marked subject subject :=
  ⟨⟨subject.table.flags, rfl⟩, rfl, rfl, rfl, rfl, rfl, id⟩

theorem trans {first second third : Keyword.Subject}
    (left : Marked first second) (right : Marked second third) : Marked first third where
  table := by
    obtain ⟨leftFlags, sameLeft⟩ := left.table
    obtain ⟨rightFlags, sameRight⟩ := right.table
    refine ⟨rightFlags, ?_⟩
    rw [sameRight, sameLeft]
  name := right.name.trans left.name
  declared := right.declared.trans left.declared
  type := right.type.trans left.type
  column := right.column.trans left.column
  order := right.order.trans left.order
  default suits := right.default (left.default suits)

end Marked

theorem marked_mark (subject : Keyword.Subject) (change : TableFlags → TableFlags) :
    Marked subject (subject.mark change) :=
  ⟨⟨change subject.table.flags, rfl⟩, rfl, rfl, rfl, rfl, rfl, id⟩

theorem marked_edit
    {subject : Keyword.Subject} {change : Field → Field}
    (name : (change subject.field).name = subject.field.name)
    (declared : (change subject.field).declared = subject.field.declared)
    (type : (change subject.field).type = subject.field.type)
    (column : (change subject.field).column = subject.field.column)
    (order : (change subject.field).order = subject.field.order)
    (default : (change subject.field).default = subject.field.default ∨
      DefaultSuits (change subject.field)) :
    Marked subject (subject.edit change) where
  table := ⟨subject.table.flags, rfl⟩
  name := name
  declared := declared
  type := type
  column := column
  order := order
  default suits := by
    rcases default with same | suitsAfter
    · intro value found
      have before : subject.field.default = some value := same ▸ found
      have fits : Suits subject.field.type value := suits value before
      rw [← type] at fits
      exact fits
    · exact suitsAfter

theorem marked_applyToken
    {subject next : Keyword.Subject} {token : Keyword.Token}
    (applied : Keyword.applyToken subject token = .ok next) : Marked subject next := by
  unfold Keyword.applyToken at applied
  dsimp only at applied
  split at applied
  -- Four words mark the table.
  case h_1 | h_2 | h_3 | h_4 =>
    cases applied
    exact marked_mark subject _
  -- An index may be no number.
  case h_9 =>
    obtain ⟨index, _, same⟩ := Outcome.bind_eq_ok_iff.mp applied
    cases same
    exact marked_edit rfl rfl rfl rfl rfl (Or.inl rfl)
  -- A tag may be blank, and then nothing changes.
  case h_12 =>
    split at applied
    · cases applied
      exact Marked.refl subject
    · cases applied
      exact marked_edit rfl rfl rfl rfl rfl (Or.inl rfl)
  -- A default is the only word after which there is something to check.
  case h_13 =>
    obtain ⟨value, given, same⟩ := Outcome.bind_eq_ok_iff.mp applied
    cases same
    have suits : Suits subject.field.type value := suits_defaultValue given
    refine marked_edit rfl rfl rfl rfl rfl (Or.inr ?_)
    intro other found
    cases found
    exact suits
  case h_14 =>
    cases applied
    exact Marked.refl subject
  -- The others change the field in parts that no later stage relies on.
  all_goals
    cases applied
    exact marked_edit rfl rfl rfl rfl rfl (Or.inl rfl)

theorem marked_applyTokens
    {subject last : Keyword.Subject} {tokens : List Keyword.Token}
    (applied : Keyword.applyTokens subject tokens = (last, none)) : Marked subject last := by
  induction tokens generalizing subject with
  | nil =>
      cases applied
      exact Marked.refl _
  | cons token rest inductionHypothesis =>
      unfold Keyword.applyTokens at applied
      cases stepped : Keyword.applyToken subject token with
      | error failure =>
          rw [stepped] at applied
          cases applied
      | ok next =>
          rw [stepped] at applied
          have step : Marked subject next := marked_applyToken stepped
          exact step.trans (inductionHypothesis applied)

/-! ## Columns -/

/-- What a column makes of a table: other marks, and possibly one more field. -/
inductive ColumnStep (mappings : List TypeMapping) (column : Nat) (table : Table) : Table → Prop
  | skipped (flags : TableFlags) : ColumnStep mappings column table { table with flags }
  | added (flags : TableFlags) (field : Field)
      (named : field.name ≠ "")
      (inColumn : field.column = column)
      (last : field.order = table.fields.length)
      (typed : field.type = builtinType? mappings field.declared)
      (suits : DefaultSuits field) :
      ColumnStep mappings column table { table with flags, fields := table.fields ++ [field] }

theorem fieldName_ne_empty
    {nameRow column : Nat} {name : String}
    (read : fieldName input sheet placed nameRow column = .ok (some name)) : name ≠ "" := by
  unfold fieldName at read
  dsimp only at read
  split at read
  · cases read
  · obtain ⟨said, _, kept⟩ := Outcome.bind_eq_ok_iff.mp read
    rw [Outcome.pure_eq_ok_iff] at kept
    split at kept
    · cases kept
    · next visible =>
        cases kept
        intro empty
        rw [empty] at visible
        simp at visible

/-- The row of defaults gives a field of a primitive type a default, or changes nothing. -/
theorem rowDefault_cases
    {field finished : Field} (read : rowDefault input sheet placed field = .ok finished) :
    finished = field ∨ ∃ said target value, field.type = some (.primitive target) ∧
      Convert.coercePrimitive (.text said) target = .ok value ∧
      finished = { field with default := some value } := by
  unfold rowDefault at read
  obtain ⟨said, _, continued⟩ := Outcome.bind_eq_ok_iff.mp read
  split at continued
  · next said target known _ =>
      obtain ⟨value, coerced, same⟩ := Outcome.bind_eq_ok_iff.mp continued
      cases same
      exact Or.inr ⟨said, target, value, primitive?_eq_some_iff.mp known, coerced, rfl⟩
  · cases continued
    exact Or.inl rfl

/-- The row of defaults changes nothing but the default. -/
theorem rowDefault_eq_ok
    {field finished : Field}
    (read : rowDefault input sheet placed field = .ok finished) (suits : DefaultSuits field) :
    ∃ default, finished = { field with default } ∧ DefaultSuits finished := by
  rcases rowDefault_cases read with rfl | ⟨said, target, value, hasType, coerced, rfl⟩
  · exact ⟨finished.default, rfl, suits⟩
  · refine ⟨some value, rfl, ?_⟩
    intro other found
    cases found
    dsimp only
    rw [hasType]
    exact suits_of_inhabits (Convert.inhabits_coercePrimitive coerced)

/-- The field of a column before its keywords are read. -/
def startField (mappings : List TypeMapping) (table : Table) (name declared : String)
    (column : Nat) : Field :=
  { name, column, declared, order := table.fields.length, index := table.fields.length
    type := builtinType? mappings declared }

section StartField

variable {table : Table} {name declared : String} {column : Nat}

@[simp]
theorem startField_type :
    (startField mappings table name declared column).type = builtinType? mappings declared := by
  rw [startField]

@[simp]
theorem startField_default : (startField mappings table name declared column).default = none := rfl

end StartField

/-- What reading a column does: its keywords take effect if it has a name, and then its field is
added unless something leaves it out. -/
theorem readColumn_eq_ok
    {nameRow column : Nat} {table next : Table}
    (read : readColumn input mappings sheet placed nameRow table column = .ok next) :
    (fieldName input sheet placed nameRow column = .ok none ∧ next = table) ∨
      ∃ name declared keywords marked field,
        fieldName input sheet placed nameRow column = .ok (some name) ∧
        readRow input sheet placed .fieldType column = .ok declared ∧
        readRow input sheet placed .keyword column = .ok keywords ∧
        Keyword.applyCell
            ⟨table, startField mappings table name (declared.getD Primitive.string.name) column⟩
            (keywords.getD "") = (⟨marked, field⟩, none) ∧
        ((field.isExcluded || !passesTags input field) = true ∧ next = marked ∨
          (field.isExcluded || !passesTags input field) = false ∧ ∃ description finished,
            readRow input sheet placed .fieldSummary column = .ok description ∧
            rowDefault input sheet placed { field with description } = .ok finished ∧
            next = { marked with fields := marked.fields ++ [finished] }) := by
  unfold readColumn at read
  obtain ⟨name, nameRead, named⟩ := Outcome.bind_eq_ok_iff.mp read
  cases name with
  | none =>
      cases named
      exact Or.inl ⟨nameRead, rfl⟩
  | some name =>
      obtain ⟨declared, typeRead, typed⟩ := Outcome.bind_eq_ok_iff.mp named
      obtain ⟨keywords, wordsRead, worded⟩ := Outcome.bind_eq_ok_iff.mp typed
      dsimp only at worded
      split at worded
      · cases worded
      · next marked field applied =>
          right
          refine ⟨name, declared, keywords, marked, field, nameRead, typeRead, wordsRead, applied,
            ?_⟩
          split at worded
          · next leftOut =>
              cases worded
              exact Or.inl ⟨leftOut, rfl⟩
          · next letIn =>
              obtain ⟨description, summaryRead, described⟩ := Outcome.bind_eq_ok_iff.mp worded
              obtain ⟨finished, defaulted, same⟩ := Outcome.bind_eq_ok_iff.mp described
              cases same
              exact Or.inr ⟨by simpa using letIn, description, finished, summaryRead, defaulted,
                rfl⟩

theorem columnStep_of_readColumn
    {nameRow column : Nat} {table next : Table}
    (read : readColumn input mappings sheet placed nameRow table column = .ok next) :
    ColumnStep mappings column table next := by
  rcases readColumn_eq_ok read with ⟨-, rfl⟩ |
    ⟨name, declared, keywords, markedTable, markedField, nameRead, -, -, applied, last⟩
  · exact ColumnStep.skipped next.flags
  · have marked := marked_applyTokens applied
    obtain ⟨flags, sameTable⟩ := marked.table
    dsimp only at sameTable
    have suits : DefaultSuits markedField := by
      apply marked.default
      intro value found
      cases found
    rcases last with ⟨-, rfl⟩ | ⟨-, description, finished, -, defaulted, rfl⟩
    · rw [sameTable]
      exact ColumnStep.skipped flags
    · obtain ⟨default, sameField, finishedSuits⟩ := rowDefault_eq_ok defaulted suits
      rw [sameTable]
      apply ColumnStep.added flags finished
      · rw [sameField]
        have sameName : markedField.name = name := marked.name
        rw [sameName]
        exact fieldName_ne_empty nameRead
      · rw [sameField]
        exact marked.column
      · rw [sameField]
        exact marked.order
      · rw [sameField]
        have sameDeclared := marked.declared
        have sameType := marked.type
        dsimp only [startField] at sameDeclared sameType
        rw [sameType, sameDeclared]
      · exact finishedSuits

/-! ## Headers -/

/-- How the header of a sheet gives a table: the label names it, and the columns of the fields are
read one after the other. -/
structure HeaderRead (settings : Settings) (run : Naming.Scope) (ref : SheetRef) (sheet : Sheet)
    (table : Table) (first : Nat) : Prop where
  nonempty : table.fields ≠ []
  columns : ∃ label description placed nameRow,
    Naming.sanitize label ≠ "" ∧
      placeRows settings.input sheet = .ok placed ∧
      first = dataRow placed ∧
      (fieldColumns settings.input sheet).foldlM
        (readColumn settings.input settings.typeMappings sheet placed nameRow)
        { Table.named (Naming.sanitize label) run with origin := ref.index, description } =
          .ok table

theorem headerRead_of_readHeader
    {settings : Settings} {run : Naming.Scope} {ref : SheetRef} {table : Table} {first : Nat}
    (read : readHeader settings run ref sheet = .ok (some (table, first))) :
    HeaderRead settings run ref sheet table first := by
  unfold readHeader at read
  obtain ⟨label, _, labelled⟩ := Outcome.bind_eq_ok_iff.mp read
  split at labelled
  · cases labelled
  · next label labelDescription _ =>
      dsimp only at labelled
      split at labelled
      · cases labelled
      · next visible =>
          obtain ⟨placed, placedRead, rows⟩ := Outcome.bind_eq_ok_iff.mp labelled
          split at rows
          · cases rows
          · next nameRow _ =>
              obtain ⟨found, columns, same⟩ := Outcome.bind_eq_ok_iff.mp rows
              rw [Outcome.pure_eq_ok_iff] at same
              split at same
              · cases same
              · next nonempty =>
                  cases same
                  have named : Naming.sanitize (Text.trim label) ≠ "" := by
                    simpa using visible
                  exact ⟨by simpa using nonempty,
                    Text.trim label, _, placed, nameRow, named, placedRead, rfl, columns⟩

/-- What holds of a table without fields and is kept by every column holds of the table that a
header gives. -/
theorem HeaderRead.invariant
    {settings : Settings} {run : Naming.Scope} {ref : SheetRef} {table : Table} {first : Nat}
    (header : HeaderRead settings run ref sheet table first)
    (invariant : List Nat → Table → Prop)
    (initial : ∀ table : Table, table.name ≠ "" → (∃ label, table.name = Naming.sanitize label) →
      table.fields = [] → invariant [] table)
    (kept : ∀ before column after table next,
      fieldColumns settings.input sheet = before ++ column :: after → invariant before table →
      ColumnStep settings.typeMappings column table next → invariant (before ++ [column]) next) :
    invariant (fieldColumns settings.input sheet) table := by
  obtain ⟨label, description, placed, nameRow, named, _, _, columns⟩ := header.columns
  refine Outcome.foldlM_invariant invariant (initial _ named ⟨label, rfl⟩ rfl) ?_ columns
  intro before column after state next parts holds stepped
  exact kept before column after state next parts holds (columnStep_of_readColumn stepped)

end TypedTables.Discover
