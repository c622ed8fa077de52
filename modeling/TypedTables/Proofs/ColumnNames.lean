import TypedTables.Proofs.Convert.Isolation
import TypedTables.Proofs.Discover.Schemas
import TypedTables.Proofs.Generate.Identifiers
import TypedTables.Proofs.Generate.Literals
import TypedTables.Proofs.Generate.Rendering
import TypedTables.Proofs.Json.Lexing

/-!
# Names of columns in the generated code

A member is serialized under the name of its column, which the built-in template writes into a
literal as it is.  The literal denotes the name exactly if the name has no quote, no backslash and
no carriage return.  The data has the same name as a key, escaped, and read back from any name.
-/

namespace TypedTables

open TypedTables.Schema TypedTables.Manifest TypedTables.Binding TypedTables.Convert
open TypedTables.Discover TypedTables.Generate
open TypedTables.Config (Code Settings)

/-! ## Attributes -/

/-- Every character of a name stands for itself in a literal. -/
def Verbatim (name : String) : Prop :=
  ∀ c ∈ name.toList, StandsForItself c

instance (name : String) : Decidable (Verbatim name) :=
  List.decidableBAll StandsForItself name.toList

/-- A column has its attribute and its member in a text, and this is what stands behind the quote
that closes the column's name. -/
structure RenamedIn (text : String) (field : Field) (behind : String) : Prop where
  name : ∃ before, text = before ++ renameMark ++ field.name ++ "\"" ++ behind
  member : ∃ type rest, behind =
    "))]\n    pub " ++ Naming.snakeCase field.name ++ ": " ++ type ++ ",\n" ++ rest

theorem exists_renamedIn
    {tables : TableSet} {names : TypeNames} {declaration : Declaration} {field : Field}
    {member : MemberDeclaration} (inMembers : member ∈ declaration.members)
    (declares : DeclaresField tables names field member) :
    ∃ behind, RenamedIn (recordText declaration) field behind := by
  obtain ⟨front, back, parts⟩ := List.append_of_mem inMembers
  refine ⟨memberEnd member ++ String.join (back.map memberLines) ++ recordEnd declaration, ?_, ?_⟩
  · refine ⟨recordHead declaration ++ String.join (front.map memberLines) ++
      docText "    " member.doc, ?_⟩
    delta recordText
    rw [parts, List.map_append, List.map_cons, String.join_append, String.join_cons,
      ← declares.column]
    delta memberLines
    simp only [String.append_assoc]
  · refine ⟨member.type, String.join (back.map memberLines) ++ recordEnd declaration, ?_⟩
    rw [← declares.name]
    delta memberEnd
    simp only [String.append_assoc]

/-- The literal that a column's name is written into, from behind its opening quote. -/
def columnLiteral (name behind : String) : List Char :=
  (name ++ "\"" ++ behind).toList

theorem columnLiteral_eq (name behind : String) :
    columnLiteral name behind = name.toList ++ '"' :: behind.toList := by
  simp [columnLiteral]

theorem readsAs_columnLiteral_iff (name behind : String) :
    (∃ rest, ReadsAs (columnLiteral name behind) name.toList rest) ↔ Verbatim name := by
  rw [columnLiteral_eq]
  exact readsAs_self_iff

theorem readsAs_columnLiteral {name : String} (verbatim : Verbatim name) (behind : String) :
    ReadsAs (columnLiteral name behind) name.toList behind.toList := by
  rw [columnLiteral_eq]
  exact readsAs_self verbatim

/-! ## Keys -/

theorem entryKeys_memberDocuments (members : List (String × Value)) :
    entryKeys (Value.memberDocuments members) = entryKeys members := by
  induction members with
  | nil => rfl
  | cons member rest inductionHypothesis =>
      exact congrArg (member.1 :: ·) inductionHypothesis

/-- A record is written with the names of a table's columns as its keys. -/
def KeyedByColumns (table : Table) (record : Value) : Prop :=
  ∃ entries, record.toDocument = .mapping entries ∧
    entryKeys entries = table.fields.map (·.name)

variable {source : Source} {code : Code} {names : TypeNames} {lookup : Lookup}

theorem convertRow_keys
    (prepared : Prepared source code names lookup) {table : Table} {descriptor : Descriptor}
    (columns : Columns lookup.tables table descriptor) (row : RawRow) :
    Ensures lookup (convertRow lookup table descriptor (declaredMembers descriptor) row)
      (KeyedByColumns table) := by
  have memberNames : (declaredMembers descriptor).map (·.2.name) = table.fields.map (·.name) := by
    rw [names_of_declared columns.declared, columns.bindingNames]
  have each : ∀ entry ∈ declaredMembers descriptor,
      Ensures lookup (convertMember lookup table row entry.2) fun _ => True :=
    fun entry _ => (convertMember_steady prepared.distinctTypes table row entry.2).ensures
  unfold convertRow
  rw [convertMembers_eq]
  apply Ensures.bind (collectMembers_ensures (fun _ _ => True) each
    (by rw [memberNames]; exact columns.distinct))
  rintro entries ⟨added, shape, keys, _⟩
  rw [List.nil_append] at shape
  rw [← shape] at keys
  refine Ensures.pure ⟨Value.memberDocuments entries, rfl, ?_⟩
  rw [entryKeys_memberDocuments, keys, memberNames]

theorem loadRecords_keys
    (prepared : Prepared source code names lookup) {table : Table}
    (member : table ∈ source.tables.tables) (notEnum : table.isEnum = false) :
    Ensures lookup (loadRecords lookup source table) fun records =>
      ∀ record ∈ records, KeyedByColumns table record := by
  obtain ⟨descriptor, found, _⟩ := prepared.agreement.bound table member
  rw [← prepared.tables] at member
  have columns := prepared.columns member notEnum found
  have each := fun rows (_ : source.rows table.name = .ok rows) row (_ : row ∈ rows) =>
    convertRow_keys prepared columns row
  refine (loadRecords_of_rows prepared found each).weaken ?_
  rintro records ⟨_, _, related⟩ record present
  obtain ⟨_, _, keyed⟩ := (Outcome.exists_of_forall₂ related).2 record present
  exact keyed

/-! ## Both names -/

/-- Every column of a record has an attribute in the text that the built-in template makes, and the
attribute denotes the column's name, and nothing else, exactly if the name stands for itself.  The
records are written with the same names as keys, which are read back from any name. -/
theorem column_names_read_back_iff
    {settings : Settings} {run : Naming.Scope} {plan : Plan} {templates : Templates}
    {index : Option String} (reached : Source.Reached settings run source)
    (isOpen : source.isOpen = true) (planned : Plan.ofSource source code = .ok plan)
    (builtIn : Templates.ofTexts none index = .ok templates) {table : Table}
    (member : table ∈ source.tables.tables) (notEnum : table.isEnum = false) :
    (∃ declaration ∈ plan.declarations, declaration.table = table.name ∧
      templates.renderType declaration = .ok (recordText declaration) ∧
      ∀ field ∈ table.fields, ∃ behind, RenamedIn (recordText declaration) field behind ∧
        ((∃ rest, ReadsAs (columnLiteral field.name behind) field.name.toList rest) ↔
          Verbatim field.name) ∧
        (Verbatim field.name → ∀ value rest, ReadsAs (columnLiteral field.name behind) value rest ↔
          value = field.name.toList ∧ rest = behind.toList)) ∧
    (∀ catalog separators cache later records,
      Catalog.ofTables source.tables plan.model code = .ok catalog →
      SoundCache (.ofSource source catalog separators) cache →
      (loadRecords (.ofSource source catalog separators) source table).run.run cache =
        (.ok records, later) →
      ∀ record ∈ records, KeyedByColumns table record) ∧
    ∀ name rest, Json.readToken? ((Json.quote name).toList ++ rest) = some (.text name, rest) := by
  have resolved := Source.resolved_of_reached reached isOpen
  refine ⟨?_, ?_, fun name rest => Json.readToken?_quote name rest⟩
  · obtain ⟨names, _, declared⟩ := declared_of_ofSource resolved planned
    obtain ⟨declaration, inPlan, declaredAs⟩ :=
      (Outcome.exists_of_forall₂ declared.each).1 table member
    have isRecord : declaration.isEnum = false := declaredAs.isEnum.trans notEnum
    refine ⟨declaration, inPlan, (declared.name member declaredAs).2,
      renderType_record builtIn isRecord, ?_⟩
    intro field inFields
    obtain ⟨memberDeclaration, inMembers, declares⟩ :=
      (Outcome.exists_of_forall₂ (declaredAs.record notEnum).1).1 field inFields
    obtain ⟨behind, renamed⟩ := exists_renamedIn inMembers declares
    refine ⟨behind, renamed, readsAs_columnLiteral_iff field.name behind, ?_⟩
    intro verbatim value rest
    have reads := readsAs_columnLiteral verbatim behind
    constructor
    · intro other
      exact other.unique reads
    · rintro ⟨rfl, rfl⟩
      exact reads
  · intro catalog separators cache later records bound sound loaded
    obtain ⟨_, _, prepared⟩ := prepared_of_resolved resolved planned bound separators
    exact (loadRecords_keys prepared member notEnum).of_run sound loaded

/-! ## A table with a column -/

/-- The text that the built-in template makes of a table with a column. -/
def columnText (column : String) : Option String := do
  let plan ← (Plan.ofSource (columnSource "Item" column) {}).toOption
  let templates ← (Templates.ofTexts none none).toOption
  let declaration ← plan.declarations.head?
  (templates.renderType declaration).toOption

def itemHead : String :=
  "#[derive(Debug, Clone, PartialEq, Default)]\n" ++ serializedAttribute ++
    "#[cfg_attr(feature = \"serde\", serde(default))]\npub struct Item \x7b\n"

/-- What stands behind the quote that closes the name of the only column of a table. -/
def onlyEnd (identifier : String) : String :=
  "))]\n    pub " ++ identifier ++ ": i32,\n\x7d\n"

theorem column_names_read_back_iff_items :
    columnText "Id" = some (itemHead ++ renameMark ++ "Id" ++ "\"" ++ onlyEnd "id") ∧
    ∃ plan templates, Plan.ofSource (columnSource "Item" "Id") {} = .ok plan ∧
      Templates.ofTexts none none = .ok templates ∧
      ∃ declaration ∈ plan.declarations, declaration.table = "Item" ∧
        templates.renderType declaration = .ok (recordText declaration) ∧
        ∃ field behind, field.name = "Id" ∧ RenamedIn (recordText declaration) field behind ∧
          ∀ value rest, ReadsAs (columnLiteral "Id" behind) value rest ↔
            value = "Id".toList ∧ rest = behind.toList := by
  have shown : columnText "Id" =
      some (itemHead ++ renameMark ++ "Id" ++ "\"" ++ onlyEnd "id") := by
    decide +kernel
  obtain ⟨plan, planGiven, further⟩ := Option.bind_eq_some_iff.mp shown
  obtain ⟨templates, templatesGiven, _⟩ := Option.bind_eq_some_iff.mp further
  have planned := Outcome.eq_ok_of_toOption planGiven
  have builtIn := Outcome.eq_ok_of_toOption templatesGiven
  have reached := reached_columnSource "Item" "Id"
  have isOpen : (columnSource "Item" "Id").isOpen = true := by
    decide +kernel
  obtain ⟨table, member, named, notEnum, column⟩ :
      ∃ table ∈ (columnSource "Item" "Id").tables.tables, table.name = "Item" ∧
        table.isEnum = false ∧ table.fields.map (·.name) = ["Id"] := by
    decide +kernel
  obtain ⟨field, fields, isId⟩ := List.map_eq_singleton_iff.mp column
  obtain ⟨declaration, inPlan, ofTable, rendered, each⟩ :=
    (column_names_read_back_iff reached isOpen planned builtIn member notEnum).1
  obtain ⟨behind, renamed, _, reads⟩ := each field (by rw [fields]; exact List.mem_cons_self)
  rw [isId] at reads
  exact ⟨shown, plan, templates, planned, builtIn, declaration, inPlan, ofTable.trans named,
    rendered, field, behind, isId, renamed, reads (by decide)⟩

/-- A quote in the name of a column ends the literal, and a backslash makes it denote another name,
under which there is no key. -/
theorem other_names_denoted :
    columnText "a\"b" = some (itemHead ++ renameMark ++ "a\"b" ++ "\"" ++ onlyEnd "a_b") ∧
    (∀ rest, ¬ReadsAs (columnLiteral "a\"b" (onlyEnd "a_b")) "a\"b".toList rest) ∧
    columnText "a\\tb" = some (itemHead ++ renameMark ++ "a\\tb" ++ "\"" ++ onlyEnd "a_tb") ∧
    (∀ rest, ¬ReadsAs (columnLiteral "a\\tb" (onlyEnd "a_tb")) "a\\tb".toList rest) ∧
    ReadsAs (columnLiteral "a\\tb" (onlyEnd "a_tb")) "a\tb".toList (onlyEnd "a_tb").toList := by
  refine ⟨by decide +kernel, ?_, by decide +kernel, ?_, ?_⟩
  · intro rest reads
    exact absurd ((readsAs_columnLiteral_iff _ _).mp ⟨rest, reads⟩) (by decide)
  · intro rest reads
    exact absurd ((readsAs_columnLiteral_iff _ _).mp ⟨rest, reads⟩) (by decide)
  · have tab : Spells "a\\tb".toList "a\tb".toList :=
      .piece (.itself (by decide)) (.piece (.letter (by decide : ('t', '\t') ∈ letterEscapes))
        (.piece (.itself (by decide)) .nil))
    exact ⟨_, columnLiteral_eq _ _, tab⟩

end TypedTables
