import Mathlib.Data.List.Nodup
import TypedTables.Manifest.Codec
import TypedTables.Proofs.Json.Reading

/-!
# Manifests that are read back

Every part of a model is read back from its document.  The document of a model nests as deep as the
types of its members do, so its text is read back exactly when no member's type is an array nested
deeper than the reader goes.
-/

namespace TypedTables.Document

open TypedTables.Number

/-! ## Fields -/

variable {entries : List (String × Document)} {name : String}

theorem namesOnce_of_nodup
    (distinct : (entries.map (·.1)).Nodup) (names : List String) :
    namesOnce names entries = true := by
  unfold namesOnce
  rw [List.all_eq_true]
  intro name _
  have counted : (entries.map (·.1)).count name ≤ 1 :=
    List.nodup_iff_count_le_one.mp distinct name
  rw [List.count, List.countP_map, List.countP_eq_length_filter] at counted
  exact decide_eq_true counted

theorem fields?_mapping
    (distinct : (entries.map (·.1)).Nodup) (names : List String) :
    fields? names (.mapping entries) = some ⟨entries⟩ := by
  change (if namesOnce names entries = true then _ else _) = _
  rw [if_pos (namesOnce_of_nodup distinct names)]

namespace Fields

variable {α : Type}

theorem required_of_lookup
    {reader : Document.Reader α} {document : Document} {value : α}
    (given : entries.lookup name = some document) (read : reader document = some value) :
    required ⟨entries⟩ name reader = some value := by
  unfold required
  rw [given]
  exact read

theorem withDefault_of_lookup
    {reader : Document.Reader α} {document : Document} {value : α}
    (given : entries.lookup name = some document) (read : reader document = some value)
    (default : α) :
    withDefault ⟨entries⟩ name reader default = some value := by
  unfold withDefault
  rw [given]
  exact read

theorem optional_text
    {value : Option String} (given : entries.lookup name = value.map Document.text) :
    optional ⟨entries⟩ name Reader.text = some value := by
  unfold optional
  rw [given]
  cases value <;> rfl

theorem optional_integer
    {value : Option Int} (given : entries.lookup name = value.map Document.integer)
    (stored : ∀ number, value = some number → (IntRange.signed 64).contains number = true) :
    optional ⟨entries⟩ name Reader.integer = some value := by
  unfold optional
  rw [given]
  cases value with
  | none => rfl
  | some number =>
      simp [Reader.optional, Reader.integer, Reader.integerIn, stored number rfl]

theorem withDefault_mark
    {mark : Bool} (given : entries.lookup name = if mark then some (.bool true) else none) :
    withDefault ⟨entries⟩ name Reader.bool false = some mark := by
  unfold withDefault
  rw [given]
  cases mark <;> rfl

end Fields

end TypedTables.Document

namespace TypedTables.Manifest

open TypedTables.Schema TypedTables.Document TypedTables.Json TypedTables.Number

/-! ## Entries -/

theorem lookup_entry (key name : String) (value : Document) (entries : List (String × Document)) :
    ((name, value) :: entries).lookup key =
      if key = name then some value else entries.lookup key := by
  by_cases same : key = name
  · rw [if_pos same, same, List.lookup_cons_self]
  · rw [if_neg same, List.lookup_cons, beq_eq_false_iff_ne.mpr same]

theorem names_optionalEntry (name : String) (value : Option String) :
    ((optionalEntry name value).map (·.1)).Sublist [name] := by
  cases value <;> simp [optionalEntry]

theorem names_markEntry (name : String) (mark : Bool) :
    ((markEntry name mark).map (·.1)).Sublist [name] := by
  cases mark <;> simp [markEntry]

@[simp]
theorem lookup_optionalEntry (key name : String) (value : Option String) :
    (optionalEntry name value).lookup key =
      if key == name then value.map Document.text else none := by
  cases value <;> simp [optionalEntry, lookup_entry]

@[simp]
theorem lookup_markEntry (key name : String) (mark : Bool) :
    (markEntry name mark).lookup key =
      if key == name && mark then some (.bool true) else none := by
  cases mark <;> simp [markEntry, lookup_entry]

/-! ## Types -/

theorem ofManifestName?_manifestName (type : Primitive) :
    Primitive.ofManifestName? type.manifestName = some type := by
  cases type <;> decide

theorem ofName?_name (kind : TableKind) : TableKind.ofName? kind.name = some kind := by
  cases kind <;> decide

/-- The document of a type is its kind with what it is made of. -/
theorem readType_tagged (kind : String) (content : Document) :
    readType (.mapping [("kind", .text kind), ("of", content)]) =
      typeOf (fun _ => readType content) kind content := by
  have distinct : namesOnce ["kind", "of"] [("kind", .text kind), ("of", content)] = true :=
    namesOnce_of_nodup (by simp) _
  rw [readType, if_pos distinct]
  rfl

theorem readType_typeDocument (type : TypeRef) : readType (typeDocument type) = some type := by
  induction type with
  | primitive type =>
      rw [typeDocument, readType_tagged]
      exact congrArg (Option.map TypeRef.primitive) (ofManifestName?_manifestName type)
  | array element inductionHypothesis =>
      rw [typeDocument, readType_tagged]
      exact congrArg (Option.map TypeRef.array) inductionHypothesis
  | table name | enumeration name | external name =>
      rw [typeDocument, readType_tagged]
      rfl

theorem readAccess_accessDocument (access : Access) :
    readAccess (accessDocument access) = some access := by
  cases access with
  | field => rfl
  | property readable writable => rfl

/-! ## Members and variants -/

/-- The numbers of a model fit the 64 bits that a manifest has for them. -/
structure Model.Storable (model : Model) : Prop where
  indices : ∀ type ∈ model.types, ∀ member ∈ type.members,
    (IntRange.unsigned 64).contains member.index = true
  values : ∀ type ∈ model.types, ∀ variant ∈ type.variants, ∀ value, variant.value = some value →
    (IntRange.signed 64).contains value = true

/-- The entries of a mapping. -/
def entriesOf : Document → List (String × Document)
  | .mapping entries => entries
  | _ => []

/-- The names of the entries that a member can have. -/
def memberNames : List String :=
  ["name", "rename", "kind", "visibility", "synthesized", "value_type", "key",
    "serialization_index", "description"]

theorem names_memberDocument (member : Member) :
    ((entriesOf (memberDocument member)).map (·.1)).Sublist memberNames := by
  unfold memberDocument entriesOf
  simp only [List.map_append]
  have named : (["name"] : List String).Sublist ["name"] := .refl _
  have access := (named.append (names_optionalEntry "rename" member.rename)).append
    (.refl ["kind", "visibility"])
  have type := (access.append (names_markEntry "synthesized" member.synthesized)).append
    (.refl ["value_type"])
  have index := (type.append (names_markEntry "key" member.isKey)).append
    (.refl ["serialization_index"])
  exact index.append (names_optionalEntry "description" member.description)

theorem lookup_memberDocument (name : String) (member : Member) :
    (entriesOf (memberDocument member)).lookup name =
      match name with
      | "name" => some (.text member.name)
      | "rename" => member.rename.map .text
      | "kind" => some (accessDocument member.access)
      | "visibility" => some (.text (if member.isPrivate then "private" else "public"))
      | "synthesized" => if member.synthesized then some (.bool true) else none
      | "value_type" => some (typeDocument member.type)
      | "key" => if member.isKey then some (.bool true) else none
      | "serialization_index" => some (.integer member.index)
      | "description" => member.description.map .text
      | _ => none := by
  simp only [entriesOf, memberDocument]
  generalize (if member.isPrivate then "private" else "public") = visibility
  split
  all_goals simp_all [List.lookup_append, lookup_entry]

theorem readVisibility_text (isPrivate : Bool) :
    readVisibility (.text (if isPrivate then "private" else "public")) = some isPrivate := by
  cases isPrivate <;> rfl

theorem natural_integer
    {number : Nat} (stored : (IntRange.unsigned 64).contains number = true) :
    Reader.natural (.integer number) = some number := by
  simp [Reader.natural, Reader.integerIn, stored]

theorem readMember_memberDocument
    {member : Member} (stored : (IntRange.unsigned 64).contains member.index = true) :
    readMember (memberDocument member) = some member := by
  have shape : memberDocument member = .mapping (entriesOf (memberDocument member)) := rfl
  have distinct := (names_memberDocument member).nodup (by decide)
  have lookup := fun name => lookup_memberDocument name member
  generalize entriesOf (memberDocument member) = entries at shape distinct lookup
  have name : Fields.required ⟨entries⟩ "name" Reader.text = some member.name :=
    Fields.required_of_lookup (lookup "name") rfl
  have rename := Fields.optional_text (lookup "rename")
  have access :=
    Fields.required_of_lookup (lookup "kind") (readAccess_accessDocument member.access)
  have visibility :=
    Fields.withDefault_of_lookup (lookup "visibility") (readVisibility_text member.isPrivate) false
  have synthesized := Fields.withDefault_mark (lookup "synthesized")
  have type :=
    Fields.required_of_lookup (lookup "value_type") (readType_typeDocument member.type)
  have isKey := Fields.withDefault_mark (lookup "key")
  have index :=
    Fields.withDefault_of_lookup (lookup "serialization_index") (natural_integer stored) 0
  have description := Fields.optional_text (lookup "description")
  change (fields? memberNames (memberDocument member)).bind _ = _
  rw [shape, fields?_mapping distinct, Option.bind_some]
  simp only [name, rename, access, visibility, synthesized, type, isKey, index, description,
    Option.bind_eq_bind, Option.bind_some]
  rfl

def variantNames : List String :=
  ["name", "label", "value", "description"]

theorem names_variantDocument (variant : Variant) :
    ((entriesOf (variantDocument variant)).map (·.1)).Sublist variantNames := by
  obtain ⟨name, label, value, description⟩ := variant
  have named : (["name", "label"] : List String).Sublist ["name", "label"] := .refl _
  have described := names_optionalEntry "description" description
  cases value with
  | none => exact named.append (described.cons "value")
  | some number => exact (named.append (.refl ["value"])).append described

theorem lookup_variantDocument (name : String) (variant : Variant) :
    (entriesOf (variantDocument variant)).lookup name =
      match name with
      | "name" => some (.text variant.name)
      | "label" => some (.text variant.label)
      | "value" => variant.value.map .integer
      | "description" => variant.description.map .text
      | _ => none := by
  obtain ⟨written, label, value, description⟩ := variant
  cases value
  all_goals
    simp only [entriesOf, variantDocument, List.append_assoc]
    split
    all_goals simp_all [lookup_entry]

theorem readVariant_variantDocument
    {variant : Variant}
    (stored : ∀ value, variant.value = some value → (IntRange.signed 64).contains value = true) :
    readVariant (variantDocument variant) = some variant := by
  have shape : variantDocument variant = .mapping (entriesOf (variantDocument variant)) := rfl
  have distinct := (names_variantDocument variant).nodup (by decide)
  have lookup := fun name => lookup_variantDocument name variant
  generalize entriesOf (variantDocument variant) = entries at shape distinct lookup
  have name : Fields.required ⟨entries⟩ "name" Reader.text = some variant.name :=
    Fields.required_of_lookup (lookup "name") rfl
  have label : Fields.required ⟨entries⟩ "label" Reader.text = some variant.label :=
    Fields.required_of_lookup (lookup "label") rfl
  have value := Fields.optional_integer (lookup "value") stored
  have description := Fields.optional_text (lookup "description")
  change (fields? variantNames (variantDocument variant)).bind _ = _
  rw [shape, fields?_mapping distinct, Option.bind_some]
  simp only [name, label, value, description, Option.bind_eq_bind, Option.bind_some]
  rfl

/-! ## Types and models -/

def descriptorNames : List String :=
  ["name", "namespace", "table", "kind", "description", "members", "variants"]

theorem names_descriptorDocument (descriptor : Descriptor) :
    ((entriesOf (descriptorDocument descriptor)).map (·.1)).Sublist descriptorNames := by
  obtain ⟨name, space, table, kind, description, members, variants⟩ := descriptor
  have named : (["name"] : List String).Sublist ["name"] := .refl _
  have rest := ((named.append (names_optionalEntry "namespace" space)).append
    (.refl ["table", "kind"])).append (names_optionalEntry "description" description)
  unfold descriptorDocument entriesOf
  simp only [List.map_append]
  cases variants with
  | nil => exact (rest.append (.refl ["members"])).append (List.nil_sublist ["variants"])
  | cons variant others => exact (rest.append (.refl ["members"])).append (.refl ["variants"])

theorem lookup_descriptorDocument (name : String) (descriptor : Descriptor) :
    (entriesOf (descriptorDocument descriptor)).lookup name =
      match name with
      | "name" => some (.text descriptor.name)
      | "namespace" => descriptor.space.map .text
      | "table" => some (.text descriptor.table)
      | "kind" => some (.text descriptor.kind.name)
      | "description" => descriptor.description.map .text
      | "members" => some (.list (descriptor.members.map memberDocument))
      | "variants" =>
        if descriptor.variants.isEmpty then none
        else some (.list (descriptor.variants.map variantDocument))
      | _ => none := by
  obtain ⟨written, space, table, kind, description, members, variants⟩ := descriptor
  cases variants
  all_goals
    simp only [entriesOf, descriptorDocument, List.isEmpty_nil, List.isEmpty_cons, if_true,
      Bool.false_eq_true, if_false]
    split
    all_goals simp_all [List.lookup_append, lookup_entry]

theorem list_map
    {α : Type} {read : Document.Reader α} {write : α → Document} {items : List α}
    (each : ∀ item ∈ items, read (write item) = some item) :
    Reader.list read (.list (items.map write)) = some items := by
  change (items.map write).mapM read = some items
  induction items with
  | nil => rfl
  | cons item rest inductionHypothesis =>
      rw [List.map_cons, List.mapM_cons, each item List.mem_cons_self,
        inductionHypothesis fun other member => each other (List.mem_cons_of_mem item member)]
      rfl

/-- Variants are left out where there are none. -/
theorem variants_of_lookup
    {entries : List (String × Document)} {variants : List Variant}
    (given : entries.lookup "variants" =
      if variants.isEmpty then none else some (.list (variants.map variantDocument)))
    (each : ∀ variant ∈ variants, readVariant (variantDocument variant) = some variant) :
    Fields.withDefault ⟨entries⟩ "variants" (Reader.list readVariant) [] = some variants := by
  cases variants with
  | nil =>
      unfold Fields.withDefault
      rw [given]
      rfl
  | cons variant rest => exact Fields.withDefault_of_lookup given (list_map each) []

theorem readDescriptor_descriptorDocument
    {descriptor : Descriptor}
    (members : ∀ member ∈ descriptor.members, readMember (memberDocument member) = some member)
    (variants : ∀ variant ∈ descriptor.variants,
      readVariant (variantDocument variant) = some variant) :
    readDescriptor (descriptorDocument descriptor) = some descriptor := by
  have shape :
      descriptorDocument descriptor = .mapping (entriesOf (descriptorDocument descriptor)) := rfl
  have distinct := (names_descriptorDocument descriptor).nodup (by decide)
  have lookup := fun name => lookup_descriptorDocument name descriptor
  generalize entriesOf (descriptorDocument descriptor) = entries at shape distinct lookup
  have name : Fields.required ⟨entries⟩ "name" Reader.text = some descriptor.name :=
    Fields.required_of_lookup (lookup "name") rfl
  have space := Fields.optional_text (lookup "namespace")
  have table : Fields.required ⟨entries⟩ "table" Reader.text = some descriptor.table :=
    Fields.required_of_lookup (lookup "table") rfl
  have kind :
      Fields.required ⟨entries⟩ "kind" (Reader.named TableKind.ofName?) = some descriptor.kind :=
    Fields.required_of_lookup (lookup "kind") (ofName?_name descriptor.kind)
  have description := Fields.optional_text (lookup "description")
  have allMembers := Fields.withDefault_of_lookup (lookup "members") (list_map members) []
  have allVariants := variants_of_lookup (lookup "variants") variants
  change (fields? descriptorNames (descriptorDocument descriptor)).bind _ = _
  rw [shape, fields?_mapping distinct, Option.bind_some]
  simp only [name, space, table, kind, description, allMembers, allVariants,
    Option.bind_eq_bind, Option.bind_some]
  rfl

def modelNames : List String :=
  ["module", "namespace", "types"]

theorem names_modelDocument (model : Model) :
    ((entriesOf (modelDocument model)).map (·.1)).Sublist modelNames := by
  have named : (["module"] : List String).Sublist ["module"] := .refl _
  unfold modelDocument entriesOf
  simp only [List.map_append]
  exact (named.append (names_optionalEntry "namespace" model.space)).append (.refl ["types"])

theorem lookup_modelDocument (name : String) (model : Model) :
    (entriesOf (modelDocument model)).lookup name =
      match name with
      | "module" => some (.text model.moduleName)
      | "namespace" => model.space.map .text
      | "types" => some (.list (model.types.map descriptorDocument))
      | _ => none := by
  simp only [entriesOf, modelDocument]
  split
  all_goals simp_all [List.lookup_append, lookup_entry]

/-- A model whose numbers fit is read back from its document. -/
theorem readModel_modelDocument {model : Model} (storable : model.Storable) :
    readModel (modelDocument model) = some model := by
  have shape : modelDocument model = .mapping (entriesOf (modelDocument model)) := rfl
  have distinct := (names_modelDocument model).nodup (by decide)
  have lookup := fun name => lookup_modelDocument name model
  generalize entriesOf (modelDocument model) = entries at shape distinct lookup
  have each : ∀ descriptor ∈ model.types,
      readDescriptor (descriptorDocument descriptor) = some descriptor := by
    intro descriptor present
    apply readDescriptor_descriptorDocument
    · intro member inMembers
      exact readMember_memberDocument (storable.indices descriptor present member inMembers)
    · intro variant inVariants
      exact readVariant_variantDocument (storable.values descriptor present variant inVariants)
  have moduleName : Fields.required ⟨entries⟩ "module" Reader.text = some model.moduleName :=
    Fields.required_of_lookup (lookup "module") rfl
  have space := Fields.optional_text (lookup "namespace")
  have types := Fields.required_of_lookup (lookup "types") (list_map each)
  change (fields? modelNames (modelDocument model)).bind _ = _
  rw [shape, fields?_mapping distinct, Option.bind_some]
  simp only [moduleName, space, types, Option.bind_eq_bind, Option.bind_some]
  rfl

/-! ## What documents are made of -/

section Entries

variable (property : Document → Prop) (texts : ∀ text, property (.text text))

include texts

theorem forall_optionalEntry (name : String) (value : Option String) :
    ∀ entry ∈ optionalEntry name value, property entry.2 := by
  cases value <;> simp [optionalEntry, texts]

theorem forall_memberDocument (marks : ∀ mark, property (.bool mark)) (member : Member) :
    (∀ entry ∈ entriesOf (memberDocument member), property entry.2) ↔
      property (accessDocument member.access) ∧ property (typeDocument member.type) ∧
        property (.integer member.index) := by
  have optional := forall_optionalEntry property texts
  have mark : ∀ name mark, ∀ entry ∈ markEntry name mark, property entry.2 := by
    intro name mark
    cases mark <;> simp [markEntry, marks]
  simp only [entriesOf, memberDocument, List.forall_mem_append, List.forall_mem_cons]
  grind

theorem forall_variantDocument (variant : Variant) :
    (∀ entry ∈ entriesOf (variantDocument variant), property entry.2) ↔
      ∀ value, variant.value = some value → property (.integer value) := by
  have optional := forall_optionalEntry property texts
  obtain ⟨name, label, value, description⟩ := variant
  cases value
  all_goals
    simp only [entriesOf, variantDocument, List.forall_mem_append, List.forall_mem_cons]
    grind

theorem forall_descriptorDocument (descriptor : Descriptor) :
    (∀ entry ∈ entriesOf (descriptorDocument descriptor), property entry.2) ↔
      property (.list (descriptor.members.map memberDocument)) ∧
        (descriptor.variants ≠ [] →
          property (.list (descriptor.variants.map variantDocument))) := by
  have optional := forall_optionalEntry property texts
  obtain ⟨name, space, table, kind, description, members, variants⟩ := descriptor
  cases variants
  all_goals
    simp only [entriesOf, descriptorDocument, List.isEmpty_nil, List.isEmpty_cons, if_true,
      Bool.false_eq_true, if_false, List.forall_mem_append, List.forall_mem_cons]
    grind

theorem forall_modelDocument (model : Model) :
    (∀ entry ∈ entriesOf (modelDocument model), property entry.2) ↔
      property (.list (model.types.map descriptorDocument)) := by
  have optional := forall_optionalEntry property texts
  simp only [entriesOf, modelDocument, List.forall_mem_append, List.forall_mem_cons]
  grind

end Entries

/-! ## Exact documents -/

theorem exact_mapping_iff {entries : List (String × Document)} :
    Exact (.mapping entries) ↔ ∀ entry ∈ entries, Exact entry.2 := by
  change ExactEntries entries ↔ _
  induction entries with
  | nil => simp [ExactEntries]
  | cons entry rest inductionHypothesis => simp [ExactEntries, inductionHypothesis]

theorem exact_list_iff {items : List Document} :
    Exact (.list items) ↔ ∀ item ∈ items, Exact item := by
  change ExactItems items ↔ _
  induction items with
  | nil => simp [ExactItems]
  | cons item rest inductionHypothesis => simp [ExactItems, inductionHypothesis]

theorem exact_typeDocument (type : TypeRef) : Exact (typeDocument type) := by
  induction type with
  | array element inductionHypothesis => exact ⟨trivial, inductionHypothesis, trivial⟩
  | _ => exact ⟨trivial, trivial, trivial⟩

theorem exact_accessDocument (access : Access) : Exact (accessDocument access) := by
  cases access with
  | field => exact ⟨trivial, trivial⟩
  | property readable writable => exact ⟨trivial, trivial, trivial, trivial⟩

theorem exact_modelDocument {model : Model} (storable : model.Storable) :
    Exact (modelDocument model) := by
  have texts : ∀ text, Exact (.text text) := fun _ => trivial
  have marks : ∀ mark, Exact (.bool mark) := fun _ => trivial
  refine exact_mapping_iff.mpr ((forall_modelDocument Exact texts model).mpr ?_)
  rw [exact_list_iff, List.forall_mem_map]
  intro descriptor present
  refine exact_mapping_iff.mpr ((forall_descriptorDocument Exact texts descriptor).mpr ⟨?_, ?_⟩)
  · rw [exact_list_iff, List.forall_mem_map]
    intro member inMembers
    refine exact_mapping_iff.mpr ((forall_memberDocument Exact texts marks member).mpr ?_)
    have stored := storable.indices descriptor present member inMembers
    exact ⟨exact_accessDocument _, exact_typeDocument _,
      contains_of_within (by decide) (by decide) stored⟩
  · intro _
    rw [exact_list_iff, List.forall_mem_map]
    intro variant inVariants
    refine exact_mapping_iff.mpr ((forall_variantDocument Exact texts variant).mpr ?_)
    intro value given
    have stored := storable.values descriptor present variant inVariants value given
    exact contains_of_within (by decide) (by decide) stored

/-! ## Depth of the document -/

theorem nesting_mapping_le {entries : List (String × Document)} {bound : Nat} :
    nesting (.mapping entries) ≤ bound + 1 ↔ ∀ entry ∈ entries, nesting entry.2 ≤ bound := by
  rw [nesting, Nat.add_le_add_iff_right]
  induction entries with
  | nil => simp [entriesNesting]
  | cons entry rest inductionHypothesis =>
      rw [entriesNesting, Nat.max_le, inductionHypothesis, List.forall_mem_cons]

theorem nesting_list_le {items : List Document} {bound : Nat} :
    nesting (.list items) ≤ bound + 1 ↔ ∀ item ∈ items, nesting item ≤ bound := by
  rw [nesting, Nat.add_le_add_iff_right]
  induction items with
  | nil => simp [itemsNesting]
  | cons item rest inductionHypothesis =>
      rw [itemsNesting, Nat.max_le, inductionHypothesis, List.forall_mem_cons]

/-- The number of arrays around the innermost element of a type. -/
def arrayNesting : TypeRef → Nat
  | .array element => arrayNesting element + 1
  | _ => 0

theorem nesting_typeDocument (type : TypeRef) :
    nesting (typeDocument type) = arrayNesting type + 1 := by
  induction type with
  | array element inductionHypothesis =>
      simp [typeDocument, nesting, entriesNesting, arrayNesting, inductionHypothesis]
  | _ => rfl

theorem nesting_accessDocument (access : Access) : nesting (accessDocument access) = 1 := by
  cases access <;> rfl

theorem nesting_memberDocument_le {member : Member} {bound : Nat} :
    nesting (memberDocument member) ≤ bound + 2 ↔ arrayNesting member.type ≤ bound := by
  have flat := forall_memberDocument (nesting · ≤ bound + 1) (fun _ => Nat.zero_le _)
    (fun _ => Nat.zero_le _) member
  refine (nesting_mapping_le.trans flat).trans ?_
  have scalar : nesting (.integer member.index) = 0 := rfl
  rw [nesting_accessDocument, nesting_typeDocument, scalar]
  omega

theorem nesting_variantDocument (variant : Variant) : nesting (variantDocument variant) ≤ 1 := by
  have flat := forall_variantDocument (nesting · ≤ 0) (fun _ => Nat.le_refl 0) variant
  exact (nesting_mapping_le.trans flat).mpr fun _ _ => Nat.le_refl 0

theorem nesting_descriptorDocument_le {descriptor : Descriptor} {bound : Nat} :
    nesting (descriptorDocument descriptor) ≤ bound + 4 ↔
      ∀ member ∈ descriptor.members, arrayNesting member.type ≤ bound := by
  have flat := forall_descriptorDocument (nesting · ≤ bound + 3) (fun _ => Nat.zero_le _) descriptor
  refine (nesting_mapping_le.trans flat).trans ?_
  have shallow : nesting (.list (descriptor.variants.map variantDocument)) ≤ bound + 3 := by
    rw [nesting_list_le, List.forall_mem_map]
    intro variant _
    exact Nat.le_trans (nesting_variantDocument variant) (by omega)
  rw [nesting_list_le, List.forall_mem_map]
  simp only [nesting_memberDocument_le, shallow, implies_true, and_true]

/-- Six lists and mappings are open around what an array type of a member is made of. -/
theorem nesting_modelDocument_le {model : Model} {bound : Nat} :
    nesting (modelDocument model) ≤ bound + 6 ↔
      ∀ descriptor ∈ model.types, ∀ member ∈ descriptor.members,
        arrayNesting member.type ≤ bound := by
  have flat := forall_modelDocument (nesting · ≤ bound + 5) (fun _ => Nat.zero_le _) model
  refine (nesting_mapping_le.trans flat).trans ?_
  rw [nesting_list_le, List.forall_mem_map]
  simp only [nesting_descriptorDocument_le]

/-! ## Reading a manifest back -/

/-- No type of a member is an array that nests deeper than a reader of manifests goes. -/
def Model.Shallow (model : Model) : Prop :=
  ∀ descriptor ∈ model.types, ∀ member ∈ descriptor.members, arrayNesting member.type ≤ 121

/-- The text of a model is read back into the model exactly when its types are shallow, and is
refused otherwise. -/
theorem ofText?_toText {model : Model} (storable : model.Storable) :
    (model.Shallow → Model.ofText? model.toText = some model) ∧
      (¬ model.Shallow → Model.ofText? model.toText = none) := by
  have read := read?_pretty (exact_modelDocument storable)
  have depth : nesting (modelDocument model) ≤ nestingLimit ↔ model.Shallow :=
    nesting_modelDocument_le
  constructor
  · intro shallow
    rw [if_pos (depth.mpr shallow)] at read
    change (read? (pretty (modelDocument model) ++ "\n")).bind readModel = some model
    rw [read]
    exact readModel_modelDocument storable
  · intro deep
    rw [if_neg fun fits => deep (depth.mp fits)] at read
    change (read? (pretty (modelDocument model) ++ "\n")).bind readModel = none
    rw [read]
    rfl

end TypedTables.Manifest
