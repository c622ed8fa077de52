import TypedTables.Document.Decode
import TypedTables.Json.Printer
import TypedTables.Json.Reader
import TypedTables.Manifest.Basic

/-!
# Manifests as documents

A manifest is written as pretty JSON and read back from it.  Absent texts, empty lists of variants
and false marks are left out, and a reader supplies them.
-/

namespace TypedTables.Manifest

open TypedTables.Schema TypedTables.Document

/-- An entry that is left out when there is no value. -/
def optionalEntry (name : String) (value : Option String) : List (String × Document) :=
  match value with
  | some written => [(name, .text written)]
  | none => []

/-- An entry that is left out when the mark is false. -/
def markEntry (name : String) (mark : Bool) : List (String × Document) :=
  if mark then [(name, .bool true)] else []

/-- The document of a type: its kind and what it is made of. -/
def typeDocument : TypeRef → Document
  | .primitive type =>
    .mapping [("kind", .text "primitive"), ("of", .text type.manifestName)]
  | .array element => .mapping [("kind", .text "array"), ("of", typeDocument element)]
  | .table name => .mapping [("kind", .text "table"), ("of", .text name)]
  | .enumeration name => .mapping [("kind", .text "enum"), ("of", .text name)]
  | .external name => .mapping [("kind", .text "external"), ("of", .text name)]

def accessDocument : Access → Document
  | .field => .mapping [("kind", .text "field")]
  | .property readable writable =>
    .mapping [
      ("kind", .text "property"), ("readable", .bool readable), ("writable", .bool writable)]

def memberDocument (member : Member) : Document :=
  .mapping <|
    [("name", .text member.name)] ++ optionalEntry "rename" member.rename ++
      [("kind", accessDocument member.access),
        ("visibility", .text (if member.isPrivate then "private" else "public"))] ++
      markEntry "synthesized" member.synthesized ++
      [("value_type", typeDocument member.type)] ++ markEntry "key" member.isKey ++
      [("serialization_index", .integer member.index)] ++
      optionalEntry "description" member.description

def variantDocument (variant : Variant) : Document :=
  .mapping <|
    [("name", .text variant.name), ("label", .text variant.label)] ++
      (match variant.value with
        | some value => [("value", .integer value)]
        | none => []) ++
      optionalEntry "description" variant.description

def descriptorDocument (descriptor : Descriptor) : Document :=
  .mapping <|
    [("name", .text descriptor.name)] ++ optionalEntry "namespace" descriptor.space ++
      [("table", .text descriptor.table), ("kind", .text descriptor.kind.name)] ++
      optionalEntry "description" descriptor.description ++
      [("members", .list (descriptor.members.map memberDocument))] ++
      if descriptor.variants.isEmpty then []
      else [("variants", .list (descriptor.variants.map variantDocument))]

def modelDocument (model : Model) : Document :=
  .mapping <|
    [("module", .text model.moduleName)] ++ optionalEntry "namespace" model.space ++
      [("types", .list (model.types.map descriptorDocument))]

def Model.toText (model : Model) : String :=
  Json.pretty (modelDocument model) ++ "\n"

/-- Makes a type of its kind and the document of what it is made of, given a reader for the types
inside it. -/
def typeOf (inner : Document.Reader TypeRef) (kind : String) (content : Document) :
    Option TypeRef :=
  match kind with
  | "primitive" => (Reader.named Primitive.ofManifestName? content).map .primitive
  | "array" => (inner content).map .array
  | "table" => (Reader.text content).map .table
  | "enum" => (Reader.text content).map .enumeration
  | "external" => (Reader.text content).map .external
  | _ => none

mutual

def readType : Document → Option TypeRef
  | .mapping entries =>
    if namesOnce ["kind", "of"] entries then do
      let kind ← Reader.text (← entries.lookup "kind")
      readContent kind entries
    else none
  | .list [kind, content] => do
    let word ← Reader.text kind
    typeOf (fun _ => readType content) word content
  | _ => none

/-- Reads the content of a type of a kind among the entries of a mapping. -/
def readContent (kind : String) : List (String × Document) → Option TypeRef
  | [] => none
  | (name, content) :: entries =>
    if name == "of" then typeOf (fun _ => readType content) kind content
    else readContent kind entries

end

/-- Reads a way to reach a member of a kind, given the document without the kind. -/
def accessOf (kind : String) (content : Document) : Option Access :=
  match kind with
  | "field" => some .field
  | "property" => do
    let fields ← fields? ["readable", "writable"] content
    return .property (← fields.required "readable" Reader.bool)
      (← fields.required "writable" Reader.bool)
  | _ => none

def readAccess (document : Document) : Option Access :=
  match document with
  | .list (kind :: rest) => do accessOf (← Reader.text kind) (.list rest)
  | other => do
    let tagged ← fields? ["kind"] other
    accessOf (← tagged.required "kind" Reader.text) other

def readVisibility : Document.Reader Bool :=
  Reader.named fun name =>
    if name == "public" then some false else if name == "private" then some true else none

def readMember (document : Document) : Option Member := do
  let fields ← fields? ["name", "rename", "kind", "visibility", "synthesized", "value_type", "key",
    "serialization_index", "description"] document
  return {
    name := ← fields.required "name" Reader.text
    rename := ← fields.optional "rename" Reader.text
    access := ← fields.required "kind" readAccess
    isPrivate := ← fields.withDefault "visibility" readVisibility false
    synthesized := ← fields.withDefault "synthesized" Reader.bool false
    type := ← fields.required "value_type" readType
    isKey := ← fields.withDefault "key" Reader.bool false
    index := ← fields.withDefault "serialization_index" Reader.natural 0
    description := ← fields.optional "description" Reader.text }

def readVariant (document : Document) : Option Variant := do
  let fields ← fields? ["name", "label", "value", "description"] document
  return {
    name := ← fields.required "name" Reader.text
    label := ← fields.required "label" Reader.text
    value := ← fields.optional "value" Reader.integer
    description := ← fields.optional "description" Reader.text }

def readDescriptor (document : Document) : Option Descriptor := do
  let fields ← fields? ["name", "namespace", "table", "kind", "description", "members",
    "variants"] document
  return {
    name := ← fields.required "name" Reader.text
    space := ← fields.optional "namespace" Reader.text
    table := ← fields.required "table" Reader.text
    kind := ← fields.required "kind" (Reader.named TableKind.ofName?)
    description := ← fields.optional "description" Reader.text
    members := ← fields.withDefault "members" (Reader.list readMember) []
    variants := ← fields.withDefault "variants" (Reader.list readVariant) [] }

def readModel (document : Document) : Option Model := do
  let fields ← fields? ["module", "namespace", "types"] document
  return {
    moduleName := ← fields.required "module" Reader.text
    space := ← fields.optional "namespace" Reader.text
    types := ← fields.required "types" (Reader.list readDescriptor) }

def Model.ofText? (text : String) : Option Model := do
  readModel (← Json.read? text)

end TypedTables.Manifest
