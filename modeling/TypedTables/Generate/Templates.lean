import TypedTables.Generate.Declaration
import TypedTables.Template.Render
import TypedTables.Failure

/-!
# Templates of generated code

Three templates make the generated texts: one declares a type, one holds the declarations together
as a module, and one describes a package.  The first two can be replaced.
-/

namespace TypedTables.Generate

def slot (key : String) : Template.Node :=
  .insert (.place { keys := [key] })

/-- Fills in the value of a key of the table's look-up. -/
def indexSlot (key : String) : Template.Node :=
  .insert (.place { keys := ["index", key] })

def itself : Template.Node :=
  .insert (.place { keys := [] })

def forEach (key : String) (body : List Template.Node) : Template.Node :=
  .block { name := "each", arguments := [.place { keys := [key] }] } body none

/-- Renders parts if the value under a key is true. -/
def onlyIf (key : String) (body : List Template.Node) : Template.Node :=
  .block { name := "if", arguments := [.place { keys := [key] }] } body none

/-- Renders some parts if the value under a key is true, and else others. -/
def choose (key : String) (body otherwise : List Template.Node) : Template.Node :=
  .block { name := "if", arguments := [.place { keys := [key] }] } body (some otherwise)

def firstOnly (body : List Template.Node) : Template.Node :=
  .block { name := "if", arguments := [.place { isVariable := true, keys := ["first"] }] } body none

def docComments (margin : String) : Template.Node :=
  forEach "doc" [.text (margin ++ "/// "), itself, .text "\n"]

def serializedAttribute : String :=
  "#[cfg_attr(feature = \"serde\", derive(serde::Serialize, serde::Deserialize))]\n"

/-- The declaration of an enumeration; its first variant is the default. -/
def enumerationParts : List Template.Node := [
  .text ("#[derive(Debug, Clone, Copy, PartialEq, Eq, Hash, PartialOrd, Ord, Default)]\n" ++
    serializedAttribute),
  onlyIf "repr" [.text "#[repr(i64)]\n"],
  .text "pub enum ", slot "name", .text " \x7b\n",
  forEach "variants" [
    docComments "    ",
    firstOnly [.text "    #[default]\n"],
    choose "has_value"
      [.text "    ", slot "ident", .text " = ", slot "value", .text ",\n"]
      [.text "    ", slot "ident", .text ",\n"]],
  .text "\x7d\n"]

def indexParts : List Template.Node := [
  .text "\nimpl ", slot "name", .text " \x7b\n    /// Rows keyed by `", indexSlot "column",
  .text "`\n    pub fn ", indexSlot "method",
  .text "(rows: &[Self]) -> std::collections::HashMap<", indexSlot "key_type",
  .text ", &Self> \x7b\n        rows.iter().map(|row| (row.", indexSlot "ident",
  .text ".clone(), row)).collect()\n    \x7d\n\x7d\n"]

/-- The declaration of a record; each member is serialized under the name of its column. -/
def recordParts : List Template.Node := [
  .text ("#[derive(Debug, Clone, PartialEq, Default)]\n" ++ serializedAttribute ++
    "#[cfg_attr(feature = \"serde\", serde(default))]\npub struct "),
  slot "name", .text " \x7b\n",
  forEach "members" [
    docComments "    ",
    .text "    #[cfg_attr(feature = \"serde\", serde(rename = \"", slot "rename",
    .text "\"))]\n    pub ", slot "ident", .text ": ", slot "rust_type", .text ",\n"],
  .text "\x7d\n",
  onlyIf "index" indexParts]

def typeParts : List Template.Node := [
  docComments "", choose "is_enum" enumerationParts recordParts]

/-- The template of the module, with the declarations in it or in files of their own. -/
def moduleParts : List Template.Node := [
  .text "// @generated by tablegen from module `", slot "module",
  .text "`. Do not edit.\n#![allow(dead_code, clippy::all)]\n",
  choose "bundle"
    [forEach "namespace" [.text "pub mod ", itself, .text " \x7b\n"],
      .text "\n",
      forEach "sources" [itself, .text "\n"],
      forEach "namespace" [.text "\x7d\n"]]
    [.text "\n",
      forEach "files" [.text "mod ", itself, .text ";\npub use self::", itself, .text "::*;\n"]]]

def packageParts : List Template.Node := [
  .text ("# @generated by tablegen once; edit freely, it is never overwritten.\n[package]\n" ++
    "name = \""),
  slot "crate_name", .text "\"\nversion = \"0.1.0\"\nedition = \"", slot "edition",
  .text ("\"\npublish = false\n\n[lib]\npath = \"mod.rs\"\n\n[features]\n" ++
    "default = [\"serde\"]\nserde = [\"dep:serde\"]\n\n[dependencies]\n" ++
    "serde = \x7b version = \"1.0\", features = [\"derive\"], optional = true \x7d\n")]

/-- A template and the name that failures give it. -/
structure NamedTemplate where
  name : String
  nodes : List Template.Node
  deriving Repr

namespace NamedTemplate

def ofText (name text : String) : Outcome NamedTemplate :=
  match Template.read? text with
  | some nodes => .ok ⟨name, nodes⟩
  | none => .error (.invalidTemplate name)

def render (template : NamedTemplate) (data : Document) : Outcome String :=
  match Template.render? template.nodes data with
  | some text => .ok text
  | none => .error (.renderingFailed template.name)

end NamedTemplate

/-- The three templates. -/
structure Templates where
  type : NamedTemplate
  index : NamedTemplate
  package : NamedTemplate
  deriving Repr

/-- What the template of the module is filled in with. -/
structure ModuleIndex where
  moduleName : String
  /-- Whether the declarations stand in the module itself. -/
  isBundle : Bool
  /-- The namespaces around the declarations, the outermost first. -/
  spaces : List String := []
  /-- The declarations that stand in the module itself. -/
  sources : List String := []
  /-- The names of the files that hold the declarations otherwise. -/
  files : List String := []

def ModuleIndex.document (index : ModuleIndex) : Document :=
  .mapping [("module", .text index.moduleName), ("bundle", .bool index.isBundle),
    ("namespace", textsDocument index.spaces), ("sources", textsDocument index.sources),
    ("files", textsDocument index.files)]

namespace Templates

/-- The built-in template, or else the one of a text. -/
def orBuiltIn (name : String) (parts : List Template.Node) (text : Option String) :
    Outcome NamedTemplate :=
  match text with
  | some written => NamedTemplate.ofText name written
  | none => .ok ⟨name, parts⟩

/-- The three templates, given the texts that replace the first two. -/
def ofTexts (type index : Option String) : Outcome Templates := do
  return {
    type := ← orBuiltIn "type" typeParts type
    index := ← orBuiltIn "index" moduleParts index
    package := ⟨"manifest", packageParts⟩ }

def renderType (templates : Templates) (declaration : Declaration) : Outcome String :=
  templates.type.render declaration.document

def renderIndex (templates : Templates) (index : ModuleIndex) : Outcome String :=
  templates.index.render index.document

def renderPackage (templates : Templates) (crateName edition : String) : Outcome String :=
  templates.package.render (.mapping [("crate_name", .text crateName), ("edition", .text edition)])

end Templates

end TypedTables.Generate
