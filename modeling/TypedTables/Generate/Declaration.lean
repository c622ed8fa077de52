import TypedTables.Document
import TypedTables.Text.Segments

/-!
# Declarations

What templates are told about a generated type.  A declaration is handed to them as a document.
-/

namespace TypedTables.Generate

/-- A member in the generated code. -/
structure MemberDeclaration where
  name : String
  column : String
  /-- The type as the generated code writes it. -/
  type : String
  doc : List String
  deriving Repr, DecidableEq

/-- A variant in the generated code. -/
structure VariantDeclaration where
  name : String
  label : String
  value : Option Int
  doc : List String
  deriving Repr, DecidableEq

/-- A look-up of rows by their key. -/
structure IndexDeclaration where
  method : String
  member : String
  column : String
  /-- The key's type as the generated code writes it. -/
  type : String
  deriving Repr, DecidableEq

/-- A generated type. -/
structure Declaration where
  name : String
  table : String
  isEnum : Bool
  doc : List String
  members : List MemberDeclaration := []
  variants : List VariantDeclaration := []
  index : Option IndexDeclaration := none
  /-- Whether it is the first type of the module. -/
  isFirst : Bool
  moduleName : String
  space : Option String
  deriving Repr, DecidableEq

/-- The lines of a description, without blank ends and without empty lines. -/
def docLines (description : Option String) : List String :=
  match description with
  | none => []
  | some text => ((Text.lines text).map Text.trimEnd).filter (!·.isEmpty)

def textsDocument (texts : List String) : Document :=
  .list (texts.map .text)

def MemberDeclaration.document (member : MemberDeclaration) : Document :=
  .mapping [("ident", .text member.name), ("rename", .text member.column),
    ("rust_type", .text member.type), ("doc", textsDocument member.doc)]

/-- The document of a variant; one without a value of its own has the value zero. -/
def VariantDeclaration.document (variant : VariantDeclaration) : Document :=
  .mapping [("ident", .text variant.name), ("label", .text variant.label),
    ("has_value", .bool variant.value.isSome), ("value", .integer (variant.value.getD 0)),
    ("doc", textsDocument variant.doc)]

def IndexDeclaration.document (index : IndexDeclaration) : Document :=
  .mapping [("method", .text index.method), ("ident", .text index.member),
    ("column", .text index.column), ("key_type", .text index.type)]

namespace Declaration

/-- Whether a variant has a value of its own, so that the representation is fixed. -/
def hasValues (declaration : Declaration) : Bool :=
  declaration.variants.any (·.value.isSome)

def document (declaration : Declaration) : Document :=
  .mapping [("name", .text declaration.name), ("table", .text declaration.table),
    ("is_enum", .bool declaration.isEnum), ("doc", textsDocument declaration.doc),
    ("members", .list (declaration.members.map (·.document))),
    ("variants", .list (declaration.variants.map (·.document))),
    ("repr", .bool declaration.hasValues),
    ("index", (declaration.index.map (·.document)).getD .null),
    ("first", .bool declaration.isFirst), ("module", .text declaration.moduleName),
    ("namespace", (declaration.space.map Document.text).getD .null)]

end Declaration

end TypedTables.Generate
