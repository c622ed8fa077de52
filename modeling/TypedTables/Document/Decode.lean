import TypedTables.Document
import TypedTables.Document.PlainScalar

/-!
# Reading values out of documents

A reader asks a document for a value of a type and refuses any other.  A record is read from a
mapping by the names of its fields, or from a list by their order; names that are not asked for
are passed over, and a field that is named twice is refused.
-/

namespace TypedTables.Document

open TypedTables.Number

/-- Asks a document for a value. -/
abbrev Reader (α : Type) := Document → Option α

namespace Reader

def text : Reader String
  | .text value => some value
  | .plain value => some value
  | _ => none

def bool : Reader Bool
  | .bool value => some value
  | .plain value => Plain.bool? value
  | _ => none

def integerIn (range : IntRange) : Reader Int
  | .integer value => if range.contains value then some value else none
  | .plain value =>
    let number := (Plain.natural? value).map Int.ofNat <|>
      (Plain.negative? value).map fun magnitude => -Int.ofNat magnitude
    number.filter range.contains
  | _ => none

def natural : Reader Nat := fun document =>
  (integerIn (.unsigned 64) document).map Int.toNat

def integer : Reader Int :=
  integerIn (.signed 64)

def optional {α : Type} (reader : Reader α) : Reader (Option α)
  | .null => some none
  | .plain value =>
    if value.isEmpty || Plain.isNull value then some none else (reader (.plain value)).map some
  | document => (reader document).map some

/-- A list of values; an empty plain scalar is the empty list. -/
def list {α : Type} (reader : Reader α) : Reader (List α)
  | .list items => items.mapM reader
  | .plain "" => some []
  | _ => none

def named {α : Type} (ofName? : String → Option α) : Reader α
  | .text name => ofName? name
  | .plain name => ofName? name
  | .mapping [(name, .null)] => ofName? name
  | _ => none

end Reader

/-- The fields of a record that a document gives, by name. -/
structure Fields where
  entries : List (String × Document)

/-- Whether no field of a record is named twice among entries. -/
def namesOnce (names : List String) (entries : List (String × Document)) : Bool :=
  names.all fun name => (entries.filter (·.1 == name)).length ≤ 1

/-- The fields that a document gives to a record with the given field names. -/
def fields? (names : List String) : Document → Option Fields
  | .mapping entries => if namesOnce names entries then some ⟨entries⟩ else none
  | .list items => if items.length ≤ names.length then some ⟨names.zip items⟩ else none
  | .plain "" => some ⟨[]⟩
  | _ => none

namespace Fields

def required {α : Type} (fields : Fields) (name : String) (reader : Document.Reader α) : Option α :=
  match fields.entries.lookup name with
  | some document => reader document
  | none => none

/-- A field that takes a value of its own when it is not given. -/
def withDefault {α : Type} (fields : Fields) (name : String) (reader : Document.Reader α)
    (default : α) : Option α :=
  match fields.entries.lookup name with
  | some document => reader document
  | none => some default

def optional {α : Type} (fields : Fields) (name : String) (reader : Document.Reader α) :
    Option (Option α) :=
  match fields.entries.lookup name with
  | some document => Reader.optional reader document
  | none => some none

end Fields

end TypedTables.Document
