import TypedTables.Convert.Coerce
import TypedTables.Keyword.Token
import TypedTables.Schema.Table

/-!
# Effects of keywords

A keyword marks the table or one of its fields, or overrides a property of the field.  Words that
mean nothing are passed over.  The first parameter that cannot be used ends a cell, and what the
words before it did stays done.
-/

namespace TypedTables.Keyword

open TypedTables.Schema TypedTables.Text

/-- A table and the field that a keyword cell belongs to. -/
structure Subject where
  table : Table
  field : Field
  deriving Repr

namespace Subject

/-- The subject with the marks of its table changed. -/
def mark (subject : Subject) (change : TableFlags → TableFlags) : Subject :=
  { subject with table := { subject.table with flags := change subject.table.flags } }

def edit (subject : Subject) (change : Field → Field) : Subject :=
  { subject with field := change subject.field }

end Subject

/-- The primitive type of a field, if it has one. -/
def primitive? (field : Field) : Option Primitive :=
  match field.type with
  | some (.primitive type) => some type
  | _ => none

/-- The value that a default keyword gives to a field: at once a value of its type when that is
primitive, else the bare text for a later conversion. -/
def defaultValue (field : Field) (parameter : String) : Outcome Value :=
  if asciiLower (trim parameter) == "null" then
    .ok (((primitive? field).map Value.zero).getD .null)
  else
    match primitive? field with
    | none => .ok (Value.ofText parameter)
    | some type =>
      match Convert.coercePrimitive (Value.ofText parameter) type with
      | .ok value => .ok value
      | .error cause => .error (.invalidDefault field.name cause)

/-- The serialization index that a parameter writes. -/
def indexValue (subject : Subject) (parameter : String) : Outcome Nat :=
  match Number.readNatBelow? (Number.powerOfTwo 64) (trim parameter) with
  | some index => .ok index
  | none => .error (.indexNotNumber subject.table.name subject.field.name parameter)

def applyToken (subject : Subject) (token : Token) : Outcome Subject :=
  let parameter := token.parameter.getD ""
  match token.word with
  | "enum" => .ok (subject.mark fun flags => { flags with isEnum := true })
  | "class" => .ok (subject.mark fun flags => { flags with isClass := true })
  | "struct" => .ok (subject.mark fun flags => { flags with isStruct := true })
  | "nodata" => .ok (subject.mark fun flags => { flags with noData := true })
  | "key" => .ok (subject.edit fun field => { field with isKey := true })
  | "exclude" => .ok (subject.edit fun field => { field with isExcluded := true })
  | "arr_sep" => .ok (subject.edit fun field => { field with arraySeparators := words parameter })
  | "obj_sep" => .ok (subject.edit fun field => { field with objectSeparators := words parameter })
  | "index" => do
    let index ← indexValue subject parameter
    return subject.edit fun field => { field with index }
  | "client" => .ok (subject.edit fun field => field.addTag "client")
  | "server" => .ok (subject.edit fun field => field.addTag "server")
  | "tag" =>
    let tag := lowercase (trim parameter)
    .ok (if tag.isEmpty then subject else subject.edit fun field => field.addTag tag)
  | "default" => do
    let value ← defaultValue subject.field parameter
    return subject.edit fun field => { field with default := some value }
  | _ => .ok subject

/-- Applies words in order up to the first failure: what was reached, and the failure. -/
def applyTokens (subject : Subject) : List Token → Subject × Option Failure
  | [] => (subject, none)
  | token :: rest =>
    match applyToken subject token with
    | .ok next => applyTokens next rest
    | .error failure => (subject, some failure)

def applyCell (subject : Subject) (text : String) : Subject × Option Failure :=
  applyTokens subject (tokens text)

end TypedTables.Keyword
