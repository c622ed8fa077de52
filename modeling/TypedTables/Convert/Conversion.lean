import TypedTables.Convert.Enumeration
import TypedTables.Convert.Scopes
import TypedTables.Text.Segments

/-!
# Conversion of cells

A raw cell becomes a value of a field's type by the first converter that takes it.  Lists and
records inside the text of a cell are cut at the separators for their depth.  A blank cell becomes
the zero of its type; a new record has the defaults of its table's columns.

Records nest in two ways, and each is bounded.  A record inside a cell uses up one more separator
of records.  A record that a new record holds in place counts as one more instance, of which only
so many may be begun inside each other.
-/

namespace TypedTables.Convert

open TypedTables.Schema TypedTables.Manifest TypedTables.Binding TypedTables.Text

/-- What a converter does. -/
inductive Converter
  | lists
  /-- Takes blank values, texts and records for a table. -/
  | records
  /-- Takes what a function of the value and the type takes. -/
  | custom (run : Value → TypeRef → Outcome (Option Value))

/-- A converter with its name and its rank; lower ranks come first. -/
structure RankedConverter where
  name : String
  rank : Int
  converter : Converter

/-- The converters that are asked in order before the last one, which takes everything. -/
structure Chain where
  converters : List RankedConverter := []

namespace Chain

/-- The chain with a converter added behind those of the same or a lower rank. -/
def register (chain : Chain) (converter : RankedConverter) : Chain :=
  let isBefore (other : RankedConverter) : Bool := other.rank ≤ converter.rank
  ⟨chain.converters.takeWhile isBefore ++ converter :: chain.converters.dropWhile isBefore⟩

def empty : Chain := {}

/-- The chain with the converters for lists and records. -/
def standard : Chain :=
  (empty.register ⟨"array", -10, .lists⟩).register ⟨"object", -5, .records⟩

def names (chain : Chain) : List String :=
  chain.converters.map (·.name) ++ ["default"]

end Chain

/-- What conversions look things up in. -/
structure Lookup where
  tables : TableSet
  catalog : Catalog
  separators : Separators
  chain : Chain := .standard
  providers : List Provider := []

/-- A conversion, which may collect members of types on its way, also when it fails. -/
abbrev Conversion (α : Type) := ExceptT Failure (StateM MemberCache) α

/-- Makes a new record of a table's type. -/
abbrev Fresh := Table → Conversion Value

/-- Converts a value inside some scopes. -/
abbrev ValueConversion := Scopes → Value → Conversion Value

def lift {α : Type} (outcome : Outcome α) : Conversion α :=
  match outcome with
  | .ok value => pure value
  | .error failure => throw failure

def membersFor (lookup : Lookup) (descriptor : Descriptor) : Conversion Members :=
  ExceptT.lift (cachedMembers lookup.providers descriptor)

/-- The zero of a type: an enumeration's is its first variant, a record held in place is a new
one, and other references are null. -/
def zeroOf (lookup : Lookup) (fresh : Fresh) (target : TypeRef) : Conversion Value :=
  match target with
  | .primitive type => pure (Value.zero type)
  | .array _ => pure (.array [])
  | .enumeration name =>
    match lookup.catalog.descriptor? name with
    | some descriptor =>
      match descriptor.variants with
      | variant :: _ => pure (.variant descriptor.fullName variant.name)
      | [] => pure .null
    | none => pure .null
  | .table name =>
    match lookup.tables.get? name with
    | some table => if table.kind = .inPlace then fresh table else pure .null
    | none => pure .null
  | .external _ => pure .null

/-- The last converter: it takes everything or fails. -/
def convertLast (lookup : Lookup) (fresh : Fresh) (target : TypeRef) (value : Value) :
    Conversion Value :=
  if value.isEmpty then zeroOf lookup fresh target
  else
    match target, value with
    | .primitive type, _ => lift (coercePrimitive value type)
    | .enumeration name, _ =>
      match lookup.catalog.descriptor? name with
      | some descriptor => lift (toVariant descriptor value)
      | none => throw (.unboundTable name)
    | .external _, _ => pure value
    | .table _, .record _ _ => pure value
    | .array _, .array _ => pure value
    | _, _ => throw (.coercion value.toText target.display)

/-- Converts a value into a list: a text is cut at the separator here, and any other single value
is the only item. -/
def convertList (lookup : Lookup) (field : Field) (element : ValueConversion) : ValueConversion :=
  fun scopes value => do
    if value.isEmpty then return .array []
    else
      match value with
      | .text text =>
        let inner := scopes.enter .array
        let separator ← lift (lookup.separators.separatorAt field inner)
        let items ← (split separator text).mapM fun part => element inner (.text part)
        return .array items
      | .array values => return .array (← values.mapM (element scopes))
      | scalar => return .array [← element scopes scalar]

/-- Writes the parts of a composite text to the members of a record, each to the member of its
column; an empty part leaves its member as it is. -/
def fillMembers (member : TypeRef → ValueConversion) (scopes : Scopes) (members : Members) :
    List (String × Field) → List (String × Value) → Conversion (List (String × Value))
  | [], entries => pure entries
  | (part, column) :: rest, entries =>
    match entryValue? column.name members with
    | some bound =>
      if part.isEmpty then fillMembers member scopes members rest entries
      else do
        let value ← member bound.type scopes (.text part)
        fillMembers member scopes members rest (setEntry bound.name value entries)
    | none => fillMembers member scopes members rest entries

/-- The failure that a composite text has more parts than its table has fields. -/
def tooManyParts (text : String) (table : Table) (parts : Nat) (separator : String) : Failure :=
  .coercionIn text table.name
    s!"{parts} parts for {table.fields.length} members, separator '{separator}'"

/-- Converts a composite text into a record of a table. -/
def convertText (lookup : Lookup) (fresh : Fresh) (field : Field)
    (member : TypeRef → ValueConversion) (table : Table) (descriptor : Descriptor)
    (scopes : Scopes) (text : String) :
    Conversion Value := do
  let seeded ← fresh table
  let members ← membersFor lookup descriptor
  let inner := scopes.enter .object
  let separator ← lift (lookup.separators.separatorAt field inner)
  let parts := split separator text
  if table.fields.length < parts.length then
    throw (tooManyParts text table parts.length separator)
  else
    match seeded with
    | .record name entries =>
      return .record name (← fillMembers member inner members (parts.zip table.serialized) entries)
    | other => return other

/-- Converts a value for a table, if it is blank, a text or a record.  A blank value is null where
the table is held by reference, except in a list, and else a new record. -/
def convertRecord (lookup : Lookup) (fresh : Fresh) (field : Field)
    (member : TypeRef → ValueConversion) (name : String) (scopes : Scopes) (value : Value) :
    Conversion (Option Value) :=
  match lookup.tables.get? name with
  | none => pure none
  | some table =>
    match lookup.catalog.descriptor? table.name with
    | none => pure none
    | some descriptor =>
      if value.isEmpty then
        if table.kind = .reference && scopes.innermost? != some .array then pure (some .null)
        else some <$> fresh table
      else
        match value with
        | .record _ _ => pure (some value)
        | .text text => some <$> convertText lookup fresh field member table descriptor scopes text
        | _ => pure none

/-- Asks the converters of a chain in order, given the conversion of list items and of members. -/
def askConverters (lookup : Lookup) (fresh : Fresh) (field : Field) (element : ValueConversion)
    (member : TypeRef → ValueConversion) (target : TypeRef) : List RankedConverter → ValueConversion
  | [], _, value => convertLast lookup fresh target value
  | ranked :: rest, scopes, value => do
    let taken ← match ranked.converter, target with
      | .lists, .array _ => some <$> convertList lookup field element scopes value
      | .records, .table name => convertRecord lookup fresh field member name scopes value
      | .custom run, _ => lift (run value target)
      | _, _ => pure none
    match taken with
    | some result => return result
    | none => askConverters lookup fresh field element member target rest scopes value

/-- Converts a value into a type, given the conversion of the members of records inside it. -/
def convertTo (lookup : Lookup) (fresh : Fresh) (field : Field)
    (member : TypeRef → ValueConversion) : TypeRef → ValueConversion
  | .array element =>
    askConverters lookup fresh field (convertTo lookup fresh field member element) member
      (.array element) lookup.chain.converters
  | target =>
    askConverters lookup fresh field (fun _ value => pure value) member target
      lookup.chain.converters

/-- Converts a value into a type with so many levels of records inside a cell.  The separators of
records are used up where no level is left. -/
def convertLevels (lookup : Lookup) (fresh : Fresh) (field : Field) :
    Nat → TypeRef → ValueConversion
  | 0 => convertTo lookup fresh field fun _ _ value => pure value
  | levels + 1 => convertTo lookup fresh field (convertLevels lookup fresh field levels)

/-- Converts a value into a type, for a field and inside some scopes. -/
def changeType (lookup : Lookup) (fresh : Fresh) (field : Field) (target : TypeRef) :
    ValueConversion :=
  fun scopes value =>
    let levels := (lookup.separators.listFor field .object).length - scopes.objectDepth
    convertLevels lookup fresh field levels target scopes value

/-- Converts a cell, of which the field's default takes the place when it is blank. -/
def changeTypeOrDefault (lookup : Lookup) (fresh : Fresh) (field : Field) (target : TypeRef) :
    ValueConversion :=
  fun scopes value =>
    match field.default with
    | some default =>
      changeType lookup fresh field target scopes (if value.isEmpty then default else value)
    | none => changeType lookup fresh field target scopes value

/-- The value that a member of a new record has: its column's default, converted as a cell of its
own, or else the zero of its type. -/
def seedMember (lookup : Lookup) (fresh : Fresh) (table : Table) (member : BoundMember) :
    Conversion Value :=
  match table.field? member.name with
  | some column =>
    if column.default.isSome then
      changeTypeOrDefault lookup fresh column member.type {} .null
    else zeroOf lookup fresh member.type
  | none => zeroOf lookup fresh member.type

/-- Gives every member of a new record its value. -/
def seedMembers (lookup : Lookup) (fresh : Fresh) (table : Table) :
    Members → List (String × Value) → Conversion (List (String × Value))
  | [], entries => pure entries
  | (_, member) :: rest, entries => do
    let value ← seedMember lookup fresh table member
    seedMembers lookup fresh table rest (setEntry member.name value entries)

/-- Makes a new record of a table's type while so many instances may still be begun. -/
def instantiate (lookup : Lookup) : (room : Nat) → Fresh
  | room, table => do
    match lookup.catalog.descriptor? table.name with
    | none => throw (.unboundTable table.name)
    | some descriptor =>
      let members ← membersFor lookup descriptor
      match room with
      | 0 => throw (.containsItself descriptor.name)
      | room + 1 =>
        let entries ← seedMembers lookup (instantiate lookup room) table members []
        return .record descriptor.fullName entries

/-- The number of instances that may be begun inside each other. -/
def instanceLimit : Nat := 64

namespace Lookup

def fresh (lookup : Lookup) : Fresh :=
  instantiate lookup instanceLimit

/-- Converts a value into a type, for a field and inside some scopes. -/
def convert (lookup : Lookup) (field : Field) (target : TypeRef) : ValueConversion :=
  changeType lookup lookup.fresh field target

/-- Converts a cell, of which the field's default takes the place when it is blank. -/
def convertCell (lookup : Lookup) (field : Field) (target : TypeRef) : ValueConversion :=
  changeTypeOrDefault lookup lookup.fresh field target

def zero (lookup : Lookup) (target : TypeRef) : Conversion Value :=
  zeroOf lookup lookup.fresh target

end Lookup

end TypedTables.Convert
