import TypedTables.Records

/-!
# Conversions in a context

A context keeps the open scopes, the number of instances that are begun and the members collected
so far.  Conversions in a context change it as they go: a scope is opened in front of a body and
closed behind it, a body can be detached from the open scopes, and an instance is counted while its
members get their values.
-/

namespace TypedTables.Convert

open TypedTables.Schema TypedTables.Manifest TypedTables.Binding TypedTables.Text
open TypedTables.Discover

/-- What conversions share. -/
structure Context where
  scopes : Scopes := {}
  /-- The instances that are begun inside each other. -/
  instances : Nat := 0
  members : MemberCache := []

/-- A conversion that reads and changes its context, also when it fails. -/
abbrev Step (α : Type) := ExceptT Failure (StateM Context) α

/-- Makes a new record of a table's type. -/
abbrev FreshStep := Table → Step Value

/-- Converts a value. -/
abbrev ValueStep := Value → Step Value

namespace Step

variable {α : Type}

def lift (outcome : Outcome α) : Step α :=
  match outcome with
  | .ok value => pure value
  | .error failure => throw failure

def openScopes : Step Scopes :=
  return (← get).scopes

/-- Runs a body between two changes of the context, of which the second comes behind a failure of
the body, too. -/
def between (before after : Context → Context) (body : Step α) : Step α :=
  .mk do
    modify before
    let outcome ← body.run
    modify after
    return outcome

/-- Runs a body inside a new scope. -/
def withScope (kind : ScopeKind) (body : Step α) : Step α :=
  between (fun context => { context with scopes := context.scopes.enter kind })
    (fun context => { context with scopes := context.scopes.leave kind }) body

/-- Runs a body as if no scope were open. -/
def detached (body : Step α) : Step α := do
  let scopes ← openScopes
  between ({ · with scopes := {} }) ({ · with scopes }) body

/-- Runs a body as one more instance of a type. -/
def asInstance (typeName : String) (body : Step α) : Step α := do
  if (← get).instances + 1 > instanceLimit then throw (.containsItself typeName)
  else
    between (fun context => { context with instances := context.instances + 1 })
      (fun context => { context with instances := context.instances - 1 }) body

/-- The separator for the innermost open scope. -/
def separator (lookup : Lookup) (field : Field) : Step String := do
  lift (lookup.separators.separatorAt field (← openScopes))

def membersFor (lookup : Lookup) (descriptor : Descriptor) : Step Members :=
  modifyGet fun context =>
    let (members, collected) := cachedMembers lookup.providers descriptor context.members
    (members, { context with members := collected })

/-! ## Converters -/

def zeroOf (lookup : Lookup) (fresh : FreshStep) (target : TypeRef) : Step Value :=
  match target with
  | .primitive type => pure (Value.zero type)
  | .array _ => pure (.array [])
  | .enumeration name =>
    match lookup.catalog.descriptor? name with
    | some descriptor =>
      match descriptor.variants with
      | variant :: _ => pure (.variant descriptor.fullName variant.name)
      | [] => pure .null
    | none => pure .null
  | .table name =>
    match lookup.tables.get? name with
    | some table => if table.kind = .inPlace then fresh table else pure .null
    | none => pure .null
  | .external _ => pure .null

def convertLast (lookup : Lookup) (fresh : FreshStep) (target : TypeRef) : ValueStep :=
  fun value =>
    if value.isEmpty then zeroOf lookup fresh target
    else
      match target, value with
      | .primitive type, _ => lift (coercePrimitive value type)
      | .enumeration name, _ =>
        match lookup.catalog.descriptor? name with
        | some descriptor => lift (toVariant descriptor value)
        | none => throw (.unboundTable name)
      | .external _, _ => pure value
      | .table _, .record _ _ => pure value
      | .array _, .array _ => pure value
      | _, _ => throw (.coercion value.toText target.display)

def convertList (lookup : Lookup) (field : Field) (element : ValueStep) : ValueStep :=
  fun value => do
    if value.isEmpty then return .array []
    else
      match value with
      | .text text =>
        let items ← withScope .array do
          let separator ← separator lookup field
          (split separator text).mapM fun part => element (.text part)
        return .array items
      | .array values => return .array (← values.mapM element)
      | scalar => return .array [← element scalar]

def fillMembers (member : TypeRef → ValueStep) (members : Members) :
    List (String × Field) → List (String × Value) → Step (List (String × Value))
  | [], entries => pure entries
  | (part, column) :: rest, entries =>
    match entryValue? column.name members with
    | some bound =>
      if part.isEmpty then fillMembers member members rest entries
      else do
        let value ← member bound.type (.text part)
        fillMembers member members rest (setEntry bound.name value entries)
    | none => fillMembers member members rest entries

def convertText (lookup : Lookup) (fresh : FreshStep) (field : Field)
    (member : TypeRef → ValueStep) (table : Table) (descriptor : Descriptor) (text : String) :
    Step Value := do
  let seeded ← fresh table
  let members ← membersFor lookup descriptor
  withScope .object do
    let separator ← separator lookup field
    let parts := split separator text
    if table.fields.length < parts.length then
      throw (tooManyParts text table parts.length separator)
    else
      match seeded with
      | .record name entries =>
        return .record name (← fillMembers member members (parts.zip table.serialized) entries)
      | other => return other

def convertRecord (lookup : Lookup) (fresh : FreshStep) (field : Field)
    (member : TypeRef → ValueStep) (name : String) (value : Value) : Step (Option Value) :=
  match lookup.tables.get? name with
  | none => pure none
  | some table =>
    match lookup.catalog.descriptor? table.name with
    | none => pure none
    | some descriptor =>
      if value.isEmpty then do
        if table.kind = .reference && (← openScopes).innermost? != some .array then
          return some .null
        else some <$> fresh table
      else
        match value with
        | .record _ _ => pure (some value)
        | .text text => some <$> convertText lookup fresh field member table descriptor text
        | _ => pure none

/-- What one converter of a chain takes. -/
def takenBy (lookup : Lookup) (fresh : FreshStep) (field : Field) (element : ValueStep)
    (member : TypeRef → ValueStep) (target : TypeRef) (converter : Converter) (value : Value) :
    Step (Option Value) :=
  match converter, target with
  | .lists, .array _ => some <$> convertList lookup field element value
  | .records, .table name => convertRecord lookup fresh field member name value
  | .custom run, _ => lift (run value target)
  | _, _ => pure none

def askConverters (lookup : Lookup) (fresh : FreshStep) (field : Field) (element : ValueStep)
    (member : TypeRef → ValueStep) (target : TypeRef) : List RankedConverter → ValueStep
  | [], value => convertLast lookup fresh target value
  | ranked :: rest, value => do
    match ← takenBy lookup fresh field element member target ranked.converter value with
    | some result => return result
    | none => askConverters lookup fresh field element member target rest value

def convertTo (lookup : Lookup) (fresh : FreshStep) (field : Field)
    (member : TypeRef → ValueStep) : TypeRef → ValueStep
  | .array element =>
    askConverters lookup fresh field (convertTo lookup fresh field member element) member
      (.array element) lookup.chain.converters
  | target => askConverters lookup fresh field pure member target lookup.chain.converters

def convertLevels (lookup : Lookup) (fresh : FreshStep) (field : Field) :
    Nat → TypeRef → ValueStep
  | 0 => convertTo lookup fresh field fun _ => pure
  | levels + 1 => convertTo lookup fresh field (convertLevels lookup fresh field levels)

/-! ## Conversions -/

def changeType (lookup : Lookup) (fresh : FreshStep) (field : Field) (target : TypeRef) :
    ValueStep :=
  fun value => do
    let depth := (← openScopes).objectDepth
    let levels := (lookup.separators.listFor field .object).length - depth
    convertLevels lookup fresh field levels target value

def changeTypeOrDefault (lookup : Lookup) (fresh : FreshStep) (field : Field) (target : TypeRef) :
    ValueStep :=
  fun value =>
    match field.default with
    | some default =>
      changeType lookup fresh field target (if value.isEmpty then default else value)
    | none => changeType lookup fresh field target value

def seedMember (lookup : Lookup) (fresh : FreshStep) (table : Table) (member : BoundMember) :
    Step Value :=
  match table.field? member.name with
  | some column =>
    if column.default.isSome then
      detached (changeTypeOrDefault lookup fresh column member.type .null)
    else zeroOf lookup fresh member.type
  | none => zeroOf lookup fresh member.type

def seedMembers (lookup : Lookup) (fresh : FreshStep) (table : Table) :
    Members → List (String × Value) → Step (List (String × Value))
  | [], entries => pure entries
  | (_, member) :: rest, entries => do
    let value ← seedMember lookup fresh table member
    seedMembers lookup fresh table rest (setEntry member.name value entries)

/-- Makes a new record of a table's type.  The number of nested calls that are left is at least the
number of instances that may still be begun, and the limit of instances is met first. -/
def instantiate (lookup : Lookup) : (calls : Nat) → FreshStep
  | calls, table => do
    match lookup.catalog.descriptor? table.name with
    | none => throw (.unboundTable table.name)
    | some descriptor =>
      let members ← membersFor lookup descriptor
      asInstance descriptor.name do
        match calls with
        | 0 => throw (.containsItself descriptor.name)
        | calls + 1 =>
          let entries ← seedMembers lookup (instantiate lookup calls) table members []
          return .record descriptor.fullName entries

def fresh (lookup : Lookup) : FreshStep :=
  instantiate lookup instanceLimit

/-! ## Rows -/

def reporting (change : Failure → Failure) (step : Step α) : Step α :=
  step.tryCatch fun failure => throw (change failure)

def convertMember (lookup : Lookup) (table : Table) (row : RawRow) (member : BoundMember) :
    Step Value :=
  match fieldPosition? table member with
  | none => zeroOf lookup (fresh lookup) member.type
  | some position =>
    match table.fields[position]? with
    | none => zeroOf lookup (fresh lookup) member.type
    | some field =>
      let value := row.cell position
      let context : CellContext := ⟨table.name, row.index, field, value, member.type⟩
      reporting context.report
        (changeTypeOrDefault lookup (fresh lookup) field member.type value)

def convertMembers (lookup : Lookup) (table : Table) (row : RawRow) :
    Members → List (String × Value) → Step (List (String × Value))
  | [], entries => pure entries
  | (_, member) :: rest, entries => do
    let value ← convertMember lookup table row member
    convertMembers lookup table row rest (setEntry member.name value entries)

def convertRow (lookup : Lookup) (table : Table) (descriptor : Descriptor) (members : Members)
    (row : RawRow) : Step Value := do
  return .record descriptor.fullName (← convertMembers lookup table row members [])

/-- Converts the rows that are read from a table into records of its type. -/
def loadRecords (lookup : Lookup) (table : Table) (rows : Outcome (List RawRow)) :
    Step (List Value) :=
  match lookup.catalog.descriptor? table.name with
  | none => throw (.unboundTable table.name)
  | some descriptor => do
    let members ← membersFor lookup descriptor
    (← lift rows).mapM (convertRow lookup table descriptor members)

end Step

/-! ## Calls -/

/-- A conversion that can be asked for. -/
inductive Call
  | changeType (field : Field) (value : Value) (target : TypeRef)
  | changeTypeOrDefault (field : Field) (value : Value) (target : TypeRef)
  | zeroValue (target : TypeRef)
  | instantiate (table : Table)

/-- What a call does in a context. -/
def Call.step (lookup : Lookup) : Call → Step Value
  | changeType field value target => Step.changeType lookup (Step.fresh lookup) field target value
  | changeTypeOrDefault field value target =>
    Step.changeTypeOrDefault lookup (Step.fresh lookup) field target value
  | zeroValue target => Step.zeroOf lookup (Step.fresh lookup) target
  | instantiate table => Step.fresh lookup table

/-- A new context after calls, of which some may have failed. -/
def Context.after (lookup : Lookup) (calls : List Call) : Context :=
  calls.foldl (fun context call => ((call.step lookup).run.run context).2) {}

end TypedTables.Convert
