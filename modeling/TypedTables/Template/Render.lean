import TypedTables.Template.Helper
import TypedTables.Template.Reader

/-!
# Rendering templates

A template is rendered inside frames, one for each block around the place that gives its text a
value of its own.  Rendering fails where a helper is not known or is not given what it needs, and
where a list is asked for a key.
-/

namespace TypedTables.Template

/-- The value that paths start from inside a block, what the block knows of its loop, and the names
that the block gives its values. -/
structure Frame where
  value : Document
  /-- The position in a loop and the like, by name. -/
  loopValues : List (String × Document) := []
  names : List (String × Document) := []

/-- The frames around a place, the innermost first, and the whole data. -/
structure Frames where
  inner : List Frame := []
  root : Document

namespace Frames

/-- The frame a number of levels further out; the outermost has the whole data. -/
def frame (frames : Frames) (levels : Nat) : Frame :=
  (frames.inner[levels]?).getD { value := frames.root }

def enter (frames : Frames) (frame : Frame) : Frames :=
  { frames with inner := frame :: frames.inner }

/-- The value that the innermost frame gives a name. -/
def named? (frames : Frames) (name : String) : Option Document :=
  frames.inner.findSome? fun frame => frame.names.lookup name

/-- The value of a place; null where there is none. -/
def find (frames : Frames) (place : Place) : Option Document :=
  if place.isVariable then
    match place.keys with
    | [] => some .null
    | name :: _ => some (((frames.frame place.levels).loopValues.lookup name).getD .null)
  else if place.fromRoot then follow place.keys frames.root
  else
    match place.keys with
    | name :: keys =>
      match frames.named? name with
      | some value => follow keys value
      | none => follow place.keys (frames.frame place.levels).value
    | [] => some (frames.frame place.levels).value

end Frames

mutual

def evaluate (frames : Frames) : Operand → Option Document
  | .literal value => some value
  | .place place => frames.find place
  | .call name arguments _ => do
    let values ← evaluateAll frames arguments
    match helpers.lookup name with
    | some helper => helper.run values
    | none => if blockHelpers.contains name && !values.isEmpty then some (.text "") else none

def evaluateAll (frames : Frames) : List Operand → Option (List Document)
  | [] => some []
  | operand :: rest => do
    let value ← evaluate frames operand
    return value :: (← evaluateAll frames rest)

end

/-- The value of an option that is true or false, false where it is not given. -/
def isSet (frames : Frames) (name : String) (options : List (String × Operand)) : Bool :=
  match options.lookup name with
  | some operand =>
    match evaluate frames operand with
    | some (.bool value) => value
    | _ => false
  | none => false

/-- What an operand fills in; a name of a helper asks the helper. -/
def insertion (frames : Frames) (operand : Operand) : Option String :=
  match operand with
  | .place place =>
    match place.name?.filter isHelper with
    | some name => (evaluate frames (.call name [] [])).map written
    | none => (frames.find place).map written
  | _ => (evaluate frames operand).map written

/-- The names that a block gives to a value and to its key. -/
def givenNames (binders : List String) (value key : Document) : List (String × Document) :=
  binders.zip [value, key]

def turnFrame (binders : List String) (count index : Nat) (key value : Document)
    (isKeyed : Bool) : Frame where
  value
  loopValues :=
    [("first", .bool (index == 0)), ("last", .bool (index + 1 == count)),
      ("index", .integer index)] ++ if isKeyed then [("key", key)] else []
  names := givenNames binders value key

/-- The entries of a mapping in the order of their keys. -/
def byKey (entries : List (String × Document)) : List (String × Document) :=
  entries.mergeSort fun left right => !decide (right.1 < left.1)

/-- The frames of the turns of a loop over a value, if the value can be looped over. -/
def turns? (binders : List String) : Document → Option (List Frame)
  | .list items =>
    some (items.mapIdx fun index item =>
      turnFrame binders items.length index (.integer index) item false)
  | .mapping entries =>
    some ((byKey entries).mapIdx fun index entry =>
      turnFrame binders entries.length index (.text entry.1) entry.2 true)
  | _ => none

/-- What a block does. -/
inductive Course
  /-- It renders its body once in each of some frames. -/
  | body (frames : List Frames)
  /-- It renders what comes when it does not apply. -/
  | otherwise
  | writes (text : String)

/-- What a block does, given its arguments and whether something comes when it does not apply. -/
def course (frames : Frames) (head : Head) (hasOtherwise : Bool) : Option Course := do
  let values ← evaluateAll frames head.arguments
  match head.name, values with
  | "if", value :: _ =>
    return if isTrue (isSet frames "includeZero" head.options) value then .body [frames]
      else .otherwise
  | "unless", value :: _ =>
    return if isTrue (isSet frames "includeZero" head.options) value then .otherwise
      else .body [frames]
  | "with", value :: _ =>
    if isTrue false value then
      return .body [frames.enter { value, names := givenNames head.binders value .null }]
    else return .otherwise
  | "each", value :: _ =>
    match turns? head.binders value with
    | none => return .otherwise
    | some turns =>
      if turns.isEmpty && hasOtherwise then return .otherwise
      else return .body (turns.map frames.enter)
  | "raw", _ => return .body [frames]
  | "log", _ => return .writes ""
  | name, _ =>
    let helper ← helpers.lookup name
    return .writes (written (← helper.run values))

mutual

def renderNode (frames : Frames) : Node → Option String
  | .text value => some value
  | .insert operand => insertion frames operand
  | .missing => none
  | .block head body otherwise => do
    match ← course frames head otherwise.isSome with
    | .writes text => return text
    | .body each => return String.join (← each.mapM fun inside => renderNodes inside body)
    | .otherwise =>
      match otherwise with
      | some nodes => renderNodes frames nodes
      | none => return ""

def renderNodes (frames : Frames) : List Node → Option String
  | [] => some ""
  | node :: rest => do
    let text ← renderNode frames node
    return text ++ (← renderNodes frames rest)

end

def render? (template : List Node) (data : Document) : Option String :=
  renderNodes { root := data } template

end TypedTables.Template
