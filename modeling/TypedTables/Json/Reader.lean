import TypedTables.Document
import TypedTables.Json.Token

/-!
# Reading JSON

The tokens are read from left to right by a machine whose stack holds the lists and mappings that
are still open.  Each token is looked at once, so reading ends without a measure.
-/

namespace TypedTables.Json

/-- A list or mapping that is still open, with what it holds so far in reverse order. -/
inductive Frame
  | list (items : List Document)
  | mapping (entries : List (String × Document)) (key : String)
  deriving Repr

/-- What the next token may be. -/
inductive Expecting
  | value
  /-- The first item of a list, or its end. -/
  | item
  /-- The first key of a mapping, or its end. -/
  | firstKey
  | key
  | colon
  /-- A comma or the end of the innermost open list or mapping. -/
  | next
  deriving Repr, DecidableEq

/-- State of reading: the open frames, what may come next, and the finished document. -/
structure Machine where
  frames : List Frame
  expecting : Expecting
  result : Option Document
  deriving Repr

/-- The number of lists and mappings that may be open at once. -/
def nestingLimit : Nat := 127

namespace Machine

def start : Machine := ⟨[], .value, none⟩

/-- Hands a finished value to the innermost open frame. -/
def deliver (frames : List Frame) (value : Document) : Machine :=
  match frames with
  | [] => ⟨[], .next, some value⟩
  | .list items :: outer => ⟨.list (value :: items) :: outer, .next, none⟩
  | .mapping entries key :: outer => ⟨.mapping ((key, value) :: entries) key :: outer, .next, none⟩

def openFrame (machine : Machine) (frame : Frame) (expecting : Expecting) : Option Machine :=
  if machine.frames.length < nestingLimit then
    some { machine with frames := frame :: machine.frames, expecting }
  else none

def startValue (machine : Machine) : Token → Option Machine
  | .openList => machine.openFrame (.list []) .item
  | .openMapping => machine.openFrame (.mapping [] "") .firstKey
  | .null => some (deliver machine.frames .null)
  | .bool value => some (deliver machine.frames (.bool value))
  | .integer value => some (deliver machine.frames (.integer value))
  | .float value => some (deliver machine.frames (.float value))
  | .text value => some (deliver machine.frames (.text value))
  | _ => none

/-- Closes the innermost frame with a closing bracket. -/
def close (machine : Machine) (token : Token) : Option Machine :=
  match token, machine.frames with
  | .closeList, .list items :: outer => some (deliver outer (.list items.reverse))
  | .closeMapping, .mapping entries _ :: outer => some (deliver outer (.mapping entries.reverse))
  | _, _ => none

def readKey (machine : Machine) (token : Token) : Option Machine :=
  match token, machine.frames with
  | .text key, .mapping entries _ :: outer =>
    some { machine with frames := .mapping entries key :: outer, expecting := .colon }
  | _, _ => none

def separate (machine : Machine) : Option Machine :=
  match machine.frames with
  | .list _ :: _ => some { machine with expecting := .value }
  | .mapping _ _ :: _ => some { machine with expecting := .key }
  | [] => none

def step (machine : Machine) (token : Token) : Option Machine :=
  match machine.expecting with
  | .value => machine.startValue token
  | .item => if token = .closeList then machine.close token else machine.startValue token
  | .firstKey => if token = .closeMapping then machine.close token else machine.readKey token
  | .key => machine.readKey token
  | .colon => if token = .colon then some { machine with expecting := .value } else none
  | .next => if token = .comma then machine.separate else machine.close token

def run (machine : Machine) (tokens : List Token) : Option Machine :=
  tokens.foldlM step machine

end Machine

/-- Reads a text that holds one JSON value and nothing else. -/
def read? (text : String) : Option Document := do
  let tokens ← tokens? text
  let machine ← Machine.start.run tokens
  machine.result

end TypedTables.Json
