import TypedTables.Document
import TypedTables.Yaml.Token

/-!
# Reading YAML

The tokens of a text hold at most one document.  A plain scalar keeps its text, since its type is
settled by what is asked of it; a reference stands for the node that has the anchor.
-/

namespace TypedTables.Yaml

/-- What stands in front of a node: its anchor and its tag. -/
structure Properties where
  anchor : Option String := none
  tag : Option (String × String) := none
  deriving Repr

/-- What reading a node gives: the node, the anchors met so far, and the tokens behind it. -/
structure Node where
  document : Document
  anchors : List (String × Document)
  rest : List Token

def emptyNode (anchors : List (String × Document)) (rest : List Token) : Node :=
  ⟨.plain "", anchors, rest⟩

/-- Reads the properties in front of a node, each at most once. -/
def properties (found : Properties) : List Token → Properties × List Token
  | .anchor name :: rest =>
    if found.anchor.isSome then (found, .anchor name :: rest)
    else properties { found with anchor := some name } rest
  | .tag handle suffix :: rest =>
    if found.tag.isSome then (found, .tag handle suffix :: rest)
    else properties { found with tag := some (handle, suffix) } rest
  | tokens => (found, tokens)

/-- Whether a tag says that a scalar is a text. -/
def isTextTag (tag : String × String) : Bool :=
  tag == ("!!", "str") || tag == ("", "tag:yaml.org,2002:str")

def scalarDocument (found : Properties) (isPlain : Bool) (text : String) : Document :=
  if isPlain && !found.tag.any isTextTag then .plain text else .text text

def keyText? : Document → Option String
  | .plain text => some text
  | .text text => some text
  | _ => none

mutual

/-- Reads a node.  In a block it may be a block itself, and where a key or value stands, a list
without indentation of its own.  Every level of reading takes a token, so their number bounds the
depth. -/
def node? (bound : Nat) (inBlock bareList : Bool) (anchors : List (String × Document))
    (tokens : List Token) : Option Node :=
  match bound with
  | 0 => none
  | bound + 1 =>
    match tokens with
    | .reference name :: rest => do return ⟨← anchors.lookup name, anchors, rest⟩
    | _ =>
      let (found, start) := properties {} tokens
      let read : Option Node :=
        match start with
        | .scalar isPlain text :: rest => some ⟨scalarDocument found isPlain text, anchors, rest⟩
        | .openList :: rest => flowItems? bound true anchors [] rest
        | .openMapping :: rest => flowEntries? bound true anchors [] rest
        | .item :: _ => if bareList then bareItems? bound anchors [] start else none
        | .blockList :: rest => if inBlock then blockItems? bound anchors [] rest else none
        | .blockMapping :: rest => if inBlock then blockEntries? bound anchors [] rest else none
        | _ =>
          if found.anchor.isSome || found.tag.isSome then
            some ⟨scalarDocument found true "", anchors, start⟩
          else none
      match found.anchor with
      | none => read
      | some name =>
        read.map fun node => { node with anchors := (name, node.document) :: node.anchors }

/-- Reads the items of an indented list up to its end. -/
def blockItems? (bound : Nat) (anchors : List (String × Document)) (done : List Document)
    (tokens : List Token) : Option Node :=
  match bound, tokens with
  | bound + 1, .item :: rest => do
    let node ← match rest with
      | .item :: _ | .blockEnd :: _ => some (emptyNode anchors rest)
      | _ => node? bound true false anchors rest
    blockItems? bound node.anchors (node.document :: done) node.rest
  | _, .blockEnd :: rest => some ⟨.list done.reverse, anchors, rest⟩
  | _, _ => none

/-- Reads the items of a list without indentation of its own. -/
def bareItems? (bound : Nat) (anchors : List (String × Document)) (done : List Document)
    (tokens : List Token) : Option Node :=
  match bound, tokens with
  | bound + 1, .item :: rest => do
    let node ← match rest with
      | .item :: _ | .key :: _ | .value :: _ | .blockEnd :: _ => some (emptyNode anchors rest)
      | _ => node? bound true false anchors rest
    bareItems? bound node.anchors (node.document :: done) node.rest
  | _, _ => some ⟨.list done.reverse, anchors, tokens⟩

/-- Reads the entries of an indented mapping up to its end. -/
def blockEntries? (bound : Nat) (anchors : List (String × Document))
    (done : List (String × Document)) (tokens : List Token) : Option Node :=
  match bound, tokens with
  | bound + 1, .key :: rest => do
    let key ← match rest with
      | .key :: _ | .value :: _ | .blockEnd :: _ => some (emptyNode anchors rest)
      | _ => node? bound true true anchors rest
    let name ← keyText? key.document
    let value ← match key.rest with
      | .value :: behind =>
        match behind with
        | .key :: _ | .value :: _ | .blockEnd :: _ => some (emptyNode key.anchors behind)
        | _ => node? bound true true key.anchors behind
      | _ => some (emptyNode key.anchors key.rest)
    blockEntries? bound value.anchors ((name, value.document) :: done) value.rest
  | _, .blockEnd :: rest => some ⟨.mapping done.reverse, anchors, rest⟩
  | _, _ => none

/-- Reads the items of a list between brackets; a key among them makes a mapping of one entry. -/
def flowItems? (bound : Nat) (isFirst : Bool) (anchors : List (String × Document))
    (done : List Document) (tokens : List Token) : Option Node :=
  match bound, tokens with
  | _, .closeList :: rest => some ⟨.list done.reverse, anchors, rest⟩
  | bound + 1, _ => do
    let start ← match tokens with
      | .comma :: rest => if isFirst then none else some rest
      | _ => if isFirst then some tokens else none
    match start with
    | .closeList :: rest => return ⟨.list done.reverse, anchors, rest⟩
    | .key :: rest => do
      let key ← match rest with
        | .value :: _ | .comma :: _ | .closeList :: _ => some (emptyNode anchors rest)
        | _ => node? bound false false anchors rest
      let name ← keyText? key.document
      let value ← match key.rest with
        | .value :: behind =>
          match behind with
          | .comma :: _ | .closeList :: _ => some (emptyNode key.anchors behind)
          | _ => node? bound false false key.anchors behind
        | _ => some (emptyNode key.anchors key.rest)
      flowItems? bound false value.anchors (.mapping [(name, value.document)] :: done) value.rest
    | _ => do
      let node ← node? bound false false anchors start
      flowItems? bound false node.anchors (node.document :: done) node.rest
  | 0, _ => none

/-- Reads the entries of a mapping between braces; a key without a colon has no value. -/
def flowEntries? (bound : Nat) (isFirst : Bool) (anchors : List (String × Document))
    (done : List (String × Document)) (tokens : List Token) : Option Node :=
  match bound, tokens with
  | _, .closeMapping :: rest => some ⟨.mapping done.reverse, anchors, rest⟩
  | bound + 1, _ => do
    let start ← match tokens with
      | .comma :: rest => if isFirst then none else some rest
      | _ => if isFirst then some tokens else none
    match start with
    | .closeMapping :: rest => return ⟨.mapping done.reverse, anchors, rest⟩
    | .key :: rest => do
      let key ← match rest with
        | .value :: _ | .comma :: _ | .closeMapping :: _ => some (emptyNode anchors rest)
        | _ => node? bound false false anchors rest
      let name ← keyText? key.document
      let value ← match key.rest with
        | .value :: behind =>
          match behind with
          | .comma :: _ | .closeMapping :: _ => some (emptyNode key.anchors behind)
          | _ => node? bound false false key.anchors behind
        | _ => some (emptyNode key.anchors key.rest)
      flowEntries? bound false value.anchors ((name, value.document) :: done) value.rest
    | _ => do
      let key ← node? bound false false anchors start
      let name ← keyText? key.document
      flowEntries? bound false key.anchors ((name, .plain "") :: done) key.rest
  | 0, _ => none

end

/-- Whether every tag has a handle that is declared. -/
def tagsDeclared (tokens : List Token) : Bool :=
  let declared := tokens.filterMap fun token =>
    match token with
    | .directive handle => handle
    | _ => none
  tokens.all fun token =>
    match token with
    | .tag handle _ => ["", "!", "!!"].contains handle || declared.contains handle
    | _ => true

/-- Takes the directives and the mark in front of a document; a document that is not the first
part of a text needs its mark. -/
def documentStart? (isFirst : Bool) (tokens : List Token) : Option (List Token) :=
  match tokens with
  | .directive _ :: rest => documentStart? false rest
  | .documentStart :: rest => some rest
  | _ => if isFirst then some tokens else none

/-- Reads a text that holds at most one document; none at all is an empty plain scalar. -/
def read? (text : String) : Option Document := do
  let tokens ← tokens? text
  if tokens.isEmpty then return .plain ""
  else if !tagsDeclared tokens then none
  else do
    let start ← documentStart? true tokens
    let node ← match start with
      | [] | .documentEnd :: _ => some (emptyNode [] start)
      | .directive _ :: _ | .documentStart :: _ => none
      | _ => node? (2 * tokens.length + 2) true false [] start
    if node.rest.all (· == .documentEnd) then return node.document else none

end TypedTables.Yaml
