import TypedTables.Template.Piece
import TypedTables.Text.Blank

/-!
# Reading templates

Tags are put together to blocks.  On the way the raw text between them loses the white space that
a tilde takes away, and the line of a block tag that is alone on it.
-/

namespace TypedTables.Template

open TypedTables.Text

/-- A block that is not closed yet. -/
structure OpenBlock where
  /-- The name that the end of the block has to have. -/
  name : String
  /-- The parts in front of the block, the last one first. -/
  outer : List Node
  /-- The cases that are complete, the last one first. -/
  cases : List (Head × List Node) := []
  /-- The head of the case being read; none for the last one. -/
  head : Option Head

/-- What has been read of a template. -/
structure Building where
  /-- The parts of the innermost case, the last one first. -/
  nodes : List Node := []
  blocks : List OpenBlock := []
  /-- Whether white space is dropped from the text that follows. -/
  trimsText : Bool := false
  /-- Whether the rest of the line is dropped from the text that follows. -/
  trimsLine : Bool := false

/-- The text without spaces and tabs in front and without the line end behind them. -/
def dropLineRest (text : List Char) : List Char :=
  match text.dropWhile isPadding with
  | '\r' :: '\n' :: rest => rest
  | '\n' :: rest => rest
  | rest => rest

/-- The text without the characters at its end that satisfy a test. -/
def dropEndWhile (test : Char → Bool) (text : String) : String :=
  String.ofList (text.toList.reverse.dropWhile test).reverse

def changeLastText (change : String → String) : List Node → List Node
  | .text value :: rest => .text (change value) :: rest
  | nodes => nodes

namespace Building

def addRaw (building : Building) (raw : List Char) : Building :=
  if building.trimsText && raw.all isGap then building
  else
    let kept :=
      if building.trimsText then raw.dropWhile isBlank
      else if building.trimsLine then dropLineRest raw
      else raw
    { building with nodes := .text (String.ofList kept) :: building.nodes, trimsLine := false }

/-- Applies what a tag asks of the text around it. -/
def makeRoom (building : Building) (placed : PlacedTag) : Building :=
  let trimmed :=
    if placed.trimsBefore then changeLastText trimEnd building.nodes else building.nodes
  let behind := placed.trimsBehind.getD building.trimsText
  match placed.tag with
  | .insert _ => { building with nodes := trimmed, trimsText := behind }
  | _ =>
    let nodes :=
      if placed.isAlone then changeLastText (dropEndWhile isPadding) trimmed else trimmed
    { building with nodes, trimsText := behind, trimsLine := placed.isAlone }

def addNode (building : Building) (node : Node) : Building :=
  { building with nodes := node :: building.nodes }

/-- The block of cases, the last one first, given what comes when none applies. -/
def blockOf? : List (Head × List Node) → Option (List Node) → Option Node
  | [], _ => none
  | [(head, body)], otherwise => some (.block head body otherwise)
  | (head, body) :: rest, otherwise => blockOf? rest (some [.block head body otherwise])

def close? (building : Building) (name : String) : Option Building :=
  match building.blocks with
  | [] => none
  | block :: rest =>
    if block.name != name then none
    else
      let body := building.nodes.reverse
      let node := match block.head with
        | some head => blockOf? ((head, body) :: block.cases) none
        | none => blockOf? block.cases (some body)
      node.map fun closed => { building with nodes := closed :: block.outer, blocks := rest }

/-- Goes on to the next case of the innermost block. -/
def turn? (building : Building) (next : Option Head) : Option Building :=
  match building.blocks with
  | [] => none
  | block :: rest =>
    block.head.map fun head =>
      let cases := (head, building.nodes.reverse) :: block.cases
      { building with nodes := [], blocks := { block with cases, head := next } :: rest }

def add? (building : Building) (piece : Piece) : Option Building :=
  match piece with
  | .raw text => some (building.addRaw text)
  | .tag placed =>
    let ready := building.makeRoom placed
    match placed.tag with
    | .insert operand => some (ready.addNode (.insert operand))
    | .reference => some (ready.addNode .missing)
    | .comment => some ready
    | .verbatim head body => some (ready.addNode (.block head [.text body] none))
    | .start head =>
      some { ready with
        nodes := [], blocks := ⟨head.name, ready.nodes, [], some head⟩ :: ready.blocks }
    | .otherwise head => ready.turn? head
    | .finish name => ready.close? name

end Building

/-- Reads a template; every block has to be closed. -/
def read? (text : String) : Option (List Node) := do
  let pieces ← pieces? text
  let built ← pieces.foldlM Building.add? {}
  if built.blocks.isEmpty then some built.nodes.reverse else none

end TypedTables.Template
