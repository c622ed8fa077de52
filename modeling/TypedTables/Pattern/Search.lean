import TypedTables.Pattern.Program
import TypedTables.Schema.Value

/-!
# Searching a text

All ways through a program are followed side by side, in order of preference.  At every position
of the text each instruction is entered at most once, by the most preferred way to it.
-/

namespace TypedTables.Pattern

/-- The positions that a way through a program has noted, by slot. -/
abbrev Marks := List (Nat × Nat)

def Marks.put (slot position : Nat) : Marks → Marks
  | [] => [(slot, position)]
  | (other, noted) :: rest =>
    if other == slot then (slot, position) :: rest else (other, noted) :: put slot position rest

/-- A way through a program: the instruction it has come to and what it has noted. -/
structure Way where
  position : Nat
  marks : Marks
  deriving Repr, Inhabited

/-- A place of a text: the characters around it and its number. -/
structure Place where
  before : Option Char
  after : Option Char
  number : Nat
  deriving Repr

/-- The ways that a way leads on to without taking a character, in order of preference; none when
it has to take a character or is at the end. -/
def Way.onward? (place : Place) (way : Way) : Option Instruction → Option (List Way)
  | none => none
  | some (.take _) => none
  | some (.check assertion) =>
    if assertion.holds place.before place.after then
      some [{ way with position := way.position + 1 }]
    else some []
  | some (.split first second) =>
    some [{ way with position := first }, { way with position := second }]
  | some (.jump target) => some [{ way with position := target }]
  | some (.mark slot) => some [⟨way.position + 1, way.marks.put slot place.number⟩]

/-- Follows ways until each has to take a character or is at the end.  An instruction leads on to
at most two others and is entered once, which bounds the steps. -/
def follow (program : Array Instruction) (place : Place) :
    (steps : Nat) → (entered : Array Bool) → List Way → List Way
  | 0, _, _ => []
  | _, _, [] => []
  | steps + 1, entered, way :: rest =>
    if entered.getD way.position true then follow program place steps entered rest
    else
      let noted := entered.setIfInBounds way.position true
      match way.onward? place program[way.position]? with
      | some ways => follow program place steps noted (ways ++ rest)
      | none => way :: follow program place steps noted rest

/-- Every way that can take a character or is at the end, from the given ones. -/
def ready (program : Array Instruction) (place : Place) (ways : List Way) : List Way :=
  follow program place (ways.length + 2 * program.size + 2)
    (Array.replicate (program.size + 1) false) ways

/-- What the ways do at a character: those that take it, up to the first way that is at the end,
and what that way has noted. -/
def takeChar (program : Array Instruction) (after : Option Char) :
    List Way → List Way × Option Marks
  | [] => ([], none)
  | way :: rest =>
    match program[way.position]? with
    | none => ([], some way.marks)
    | some (.take set) =>
      let (ways, found) := takeChar program after rest
      if after.any set.holds then ({ way with position := way.position + 1 } :: ways, found)
      else (ways, found)
    | some _ => takeChar program after rest

/-- Searches the rest of a text.  A match is sought from every position until one is found; it
gives way to one that a more preferred way finds later. -/
def searchFrom (program : Array Instruction) (before : Option Char) (number : Nat)
    (ways : List Way) (found : Option Marks) (text : List Char) : Option Marks :=
  let place : Place := ⟨before, text.head?, number⟩
  let begun := if found.isNone then ways ++ [⟨0, []⟩] else ways
  let (taken, matched) := takeChar program text.head? (ready program place begun)
  let latest := matched <|> found
  match text with
  | [] => latest
  | c :: rest =>
    if taken.isEmpty && latest.isSome then latest
    else searchFrom program (some c) (number + 1) taken latest rest

/-- The positions noted by the first match in a text, the most preferred one there. -/
def search (program : Array Instruction) (text : String) : Option Marks :=
  searchFrom program none 0 [] none text.toList

end TypedTables.Pattern
