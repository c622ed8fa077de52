import TypedTables.Pattern.Reader

/-!
# Programs of patterns

A pattern becomes a list of instructions.  The code of a pattern starts at a position and goes on
behind its last instruction; the end of the whole program is the match.
-/

namespace TypedTables.Pattern

/-- An instruction. -/
inductive Instruction
  | take (set : CharSet)
  | check (assertion : Assertion)
  /-- Goes on at two positions, the first one preferred. -/
  | split (first second : Nat)
  | jump (target : Nat)
  | mark (slot : Nat)
  deriving Repr, Inhabited

/-- A choice between going on and leaving, as a repetition of either greed makes it. -/
def Instruction.branch (greedy : Bool) (onward away : Nat) : Instruction :=
  if greedy then split onward away else split away onward

namespace Expression

def size : Expression → Nat
  | empty => 0
  | char _ => 1
  | assert _ => 1
  | sequence first second => first.size + second.size
  | choice first second => first.size + second.size + 2
  | group _ body => body.size + 2
  | repetition body least most _ =>
    match most with
    | none => if least == 0 then body.size + 2 else least * body.size + 1
    | some bound => least * body.size + (bound - least) * (body.size + 1)

/-- The code of copies of a pattern one after the other, given the code of one at a position. -/
def copies (width : Nat) (code : Nat → List Instruction) (start : Nat) : Nat → List Instruction
  | 0 => []
  | count + 1 => code start ++ copies width code (start + width) count

/-- The code of copies of which each can be left out together with those behind it. -/
def optionalCopies (width : Nat) (code : Nat → List Instruction) (greedy : Bool)
    (finish start : Nat) : Nat → List Instruction
  | 0 => []
  | count + 1 =>
    .branch greedy (start + 1) finish :: code (start + 1) ++
      optionalCopies width code greedy finish (start + 1 + width) count

/-- The code of a pattern at a position.  An unbounded repetition that may be left out is one that
runs at least once behind a choice to leave it out, so that an empty round ends it. -/
def code : Expression → Nat → List Instruction
  | empty, _ => []
  | char set, _ => [.take set]
  | assert assertion, _ => [.check assertion]
  | sequence first second, start => first.code start ++ second.code (start + first.size)
  | choice first second, start =>
    let middle := start + 1 + first.size + 1
    .split (start + 1) middle :: first.code (start + 1) ++
      .jump (middle + second.size) :: second.code middle
  | group number body, start =>
    .mark (2 * number) :: body.code (start + 1) ++ [.mark (2 * number + 1)]
  | repetition body least most greedy, start =>
    let width := body.size
    let required := copies width body.code start least
    let after := start + least * width
    match most with
    | none =>
      if least == 0 then
        .branch greedy (start + 1) (start + width + 2) :: body.code (start + 1) ++
          [.branch greedy (start + 1) (start + width + 2)]
      else required ++ [.branch greedy (after - width) (after + 1)]
    | some bound =>
      let count := bound - least
      required ++
        optionalCopies width body.code greedy (after + count * (width + 1)) after count

end Expression

end TypedTables.Pattern
