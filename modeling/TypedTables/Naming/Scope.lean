import TypedTables.Failure
import TypedTables.Naming.Identifier
import TypedTables.Schema.Value

/-!
# Named parameters

A run has parameters such as the module name, and every table adds its own.  Templates are
filled in from the innermost scope that binds a name.
-/

namespace TypedTables.Naming

open TypedTables.Schema (setEntry entryValue?)

/-- Bindings of one scope followed by those of the scopes around it, innermost first. -/
structure Scope where
  bindings : List (String × String)
  outer : List (List (String × String))
  deriving Repr, DecidableEq, Inhabited

/-- A piece of a template. -/
inductive Segment
  | literal (c : Char)
  | parameter (name : String)
  deriving Repr, DecidableEq

/-- Reads what follows an opening brace: a name and a closing brace, and the rest behind them. -/
def readParameter? (text : List Char) : Option (List Char × List Char) :=
  match text.takeWhile isIdentifierChar, text.dropWhile isIdentifierChar with
  | c :: name, '\x7d' :: rest => if isIdentifierStart c then some (c :: name, rest) else none
  | _, _ => none

/-- The rest behind a parameter is shorter than the text it was read from. -/
theorem length_of_readParameter? {text name rest : List Char}
    (found : readParameter? text = some (name, rest)) : rest.length < text.length := by
  unfold readParameter? at found
  split at found
  · next c letters after _ dropped =>
    split at found
    · have shorter := (List.dropWhile_suffix isIdentifierChar (l := text)).length_le
      rw [dropped] at shorter
      simp only [Option.some.injEq, Prod.mk.injEq] at found
      obtain ⟨_, rfl⟩ := found
      simp only [List.length_cons] at shorter
      omega
    · simp at found
  · simp at found

/-- The pieces of a template: doubled braces stand for themselves, a name between braces is a
parameter, and every other character is literal. -/
def segments : List Char → List Segment
  | [] => []
  | [c] => [.literal c]
  | c :: d :: rest =>
    if c == '\x7b' && d == '\x7b' then .literal c :: segments rest
    else if c == '\x7d' && d == '\x7d' then .literal c :: segments rest
    else if c == '\x7b' then
      match _found : readParameter? (d :: rest) with
      | some (name, after) => .parameter (String.ofList name) :: segments after
      | none => .literal c :: segments (d :: rest)
    else .literal c :: segments (d :: rest)
  termination_by text => text.length
  decreasing_by
    · simp only [List.length_cons]; omega
    · simp only [List.length_cons]; omega
    · have shorter := length_of_readParameter? (by assumption)
      simp only [List.length_cons] at shorter ⊢
      omega
    · simp only [List.length_cons]; omega
    · simp only [List.length_cons]; omega

namespace Scope

def empty : Scope := ⟨[], []⟩

def child (scope : Scope) : Scope :=
  ⟨[], scope.bindings :: scope.outer⟩

def set (scope : Scope) (name value : String) : Scope :=
  { scope with bindings := setEntry name value scope.bindings }

def get? (scope : Scope) (name : String) : Option String :=
  (scope.bindings :: scope.outer).findSome? (entryValue? name)

/-- Whether two lists of bindings bind the same names to the same values. -/
def sameBindings (left right : List (String × String)) : Bool :=
  left.length == right.length && left.all fun entry => entryValue? entry.1 right == some entry.2

/-- Whether two scopes have the same bindings at every level. -/
def same (left right : Scope) : Bool :=
  left.outer.length == right.outer.length &&
    ((left.bindings :: left.outer).zip (right.bindings :: right.outer)).all fun pair =>
      sameBindings pair.1 pair.2

def expand (scope : Scope) (template : String) : Segment → Outcome (List Char)
  | .literal c => .ok [c]
  | .parameter name =>
    match scope.get? name with
    | some value => .ok value.toList
    | none => .error (.unknownParameter name template)

/-- Fills in a template; the first name without a binding is a failure. -/
def format (scope : Scope) (template : String) : Outcome String := do
  let pieces ← (segments template.toList).mapM (scope.expand template)
  return String.ofList pieces.flatten

end Scope

end TypedTables.Naming
