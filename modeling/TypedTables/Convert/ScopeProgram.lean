import TypedTables.Convert.Scopes

/-!
# Scope programs

A program opens scopes and looks up separators inside them.  Every block closes its scope when it
ends, whether it ends well or by a failure, and a failure can be caught.
-/

namespace TypedTables.Convert

open TypedTables.Schema

/-- A step of a program. -/
inductive ScopeStep
  /-- Notes the separator here, or the failure to look it up. -/
  | noteSeparator
  /-- Notes the separator here, and fails when there is none. -/
  | needSeparator
  | noteScopes
  | fail (failure : Failure)
  | block (kind : ScopeKind) (body : List ScopeStep)
  /-- Runs a body as if no scope were open. -/
  | detached (body : List ScopeStep)
  | catching (body : List ScopeStep)
  deriving Repr

/-- What a program notes. -/
inductive ScopeNote
  | separator (found : Outcome String)
  | scopes (scopes : Scopes)
  | caught (failure : Failure)
  deriving Repr

/-- How far a program has come: the open scopes, the notes in reverse order, and the failure that
it is ending with. -/
structure ScopeRun where
  scopes : Scopes := {}
  notes : List ScopeNote := []
  failure : Option Failure := none
  deriving Repr

namespace ScopeRun

def note (run : ScopeRun) (note : ScopeNote) : ScopeRun :=
  { run with notes := note :: run.notes }

def failing (run : ScopeRun) (failure : Failure) : ScopeRun :=
  { run with failure := some failure }

def settle (run : ScopeRun) : ScopeRun :=
  match run.failure with
  | none => run
  | some failure => { run with notes := .caught failure :: run.notes, failure := none }

end ScopeRun

mutual

def runScopeStep (separators : Separators) (field : Field) (run : ScopeRun) :
    ScopeStep → ScopeRun
  | .noteSeparator => run.note (.separator (separators.separatorAt field run.scopes))
  | .needSeparator =>
    match separators.separatorAt field run.scopes with
    | .ok separator => run.note (.separator (.ok separator))
    | .error failure => run.failing failure
  | .noteScopes => run.note (.scopes run.scopes)
  | .fail failure => run.failing failure
  | .block kind body =>
    let ended := runScopeSteps separators field { run with scopes := run.scopes.enter kind } body
    { ended with scopes := ended.scopes.leave kind }
  | .detached body =>
    let ended := runScopeSteps separators field { run with scopes := {} } body
    { ended with scopes := run.scopes }
  | .catching body => (runScopeSteps separators field run body).settle

def runScopeSteps (separators : Separators) (field : Field) (run : ScopeRun) :
    List ScopeStep → ScopeRun
  | [] => run
  | step :: rest =>
    let next := runScopeStep separators field run step
    if next.failure.isSome then next else runScopeSteps separators field next rest

end

end TypedTables.Convert
