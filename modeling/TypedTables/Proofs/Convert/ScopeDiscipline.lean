import TypedTables.Convert.ScopeProgram

/-!
# Discipline of scopes

A program opens scopes by blocks alone.  Every step leaves the open scopes as it found them, also
when it fails, and at every point of a run the depths count the blocks around the point, as far as
the innermost detached body.
-/

namespace TypedTables.Convert

open TypedTables.Schema

/-! ## Points of a run -/

/-- What a step puts around its body. -/
inductive Enclosure
  | block (kind : ScopeKind)
  | detached
  | catching
  deriving Repr, DecidableEq

/-- The kinds of the blocks that are open inside the innermost detached body, the innermost
first. -/
def openKinds : List Enclosure → List ScopeKind
  | [] => []
  | .block kind :: outer => kind :: openKinds outer
  | .detached :: _ => []
  | .catching :: outer => openKinds outer

/-- The points that a run of steps passes, each with what is around it and how far the run has
come: the start, the end of every step that is run, and the points inside bodies. -/
inductive Passes (separators : Separators) (field : Field) :
    List Enclosure → ScopeRun → List ScopeStep → List Enclosure → ScopeRun → Prop
  | start {around : List Enclosure} {run : ScopeRun} {steps : List ScopeStep} :
      Passes separators field around run steps around run
  | behind {around : List Enclosure} {run : ScopeRun} {step : ScopeStep}
      {rest : List ScopeStep} :
      Passes separators field around run (step :: rest) around
        (runScopeStep separators field run step)
  | later {around inside : List Enclosure} {run there : ScopeRun} {step : ScopeStep}
      {rest : List ScopeStep} :
      (runScopeStep separators field run step).failure = none →
      Passes separators field around (runScopeStep separators field run step) rest inside there →
      Passes separators field around run (step :: rest) inside there
  | block {around inside : List Enclosure} {run there : ScopeRun} {kind : ScopeKind}
      {body rest : List ScopeStep} :
      Passes separators field (.block kind :: around)
        { run with scopes := run.scopes.enter kind } body inside there →
      Passes separators field around run (.block kind body :: rest) inside there
  | detached {around inside : List Enclosure} {run there : ScopeRun}
      {body rest : List ScopeStep} :
      Passes separators field (.detached :: around) { run with scopes := {} } body inside there →
      Passes separators field around run (.detached body :: rest) inside there
  | catching {around inside : List Enclosure} {run there : ScopeRun}
      {body rest : List ScopeStep} :
      Passes separators field (.catching :: around) run body inside there →
      Passes separators field around run (.catching body :: rest) inside there

variable {separators : Separators} {field : Field}

/-! ## What a step leaves -/

theorem leave_enter (kind : ScopeKind) (scopes : Scopes) :
    (scopes.enter kind).leave kind = scopes := by
  cases kind <;> rfl

theorem scopes_settle (run : ScopeRun) : run.settle.scopes = run.scopes := by
  unfold ScopeRun.settle
  split <;> rfl

mutual

/-- A step leaves the open scopes as it found them, whether it ends well or fails. -/
theorem scopes_runScopeStep (run : ScopeRun) (step : ScopeStep) :
    (runScopeStep separators field run step).scopes = run.scopes := by
  cases step with
  | noteSeparator | noteScopes | fail _ => rfl
  | needSeparator =>
      unfold runScopeStep
      split <;> rfl
  | block kind body =>
      have restored := scopes_runScopeSteps { run with scopes := run.scopes.enter kind } body
      unfold runScopeStep
      dsimp only
      rw [restored, leave_enter]
  | detached body => rfl
  | catching body =>
      unfold runScopeStep
      rw [scopes_settle, scopes_runScopeSteps run body]

/-- A sequence of steps leaves the open scopes as it found them. -/
theorem scopes_runScopeSteps (run : ScopeRun) (steps : List ScopeStep) :
    (runScopeSteps separators field run steps).scopes = run.scopes := by
  cases steps with
  | nil => rfl
  | cons step rest =>
      have first := scopes_runScopeStep run step
      unfold runScopeSteps
      dsimp only
      split
      · exact first
      · rw [scopes_runScopeSteps _ rest, first]

end

/-! ## Scopes at a point -/

/-- The open scopes where some enclosures are around. -/
def scopesOf (around : List Enclosure) : Scopes where
  kinds := openKinds around
  arrayDepth := (openKinds around).count .array
  objectDepth := (openKinds around).count .object

theorem depth_scopesOf (around : List Enclosure) (kind : ScopeKind) :
    (scopesOf around).depth kind = (openKinds around).count kind := by
  cases kind <;> rfl

theorem scopesOf_block (kind : ScopeKind) (around : List Enclosure) :
    scopesOf (.block kind :: around) = (scopesOf around).enter kind := by
  cases kind <;> simp [scopesOf, openKinds, Scopes.enter]

/-- The scopes at every point that a run passes are those of the enclosures around the point. -/
theorem Passes.scopes_eq
    {around inside : List Enclosure} {run there : ScopeRun} {steps : List ScopeStep}
    (passes : Passes separators field around run steps inside there)
    (atStart : run.scopes = scopesOf around) :
    there.scopes = scopesOf inside := by
  induction passes with
  | start => exact atStart
  | behind => rw [scopes_runScopeStep, atStart]
  | later _ _ inductionHypothesis =>
      apply inductionHypothesis
      rw [scopes_runScopeStep, atStart]
  | block _ inductionHypothesis =>
      apply inductionHypothesis
      rw [scopesOf_block, atStart]
  | detached _ inductionHypothesis => exact inductionHypothesis rfl
  | catching _ inductionHypothesis => exact inductionHypothesis atStart

/-! ## Separators at a point -/

/-- The separators that a field has of its own. -/
def ownSeparators (field : Field) : ScopeKind → List String
  | .array => field.arraySeparators
  | .object => field.objectSeparators

/-- The separators of all fields without ones of their own. -/
def commonSeparators (separators : Separators) : ScopeKind → List String
  | .array => separators.array
  | .object => separators.object

/-- What looking up a field's separator gives where blocks of some kinds are open, the innermost
first: the entry for the depth among the blocks of the innermost kind. -/
structure LookedUp (separators : Separators) (field : Field) (opened : List ScopeKind)
    (found : Outcome String) : Prop where
  outside : found = .error (.separatorOutsideScope field.name) ↔ opened = []
  configuration : ∀ failure, found = .error failure → failure.kind = .configuration
  inside : ∀ kind outer list depth, opened = kind :: outer → depth = opened.count kind →
    (list = if (ownSeparators field kind).isEmpty then commonSeparators separators kind
      else ownSeparators field kind) →
    (∀ separator, found = .ok separator ↔ list[depth - 1]? = some separator) ∧
      (found = .error (.separatorOverflow field.name kind depth list) ↔ list.length < depth)

theorem listFor_eq (kind : ScopeKind) :
    separators.listFor field kind =
      if (ownSeparators field kind).isEmpty then commonSeparators separators kind
      else ownSeparators field kind := by
  cases kind <;> rfl

theorem lookedUp_scopesOf (separators : Separators) (field : Field) (around : List Enclosure) :
    LookedUp separators field (openKinds around)
      (separators.separatorAt field (scopesOf around)) := by
  unfold Separators.separatorAt Scopes.innermost?
  cases opened : openKinds around with
  | nil =>
      simp only [scopesOf, opened, List.head?_nil]
      refine ⟨by simp, ?_, by simp⟩
      rintro failure ⟨⟩
      rfl
  | cons kind outer =>
      have depth : (scopesOf around).depth kind = (kind :: outer).count kind := by
        rw [depth_scopesOf, opened]
      have counted : 0 < (kind :: outer).count kind := by simp
      have innermost : (scopesOf around).kinds.head? = some kind := by simp [scopesOf, opened]
      rw [innermost]
      dsimp only
      rw [depth]
      cases entry : (separators.listFor field kind)[(kind :: outer).count kind - 1]? with
      | some separator =>
          have bounded := (List.getElem?_eq_some_iff.mp entry).1
          refine ⟨by simp, by simp, ?_⟩
          rintro _ _ list _ ⟨rfl, rfl⟩ rfl rfl
          rw [← listFor_eq, entry]
          refine ⟨by simp, ?_⟩
          simp only [reduceCtorEq, false_iff]
          omega
      | none =>
          have exceeded := List.getElem?_eq_none_iff.mp entry
          refine ⟨by simp, ?_, ?_⟩
          · rintro failure ⟨⟩
            rfl
          · rintro _ _ list _ ⟨rfl, rfl⟩ rfl rfl
            rw [← listFor_eq, entry]
            refine ⟨by simp, ?_⟩
            simp only [true_iff]
            omega

/-! ## Discipline -/

/-- Every step leaves the open scopes as it found them, and every block closes the scope that it
opened.  At every point of a program the open scopes are those of the blocks around it inside the
innermost detached body, the depths are their numbers, and a look-up gives the separator for the
depth among the blocks of the innermost kind. -/
theorem scopes_disciplined (separators : Separators) (field : Field) :
    (∀ (run : ScopeRun) (step : ScopeStep),
      (runScopeStep separators field run step).scopes = run.scopes) ∧
    (∀ (run : ScopeRun) (kind : ScopeKind) (body : List ScopeStep),
      let ended :=
        runScopeSteps separators field { run with scopes := run.scopes.enter kind } body
      ended.scopes.innermost? = some kind ∧
        ended.scopes.depth kind = run.scopes.depth kind + 1) ∧
    ∀ program inside there, Passes separators field [] {} program inside there →
      there.scopes.kinds = openKinds inside ∧
      (∀ kind, there.scopes.depth kind = (openKinds inside).count kind) ∧
      ∀ other : Field,
        LookedUp separators other (openKinds inside)
          (separators.separatorAt other there.scopes) := by
  refine ⟨scopes_runScopeStep, ?_, ?_⟩
  · intro run kind body
    dsimp only
    rw [scopes_runScopeSteps]
    cases kind <;> exact ⟨rfl, rfl⟩
  · intro program inside there passes
    have same : there.scopes = scopesOf inside := passes.scopes_eq rfl
    rw [same]
    exact ⟨rfl, depth_scopesOf inside, fun other => lookedUp_scopesOf separators other inside⟩

/-- A list inside a record whose separator is missing, behind a detached body in the same list. -/
theorem scopes_disciplined_overflow :
    let separators : Separators := ⟨["|"], [":"]⟩
    let field : Field := { name := "Cell", column := 1 }
    let inner : List ScopeStep :=
      [.block .object [.detached [.block .array [.needSeparator]], .block .array [.needSeparator]]]
    let program : List ScopeStep := [.catching [.block .array inner], .noteScopes]
    let there : ScopeRun :=
      { scopes := ⟨[.array, .object, .array], 2, 1⟩, notes := [.separator (.ok "|")] }
    Passes separators field [] {} program
        [.block .array, .block .object, .block .array, .catching] there ∧
      LookedUp separators field [.array, .object, .array]
        (.error (.separatorOverflow "Cell" .array 2 ["|"])) := by
  intro separators field inner program there
  have passes : Passes separators field [] {} program
      [.block .array, .block .object, .block .array, .catching] there :=
    .catching (.block (.block (.later rfl (.block .start))))
  exact ⟨passes, ((scopes_disciplined separators field).2.2 program _ there passes).2.2 field⟩

end TypedTables.Convert
