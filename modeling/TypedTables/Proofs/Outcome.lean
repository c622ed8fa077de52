import Mathlib.Data.List.Forall2
import Mathlib.Data.List.Perm.Basic
import TypedTables.Failure

/-!
# Outcomes that are values

What a sequence of steps that ends well says about its steps.
-/

namespace TypedTables.Outcome

deriving instance DecidableEq for Except

variable {α β σ : Type}

theorem bind_eq_ok_iff {first : Outcome α} {next : α → Outcome β} {result : β} :
    (first >>= next) = .ok result ↔ ∃ value, first = .ok value ∧ next value = .ok result := by
  cases first with
  | error failure => simp [bind, Except.bind]
  | ok value => simp [bind, Except.bind]

/-- Sequences with one beginning are equal if they go on alike from the value that it gives. -/
theorem bind_congr_ok
    {first : Outcome α} {next other : α → Outcome β}
    (same : ∀ value, first = .ok value → next value = other value) :
    (first >>= next) = (first >>= other) := by
  cases first with
  | error failure => rfl
  | ok value => exact same value rfl

theorem map_eq_ok_iff {change : α → β} {outcome : Outcome α} {result : β} :
    change <$> outcome = .ok result ↔ ∃ value, outcome = .ok value ∧ change value = result := by
  cases outcome with
  | error failure => simp [Functor.map, Except.map]
  | ok value => simp [Functor.map, Except.map]

@[simp]
theorem pure_eq_ok_iff {value result : α} :
    (pure value : Outcome α) = .ok result ↔ value = result :=
  Except.ok.injEq value result ▸ Iff.rfl

theorem eq_ok_of_toOption {outcome : Outcome α} {value : α}
    (given : outcome.toOption = some value) : outcome = .ok value := by
  cases outcome with
  | error failure => cases given
  | ok result => exact congrArg Except.ok (Option.some.inj given)

def failure? : Outcome α → Option Failure
  | .ok _ => none
  | .error failure => some failure

theorem eq_error_of_failure? {outcome : Outcome α} {failure : Failure}
    (given : failure? outcome = some failure) : outcome = .error failure := by
  cases outcome with
  | ok value => cases given
  | error other => exact congrArg Except.error (Option.some.inj given)

/-- Steps over a list end well exactly when each of them does. -/
theorem mapM_eq_ok_iff {step : α → Outcome β} {items : List α} {results : List β} :
    items.mapM step = .ok results ↔
      List.Forall₂ (fun item result => step item = .ok result) items results := by
  induction items generalizing results with
  | nil =>
      rw [List.mapM_nil, pure_eq_ok_iff, List.forall₂_nil_left_iff]
      exact eq_comm
  | cons item rest inductionHypothesis =>
      simp only [List.mapM_cons, bind_eq_ok_iff, pure_eq_ok_iff, inductionHypothesis]
      constructor
      · rintro ⟨result, stepped, others, restStepped, rfl⟩
        exact .cons stepped restStepped
      · rintro (_ | ⟨stepped, restStepped⟩)
        exact ⟨_, stepped, _, restStepped, rfl⟩

theorem map_mapM {γ : Type} {shown : β → γ} {step : α → Outcome β} (items : List α) :
    List.map shown <$> items.mapM step = items.mapM fun item => shown <$> step item := by
  induction items with
  | nil => rfl
  | cons item rest inductionHypothesis =>
      rw [List.mapM_cons, List.mapM_cons, ← inductionHypothesis]
      cases step item with
      | error failure => rfl
      | ok result => cases rest.mapM step <;> rfl

/-- Steps over two lists that hold the same in different orders, as far as the steps can see, end
well together, and their results are the same in different orders. -/
theorem mapM_rearranged
    {γ δ : Type} {step other : α → Outcome β} {view viewed : α → γ} {shown : β → δ}
    {common : γ → Outcome δ} (stepShown : ∀ item, shown <$> step item = common (view item))
    (otherShown : ∀ item, shown <$> other item = common (viewed item))
    {items others : List α} (same : (items.map view).Perm (others.map viewed))
    {results : List β} (ran : items.mapM step = .ok results) :
    ∃ rest, others.mapM other = .ok rest ∧ (results.map shown).Perm (rest.map shown) := by
  have ranShown : (items.map view).mapM common = .ok (results.map shown) := by
    rw [List.mapM_map, ← map_eq_ok_iff.mpr ⟨results, ran, rfl⟩, map_mapM]
    exact congrArg (fun step => items.mapM step) (funext fun item => (stepShown item).symm)
  obtain ⟨last, each, rearranged⟩ := List.perm_comp_forall₂ same.symm (mapM_eq_ok_iff.mp ranShown)
  have otherRan : List.map shown <$> others.mapM other = .ok last := by
    rw [map_mapM, ← mapM_eq_ok_iff.mpr each, List.mapM_map]
    exact congrArg (fun step => others.mapM step) (funext otherShown)
  obtain ⟨rest, given, rfl⟩ := map_eq_ok_iff.mp otherRan
  exact ⟨rest, given, rearranged.symm⟩

theorem exists_of_forall₂
    {related : α → β → Prop} {left : List α} {right : List β}
    (all : List.Forall₂ related left right) :
    (∀ item ∈ left, ∃ other ∈ right, related item other) ∧
      ∀ other ∈ right, ∃ item ∈ left, related item other := by
  induction all with
  | nil => simp
  | @cons item other left right here _ inductionHypothesis =>
      obtain ⟨fromLeft, fromRight⟩ := inductionHypothesis
      constructor
      · intro wanted member
        rcases List.mem_cons.mp member with atHead | inRest
        · exact ⟨other, List.mem_cons_self, atHead ▸ here⟩
        · obtain ⟨found, present, holds⟩ := fromLeft wanted inRest
          exact ⟨found, List.mem_cons_of_mem other present, holds⟩
      · intro wanted member
        rcases List.mem_cons.mp member with atHead | inRest
        · exact ⟨item, List.mem_cons_self, atHead ▸ here⟩
        · obtain ⟨found, present, holds⟩ := fromRight wanted inRest
          exact ⟨found, List.mem_cons_of_mem item present, holds⟩

theorem forall_iff_of_forall₂
    {related : α → β → Prop} {left : List α} {right : List β}
    (all : List.Forall₂ related left right) {first : α → Prop} {second : β → Prop}
    (same : ∀ item ∈ left, ∀ other, related item other → (first item ↔ second other)) :
    (∀ item ∈ left, first item) ↔ ∀ other ∈ right, second other := by
  obtain ⟨fromLeft, fromRight⟩ := exists_of_forall₂ all
  constructor
  · intro holds other member
    obtain ⟨item, inLeft, isRelated⟩ := fromRight other member
    exact (same item inLeft other isRelated).mp (holds item inLeft)
  · intro holds item member
    obtain ⟨other, inRight, isRelated⟩ := fromLeft item member
    exact (same item member other isRelated).mpr (holds other inRight)

/-- Checks of the items of a list end well exactly when each of them does. -/
theorem forM_eq_ok_iff {check : α → Outcome Unit} {items : List α} :
    items.forM check = .ok () ↔ ∀ item ∈ items, check item = .ok () := by
  induction items with
  | nil => simp
  | cons item rest inductionHypothesis =>
      have step : (item :: rest).forM check = (check item >>= fun _ => rest.forM check) := rfl
      rw [step, bind_eq_ok_iff, List.forall_mem_cons, ← inductionHypothesis]
      constructor
      · rintro ⟨_, checked, others⟩
        exact ⟨checked, others⟩
      · rintro ⟨checked, others⟩
        exact ⟨(), checked, others⟩

/-- A fold ends well when every step does from a state that the steps before it lead to. -/
theorem exists_foldlM
    (invariant : σ → Prop) {step : σ → α → Outcome σ} {first : σ} {items : List α}
    (initial : invariant first)
    (steps : ∀ item ∈ items, ∀ state, invariant state →
      ∃ next, step state item = .ok next ∧ invariant next) :
    ∃ last, items.foldlM step first = .ok last := by
  induction items generalizing first with
  | nil => exact ⟨first, rfl⟩
  | cons item rest inductionHypothesis =>
      obtain ⟨next, stepped, holds⟩ := steps item List.mem_cons_self first initial
      obtain ⟨last, ended⟩ := inductionHypothesis holds fun other member =>
        steps other (List.mem_cons_of_mem item member)
      exact ⟨last, by rw [List.foldlM_cons, bind_eq_ok_iff]; exact ⟨next, stepped, ended⟩⟩

theorem foldlM_congr
    {step other : σ → α → Outcome σ} {items : List α}
    (same : ∀ item ∈ items, ∀ state, step state item = other state item) (state : σ) :
    items.foldlM step state = items.foldlM other state := by
  induction items generalizing state with
  | nil => rfl
  | cons item rest inductionHypothesis =>
      rw [List.foldlM_cons, List.foldlM_cons, same item List.mem_cons_self state]
      exact bind_congr_ok fun next _ => inductionHypothesis
        (fun later member => same later (List.mem_cons_of_mem item member)) next

/-- Steps that keep the state have no effect. -/
theorem foldlM_of_idle
    {step : σ → α → Outcome σ} {items : List α}
    (idle : ∀ item ∈ items, ∀ state, step state item = .ok state) (state : σ) :
    items.foldlM step state = .ok state := by
  induction items with
  | nil => rfl
  | cons item rest inductionHypothesis =>
      rw [List.foldlM_cons, idle item List.mem_cons_self state]
      exact inductionHypothesis fun later member => idle later (List.mem_cons_of_mem item member)

theorem map_foldlM
    {shown : σ → σ} {step : σ → α → Outcome σ}
    (blind : ∀ state item, shown <$> step state item = step (shown state) item)
    (items : List α) (state : σ) :
    shown <$> items.foldlM step state = items.foldlM step (shown state) := by
  induction items generalizing state with
  | nil => rfl
  | cons item rest inductionHypothesis =>
      rw [List.foldlM_cons, List.foldlM_cons, ← blind state item]
      cases step state item with
      | error failure => rfl
      | ok next => exact inductionHypothesis next

/-! ## Failures -/

/-- Every failure that an outcome can be is allowed. -/
def FailsOnly (allowed : Failure → Prop) (outcome : Outcome α) : Prop :=
  ∀ failure, outcome = .error failure → allowed failure

section FailsOnly

variable {allowed : Failure → Prop}

theorem failsOnly_ok (value : α) : FailsOnly allowed (.ok value : Outcome α) := by
  intro failure failed
  cases failed

theorem failsOnly_error {failure : Failure} (isAllowed : allowed failure) :
    FailsOnly allowed (.error failure : Outcome α) := by
  intro other failed
  cases failed
  exact isAllowed

theorem FailsOnly.bind {first : Outcome α} {next : α → Outcome β}
    (before : FailsOnly allowed first)
    (after : ∀ value, first = .ok value → FailsOnly allowed (next value)) :
    FailsOnly allowed (first >>= next) := by
  cases first with
  | error failure =>
      intro other failed
      cases failed
      exact before failure rfl
  | ok value => exact after value rfl

theorem failsOnly_mapM {step : α → Outcome β} {items : List α}
    (each : ∀ item ∈ items, FailsOnly allowed (step item)) :
    FailsOnly allowed (items.mapM step) := by
  induction items with
  | nil => exact failsOnly_ok []
  | cons item rest inductionHypothesis =>
      have others := inductionHypothesis fun other member =>
        each other (List.mem_cons_of_mem item member)
      rw [List.mapM_cons]
      refine (each item List.mem_cons_self).bind fun result _ => ?_
      exact others.bind fun results _ => failsOnly_ok (result :: results)

theorem failsOnly_foldlM {step : σ → α → Outcome σ} {items : List α}
    (each : ∀ item ∈ items, ∀ state, FailsOnly allowed (step state item)) (state : σ) :
    FailsOnly allowed (items.foldlM step state) := by
  induction items generalizing state with
  | nil => exact failsOnly_ok state
  | cons item rest inductionHypothesis =>
      rw [List.foldlM_cons]
      refine (each item List.mem_cons_self state).bind fun next _ => ?_
      exact inductionHypothesis (fun other member => each other (List.mem_cons_of_mem item member))
        next

end FailsOnly

/-! ## States -/

/-- Steps that read and change a state run one after the other, until one of them fails. -/
theorem run_bind
    (action : ExceptT Failure (StateM σ) α) (next : α → ExceptT Failure (StateM σ) β) (state : σ) :
    (action >>= next).run.run state =
      match action.run.run state with
      | (.ok value, later) => (next value).run.run later
      | (.error failure, later) => (.error failure, later) := by
  simp only [ExceptT.run_bind, StateT.run_bind]
  rcases action.run.run state with ⟨outcome, later⟩
  cases outcome <;> rfl

theorem run_tryCatch
    (action : ExceptT Failure (StateM σ) α) (handle : Failure → ExceptT Failure (StateM σ) α)
    (state : σ) :
    (tryCatch action handle).run.run state =
      match action.run.run state with
      | (.ok value, later) => (.ok value, later)
      | (.error failure, later) => (handle failure).run.run later := by
  rw [ExceptT.run_tryCatch, StateT.run_bind]
  rcases action.run.run state with ⟨outcome, later⟩
  cases outcome <;> rfl

theorem run_bind_eq_ok_iff
    {action : ExceptT Failure (StateM σ) α} {next : α → ExceptT Failure (StateM σ) β}
    {state last : σ} {result : β} :
    (action >>= next).run.run state = (.ok result, last) ↔
      ∃ value later, action.run.run state = (.ok value, later) ∧
        (next value).run.run later = (.ok result, last) := by
  rw [run_bind]
  rcases action.run.run state with ⟨outcome, later⟩
  cases outcome with
  | error other =>
      constructor
      · intro impossible
        cases impossible
      · rintro ⟨_, _, impossible, _⟩
        cases impossible
  | ok value =>
      constructor
      · intro ran
        exact ⟨value, later, rfl, ran⟩
      · rintro ⟨_, _, same, ran⟩
        cases same
        exact ran

theorem run_bind_eq_error_iff
    {action : ExceptT Failure (StateM σ) α} {next : α → ExceptT Failure (StateM σ) β}
    {state : σ} {failure : Failure} :
    ((action >>= next).run.run state).1 = .error failure ↔
      (action.run.run state).1 = .error failure ∨
        ∃ value later, action.run.run state = (.ok value, later) ∧
          ((next value).run.run later).1 = .error failure := by
  rw [run_bind]
  rcases action.run.run state with ⟨outcome, later⟩
  cases outcome with
  | error other =>
      constructor
      · intro failed
        cases failed
        exact Or.inl rfl
      · rintro (failed | ⟨_, _, impossible, _⟩)
        · cases failed
          rfl
        · cases impossible
  | ok value =>
      constructor
      · intro failed
        exact Or.inr ⟨value, later, rfl, failed⟩
      · rintro (impossible | ⟨_, _, same, failed⟩)
        · cases impossible
        · cases same
          exact failed

theorem run_pure_ne_error (value : α) (state : σ) (failure : Failure) :
    ((pure value : ExceptT Failure (StateM σ) α).run.run state).1 ≠ .error failure := by
  intro impossible
  cases impossible

/-- Steps over a list fail where the first of them does: the steps in front of it end well. -/
theorem run_mapM_eq_error_iff
    {step : α → ExceptT Failure (StateM σ) β} {items : List α} {state : σ} {failure : Failure} :
    ((items.mapM step).run.run state).1 = .error failure ↔
      ∃ before item after results between, items = before ++ item :: after ∧
        (before.mapM step).run.run state = (.ok results, between) ∧
        ((step item).run.run between).1 = .error failure := by
  induction items generalizing state with
  | nil => simp
  | cons head rest inductionHypothesis =>
      simp only [List.mapM_cons, run_bind_eq_error_iff, inductionHypothesis, run_pure_ne_error,
        and_false, exists_false, or_false]
      constructor
      · rintro (failed | ⟨result, later, stepped, before, item, after, results, between, rfl, ran,
          failed⟩)
        · exact ⟨[], head, rest, [], state, rfl, rfl, failed⟩
        · refine ⟨head :: before, item, after, result :: results, between, rfl, ?_, failed⟩
          rw [List.mapM_cons]
          exact run_bind_eq_ok_iff.mpr ⟨result, later, stepped,
            run_bind_eq_ok_iff.mpr ⟨results, between, ran, rfl⟩⟩
      · rintro ⟨before, item, after, results, between, parts, ran, failed⟩
        cases before with
        | nil =>
            obtain ⟨rfl, rfl⟩ := List.cons.inj parts
            cases ran
            exact Or.inl failed
        | cons first others =>
            obtain ⟨rfl, rfl⟩ := List.cons.inj parts
            rw [List.mapM_cons] at ran
            obtain ⟨result, later, stepped, othersRan⟩ := run_bind_eq_ok_iff.mp ran
            obtain ⟨otherResults, last, ranOthers, same⟩ := run_bind_eq_ok_iff.mp othersRan
            cases same
            exact Or.inr ⟨result, later, stepped, others, item, after, otherResults, between, rfl,
              ranOthers, failed⟩

/-- A fold that ends well keeps what every step keeps, for the items folded so far. -/
theorem foldlM_invariant
    (invariant : List α → σ → Prop) {step : σ → α → Outcome σ} {first last : σ} {items : List α}
    (initial : invariant [] first)
    (preserved : ∀ before item after state next, items = before ++ item :: after →
      invariant before state → step state item = .ok next → invariant (before ++ [item]) next)
    (ran : items.foldlM step first = .ok last) :
    invariant items last := by
  suffices general : ∀ before after state, items = before ++ after → invariant before state →
      after.foldlM step state = .ok last → invariant items last from
    general [] items first rfl initial ran
  intro before after
  induction after generalizing before with
  | nil =>
      intro state parts holds ended
      rw [List.foldlM_nil, pure_eq_ok_iff] at ended
      rw [List.append_nil] at parts
      rw [parts, ← ended]
      exact holds
  | cons item rest inductionHypothesis =>
      intro state parts holds ended
      rw [List.foldlM_cons, bind_eq_ok_iff] at ended
      obtain ⟨next, stepped, restEnded⟩ := ended
      have grown := preserved before item rest state next parts holds stepped
      exact inductionHypothesis (before ++ [item]) next (by simp [parts]) grown restEnded

end TypedTables.Outcome
