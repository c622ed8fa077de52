import TypedTables.Proofs.Convert.Isolation

/-!
# Termination of conversions

The converters call each other without a bound of their own: items of a list and members of a
record are converted in turn, a blank value makes a new record, and a new record converts the
defaults of its columns.  Unrolling these calls settles nevertheless, whatever the calls that are
never reached would do.  A new record uses up an instance, a record inside a cell uses up a
separator of records, and an item of a list has a smaller type.
-/

namespace TypedTables.Convert

open TypedTables.Schema TypedTables.Manifest TypedTables.Binding TypedTables.Text
open TypedTables.Discover

variable {α β : Type} {lookup : Lookup} {scopes : Scopes} {instances : Nat} {field : Field}

/-! ## Calls that call each other -/

/-- The value that is converted for a cell: its field's default, if it is blank. -/
def cellOrDefault (field : Field) (value : Value) : Value :=
  match field.default with
  | some default => if value.isEmpty then default else value
  | none => value

/-- The call for a member of a new record. -/
def Call.seed (table : Table) (member : BoundMember) (further : Call → Step Value) : Step Value :=
  match table.field? member.name with
  | some column =>
    if column.default.isSome then
      Step.detached (further (.changeTypeOrDefault column .null member.type))
    else further (.zeroValue member.type)
  | none => further (.zeroValue member.type)

/-- What a call does, given what the calls that it makes do. -/
def Call.body (lookup : Lookup) (further : Call → Step Value) : Call → Step Value
  | changeType field value target =>
    Step.askConverters lookup (fun table => further (.instantiate table)) field
      (fun item =>
        match target with
        | .array type => further (.changeType field item type)
        | _ => pure item)
      (fun type part => further (.changeType field part type))
      target lookup.chain.converters value
  | changeTypeOrDefault field value target =>
    further (.changeType field (cellOrDefault field value) target)
  | zeroValue target => Step.zeroOf lookup (fun table => further (.instantiate table)) target
  | instantiate table =>
    match lookup.catalog.descriptor? table.name with
    | none => throw (.unboundTable table.name)
    | some descriptor => do
      let members ← Step.membersFor lookup descriptor
      Step.asInstance descriptor.name do
        let entries ← Step.collectMembers (fun member => seed table member further) members []
        return .record descriptor.fullName entries

/-- What a call does when calls are followed so many levels deep; something else stands in for
the calls behind them. -/
def Call.unrolled (lookup : Lookup) (further : Call → Step Value) : Nat → Call → Step Value
  | 0 => further
  | depth + 1 => fun call => call.body lookup (unrolled lookup further depth)

/-! ## Settling -/

/-- From some depth on, the step does what the conversion does, whatever stands in for the calls
behind that depth. -/
def Settles
    (lookup : Lookup) (scopes : Scopes) (instances : Nat) ⦃α : Type⦄
    (step : (Call → Step Value) → Step α) (conversion : Conversion α) : Prop :=
  ∀ cache, ∃ depth, ∀ deeper ≥ depth, ∀ further,
    (step (Call.unrolled lookup further deeper)).run.run ⟨scopes, instances, cache⟩ =
      ((conversion.run.run cache).1, ⟨scopes, instances, (conversion.run.run cache).2⟩)

/-- A call settles one level behind what it does. -/
theorem Settles.of_body
    {call : Call} {conversion : Conversion Value}
    (inside : Settles lookup scopes instances (fun further => call.body lookup further)
      conversion) :
    Settles lookup scopes instances (fun further => further call) conversion := by
  intro cache
  obtain ⟨depth, settled⟩ := inside cache
  refine ⟨depth + 1, ?_⟩
  intro deeper beyond further
  obtain ⟨rest, rfl⟩ : ∃ rest, deeper = rest + 1 := ⟨deeper - 1, by omega⟩
  exact settled rest (by omega) further

theorem Settles.bind
    {step : (Call → Step Value) → Step α} {conversion : Conversion α}
    {next : (Call → Step Value) → α → Step β} {nextConversion : α → Conversion β}
    (first : Settles lookup scopes instances step conversion)
    (rest : ∀ value, Settles lookup scopes instances (fun further => next further value)
      (nextConversion value)) :
    Settles lookup scopes instances (fun further => step further >>= next further)
      (conversion >>= nextConversion) := by
  intro cache
  obtain ⟨firstDepth, firstSettled⟩ := first cache
  rcases shape : conversion.run.run cache with ⟨outcome, later⟩
  rw [shape] at firstSettled
  cases outcome with
  | error failure =>
      refine ⟨firstDepth, ?_⟩
      intro deeper beyond further
      rw [Outcome.run_bind, Outcome.run_bind, firstSettled deeper beyond further, shape]
  | ok value =>
      obtain ⟨restDepth, restSettled⟩ := rest value later
      refine ⟨max firstDepth restDepth, ?_⟩
      intro deeper beyond further
      rw [Outcome.run_bind, Outcome.run_bind, firstSettled deeper (by omega) further, shape]
      exact restSettled deeper (by omega) further

theorem simulation_settles : Simulation lookup (Settles lookup) where
  lift outcome cache := by
    refine ⟨0, fun deeper _ further => ?_⟩
    cases outcome <;> rfl
  membersFor _ _ := ⟨0, fun _ _ _ => rfl⟩
  bind := Settles.bind
  context rest cache := rest cache cache
  between entered left inside cache := by
    obtain ⟨depth, settled⟩ := inside cache
    refine ⟨depth, fun deeper beyond further => ?_⟩
    rw [Step.run_between, entered, settled deeper beyond further, left]

/-! ## The measure -/

/-- A conversion settles where new records do: inside a record fewer separators are left, and
inside a list the type is smaller. -/
theorem changeType_settles
    {fresh : Fresh}
    (made : ∀ scopes table,
      Settles lookup scopes instances (fun further => further (.instantiate table)) (fresh table))
    (levels : Nat) (target : TypeRef) (scopes : Scopes) (value : Value)
    (left : (lookup.separators.listFor field .object).length - scopes.objectDepth = levels) :
    Settles lookup scopes instances (fun further => further (.changeType field value target))
      (convertLevels lookup fresh field levels target scopes value) := by
  induction levels using Nat.strongRecOn generalizing target scopes value with
  | ind levels fewer =>
      rw [convertLevels_eq]
      have members : ∀ scopes : Scopes,
          (lookup.separators.listFor field .object).length - scopes.objectDepth = levels →
          ∀ separator,
            lookup.separators.separatorAt field (scopes.enter .object) = .ok separator →
            ∀ type value,
              Settles lookup (scopes.enter .object) instances
                (fun further => further (.changeType field value type))
                (memberLevels lookup fresh field levels type (scopes.enter .object) value) := by
        rintro scopes rfl separator here type value
        have room := objectDepth_lt_of_separatorAt here
        have inside : (scopes.enter .object).objectDepth = scopes.objectDepth + 1 := rfl
        rw [memberLevels_eq_changeType here]
        exact fewer _ (by omega) type _ value rfl
      induction target generalizing scopes value with
      | array item inductionHypothesis =>
          apply Settles.of_body
          apply simulation_settles.askConverters _ _ _ (made scopes) _ (members scopes left)
          intro inner value same
          exact inductionHypothesis inner value (by rw [same, left])
      | primitive _ | table _ | enumeration _ | external _ =>
          apply Settles.of_body
          exact simulation_settles.askConverters _ _ _ (made scopes)
            (fun _ value _ => simulation_settles.pure value) (members scopes left) _ _ _

/-- New records settle where the calls do that are made with one more instance begun. -/
theorem instantiate_settles
    (inside : ∀ begun, instanceLimit - begun < instanceLimit - instances → ∀ scopes call,
      Settles lookup scopes begun (fun further => further call)
        (call.conversion lookup scopes begun))
    (scopes : Scopes) (table : Table) :
    Settles lookup scopes instances (fun further => further (.instantiate table))
      (instantiate lookup (instanceLimit - instances) table) := by
  apply Settles.of_body
  simp only [Call.body, instantiate]
  cases lookup.catalog.descriptor? table.name with
  | none => exact simulation_settles.throw _
  | some descriptor =>
      apply simulation_settles.bind (simulation_settles.membersFor descriptor)
      intro members
      by_cases room : instances < instanceLimit
      · have left : instanceLimit - instances = (instanceLimit - (instances + 1)) + 1 := by omega
        have calls := inside (instances + 1) (by omega)
        rw [left]
        apply simulation_settles.asInstance _ room
        simp only [seedMembers_eq]
        apply simulation_settles.bind _ fun _ => simulation_settles.pure _
        apply simulation_settles.collectMembers
        intro member
        simp only [Call.seed, seedMember]
        cases table.field? member.name with
        | none => exact calls scopes (.zeroValue member.type)
        | some column =>
            by_cases given : column.default.isSome = true
            · simp only [if_pos given]
              exact simulation_settles.detached _
                (calls {} (.changeTypeOrDefault column .null member.type))
            · simp only [if_neg given]
              exact calls scopes (.zeroValue member.type)
      · have noRoom : instanceLimit - instances = 0 := by omega
        rw [noRoom]
        exact simulation_settles.asInstance_full _ (by omega)

theorem call_settles (lookup : Lookup) (instances : Nat) (scopes : Scopes) (call : Call) :
    Settles lookup scopes instances (fun further => further call)
      (call.conversion lookup scopes instances) := by
  induction room : instanceLimit - instances using Nat.strongRecOn
    generalizing instances scopes call with
  | ind room fewer =>
      have made := instantiate_settles fun begun less scopes call =>
        fewer _ (room ▸ less) begun scopes call rfl
      have changed : ∀ field value target,
          Settles lookup scopes instances (fun further => further (.changeType field value target))
            ((Call.changeType field value target).conversion lookup scopes instances) :=
        fun field value target => changeType_settles made _ target scopes value rfl
      cases call with
      | changeType field value target => exact changed field value target
      | changeTypeOrDefault field value target =>
          apply Settles.of_body
          have same : (Call.changeTypeOrDefault field value target).conversion lookup scopes
              instances = (Call.changeType field (cellOrDefault field value) target).conversion
                lookup scopes instances := by
            simp only [Call.conversion, changeTypeOrDefault, cellOrDefault]
            cases field.default <;> rfl
          rw [same]
          exact changed field _ target
      | zeroValue target =>
          apply Settles.of_body
          exact simulation_settles.zeroOf _ (made scopes) target
      | instantiate table => exact made scopes table

/-! ## Termination -/

/-- In every context every call ends after finitely many levels of further calls, with what the
conversion in its scopes gives: what would stand in for deeper calls is never asked. -/
theorem conversions_terminate (lookup : Lookup) (call : Call) (context : Context) :
    ∃ depth, ∀ deeper ≥ depth, ∀ further : Call → Step Value,
      let converted :=
        (call.conversion lookup context.scopes context.instances).run.run context.members
      (Call.unrolled lookup further deeper call).run.run context =
        (converted.1, { context with members := converted.2 }) :=
  call_settles lookup context.instances context.scopes call context.members

end TypedTables.Convert
