import TypedTables.Proofs.Convert.Isolation
import TypedTables.Proofs.Convert.ScopeDiscipline

/-!
# New records and open scopes

A cell is converted for the scopes that are open around it, but a new record is not: the defaults
of its columns are converted as cells of their own, and nothing else in it reads a scope.  So a new
record is the same wherever it nests.
-/

namespace TypedTables.Convert

open TypedTables.Schema TypedTables.Manifest TypedTables.Binding

/-- The step gives the same whatever scopes are open, and leaves them open. -/
def Unscoped {α : Type} (step : Step α) : Prop :=
  ∀ context scopes, step.run.run { context with scopes } =
    ((step.run.run context).1, { (step.run.run context).2 with scopes })

variable {α β : Type} {lookup : Lookup}

theorem Step.run_asInstance (typeName : String) (body : Step α) (context : Context) :
    (Step.asInstance typeName body).run.run context =
      if context.instances + 1 > instanceLimit then (.error (.containsItself typeName), context)
      else
        (Step.between (fun context => { context with instances := context.instances + 1 })
          (fun context => { context with instances := context.instances - 1 })
          body).run.run context := by
  have opened : (Step.asInstance typeName body).run.run context =
      (if context.instances + 1 > instanceLimit then
          (MonadExcept.throw (.containsItself typeName) : Step α)
        else
          Step.between (fun context => { context with instances := context.instances + 1 })
            (fun context => { context with instances := context.instances - 1 })
            body).run.run context := rfl
  rw [opened]
  split <;> rfl

namespace Unscoped

/-! ## Rules -/

theorem pure (value : α) : Unscoped (Pure.pure value) :=
  fun _ _ => rfl

theorem throw (failure : Failure) : Unscoped (MonadExcept.throw failure : Step α) :=
  fun _ _ => rfl

theorem membersFor (descriptor : Descriptor) : Unscoped (Step.membersFor lookup descriptor) :=
  fun _ _ => rfl

theorem bind
    {step : Step α} {next : α → Step β} (first : Unscoped step)
    (rest : ∀ value, Unscoped (next value)) : Unscoped (step >>= next) := by
  intro context scopes
  rw [Outcome.run_bind, Outcome.run_bind, first context scopes]
  rcases step.run.run context with ⟨outcome, later⟩
  cases outcome with
  | ok value => exact rest value later scopes
  | error failure => rfl

/-- A detached body starts from no scopes, so it may read them as it likes. -/
theorem detached (body : Step α) : Unscoped (Step.detached body) :=
  fun _ _ => rfl

theorem asInstance
    {typeName : String} {body : Step α} (inside : Unscoped body) :
    Unscoped (Step.asInstance typeName body) := by
  intro context scopes
  simp only [Step.run_asInstance]
  by_cases full : context.instances + 1 > instanceLimit
  · simp only [if_pos full]
  · simp only [if_neg full, Step.run_between]
    rw [inside { context with instances := context.instances + 1 } scopes]

/-- What is the same wherever it is run is the same inside any scopes. -/
theorem nested
    {step : Step α} (unscoped : Unscoped step) (kinds : List ScopeKind) (context : Context) :
    (kinds.foldr Step.withScope step).run.run context = step.run.run context := by
  induction kinds generalizing context with
  | nil => rfl
  | cons kind rest inductionHypothesis =>
      have kept : (step.run.run context).2 =
          { (step.run.run context).2 with scopes := context.scopes } :=
        congrArg Prod.snd (unscoped context context.scopes)
      rw [List.foldr_cons, Step.withScope, Step.run_between, inductionHypothesis,
        unscoped context (context.scopes.enter kind), leave_enter, ← kept]
      rfl

end Unscoped

/-! ## New records -/

section Fresh

variable {fresh : FreshStep} (made : ∀ table, Unscoped (fresh table))

include made

theorem zeroOf_unscoped (target : TypeRef) : Unscoped (Step.zeroOf lookup fresh target) := by
  cases target with
  | primitive _ | array _ | external _ => exact Unscoped.pure _
  | enumeration name =>
      simp only [Step.zeroOf]
      cases lookup.catalog.descriptor? name with
      | none => exact Unscoped.pure _
      | some descriptor =>
          dsimp only
          cases descriptor.variants <;> exact Unscoped.pure _
  | table name =>
      simp only [Step.zeroOf]
      cases lookup.tables.get? name with
      | none => exact Unscoped.pure _
      | some table =>
          by_cases inPlace : table.kind = .inPlace
          · simpa only [if_pos inPlace] using made table
          · simpa only [if_neg inPlace] using Unscoped.pure _

theorem seedMember_unscoped (table : Table) (member : BoundMember) :
    Unscoped (Step.seedMember lookup fresh table member) := by
  simp only [Step.seedMember]
  cases table.field? member.name with
  | none => exact zeroOf_unscoped made _
  | some column =>
      by_cases given : column.default.isSome = true
      · simpa only [if_pos given] using Unscoped.detached _
      · simpa only [if_neg given] using zeroOf_unscoped made _

theorem seedMembers_unscoped
    (table : Table) (members : Members) (entries : List (String × Value)) :
    Unscoped (Step.seedMembers lookup fresh table members entries) := by
  induction members generalizing entries with
  | nil => exact Unscoped.pure entries
  | cons entry rest inductionHypothesis =>
      exact Unscoped.bind (seedMember_unscoped made table entry.2) fun _ => inductionHypothesis _

end Fresh

theorem instantiate_unscoped (calls : Nat) (table : Table) :
    Unscoped (Step.instantiate lookup calls table) := by
  induction calls generalizing table with
  | zero =>
      simp only [Step.instantiate]
      cases lookup.catalog.descriptor? table.name with
      | none => exact Unscoped.throw _
      | some descriptor =>
          exact Unscoped.bind (Unscoped.membersFor descriptor) fun _ =>
            Unscoped.asInstance (Unscoped.throw _)
  | succ calls inductionHypothesis =>
      simp only [Step.instantiate]
      cases lookup.catalog.descriptor? table.name with
      | none => exact Unscoped.throw _
      | some descriptor =>
          apply Unscoped.bind (Unscoped.membersFor descriptor)
          intro members
          apply Unscoped.asInstance
          exact Unscoped.bind (seedMembers_unscoped inductionHypothesis table members []) fun _ =>
            Unscoped.pure _

/-! ## Seeds -/

/-- What a value can start from: a new record of a table, or the zero of a type. -/
inductive Seed
  | record (table : Table)
  | zero (target : TypeRef)

def Seed.call : Seed → Call
  | record table => .instantiate table
  | zero target => .zeroValue target

/-- The conversion of a seed where some instances are begun. -/
def Seed.conversion (lookup : Lookup) (instances : Nat) : Seed → Conversion Value
  | record table => instantiate lookup (instanceLimit - instances) table
  | zero target => zeroOf lookup (instantiate lookup (instanceLimit - instances)) target

theorem Seed.unscoped (seed : Seed) : Unscoped (seed.call.step lookup) := by
  have made : ∀ table, Unscoped (Step.fresh lookup table) := instantiate_unscoped instanceLimit
  cases seed with
  | record table => exact made table
  | zero target => exact zeroOf_unscoped made target

/-- A new record of a table and the zero of a type are the same, or fail in the same way, in any
two contexts that differ in nothing but their open scopes, and both contexts keep their scopes.  So
they are the same inside any lists and records as outside of them: what the conversion gives that
knows of no scopes. -/
theorem seeding_ignores_scopes (lookup : Lookup) (seed : Seed) (context : Context) :
    let step := seed.call.step lookup
    let ran := step.run.run context
    (∀ scopes : Scopes,
      step.run.run { context with scopes } = (ran.1, { ran.2 with scopes })) ∧
    (∀ kinds : List ScopeKind, (kinds.foldr Step.withScope step).run.run context = ran) ∧
    (ran.1, ran.2.members) =
      (seed.conversion lookup context.instances).run.run context.members := by
  intro step ran
  refine ⟨seed.unscoped context, fun kinds => seed.unscoped.nested kinds context, ?_⟩
  let made := (seed.conversion lookup context.instances).run.run context.members
  have followed : step.run.run context = (made.1, { context with members := made.2 }) := by
    cases seed <;> exact call_follows context.scopes context.instances _ context.members
  change ((step.run.run context).1, (step.run.run context).2.members) = made
  rw [followed]
  rfl

end TypedTables.Convert
