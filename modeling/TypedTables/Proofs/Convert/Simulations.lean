import TypedTables.Proofs.Convert.Context
import TypedTables.Proofs.Convert.Prepared

/-!
# Simulations of conversions

Steps in a context simulate conversions in the scopes that are open there.  A relation between the
two that sequences, scopes and instances respect is one of whole converters as soon as it is one of
their parts.  The steps may depend on an index, such as what stands in for further calls.
-/

namespace TypedTables.Convert

open TypedTables.Schema TypedTables.Manifest TypedTables.Binding TypedTables.Text

theorem Step.run_between
    {α : Type} (before after : Context → Context) (body : Step α) (context : Context) :
    (Step.between before after body).run.run context =
      ((body.run.run (before context)).1, after (body.run.run (before context)).2) :=
  rfl

/-- A relation between steps, where some scopes are open and some instances begun, and conversions
that every way of combining steps respects. -/
structure Simulation {ι : Type} (lookup : Lookup)
    (Simulates : Scopes → Nat → ∀ ⦃α : Type⦄, (ι → Step α) → Conversion α → Prop) : Prop where
  lift : ∀ {scopes : Scopes} {instances : Nat} {α : Type} (outcome : Outcome α),
    Simulates scopes instances (fun _ => Step.lift outcome) (Convert.lift outcome)
  membersFor : ∀ {scopes : Scopes} {instances : Nat} (descriptor : Descriptor),
    Simulates scopes instances (fun _ => Step.membersFor lookup descriptor)
      (Convert.membersFor lookup descriptor)
  bind : ∀ {scopes : Scopes} {instances : Nat} {α β : Type} {step : ι → Step α}
    {conversion : Conversion α} {next : ι → α → Step β} {nextConversion : α → Conversion β},
    Simulates scopes instances step conversion →
      (∀ value, Simulates scopes instances (fun index => next index value)
        (nextConversion value)) →
      Simulates scopes instances (fun index => step index >>= next index)
        (conversion >>= nextConversion)
  context : ∀ {scopes : Scopes} {instances : Nat} {α : Type} {next : ι → Context → Step α}
    {conversion : Conversion α},
    (∀ cache, Simulates scopes instances (fun index => next index ⟨scopes, instances, cache⟩)
      conversion) →
      Simulates scopes instances (fun index => (get : Step Context) >>= next index) conversion
  /-- The change behind a body takes back the change in front of it. -/
  between : ∀ {scopes inner : Scopes} {instances begun : Nat} {α : Type}
    {before after : Context → Context} {body : ι → Step α} {conversion : Conversion α},
    (∀ cache, before ⟨scopes, instances, cache⟩ = ⟨inner, begun, cache⟩) →
      (∀ cache, after ⟨inner, begun, cache⟩ = ⟨scopes, instances, cache⟩) →
      Simulates inner begun body conversion →
      Simulates scopes instances (fun index => Step.between before after (body index)) conversion

/-- Gives every member of a record the value that a step gives for it. -/
def Step.collectMembers (convert : BoundMember → Step Value) :
    Members → List (String × Value) → Step (List (String × Value))
  | [], entries => pure entries
  | (_, member) :: rest, entries => do
    let value ← convert member
    collectMembers convert rest (setEntry member.name value entries)

theorem Step.seedMembers_eq
    {lookup : Lookup} {fresh : FreshStep} (table : Table) (members : Members)
    (entries : List (String × Value)) :
    Step.seedMembers lookup fresh table members entries =
      Step.collectMembers (Step.seedMember lookup fresh table) members entries := by
  induction members generalizing entries with
  | nil => rfl
  | cons entry rest inductionHypothesis =>
      exact congrArg _ (funext fun value => inductionHypothesis _)

namespace Simulation

variable {ι : Type} {lookup : Lookup}
  {Simulates : Scopes → Nat → ∀ ⦃α : Type⦄, (ι → Step α) → Conversion α → Prop}
  {α β : Type} {scopes : Scopes} {instances : Nat}

/-! ## Rules -/

theorem pure (simulation : Simulation lookup Simulates) (value : α) :
    Simulates scopes instances (fun _ => Pure.pure value) (Pure.pure value) :=
  simulation.lift (.ok value)

theorem throw (simulation : Simulation lookup Simulates) (failure : Failure) :
    Simulates scopes instances (fun _ => (MonadExcept.throw failure : Step α))
      (MonadExcept.throw failure) :=
  simulation.lift (.error failure)

theorem map
    (simulation : Simulation lookup Simulates) {step : ι → Step α} {conversion : Conversion α}
    (change : α → β) (parts : Simulates scopes instances step conversion) :
    Simulates scopes instances (fun index => change <$> step index) (change <$> conversion) := by
  simp only [map_eq_pure_bind]
  exact simulation.bind parts fun value => simulation.pure (change value)

theorem mapM
    (simulation : Simulation lookup Simulates) (step : ι → α → Step β) {items : List α}
    {conversion : α → Conversion β}
    (each : ∀ item, Simulates scopes instances (fun index => step index item)
      (conversion item)) :
    Simulates scopes instances (fun index => items.mapM (step index))
      (items.mapM conversion) := by
  induction items with
  | nil =>
      simp only [List.mapM_nil]
      exact simulation.pure []
  | cons item rest inductionHypothesis =>
      simp only [List.mapM_cons]
      exact simulation.bind (each item) fun _ =>
        simulation.bind inductionHypothesis fun _ => simulation.pure _

theorem openScopes
    (simulation : Simulation lookup Simulates) {next : ι → Scopes → Step α}
    {conversion : Conversion α}
    (rest : Simulates scopes instances (fun index => next index scopes) conversion) :
    Simulates scopes instances (fun index => Step.openScopes >>= next index) conversion := by
  simp only [Step.openScopes, bind_assoc, pure_bind]
  exact simulation.context fun _ => rest

/-- What follows a separator may rely on it being in force. -/
theorem separator_bind
    (simulation : Simulation lookup Simulates) {field : Field} {next : ι → String → Step α}
    {nextConversion : String → Conversion α}
    (rest : ∀ separator, lookup.separators.separatorAt field scopes = .ok separator →
      Simulates scopes instances (fun index => next index separator)
        (nextConversion separator)) :
    Simulates scopes instances (fun index => Step.separator lookup field >>= next index)
      (Convert.lift (lookup.separators.separatorAt field scopes) >>= nextConversion) := by
  simp only [Step.separator, bind_assoc]
  apply simulation.openScopes
  cases here : lookup.separators.separatorAt field scopes with
  | error failure => exact simulation.throw failure
  | ok separator => simpa [Step.lift, Convert.lift] using rest separator here

theorem withScope
    (simulation : Simulation lookup Simulates) (body : ι → Step α) {kind : ScopeKind}
    {conversion : Conversion α} (inside : Simulates (scopes.enter kind) instances body conversion) :
    Simulates scopes instances (fun index => Step.withScope kind (body index)) conversion := by
  apply simulation.between (fun _ => rfl) _ inside
  intro cache
  cases kind <;> rfl

theorem detached
    (simulation : Simulation lookup Simulates) (body : ι → Step α) {conversion : Conversion α}
    (inside : Simulates {} instances body conversion) :
    Simulates scopes instances (fun index => Step.detached (body index)) conversion :=
  simulation.openScopes (simulation.between (fun _ => rfl) (fun _ => rfl) inside)

theorem asInstance
    (simulation : Simulation lookup Simulates) (body : ι → Step α) {typeName : String}
    {conversion : Conversion α} (room : instances < instanceLimit)
    (inside : Simulates scopes (instances + 1) body conversion) :
    Simulates scopes instances (fun index => Step.asInstance typeName (body index))
      conversion := by
  have within : ¬ instances + 1 > instanceLimit := by omega
  apply simulation.context
  intro cache
  simp only [if_neg within]
  exact simulation.between (fun _ => rfl) (fun _ => rfl) inside

/-- No instance is begun behind the limit. -/
theorem asInstance_full
    (simulation : Simulation lookup Simulates) (body : ι → Step α) {typeName : String}
    (full : instanceLimit ≤ instances) :
    Simulates scopes instances (fun index => Step.asInstance typeName (body index))
      (MonadExcept.throw (.containsItself typeName)) := by
  have beyond : instances + 1 > instanceLimit := by omega
  apply simulation.context
  intro cache
  simp only [if_pos beyond]
  exact simulation.throw _

/-! ## Converters -/

section Converters

variable {freshStep : ι → FreshStep} {fresh : Fresh} {field : Field}
  {elementStep : ι → ValueStep} {element : ValueConversion}
  {memberStep : ι → TypeRef → ValueStep} {member : TypeRef → ValueConversion}

theorem zeroOf
    (simulation : Simulation lookup Simulates) (freshStep : ι → FreshStep)
    (made : ∀ table, Simulates scopes instances (fun index => freshStep index table)
      (fresh table))
    (target : TypeRef) :
    Simulates scopes instances (fun index => Step.zeroOf lookup (freshStep index) target)
      (zeroOf lookup fresh target) := by
  cases target with
  | primitive _ | array _ | external _ => exact simulation.pure _
  | enumeration name =>
      simp only [Step.zeroOf, Convert.zeroOf]
      cases lookup.catalog.descriptor? name with
      | none => exact simulation.pure _
      | some descriptor =>
          dsimp only
          cases descriptor.variants <;> exact simulation.pure _
  | table name =>
      simp only [Step.zeroOf, Convert.zeroOf]
      cases lookup.tables.get? name with
      | none => exact simulation.pure _
      | some table =>
          by_cases inPlace : table.kind = .inPlace
          · simpa only [if_pos inPlace] using made table
          · simpa only [if_neg inPlace] using simulation.pure _

theorem convertLast
    (simulation : Simulation lookup Simulates)
    (made : ∀ table, Simulates scopes instances (fun index => freshStep index table)
      (fresh table))
    (target : TypeRef) (value : Value) :
    Simulates scopes instances (fun index => Step.convertLast lookup (freshStep index) target value)
      (convertLast lookup fresh target value) := by
  by_cases blank : value.isEmpty = true
  · simp only [Step.convertLast, Convert.convertLast, if_pos blank]
    exact simulation.zeroOf _ made target
  · simp only [Step.convertLast, Convert.convertLast, if_neg blank]
    cases target with
    | primitive type => exact simulation.lift _
    | external name => exact simulation.pure _
    | enumeration name =>
        dsimp only
        cases lookup.catalog.descriptor? name with
        | none => exact simulation.throw _
        | some descriptor => exact simulation.lift _
    | table name | array element =>
        cases value <;> first | exact simulation.pure _ | exact simulation.throw _

theorem convertList
    (simulation : Simulation lookup Simulates)
    (elements : ∀ inner value, inner.objectDepth = scopes.objectDepth →
      Simulates inner instances (fun index => elementStep index value) (element inner value))
    (value : Value) :
    Simulates scopes instances
      (fun index => Step.convertList lookup field (elementStep index) value)
      (convertList lookup field element scopes value) := by
  by_cases blank : value.isEmpty = true
  · simp only [Step.convertList, Convert.convertList, if_pos blank]
    exact simulation.pure _
  · simp only [Step.convertList, Convert.convertList, if_neg blank]
    cases value with
    | text text =>
        dsimp only
        rw [← bind_assoc]
        apply simulation.bind _ fun _ => simulation.pure _
        apply simulation.withScope
        exact simulation.separator_bind fun _ _ => simulation.mapM _ fun _ => elements _ _ rfl
    | array values =>
        exact simulation.bind (simulation.mapM _ fun _ => elements _ _ rfl)
          fun _ => simulation.pure _
    | _ => exact simulation.bind (elements _ _ rfl) fun _ => simulation.pure _

theorem fillMembers
    (simulation : Simulation lookup Simulates)
    (members : ∀ type value, Simulates scopes instances
      (fun index => memberStep index type value) (member type scopes value))
    (bound : Members) (parts : List (String × Field)) (entries : List (String × Value)) :
    Simulates scopes instances
      (fun index => Step.fillMembers (memberStep index) bound parts entries)
      (fillMembers member scopes bound parts entries) := by
  induction parts generalizing entries with
  | nil => exact simulation.pure entries
  | cons part rest inductionHypothesis =>
      simp only [Step.fillMembers, Convert.fillMembers]
      cases entryValue? part.2.name bound with
      | none => exact inductionHypothesis entries
      | some found =>
          by_cases blank : part.1.isEmpty = true
          · simpa only [if_pos blank] using inductionHypothesis entries
          · simp only [if_neg blank]
            exact simulation.bind (members _ _) fun _ => inductionHypothesis _

theorem convertText
    (simulation : Simulation lookup Simulates)
    (made : ∀ table, Simulates scopes instances (fun index => freshStep index table)
      (fresh table))
    (members : ∀ separator,
      lookup.separators.separatorAt field (scopes.enter .object) = .ok separator →
      ∀ type value, Simulates (scopes.enter .object) instances
        (fun index => memberStep index type value) (member type (scopes.enter .object) value))
    (table : Table) (descriptor : Descriptor) (text : String) :
    Simulates scopes instances
      (fun index =>
        Step.convertText lookup (freshStep index) field (memberStep index) table descriptor text)
      (convertText lookup fresh field member table descriptor scopes text) := by
  apply simulation.bind (made table)
  intro seeded
  apply simulation.bind (simulation.membersFor descriptor)
  intro bound
  apply simulation.withScope
  apply simulation.separator_bind
  intro separator here
  by_cases exceeding : table.fields.length < (split separator text).length
  · simp only [if_pos exceeding]
    exact simulation.throw _
  · simp only [if_neg exceeding]
    cases seeded with
    | record name entries =>
        exact simulation.bind (simulation.fillMembers (members separator here) _ _ _)
          fun _ => simulation.pure _
    | _ => exact simulation.pure _

theorem convertRecord
    (simulation : Simulation lookup Simulates)
    (made : ∀ table, Simulates scopes instances (fun index => freshStep index table)
      (fresh table))
    (members : ∀ separator,
      lookup.separators.separatorAt field (scopes.enter .object) = .ok separator →
      ∀ type value, Simulates (scopes.enter .object) instances
        (fun index => memberStep index type value) (member type (scopes.enter .object) value))
    (name : String) (value : Value) :
    Simulates scopes instances
      (fun index =>
        Step.convertRecord lookup (freshStep index) field (memberStep index) name value)
      (convertRecord lookup fresh field member name scopes value) := by
  simp only [Step.convertRecord, Convert.convertRecord]
  cases lookup.tables.get? name with
  | none => exact simulation.pure _
  | some table =>
      dsimp only
      cases lookup.catalog.descriptor? table.name with
      | none => exact simulation.pure _
      | some descriptor =>
          by_cases blank : value.isEmpty = true
          · simp only [if_pos blank]
            apply simulation.openScopes
            split
            · exact simulation.pure _
            · exact simulation.map _ (made table)
          · simp only [if_neg blank]
            cases value with
            | text text =>
                exact simulation.map _ (simulation.convertText made members table descriptor text)
            | _ => exact simulation.pure _

/-- A converter asks for items where as many records are open as here, and for members only where
there is a separator of records. -/
theorem askConverters
    (simulation : Simulation lookup Simulates) (freshStep : ι → FreshStep)
    (elementStep : ι → ValueStep) (memberStep : ι → TypeRef → ValueStep)
    (made : ∀ table, Simulates scopes instances (fun index => freshStep index table)
      (fresh table))
    (elements : ∀ inner value, inner.objectDepth = scopes.objectDepth →
      Simulates inner instances (fun index => elementStep index value) (element inner value))
    (members : ∀ separator,
      lookup.separators.separatorAt field (scopes.enter .object) = .ok separator →
      ∀ type value, Simulates (scopes.enter .object) instances
        (fun index => memberStep index type value) (member type (scopes.enter .object) value))
    (target : TypeRef) (converters : List RankedConverter) (value : Value) :
    Simulates scopes instances
      (fun index => Step.askConverters lookup (freshStep index) field (elementStep index)
        (memberStep index) target converters value)
      (askConverters lookup fresh field element member target converters scopes value) := by
  induction converters with
  | nil => exact simulation.convertLast made target value
  | cons ranked rest inductionHypothesis =>
      rw [askConverters_cons]
      apply simulation.bind
      · simp only [Step.takenBy, takenBy]
        cases ranked.converter with
        | lists =>
            cases target with
            | array item => exact simulation.map _ (simulation.convertList elements value)
            | _ => exact simulation.pure _
        | records =>
            cases target with
            | table name => exact simulation.convertRecord made members name value
            | _ => exact simulation.pure _
        | custom run => exact simulation.lift _
      · intro taken
        cases taken with
        | some result => exact simulation.pure result
        | none => exact inductionHypothesis

end Converters

theorem collectMembers
    (simulation : Simulation lookup Simulates) (step : ι → BoundMember → Step Value)
    {convert : BoundMember → Conversion Value}
    (each : ∀ member, Simulates scopes instances (fun index => step index member)
      (convert member))
    (members : Members) (entries : List (String × Value)) :
    Simulates scopes instances (fun index => Step.collectMembers (step index) members entries)
      (collectMembers convert members entries) := by
  induction members generalizing entries with
  | nil => exact simulation.pure entries
  | cons entry rest inductionHypothesis =>
      exact simulation.bind (each entry.2) fun _ => inductionHypothesis _

end Simulation

end TypedTables.Convert
