import Mathlib.Data.List.Induction
import TypedTables.Proofs.Convert.Simulations
import TypedTables.Proofs.Loading

/-!
# Isolation of conversions

A conversion in a context does what the conversion in the scopes that are open there does, and
leaves the scopes and the count of instances as they were.  What it collects does not change what
later conversions give, so a row gives the same record behind other rows as alone.
-/

namespace TypedTables.Convert

open TypedTables.Schema TypedTables.Manifest TypedTables.Binding TypedTables.Text
open TypedTables.Discover

variable {α β : Type} {lookup : Lookup} {scopes : Scopes} {instances : Nat}

/-- Where some scopes are open and some instances begun, the step does what the conversion does,
and leaves the scopes and the instances as they are. -/
def Follows
    (scopes : Scopes) (instances : Nat) (step : Step α) (conversion : Conversion α) : Prop :=
  ∀ cache, step.run.run ⟨scopes, instances, cache⟩ =
    ((conversion.run.run cache).1, ⟨scopes, instances, (conversion.run.run cache).2⟩)

namespace Follows

/-! ## Rules -/

theorem pure (value : α) : Follows scopes instances (Pure.pure value) (Pure.pure value) :=
  fun _ => rfl

theorem throw (failure : Failure) :
    Follows scopes instances (MonadExcept.throw failure : Step α) (MonadExcept.throw failure) :=
  fun _ => rfl

theorem lift (outcome : Outcome α) :
    Follows scopes instances (Step.lift outcome) (Convert.lift outcome) := by
  cases outcome with
  | ok value => exact Follows.pure value
  | error failure => exact Follows.throw failure

theorem bind
    {step : Step α} {conversion : Conversion α} {next : α → Step β}
    {nextConversion : α → Conversion β}
    (first : Follows scopes instances step conversion)
    (rest : ∀ value, Follows scopes instances (next value) (nextConversion value)) :
    Follows scopes instances (step >>= next) (conversion >>= nextConversion) := by
  intro cache
  rw [Outcome.run_bind, Outcome.run_bind, first cache]
  rcases conversion.run.run cache with ⟨outcome, later⟩
  cases outcome with
  | ok value => exact rest value later
  | error failure => rfl

theorem membersFor (descriptor : Descriptor) :
    Follows scopes instances (Step.membersFor lookup descriptor)
      (Convert.membersFor lookup descriptor) :=
  fun _ => rfl

theorem reporting
    {change : Failure → Failure} {step : Step Value} {conversion : Conversion Value}
    (inside : Follows scopes instances step conversion) :
    Follows scopes instances (Step.reporting change step)
      (TypedTables.reporting change conversion) := by
  intro cache
  have caught :
      Step.reporting change step =
        tryCatch step fun failure => MonadExcept.throw (change failure) := rfl
  rw [run_reporting, caught, Outcome.run_tryCatch, inside cache]
  rcases conversion.run.run cache with ⟨outcome, later⟩
  cases outcome <;> rfl

end Follows

/-- Steps that do what conversions do simulate them. -/
theorem simulation_follows (lookup : Lookup) :
    Simulation lookup fun scopes instances _ (step : Unit → Step _) conversion =>
      Follows scopes instances (step ()) conversion where
  lift := Follows.lift
  membersFor := Follows.membersFor
  bind := Follows.bind
  context rest cache := rest cache cache
  between entered left inside cache := by
    rw [Step.run_between, entered, inside cache, left]

section Conversions

variable {freshStep : FreshStep} {fresh : Fresh} {field : Field}
  (made : ∀ scopes table, Follows scopes instances (freshStep table) (fresh table))

include made

theorem zeroOf_follows (target : TypeRef) :
    Follows scopes instances (Step.zeroOf lookup freshStep target)
      (zeroOf lookup fresh target) :=
  (simulation_follows lookup).zeroOf (fun _ => freshStep) (made scopes) target

theorem convertTo_follows
    {memberStep : TypeRef → ValueStep} {member : TypeRef → ValueConversion}
    (members : ∀ type scopes value,
      Follows scopes instances (memberStep type value) (member type scopes value))
    (target : TypeRef) (scopes : Scopes) (value : Value) :
    Follows scopes instances (Step.convertTo lookup freshStep field memberStep target value)
      (convertTo lookup fresh field member target scopes value) := by
  have asked : ∀ (elementStep : ValueStep) (element : ValueConversion) (target : TypeRef)
      (scopes : Scopes) (value : Value),
      (∀ scopes value, Follows scopes instances (elementStep value) (element scopes value)) →
      Follows scopes instances
        (Step.askConverters lookup freshStep field elementStep memberStep target
          lookup.chain.converters value)
        (askConverters lookup fresh field element member target lookup.chain.converters scopes
          value) := by
    intro elementStep element target scopes value elements
    exact (simulation_follows lookup).askConverters (fun _ => freshStep) (fun _ => elementStep)
      (fun _ => memberStep) (made scopes) (fun _ _ _ => elements _ _)
      (fun _ _ type value => members type _ value) target _ value
  induction target generalizing scopes value with
  | array element inductionHypothesis => exact asked _ _ _ _ _ inductionHypothesis
  | primitive _ | table _ | enumeration _ | external _ =>
      exact asked _ _ _ _ _ fun _ value => Follows.pure value

theorem convertLevels_follows
    (levels : Nat) (target : TypeRef) (scopes : Scopes) (value : Value) :
    Follows scopes instances (Step.convertLevels lookup freshStep field levels target value)
      (convertLevels lookup fresh field levels target scopes value) := by
  induction levels generalizing target scopes value with
  | zero => exact convertTo_follows made (fun _ _ value => Follows.pure value) _ _ _
  | succ levels inductionHypothesis =>
      exact convertTo_follows made inductionHypothesis _ _ _

theorem changeType_follows (target : TypeRef) (value : Value) :
    Follows scopes instances (Step.changeType lookup freshStep field target value)
      (changeType lookup fresh field target scopes value) :=
  fun cache => convertLevels_follows made _ target scopes value cache

theorem changeTypeOrDefault_follows (target : TypeRef) (value : Value) :
    Follows scopes instances (Step.changeTypeOrDefault lookup freshStep field target value)
      (changeTypeOrDefault lookup fresh field target scopes value) := by
  simp only [Step.changeTypeOrDefault, changeTypeOrDefault]
  cases field.default <;> exact changeType_follows made target _

/-! ## New records -/

theorem seedMember_follows (table : Table) (member : BoundMember) :
    Follows scopes instances (Step.seedMember lookup freshStep table member)
      (seedMember lookup fresh table member) := by
  simp only [Step.seedMember, seedMember]
  cases table.field? member.name with
  | none => exact zeroOf_follows made _
  | some column =>
      by_cases given : column.default.isSome = true
      · simp only [if_pos given]
        exact (simulation_follows lookup).detached (fun _ => _) (changeTypeOrDefault_follows made _ _)
      · simp only [if_neg given]
        exact zeroOf_follows made _

theorem seedMembers_follows
    (table : Table) (members : Members) (entries : List (String × Value)) :
    Follows scopes instances (Step.seedMembers lookup freshStep table members entries)
      (seedMembers lookup fresh table members entries) := by
  rw [Step.seedMembers_eq, seedMembers_eq]
  exact (simulation_follows lookup).collectMembers (fun _ => Step.seedMember lookup freshStep table)
    (seedMember_follows made table) members entries

end Conversions

/-- Where the instances are used up, no further one is begun. -/
theorem instantiate_follows_full
    (full : instanceLimit ≤ instances) (calls : Nat) (table : Table) :
    Follows scopes instances (Step.instantiate lookup calls table)
      (instantiate lookup 0 table) := by
  cases calls <;> simp only [Step.instantiate, instantiate]
  all_goals
    cases lookup.catalog.descriptor? table.name with
    | none => exact Follows.throw _
    | some descriptor =>
        exact Follows.bind (Follows.membersFor descriptor) fun _ =>
          (simulation_follows lookup).asInstance_full (fun _ => _) full

/-- A new record is made with the room for instances that the context leaves. -/
theorem instantiate_follows
    {calls : Nat} (enough : instanceLimit - instances ≤ calls) (scopes : Scopes) (table : Table) :
    Follows scopes instances (Step.instantiate lookup calls table)
      (instantiate lookup (instanceLimit - instances) table) := by
  induction calls generalizing instances scopes table with
  | zero =>
      rw [Nat.le_zero.mp enough]
      exact instantiate_follows_full (by omega) 0 table
  | succ calls inductionHypothesis =>
      by_cases room : instances < instanceLimit
      · have left : instanceLimit - instances = (instanceLimit - (instances + 1)) + 1 := by omega
        have enoughInside : instanceLimit - (instances + 1) ≤ calls := by omega
        rw [left]
        simp only [Step.instantiate, instantiate]
        cases lookup.catalog.descriptor? table.name with
        | none => exact Follows.throw _
        | some descriptor =>
            apply Follows.bind (Follows.membersFor descriptor)
            intro members
            apply (simulation_follows lookup).asInstance (fun _ => _) room
            exact Follows.bind (seedMembers_follows (inductionHypothesis enoughInside) _ _ _)
              fun _ => Follows.pure _
      · have noRoom : instanceLimit - instances = 0 := by omega
        rw [noRoom]
        exact instantiate_follows_full (by omega) _ table

theorem fresh_follows (scopes : Scopes) (table : Table) :
    Follows scopes instances (Step.fresh lookup table)
      (instantiate lookup (instanceLimit - instances) table) :=
  instantiate_follows (Nat.sub_le _ _) scopes table

/-! ## Calls -/

/-- The conversion that a call stands for where some scopes are open and some instances begun. -/
def Call.conversion (lookup : Lookup) (scopes : Scopes) (instances : Nat) (call : Call) :
    Conversion Value :=
  let fresh := Convert.instantiate lookup (instanceLimit - instances)
  match call with
  | changeType field value target => Convert.changeType lookup fresh field target scopes value
  | changeTypeOrDefault field value target =>
    Convert.changeTypeOrDefault lookup fresh field target scopes value
  | zeroValue target => zeroOf lookup fresh target
  | instantiate table => fresh table

theorem call_follows (scopes : Scopes) (instances : Nat) (call : Call) :
    Follows scopes instances (call.step lookup) (call.conversion lookup scopes instances) := by
  cases call with
  | changeType field value target => exact changeType_follows fresh_follows target value
  | changeTypeOrDefault field value target =>
      exact changeTypeOrDefault_follows fresh_follows target value
  | zeroValue target => exact zeroOf_follows fresh_follows target
  | instantiate table => exact fresh_follows scopes table

theorem call_steady
    (distinct : DistinctTypes lookup.catalog.model) (scopes : Scopes) (instances : Nat)
    (call : Call) :
    Steady lookup (call.conversion lookup scopes instances) := by
  have freshSteady := instantiate_steady distinct (instanceLimit - instances)
  cases call with
  | changeType field value target => exact convertLevels_steady distinct freshSteady _ _ _ _
  | changeTypeOrDefault field value target =>
      exact changeTypeOrDefault_steady distinct freshSteady _ _ _
  | zeroValue target => exact zeroOf_steady distinct freshSteady target
  | instantiate table => exact freshSteady table

/-- After calls no scope is open and no instance begun, and every collected list of members is the
one of its type. -/
theorem after_sound
    (distinct : DistinctTypes lookup.catalog.model) (calls : List Call) :
    ∃ cache, Context.after lookup calls = ⟨{}, 0, cache⟩ ∧ SoundCache lookup cache := by
  unfold Context.after
  induction calls using List.reverseRecOn with
  | nil => exact ⟨[], rfl, soundCache_nil⟩
  | append_singleton calls call inductionHypothesis =>
      obtain ⟨cache, reached, sound⟩ := inductionHypothesis
      obtain ⟨_, holds⟩ := call_steady distinct {} 0 call
      refine ⟨_, ?_, (holds cache sound).2⟩
      rw [List.foldl_append, List.foldl_cons, List.foldl_nil, reached, call_follows {} 0 call cache]

/-! ## Rows -/

theorem convertMember_follows (table : Table) (row : RawRow) (member : BoundMember) :
    Follows {} 0 (Step.convertMember lookup table row member)
      (convertMember lookup table row member) := by
  unfold Step.convertMember convertMember
  cases fieldPosition? table member with
  | none => exact zeroOf_follows fresh_follows _
  | some position =>
      dsimp only
      cases table.fields[position]? with
      | none => exact zeroOf_follows fresh_follows _
      | some field =>
          exact Follows.reporting (changeTypeOrDefault_follows fresh_follows _ _)

theorem convertMembers_follows
    (table : Table) (row : RawRow) (members : Members) (entries : List (String × Value)) :
    Follows {} 0 (Step.convertMembers lookup table row members entries)
      (convertMembers lookup table row members entries) := by
  induction members generalizing entries with
  | nil => exact Follows.pure entries
  | cons entry rest inductionHypothesis =>
      unfold Step.convertMembers convertMembers
      exact Follows.bind (convertMember_follows table row entry.2) fun _ => inductionHypothesis _

/-- Converts the rows that are read from a table into records of its type. -/
def loadRows (lookup : Lookup) (table : Table) (rows : Outcome (List RawRow)) :
    Conversion (List Value) :=
  match lookup.catalog.descriptor? table.name with
  | none => throw (.unboundTable table.name)
  | some descriptor => do
    let members ← membersFor lookup descriptor
    (← lift rows).mapM (convertRow lookup table descriptor members)

theorem loadRecords_eq (source : Source) (table : Table) :
    loadRecords lookup source table = loadRows lookup table (source.rows table.name) :=
  rfl

theorem loadRows_follows (table : Table) (rows : Outcome (List RawRow)) :
    Follows {} 0 (Step.loadRecords lookup table rows) (loadRows lookup table rows) := by
  unfold Step.loadRecords loadRows
  cases lookup.catalog.descriptor? table.name with
  | none => exact Follows.throw _
  | some descriptor =>
      apply Follows.bind (Follows.membersFor descriptor)
      intro members
      apply Follows.bind (Follows.lift rows)
      intro read
      apply (simulation_follows lookup).mapM fun _ => Step.convertRow lookup table descriptor members
      intro row
      exact Follows.bind (convertMembers_follows table row members []) fun _ => Follows.pure _

theorem Steady.reporting
    {change : Failure → Failure} {conversion : Conversion Value}
    (steady : Steady lookup conversion) :
    Steady lookup (TypedTables.reporting change conversion) := by
  obtain ⟨outcome, holds⟩ := steady
  refine ⟨outcome.mapError change, ?_⟩
  intro cache sound
  obtain ⟨given, laterSound⟩ := holds cache sound
  rw [run_reporting]
  rcases shape : conversion.run.run cache with ⟨result, later⟩
  rw [shape] at given laterSound
  rw [← given]
  cases result <;> exact ⟨rfl, laterSound⟩

theorem convertMember_steady
    (distinct : DistinctTypes lookup.catalog.model) (table : Table) (row : RawRow)
    (member : BoundMember) :
    Steady lookup (convertMember lookup table row member) := by
  have freshSteady := instantiate_steady distinct instanceLimit
  unfold convertMember
  split
  · exact zeroOf_steady distinct freshSteady _
  · split
    · exact zeroOf_steady distinct freshSteady _
    · exact Steady.reporting (changeTypeOrDefault_steady distinct freshSteady _ _ _)

theorem convertRow_steady
    (distinct : DistinctTypes lookup.catalog.model) (table : Table) (descriptor : Descriptor)
    (members : Members) (row : RawRow) :
    Steady lookup (convertRow lookup table descriptor members row) := by
  unfold convertRow
  apply Steady.bind _ fun _ => Steady.pure _
  generalize ([] : List (String × Value)) = entries
  induction members generalizing entries with
  | nil => exact Steady.pure entries
  | cons entry rest inductionHypothesis =>
      unfold convertMembers
      exact Steady.bind (convertMember_steady distinct table row entry.2) fun _ =>
        inductionHypothesis _

theorem loadRows_steady
    (distinct : DistinctTypes lookup.catalog.model) (table : Table)
    (rows : Outcome (List RawRow)) :
    Steady lookup (loadRows lookup table rows) := by
  unfold loadRows
  split
  · exact Steady.throw _
  · next descriptor bound =>
      have typeMember := Catalog.mem_types_of_descriptor? bound
      apply Steady.bind ⟨_, membersFor_returns distinct typeMember⟩
      intro members
      apply Steady.bind (Steady.lift rows)
      intro read
      exact Steady.mapM fun row => convertRow_steady distinct table descriptor members row

/-- Every row of a bound table has one outcome, and the rows together have the outcomes of all of
them up to the first failure. -/
theorem loadRows_satisfies
    (distinct : DistinctTypes lookup.catalog.model) {table : Table} {descriptor : Descriptor}
    (bound : lookup.catalog.descriptor? table.name = some descriptor) :
    ∃ outcomes : RawRow → Outcome Value, ∀ rows,
      Satisfies lookup (loadRows lookup table (.ok rows)) (· = rows.mapM outcomes) := by
  have collected := membersFor_returns distinct (Catalog.mem_types_of_descriptor? bound)
  choose outcomes each using
    convertRow_steady distinct table descriptor (membersOf lookup.providers descriptor)
  refine ⟨outcomes, ?_⟩
  intro rows
  unfold loadRows
  rw [bound]
  apply Satisfies.bind collected
  · rintro members given
    rw [Except.ok.inj given]
    exact Satisfies.mapM each
  · intro failure impossible
    cases impossible

theorem loadRecords_eq_ok_iff
    (distinct : DistinctTypes lookup.catalog.model) {cache : MemberCache}
    (sound : SoundCache lookup cache) (table : Table) (rows : List RawRow)
    (records : List Value) :
    ((loadRows lookup table (.ok rows)).run.run cache).1 = .ok records ↔
      List.Forall₂
          (fun row record => ((loadRows lookup table (.ok [row])).run.run []).1 = .ok [record])
          rows records ∧
        (rows = [] → (lookup.catalog.descriptor? table.name).isSome) := by
  cases bound : lookup.catalog.descriptor? table.name with
  | none =>
      have failing : ∀ rows cache,
          ((loadRows lookup table rows).run.run cache).1 = .error (.unboundTable table.name) := by
        intro rows cache
        unfold loadRows
        rw [bound]
        rfl
      simp only [failing]
      constructor
      · intro impossible
        cases impossible
      · rintro ⟨each, noRows⟩
        cases each with
        | nil => cases noRows rfl
        | cons impossible _ => cases impossible
  | some descriptor =>
      obtain ⟨outcomes, holds⟩ := loadRows_satisfies distinct bound
      have alone : ∀ row record,
          ((loadRows lookup table (.ok [row])).run.run []).1 = .ok [record] ↔
            outcomes row = .ok record := by
        intro row record
        rw [(holds [row] [] soundCache_nil).1, Outcome.mapM_eq_ok_iff]
        simp
      rw [(holds rows cache sound).1, Outcome.mapM_eq_ok_iff]
      simp only [alone, Option.isSome_some, implies_true, and_true]

/-! ## Isolation -/

/-- Every call, whether it ends well or fails, leaves the open scopes and the count of instances as
it found them, and does what the conversion in those scopes does.  Where no two types have one full
name, what a call gives does not depend on the calls before it, and the records of a table are
those that its rows give alone. -/
theorem conversions_isolated (lookup : Lookup) :
    (∀ (call : Call) (context : Context),
      let ran := (call.step lookup).run.run context
      let converted :=
        (call.conversion lookup context.scopes context.instances).run.run context.members
      ran.2.scopes = context.scopes ∧ ran.2.instances = context.instances ∧
        (ran.1, ran.2.members) = converted) ∧
    (DistinctTypes lookup.catalog.model →
      (∀ (history : List Call) (call : Call),
        ((call.step lookup).run.run (.after lookup history)).1 =
          ((call.step lookup).run.run {}).1) ∧
      (∀ (history : List Call) (source : Source) (table : Table),
        ((Step.loadRecords lookup table (source.rows table.name)).run.run
            (.after lookup history)).1 =
          ((loadRecords lookup source table).run.run []).1) ∧
      ∀ (history : List Call) (table : Table) (rows : List RawRow) (records : List Value),
        ((Step.loadRecords lookup table (.ok rows)).run.run (.after lookup history)).1 =
            .ok records ↔
          List.Forall₂
              (fun row record =>
                ((Step.loadRecords lookup table (.ok [row])).run.run {}).1 = .ok [record])
              rows records ∧
            (rows = [] → (lookup.catalog.descriptor? table.name).isSome)) := by
  refine ⟨?_, ?_⟩
  · intro call context
    dsimp only
    rw [call_follows context.scopes context.instances call context.members]
    exact ⟨rfl, rfl, rfl⟩
  · intro distinct
    refine ⟨?_, ?_, ?_⟩
    · intro history call
      obtain ⟨cache, reached, sound⟩ := after_sound distinct history
      obtain ⟨_, holds⟩ := call_steady distinct {} 0 call
      rw [reached, call_follows {} 0 call cache, call_follows {} 0 call [],
        (holds cache sound).1, (holds [] soundCache_nil).1]
    · intro history source table
      obtain ⟨cache, reached, sound⟩ := after_sound distinct history
      obtain ⟨_, holds⟩ := loadRows_steady distinct table (source.rows table.name)
      rw [reached, loadRows_follows table _ cache, loadRecords_eq, (holds cache sound).1,
        (holds [] soundCache_nil).1]
    · intro history table rows records
      obtain ⟨cache, reached, sound⟩ := after_sound distinct history
      rw [reached, loadRows_follows table _ cache]
      simp only [loadRows_follows table _ []]
      exact loadRecords_eq_ok_iff distinct sound table rows records

/-- Two rows behind a cell that cannot be converted and a new record. -/
theorem conversions_isolated_pairs :
    let lookup : Lookup := .ofSource pairSource pairCatalog ⟨[], []⟩
    let field : Field := { name := "A", column := 1 }
    let history : List Call :=
      [.changeType field (.text "x") (.primitive .int32), .instantiate pairTable]
    let rows : List RawRow := [⟨6, [.text "7", .text "x"]⟩, ⟨7, [.text "8", .null]⟩]
    DistinctTypes lookup.catalog.model ∧
      ∃ records : List Value,
        records.map Value.toText = ["Pair \x7b A: 7, B: x \x7d", "Pair \x7b A: 8, B:  \x7d"] ∧
          ((Step.loadRecords lookup pairTable (.ok rows)).run.run (.after lookup history)).1 =
            .ok records ∧
          List.Forall₂
            (fun row record =>
              ((Step.loadRecords lookup pairTable (.ok [row])).run.run {}).1 = .ok [record])
            rows records := by
  intro lookup field history rows
  have distinct : DistinctTypes lookup.catalog.model := by
    intro left leftMember right rightMember _
    rw [List.mem_singleton.mp leftMember, List.mem_singleton.mp rightMember]
  have shown :
      ((Step.loadRecords lookup pairTable (.ok rows)).run.run
          (.after lookup history)).1.toOption.map (·.map Value.toText) =
        some ["Pair \x7b A: 7, B: x \x7d", "Pair \x7b A: 8, B:  \x7d"] := by
    decide +kernel
  obtain ⟨records, given, texts⟩ := Option.map_eq_some_iff.mp shown
  have isolated := (conversions_isolated lookup).2 distinct
  have loaded := Outcome.eq_ok_of_toOption given
  have alone := ((isolated.2.2 history pairTable rows records).mp loaded).1
  exact ⟨distinct, records, texts, loaded, alone⟩

end TypedTables.Convert
