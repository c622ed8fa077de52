import TypedTables.Proofs.Convert.Assertions
import TypedTables.Proofs.Convert.Relations

/-!
# Steadiness of conversions

Where no two types of the model have one full name, every conversion has one outcome whatever was
collected before it: a conversion that runs behind others gives what it gives alone.
-/

namespace TypedTables.Convert

open TypedTables.Schema TypedTables.Manifest TypedTables.Binding TypedTables.Text

/-- A full name stands for one type of the model. -/
def DistinctTypes (model : Model) : Prop :=
  ∀ left ∈ model.types, ∀ right ∈ model.types, left.fullName = right.fullName → left = right

variable {α β : Type} {lookup : Lookup}

namespace Steady

theorem pure (value : α) : Steady lookup (Pure.pure value) :=
  ⟨.ok value, Satisfies.pure rfl⟩

theorem throw (failure : Failure) : Steady lookup (MonadExcept.throw failure : Conversion α) :=
  ⟨.error failure, Satisfies.throw rfl⟩

theorem lift (outcome : Outcome α) : Steady lookup (Convert.lift outcome) :=
  ⟨outcome, Satisfies.lift rfl⟩

theorem bind
    {conversion : Conversion α} {next : α → Conversion β}
    (first : Steady lookup conversion) (rest : ∀ value, Steady lookup (next value)) :
    Steady lookup (conversion >>= next) := by
  obtain ⟨outcome, holds⟩ := first
  cases outcome with
  | ok value =>
      obtain ⟨result, resultHolds⟩ := rest value
      refine ⟨result, Satisfies.bind holds ?_ ?_⟩
      · intro other same
        cases same
        exact resultHolds
      · intro failure impossible
        cases impossible
  | error failure =>
      refine ⟨.error failure, Satisfies.bind holds ?_ ?_⟩
      · intro other impossible
        cases impossible
      · intro other same
        cases same
        rfl

theorem mapM
    {items : List α} {convert : α → Conversion β}
    (each : ∀ item, Steady lookup (convert item)) :
    Steady lookup (items.mapM convert) := by
  induction items with
  | nil =>
      rw [List.mapM_nil]
      exact pure []
  | cons item rest inductionHypothesis =>
      rw [List.mapM_cons]
      exact bind (each item) fun _ => bind inductionHypothesis fun _ => pure _

/-- A steady conversion that gives a value once always gives it. -/
theorem returns
    {conversion : Conversion α} {cache : MemberCache} {value : α}
    (steady : Steady lookup conversion) (sound : SoundCache lookup cache)
    (given : (conversion.run.run cache).1 = .ok value) :
    Returns lookup conversion value := by
  obtain ⟨outcome, holds⟩ := steady
  have same : outcome = .ok value := (holds cache sound).1.symm.trans given
  rw [same] at holds
  exact holds

theorem ensures {conversion : Conversion α} (steady : Steady lookup conversion) :
    Ensures lookup conversion fun _ => True := by
  obtain ⟨_, holds⟩ := steady
  exact holds.weaken fun _ _ _ _ => trivial

/-- The value that a steady conversion gives once, it always gives. -/
theorem ensures_returns {conversion : Conversion α} (steady : Steady lookup conversion) :
    Ensures lookup conversion (Returns lookup conversion) := by
  obtain ⟨outcome, holds⟩ := steady
  apply Satisfies.weaken holds
  intro given same value isValue
  rw [← same, isValue] at holds
  exact holds

end Steady

/-! ## Members -/

theorem Catalog.mem_types_of_descriptor?
    {catalog : Catalog} {table : String} {descriptor : Descriptor}
    (found : catalog.descriptor? table = some descriptor) :
    descriptor ∈ catalog.model.types := by
  obtain ⟨position, _, atPosition⟩ := Option.bind_eq_some_iff.mp found
  exact List.mem_of_getElem? atPosition

/-- Collecting the members of a type gives its members. -/
theorem membersFor_returns
    (distinct : DistinctTypes lookup.catalog.model) {descriptor : Descriptor}
    (member : descriptor ∈ lookup.catalog.model.types) :
    Returns lookup (membersFor lookup descriptor) (membersOf lookup.providers descriptor) := by
  intro cache sound
  change
    Except.ok (cachedMembers lookup.providers descriptor cache).1 = _ ∧
      SoundCache lookup (cachedMembers lookup.providers descriptor cache).2
  cases found : entryValue? descriptor.fullName cache with
  | some members =>
      rw [cachedMembers_of_kept found]
      exact ⟨by rw [sound descriptor member members found], sound⟩
  | none =>
      rw [cachedMembers_of_new found]
      refine ⟨rfl, ?_⟩
      intro other otherMember members otherFound
      by_cases same : descriptor.fullName = other.fullName
      · rw [← same, entryValue?_setEntry_self, Option.some.injEq] at otherFound
        rw [← otherFound, distinct descriptor member other otherMember same]
      · rw [entryValue?_setEntry_of_ne same] at otherFound
        exact sound other otherMember members otherFound

/-! ## Conversions -/

/-- A steady conversion, and the same again. -/
def SteadySame (lookup : Lookup) ⦃α : Type⦄ (left right : Conversion α) : Prop :=
  Steady lookup left ∧ left = right

theorem compositional_steady (distinct : DistinctTypes lookup.catalog.model) :
    Compositional lookup (SteadySame lookup) where
  lift outcome _ := ⟨Steady.lift outcome, rfl⟩
  collected found :=
    ⟨⟨_, membersFor_returns distinct (Catalog.mem_types_of_descriptor? found)⟩, rfl⟩
  bind first rest := by
    obtain ⟨firstSteady, rfl⟩ := first
    exact ⟨Steady.bind firstSteady fun value => (rest value).1,
      congrArg _ (funext fun value => (rest value).2)⟩

section Conversions

variable {fresh : Fresh} {field : Field}

theorem zeroOf_steady
    (distinct : DistinctTypes lookup.catalog.model)
    (freshSteady : ∀ table, Steady lookup (fresh table)) (target : TypeRef) :
    Steady lookup (zeroOf lookup fresh target) :=
  ((compositional_steady distinct).zeroOf (fun table => ⟨freshSteady table, rfl⟩) target).1

theorem convertLevels_steady
    (distinct : DistinctTypes lookup.catalog.model)
    (freshSteady : ∀ table, Steady lookup (fresh table))
    (levels : Nat) (target : TypeRef) (scopes : Scopes) (value : Value) :
    Steady lookup (convertLevels lookup fresh field levels target scopes value) :=
  ((compositional_steady distinct).convertLevels (fun table => ⟨freshSteady table, rfl⟩)
    levels target scopes value).1

theorem changeTypeOrDefault_steady
    (distinct : DistinctTypes lookup.catalog.model)
    (freshSteady : ∀ table, Steady lookup (fresh table))
    (target : TypeRef) (scopes : Scopes) (value : Value) :
    Steady lookup (changeTypeOrDefault lookup fresh field target scopes value) :=
  ((compositional_steady distinct).changeTypeOrDefault (fun table => ⟨freshSteady table, rfl⟩)
    target scopes value).1

theorem seedMember_steady
    (distinct : DistinctTypes lookup.catalog.model)
    (freshSteady : ∀ table, Steady lookup (fresh table)) (table : Table) (member : BoundMember) :
    Steady lookup (seedMember lookup fresh table member) :=
  ((compositional_steady distinct).seedMember (fun table => ⟨freshSteady table, rfl⟩)
    table member).1

theorem instantiate_steady
    (distinct : DistinctTypes lookup.catalog.model) (room : Nat) (table : Table) :
    Steady lookup (instantiate lookup room table) :=
  ((compositional_steady distinct).instantiate room table).1

end Conversions

end TypedTables.Convert
