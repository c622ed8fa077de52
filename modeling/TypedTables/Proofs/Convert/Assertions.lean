import TypedTables.Convert.Conversion
import TypedTables.Proofs.Outcome
import TypedTables.Proofs.Schema.Entries

/-!
# Assertions about conversions

A conversion collects the members of types on its way.  Collected members are only ever those that
would be collected anew, so what a conversion gives does not depend on them: an assertion about a
conversion speaks of every sound state of the collection.
-/

namespace TypedTables.Convert

open TypedTables.Schema TypedTables.Manifest TypedTables.Binding

variable {α β : Type} {lookup : Lookup}

/-! ## Running conversions -/

theorem run_lift (outcome : Outcome α) (cache : MemberCache) :
    (lift outcome : Conversion α).run.run cache = (outcome, cache) := by
  cases outcome <;> rfl

/-! ## Collecting members -/

theorem cachedMembers_of_kept
    {providers : List Provider} {descriptor : Descriptor} {cache : MemberCache} {members : Members}
    (found : entryValue? descriptor.fullName cache = some members) :
    cachedMembers providers descriptor cache = (members, cache) := by
  unfold cachedMembers
  rw [found]

theorem cachedMembers_of_new
    {providers : List Provider} {descriptor : Descriptor} {cache : MemberCache}
    (absent : entryValue? descriptor.fullName cache = none) :
    cachedMembers providers descriptor cache =
      (membersOf providers descriptor,
        setEntry descriptor.fullName (membersOf providers descriptor) cache) := by
  unfold cachedMembers
  rw [absent, setEntry_of_not_mem (entryValue?_eq_none_iff.mp absent)]

/-! ## Assertions -/

/-- Every collected list of members is the one of its type. -/
def SoundCache (lookup : Lookup) (cache : MemberCache) : Prop :=
  ∀ descriptor ∈ lookup.catalog.model.types, ∀ members,
    entryValue? descriptor.fullName cache = some members →
      members = membersOf lookup.providers descriptor

theorem soundCache_nil : SoundCache lookup [] := by
  intro descriptor _ members found
  simp at found

/-- From every sound collection, the conversion has an outcome with the property and leaves a
sound collection. -/
def Satisfies (lookup : Lookup) (conversion : Conversion α) (post : Outcome α → Prop) : Prop :=
  ∀ cache, SoundCache lookup cache →
    post (conversion.run.run cache).1 ∧ SoundCache lookup (conversion.run.run cache).2

/-- Every value that the conversion gives has the property. -/
def Ensures (lookup : Lookup) (conversion : Conversion α) (post : α → Prop) : Prop :=
  Satisfies lookup conversion fun outcome => ∀ value, outcome = .ok value → post value

/-- The conversion gives the value. -/
def Returns (lookup : Lookup) (conversion : Conversion α) (value : α) : Prop :=
  Satisfies lookup conversion (· = .ok value)

/-- The conversion has one outcome, whatever was collected before it. -/
def Steady (lookup : Lookup) (conversion : Conversion α) : Prop :=
  ∃ outcome, Satisfies lookup conversion (· = outcome)

namespace Satisfies

theorem weaken
    {conversion : Conversion α} {strong post : Outcome α → Prop}
    (holds : Satisfies lookup conversion strong)
    (implies : ∀ outcome, strong outcome → post outcome) :
    Satisfies lookup conversion post := by
  intro cache sound
  exact ⟨implies _ (holds cache sound).1, (holds cache sound).2⟩

/-- The rule of sequences: a failure of the first part is the failure of the whole. -/
theorem bind
    {conversion : Conversion α} {next : α → Conversion β}
    {middle : Outcome α → Prop} {post : Outcome β → Prop}
    (first : Satisfies lookup conversion middle)
    (onValue : ∀ value, middle (.ok value) → Satisfies lookup (next value) post)
    (onFailure : ∀ failure, middle (.error failure) → post (.error failure)) :
    Satisfies lookup (conversion >>= next) post := by
  intro cache sound
  obtain ⟨holds, laterSound⟩ := first cache sound
  rw [Outcome.run_bind]
  rcases shape : conversion.run.run cache with ⟨outcome, later⟩
  rw [shape] at holds laterSound
  cases outcome with
  | ok value => exact onValue value holds later laterSound
  | error failure => exact ⟨onFailure failure holds, laterSound⟩

theorem pure {post : Outcome α → Prop} {value : α} (holds : post (.ok value)) :
    Satisfies lookup (Pure.pure value) post :=
  fun _ sound => ⟨holds, sound⟩

theorem throw {post : Outcome α → Prop} {failure : Failure} (holds : post (.error failure)) :
    Satisfies lookup (MonadExcept.throw failure) post :=
  fun _ sound => ⟨holds, sound⟩

theorem lift {post : Outcome α → Prop} {outcome : Outcome α} (holds : post outcome) :
    Satisfies lookup (Convert.lift outcome) post := by
  intro cache sound
  rw [run_lift]
  exact ⟨holds, sound⟩

/-- Conversions that each have one outcome have that of their sequence. -/
theorem bind_eq
    {conversion : Conversion α} {next : α → Conversion β} {outcome : Outcome α}
    {after : α → Outcome β} (first : Satisfies lookup conversion (· = outcome))
    (rest : ∀ value, Satisfies lookup (next value) (· = after value)) :
    Satisfies lookup (conversion >>= next) (· = outcome >>= after) := by
  apply Satisfies.bind first
  · rintro value rfl
    exact rest value
  · rintro failure rfl
    rfl

theorem mapM
    {items : List α} {convert : α → Conversion β} {outcome : α → Outcome β}
    (each : ∀ item, Satisfies lookup (convert item) (· = outcome item)) :
    Satisfies lookup (items.mapM convert) (· = items.mapM outcome) := by
  induction items with
  | nil =>
      rw [List.mapM_nil, List.mapM_nil]
      exact pure rfl
  | cons item rest inductionHypothesis =>
      rw [List.mapM_cons, List.mapM_cons]
      exact bind_eq (each item) fun _ => bind_eq inductionHypothesis fun _ => pure rfl

end Satisfies

namespace Ensures

theorem weaken
    {conversion : Conversion α} {strong post : α → Prop}
    (holds : Ensures lookup conversion strong)
    (implies : ∀ value, strong value → post value) :
    Ensures lookup conversion post :=
  Satisfies.weaken holds fun _ given value same => implies value (given value same)

theorem bind
    {conversion : Conversion α} {next : α → Conversion β}
    {middle : α → Prop} {post : β → Prop}
    (first : Ensures lookup conversion middle)
    (rest : ∀ value, middle value → Ensures lookup (next value) post) :
    Ensures lookup (conversion >>= next) post := by
  apply Satisfies.bind first
  · intro value given
    exact rest value (given value rfl)
  · intro failure _ value impossible
    cases impossible

theorem pure {post : α → Prop} {value : α} (holds : post value) :
    Ensures lookup (Pure.pure value) post := by
  apply Satisfies.pure
  intro other same
  cases same
  exact holds

theorem throw {post : α → Prop} {failure : Failure} :
    Ensures lookup (MonadExcept.throw failure) post := by
  apply Satisfies.throw
  intro value impossible
  cases impossible

theorem lift {post : α → Prop} {outcome : Outcome α}
    (holds : ∀ value, outcome = .ok value → post value) :
    Ensures lookup (Convert.lift outcome) post :=
  Satisfies.lift holds

theorem map
    {conversion : Conversion α} {change : α → β} {post : β → Prop}
    (holds : Ensures lookup conversion fun value => post (change value)) :
    Ensures lookup (change <$> conversion) post := by
  rw [map_eq_pure_bind]
  exact bind holds fun value given => pure given

/-- What an item's conversion ensures relates the item to its place in the result. -/
theorem mapM_forall₂
    {items : List α} {convert : α → Conversion β} {post : α → β → Prop}
    (each : ∀ item ∈ items, Ensures lookup (convert item) (post item)) :
    Ensures lookup (items.mapM convert) (List.Forall₂ post items) := by
  induction items with
  | nil =>
      rw [List.mapM_nil]
      exact pure .nil
  | cons item rest inductionHypothesis =>
      rw [List.mapM_cons]
      apply bind (each item List.mem_cons_self)
      intro value holds
      apply bind (inductionHypothesis fun other member =>
        each other (List.mem_cons_of_mem item member))
      intro values allHold
      exact pure (.cons holds allHold)

/-- What every item's conversion ensures holds of every item of the result. -/
theorem mapM
    {items : List α} {convert : α → Conversion β} {post : β → Prop}
    (each : ∀ item ∈ items, Ensures lookup (convert item) post) :
    Ensures lookup (items.mapM convert) fun values => ∀ value ∈ values, post value := by
  refine (mapM_forall₂ each).weaken fun values related value member => ?_
  obtain ⟨item, _, holds⟩ := (Outcome.exists_of_forall₂ related).2 value member
  exact holds

/-- A value that a conversion gives from a sound collection has what the conversion ensures. -/
theorem of_run
    {conversion : Conversion α} {post : α → Prop} {cache later : MemberCache} {value : α}
    (holds : Ensures lookup conversion post) (sound : SoundCache lookup cache)
    (ran : conversion.run.run cache = (.ok value, later)) :
    post value := by
  have given := (holds cache sound).1
  rw [ran] at given
  exact given value rfl

end Ensures

namespace Returns

theorem bind
    {conversion : Conversion α} {next : α → Conversion β} {value : α} {result : β}
    (first : Returns lookup conversion value) (rest : Returns lookup (next value) result) :
    Returns lookup (conversion >>= next) result := by
  apply Satisfies.bind first
  · intro other same
    cases same
    exact rest
  · intro failure impossible
    cases impossible

theorem pure {value : α} : Returns lookup (Pure.pure value) value :=
  Satisfies.pure rfl

theorem lift {outcome : Outcome α} {value : α} (same : outcome = .ok value) :
    Returns lookup (Convert.lift outcome) value :=
  Satisfies.lift same

theorem map
    {conversion : Conversion α} {change : α → β} {value : α}
    (first : Returns lookup conversion value) :
    Returns lookup (change <$> conversion) (change value) := by
  rw [map_eq_pure_bind]
  exact bind first pure

/-- Items that were written one by one are given back one by one. -/
theorem mapM_map
    {values : List β} {write : β → α} {convert : α → Conversion β}
    (each : ∀ value ∈ values, Returns lookup (convert (write value)) value) :
    Returns lookup ((values.map write).mapM convert) values := by
  induction values with
  | nil =>
      rw [List.map_nil, List.mapM_nil]
      exact pure
  | cons value rest inductionHypothesis =>
      rw [List.map_cons, List.mapM_cons]
      apply bind (each value List.mem_cons_self)
      apply bind (inductionHypothesis fun other member =>
        each other (List.mem_cons_of_mem value member))
      exact pure

/-- A conversion that gives a value ensures what holds of that value. -/
theorem ensures
    {conversion : Conversion α} {post : α → Prop} {value : α}
    (given : Returns lookup conversion value) (holds : post value) :
    Ensures lookup conversion post := by
  apply Satisfies.weaken given
  intro outcome same other equality
  rw [same, Except.ok.injEq] at equality
  exact equality ▸ holds

theorem run
    {conversion : Conversion α} {cache : MemberCache} {value : α}
    (given : Returns lookup conversion value) (sound : SoundCache lookup cache) :
    (conversion.run.run cache).1 = .ok value :=
  (given cache sound).1

end Returns

end TypedTables.Convert
