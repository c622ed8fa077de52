import TypedTables.Convert.Conversion
import TypedTables.Proofs.Outcome

/-!
# Relations of conversions

A relation that sequences of conversions respect is one of whole conversions as soon as it is one of
their parts: of how they make new records, and of how they convert the items of lists and the
members of records.
-/

namespace TypedTables.Convert

open TypedTables.Schema TypedTables.Manifest TypedTables.Binding TypedTables.Text

/-! ## Failures -/

/-- A failure that a conversion can begin with, of its own or by a converter of the chain. -/
def Arises (lookup : Lookup) (failure : Failure) : Prop :=
  failure.kind ∈ [FailureKind.coercion, .configuration, .binding] ∨
    ∃ ranked ∈ lookup.chain.converters, ∃ run value target,
      ranked.converter = .custom run ∧ run value target = .error failure

section Arises

variable {lookup : Lookup} {failure : Failure}

theorem arises_coercePrimitive
    {value : Value} {type : Primitive} (failed : coercePrimitive value type = .error failure) :
    Arises lookup failure := by
  left
  unfold coercePrimitive coerceInteger at failed
  grind [Failure.kind]

theorem arises_toVariant
    {descriptor : Descriptor} {value : Value} (failed : toVariant descriptor value = .error failure) :
    Arises lookup failure := by
  left
  unfold toVariant at failed
  grind [Failure.kind]

theorem arises_separatorAt
    {separators : Separators} {field : Field} {scopes : Scopes}
    (failed : separators.separatorAt field scopes = .error failure) : Arises lookup failure := by
  left
  unfold Separators.separatorAt at failed
  grind [Failure.kind]

end Arises

/-! ## Relations -/

/-- A relation that sequences respect, and that holds of the outcomes that conversions can begin
with and of collecting members. -/
structure Compositional (lookup : Lookup)
    (Related : ∀ ⦃α : Type⦄, Conversion α → Conversion α → Prop) : Prop where
  lift : ∀ {α : Type} (outcome : Outcome α),
    (∀ failure, outcome = .error failure → Arises lookup failure) →
      Related (Convert.lift outcome) (Convert.lift outcome)
  collected : ∀ {table : String} {descriptor : Descriptor},
    lookup.catalog.descriptor? table = some descriptor →
      Related (membersFor lookup descriptor) (membersFor lookup descriptor)
  bind : ∀ {α β : Type} {left right : Conversion α} {next other : α → Conversion β},
    Related left right → (∀ value, Related (next value) (other value)) →
      Related (left >>= next) (right >>= other)

/-- What one converter of a chain takes. -/
def takenBy
    (lookup : Lookup) (fresh : Fresh) (field : Field) (element : ValueConversion)
    (member : TypeRef → ValueConversion) (target : TypeRef) (converter : Converter)
    (scopes : Scopes) (value : Value) : Conversion (Option Value) :=
  match converter, target with
  | .lists, .array _ => some <$> convertList lookup field element scopes value
  | .records, .table name => convertRecord lookup fresh field member name scopes value
  | .custom run, _ => lift (run value target)
  | _, _ => pure none

theorem askConverters_cons
    {lookup : Lookup} {fresh : Fresh} {field : Field} {element : ValueConversion}
    {member : TypeRef → ValueConversion} (target : TypeRef) (ranked : RankedConverter)
    (rest : List RankedConverter) (scopes : Scopes) (value : Value) :
    askConverters lookup fresh field element member target (ranked :: rest) scopes value =
      takenBy lookup fresh field element member target ranked.converter scopes value >>=
        fun taken =>
          match taken with
          | some result => pure result
          | none =>
              askConverters lookup fresh field element member target rest scopes value := by
  obtain ⟨_, _, converter⟩ := ranked
  cases converter <;> cases target <;> rfl

namespace Compositional

variable {lookup : Lookup} {Related : ∀ ⦃α : Type⦄, Conversion α → Conversion α → Prop}
  {α β : Type}

theorem pure (related : Compositional lookup Related) (value : α) :
    Related (Pure.pure value) (Pure.pure value) :=
  related.lift (.ok value) (by simp)

theorem throw
    (related : Compositional lookup Related) {failure : Failure} (arises : Arises lookup failure) :
    Related (MonadExcept.throw failure : Conversion α) (MonadExcept.throw failure) :=
  related.lift (.error failure) fun _ same => Except.error.inj same ▸ arises

theorem map
    (related : Compositional lookup Related) (change : α → β) {left right : Conversion α}
    (parts : Related left right) : Related (change <$> left) (change <$> right) := by
  rw [map_eq_pure_bind, map_eq_pure_bind]
  exact related.bind parts fun value => related.pure (change value)

theorem mapM
    (related : Compositional lookup Related) {items : List α} {left right : α → Conversion β}
    (each : ∀ item, Related (left item) (right item)) :
    Related (items.mapM left) (items.mapM right) := by
  induction items with
  | nil =>
      rw [List.mapM_nil, List.mapM_nil]
      exact related.pure []
  | cons item rest inductionHypothesis =>
      rw [List.mapM_cons, List.mapM_cons]
      exact related.bind (each item) fun _ => related.bind inductionHypothesis fun _ =>
        related.pure _

/-! ## Converters -/

section Converters

variable {fresh other : Fresh} {field : Field} {element item : ValueConversion}
  {member part : TypeRef → ValueConversion}

theorem zeroOf
    (related : Compositional lookup Related)
    (freshRelated : ∀ table, Related (fresh table) (other table)) (target : TypeRef) :
    Related (zeroOf lookup fresh target) (zeroOf lookup other target) := by
  unfold Convert.zeroOf
  split
  · exact related.pure _
  · exact related.pure _
  · split
    · split <;> exact related.pure _
    · exact related.pure _
  · split
    · split
      · exact freshRelated _
      · exact related.pure _
    · exact related.pure _
  · exact related.pure _

theorem convertLast
    (related : Compositional lookup Related)
    (freshRelated : ∀ table, Related (fresh table) (other table)) (target : TypeRef)
    (value : Value) :
    Related (convertLast lookup fresh target value) (convertLast lookup other target value) := by
  unfold Convert.convertLast
  split
  · exact related.zeroOf freshRelated target
  · split
    · exact related.lift _ fun _ => arises_coercePrimitive
    · split
      · exact related.lift _ fun _ => arises_toVariant
      · exact related.throw (.inl (by simp [Failure.kind]))
    · exact related.pure _
    · exact related.pure _
    · exact related.pure _
    · exact related.throw (.inl (by simp [Failure.kind]))

theorem convertList
    (related : Compositional lookup Related)
    (elementRelated : ∀ scopes value, Related (element scopes value) (item scopes value))
    (scopes : Scopes) (value : Value) :
    Related (convertList lookup field element scopes value)
      (convertList lookup field item scopes value) := by
  unfold Convert.convertList
  split
  · exact related.pure _
  · split
    · apply related.bind (related.lift _ fun _ => arises_separatorAt)
      intro separator
      exact related.bind (related.mapM fun _ => elementRelated _ _) fun _ => related.pure _
    · exact related.bind (related.mapM fun _ => elementRelated _ _) fun _ => related.pure _
    · exact related.bind (elementRelated _ _) fun _ => related.pure _

theorem fillMembers
    (related : Compositional lookup Related)
    (memberRelated : ∀ type scopes value,
      Related (member type scopes value) (part type scopes value))
    (scopes : Scopes) (members : Members) (parts : List (String × Field))
    (entries : List (String × Value)) :
    Related (fillMembers member scopes members parts entries)
      (fillMembers part scopes members parts entries) := by
  induction parts generalizing entries with
  | nil => exact related.pure entries
  | cons text rest inductionHypothesis =>
      unfold Convert.fillMembers
      split
      · split
        · exact inductionHypothesis entries
        · exact related.bind (memberRelated _ _ _) fun _ => inductionHypothesis _
      · exact inductionHypothesis entries

theorem convertText
    (related : Compositional lookup Related)
    (freshRelated : ∀ table, Related (fresh table) (other table))
    (memberRelated : ∀ type scopes value,
      Related (member type scopes value) (part type scopes value))
    {table : Table} {descriptor : Descriptor}
    (found : lookup.catalog.descriptor? table.name = some descriptor) (scopes : Scopes)
    (text : String) :
    Related (convertText lookup fresh field member table descriptor scopes text)
      (convertText lookup other field part table descriptor scopes text) := by
  unfold Convert.convertText
  apply related.bind (freshRelated _)
  intro seeded
  apply related.bind (related.collected found)
  intro members
  apply related.bind (related.lift _ fun _ => arises_separatorAt)
  intro separator
  dsimp only
  split
  · exact related.throw (.inl (by simp [Failure.kind, tooManyParts]))
  · split
    · exact related.bind (related.fillMembers memberRelated _ _ _ _) fun _ => related.pure _
    · exact related.pure _

theorem convertRecord
    (related : Compositional lookup Related)
    (freshRelated : ∀ table, Related (fresh table) (other table))
    (memberRelated : ∀ type scopes value,
      Related (member type scopes value) (part type scopes value))
    (name : String) (scopes : Scopes) (value : Value) :
    Related (convertRecord lookup fresh field member name scopes value)
      (convertRecord lookup other field part name scopes value) := by
  unfold Convert.convertRecord
  split
  · exact related.pure _
  · split
    · exact related.pure _
    · next descriptor found =>
      split
      · split
        · exact related.pure _
        · exact related.map _ (freshRelated _)
      · split
        · exact related.pure _
        · exact related.map _ (related.convertText freshRelated memberRelated found scopes _)
        · exact related.pure _

theorem askConverters
    (related : Compositional lookup Related)
    (freshRelated : ∀ table, Related (fresh table) (other table))
    (elementRelated : ∀ scopes value, Related (element scopes value) (item scopes value))
    (memberRelated : ∀ type scopes value,
      Related (member type scopes value) (part type scopes value))
    (target : TypeRef) (converters : List RankedConverter)
    (chained : converters ⊆ lookup.chain.converters) (scopes : Scopes) (value : Value) :
    Related (askConverters lookup fresh field element member target converters scopes value)
      (askConverters lookup other field item part target converters scopes value) := by
  induction converters with
  | nil => exact related.convertLast freshRelated target value
  | cons ranked rest inductionHypothesis =>
      have ⟨here, later⟩ := List.cons_subset.mp chained
      rw [askConverters_cons, askConverters_cons]
      apply related.bind
      · unfold takenBy
        split
        · exact related.map _ (related.convertList elementRelated scopes value)
        · exact related.convertRecord freshRelated memberRelated _ scopes value
        · next isCustom =>
            exact related.lift _ fun _ failed => .inr ⟨ranked, here, _, value, _, isCustom, failed⟩
        · exact related.pure _
      · intro taken
        cases taken with
        | some result => exact related.pure result
        | none => exact inductionHypothesis later

theorem convertTo
    (related : Compositional lookup Related)
    (freshRelated : ∀ table, Related (fresh table) (other table))
    (memberRelated : ∀ type scopes value,
      Related (member type scopes value) (part type scopes value))
    (target : TypeRef) (scopes : Scopes) (value : Value) :
    Related (convertTo lookup fresh field member target scopes value)
      (convertTo lookup other field part target scopes value) := by
  induction target generalizing scopes value with
  | array element inductionHypothesis =>
      exact related.askConverters freshRelated inductionHypothesis memberRelated _ _
        (List.Subset.refl _) _ _
  | primitive _ | table _ | enumeration _ | external _ =>
      exact related.askConverters freshRelated (fun _ value => related.pure value) memberRelated
        _ _ (List.Subset.refl _) _ _

theorem convertLevels
    (related : Compositional lookup Related)
    (freshRelated : ∀ table, Related (fresh table) (other table))
    (levels : Nat) (target : TypeRef) (scopes : Scopes) (value : Value) :
    Related (convertLevels lookup fresh field levels target scopes value)
      (convertLevels lookup other field levels target scopes value) := by
  induction levels generalizing target scopes value with
  | zero => exact related.convertTo freshRelated (fun _ _ value => related.pure value) _ _ _
  | succ levels inductionHypothesis =>
      exact related.convertTo freshRelated inductionHypothesis _ _ _

theorem changeTypeOrDefault
    (related : Compositional lookup Related)
    (freshRelated : ∀ table, Related (fresh table) (other table))
    (target : TypeRef) (scopes : Scopes) (value : Value) :
    Related (changeTypeOrDefault lookup fresh field target scopes value)
      (changeTypeOrDefault lookup other field target scopes value) := by
  unfold Convert.changeTypeOrDefault
  split <;> exact related.convertLevels freshRelated _ _ _ _

end Converters

/-! ## New records -/

theorem seedMember
    {fresh other : Fresh} (related : Compositional lookup Related)
    (freshRelated : ∀ table, Related (fresh table) (other table)) (table : Table)
    (member : BoundMember) :
    Related (seedMember lookup fresh table member) (seedMember lookup other table member) := by
  unfold Convert.seedMember
  split
  · split
    · exact related.changeTypeOrDefault freshRelated _ _ _
    · exact related.zeroOf freshRelated _
  · exact related.zeroOf freshRelated _

theorem seedMembers
    {fresh other : Fresh} (related : Compositional lookup Related)
    (freshRelated : ∀ table, Related (fresh table) (other table)) (table : Table)
    (members : Members) (entries : List (String × Value)) :
    Related (seedMembers lookup fresh table members entries)
      (seedMembers lookup other table members entries) := by
  induction members generalizing entries with
  | nil => exact related.pure entries
  | cons entry rest inductionHypothesis =>
      unfold Convert.seedMembers
      exact related.bind (related.seedMember freshRelated table entry.2) fun _ =>
        inductionHypothesis _

/-- One more instance may be begun on each side. -/
theorem instantiate_succ
    {room space : Nat} (related : Compositional lookup Related)
    (freshRelated : ∀ table, Related (instantiate lookup room table)
      (instantiate lookup space table)) (table : Table) :
    Related (instantiate lookup (room + 1) table) (instantiate lookup (space + 1) table) := by
  unfold instantiate
  split
  · exact related.throw (.inl (by simp [Failure.kind]))
  · next descriptor found =>
      apply related.bind (related.collected found)
      intro members
      exact related.bind (related.seedMembers freshRelated table members []) fun _ =>
        related.pure _

theorem instantiate
    (related : Compositional lookup Related) (room : Nat) (table : Table) :
    Related (instantiate lookup room table) (instantiate lookup room table) := by
  induction room generalizing table with
  | zero =>
      unfold Convert.instantiate
      split
      · exact related.throw (.inl (by simp [Failure.kind]))
      · next descriptor found =>
          exact related.bind (related.collected found) fun _ =>
            related.throw (.inl (by simp [Failure.kind]))
  | succ room inductionHypothesis => exact related.instantiate_succ inductionHypothesis table

end Compositional

/-! ## More room -/

/-- Every value that the first conversion gives, the second gives as well, and what is collected on
the way is the same. -/
def Refines ⦃α : Type⦄ (small large : Conversion α) : Prop :=
  ∀ cache value later, small.run.run cache = (.ok value, later) →
    large.run.run cache = (.ok value, later)

variable {lookup : Lookup}

theorem compositional_refines : Compositional lookup Refines where
  lift _ _ _ _ _ ran := ran
  collected _ _ _ _ ran := ran
  bind := by
    intro α β left right next other first rest cache value later ran
    rw [Outcome.run_bind] at ran ⊢
    rcases shape : left.run.run cache with ⟨outcome, between⟩
    rw [shape] at ran
    cases outcome with
    | error failure => cases ran
    | ok middle =>
        rw [first cache middle between shape]
        exact rest middle between value later ran

/-- Without room no instance is begun. -/
theorem instantiate_zero_refines (table : Table) (large : Conversion Value) :
    Refines (instantiate lookup 0 table) large := by
  intro cache value later ran
  unfold instantiate at ran
  split at ran
  · cases ran
  · next descriptor _ =>
      rw [Outcome.run_bind] at ran
      rcases (membersFor lookup descriptor).run.run cache with ⟨outcome, between⟩
      cases outcome <;> cases ran

/-- A new record that is made is the same where there is more room. -/
theorem instantiate_refines {small large : Nat} (within : small ≤ large) (table : Table) :
    Refines (instantiate lookup small table) (instantiate lookup large table) := by
  induction small generalizing large table with
  | zero => exact instantiate_zero_refines table _
  | succ small inductionHypothesis =>
      obtain ⟨room, rfl⟩ := Nat.exists_eq_add_of_lt within
      exact compositional_refines.instantiate_succ
        (fun other => inductionHypothesis (Nat.le_add_right small room) other) table

end TypedTables.Convert
