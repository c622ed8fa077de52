import Mathlib.Data.List.Nodup
import TypedTables.Generate.Declaration
import TypedTables.Proofs.Number.Integer

/-!
# Discriminants

The generated code numbers the variants of an enumeration: a variant has its own value, or else one
more than the variant in front of it.  So every value begins a run of consecutive numbers, and the
numbers are distinct exactly if the runs keep apart.
-/

namespace TypedTables.Generate

open TypedTables.Number

/-- The discriminants of variants with some values, of which the first is to be `next` without a
value of its own. -/
def discriminants : (next : Int) → (values : List (Option Int)) → List Int
  | _, [] => []
  | next, value :: rest => value.getD next :: discriminants (value.getD next + 1) rest

/-- The discriminants of a generated enumeration. -/
def Declaration.discriminants (declaration : Declaration) : List Int :=
  Generate.discriminants 0 (declaration.variants.map (·.value))

/-! ## Runs -/

/-- A number and those that follow it. -/
structure Run where
  first : Int
  following : Nat

namespace Run

def last (run : Run) : Int :=
  run.first + run.following

def numbers (run : Run) : List Int :=
  (List.range (run.following + 1)).map fun offset => run.first + Int.ofNat offset

/-- One run ends in front of the other. -/
def Apart (left right : Run) : Prop :=
  left.last < right.first ∨ right.last < left.first

theorem mem_numbers {run : Run} {number : Int} :
    number ∈ run.numbers ↔ run.first ≤ number ∧ number ≤ run.last := by
  unfold numbers last
  rw [List.mem_map]
  constructor
  · rintro ⟨offset, member, rfl⟩
    rw [List.mem_range] at member
    rw [Int.ofNat_eq_natCast]
    omega
  · rintro ⟨low, high⟩
    refine ⟨(number - run.first).toNat, List.mem_range.mpr (by omega), ?_⟩
    rw [Int.ofNat_eq_natCast]
    omega

theorem nodup_numbers (run : Run) : run.numbers.Nodup := by
  refine List.Nodup.map ?_ List.nodup_range
  intro left right same
  exact Int.ofNat.inj (Int.add_left_cancel same)

theorem disjoint_numbers_iff {left right : Run} :
    left.numbers.Disjoint right.numbers ↔ left.Apart right := by
  have leftOrder : left.first ≤ left.last := by unfold last; omega
  have rightOrder : right.first ≤ right.last := by unfold last; omega
  constructor
  · intro disjoint
    by_contra overlapping
    unfold Apart at overlapping
    -- The later of the two beginnings is in both runs.
    have inLeft : max left.first right.first ∈ left.numbers := mem_numbers.mpr (by omega)
    have inRight : max left.first right.first ∈ right.numbers := mem_numbers.mpr (by omega)
    exact disjoint inLeft inRight
  · intro apart number inLeft inRight
    rw [mem_numbers] at inLeft inRight
    unfold Apart at apart
    omega

end Run

/-- The runs of variants that go on with a run: a value begins the next one. -/
def runsFrom (run : Run) : (values : List (Option Int)) → List Run
  | [] => [run]
  | none :: rest => runsFrom { run with following := run.following + 1 } rest
  | some value :: rest => run :: runsFrom ⟨value, 0⟩ rest

/-- The runs of consecutive discriminants that variants with some values have. -/
def runs : (values : List (Option Int)) → List Run
  | [] => []
  | value :: rest => runsFrom ⟨value.getD 0, 0⟩ rest

theorem flatMap_runsFrom (run : Run) (values : List (Option Int)) :
    (runsFrom run values).flatMap Run.numbers =
      run.numbers ++ discriminants (run.last + 1) values := by
  induction values generalizing run with
  | nil => simp [runsFrom, discriminants]
  | cons value rest inductionHypothesis =>
      cases value with
      | none =>
          let longer : Run := { run with following := run.following + 1 }
          have sameLast : longer.last = run.last + 1 := by
            simp only [longer, Run.last]
            omega
          have grown : longer.numbers = run.numbers ++ [run.last + 1] := by
            unfold Run.numbers
            rw [List.range_succ, List.map_append, List.map_singleton, ← sameLast]
            rfl
          rw [runsFrom, inductionHypothesis, grown, sameLast, List.append_assoc]
          rfl
      | some value =>
          have alone : (⟨value, 0⟩ : Run).numbers = [value] := by
            simp [Run.numbers]
          have itsLast : (⟨value, 0⟩ : Run).last = value := Int.add_zero value
          rw [runsFrom, List.flatMap_cons, inductionHypothesis, alone, itsLast]
          rfl

/-- The numbers of the runs, one run behind the other, are the discriminants. -/
theorem flatMap_runs (values : List (Option Int)) :
    (runs values).flatMap Run.numbers = discriminants 0 values := by
  cases values with
  | nil => rfl
  | cons value rest =>
      have alone : (⟨value.getD 0, 0⟩ : Run).numbers = [value.getD 0] := by
        simp [Run.numbers]
      have itsLast : (⟨value.getD 0, 0⟩ : Run).last = value.getD 0 := Int.add_zero _
      rw [runs, flatMap_runsFrom, alone, itsLast]
      rfl

theorem nodup_discriminants_iff (values : List (Option Int)) :
    (discriminants 0 values).Nodup ↔ (runs values).Pairwise Run.Apart := by
  rw [← flatMap_runs, List.nodup_flatMap, and_iff_right fun run _ => run.nodup_numbers]
  exact List.Pairwise.iff fun left right => Run.disjoint_numbers_iff

/-- Every run begins with a value, or with zero. -/
theorem first_of_mem_runsFrom
    {begun run : Run} {values : List (Option Int)} (member : run ∈ runsFrom begun values) :
    run.first = begun.first ∨ some run.first ∈ values := by
  induction values generalizing begun with
  | nil =>
      rw [runsFrom, List.mem_singleton] at member
      exact Or.inl (member ▸ rfl)
  | cons value rest inductionHypothesis =>
      cases value with
      | none =>
          rw [runsFrom] at member
          exact (inductionHypothesis member).imp_right (List.mem_cons_of_mem _)
      | some value =>
          rw [runsFrom] at member
          rcases List.mem_cons.mp member with rfl | inRest
          · exact Or.inl rfl
          · right
            rcases inductionHypothesis inRest with same | given
            · rw [same]
              exact List.mem_cons_self
            · exact List.mem_cons_of_mem _ given

theorem first_of_mem_runs
    {run : Run} {values : List (Option Int)} (member : run ∈ runs values) :
    run.first = 0 ∨ some run.first ∈ values := by
  cases values with
  | nil => cases member
  | cons value rest =>
      rcases first_of_mem_runsFrom member with same | given
      · cases value with
        | none => exact Or.inl same
        | some value => exact Or.inr (same ▸ List.mem_cons_self)
      · exact Or.inr (List.mem_cons_of_mem _ given)

/-- Discriminants are within a range if the values and zero are, and the last numbers of the
runs. -/
theorem within_discriminants_iff
    {range : IntRange} (zero : range.contains 0 = true) {values : List (Option Int)}
    (given : ∀ value, some value ∈ values → range.contains value = true) :
    (∀ number ∈ discriminants 0 values, range.contains number = true) ↔
      ∀ run ∈ runs values, range.contains run.last = true := by
  rw [← flatMap_runs]
  constructor
  · intro within run member
    have ordered : run.first ≤ run.last := by unfold Run.last; omega
    exact within run.last (List.mem_flatMap.mpr
      ⟨run, member, Run.mem_numbers.mpr ⟨ordered, Int.le_refl _⟩⟩)
  · intro ends number member
    obtain ⟨run, inRuns, inRun⟩ := List.mem_flatMap.mp member
    have bounds := Run.mem_numbers.mp inRun
    have last := IntRange.contains_iff.mp (ends run inRuns)
    have first : range.contains run.first = true := by
      rcases first_of_mem_runs inRuns with same | isValue
      · rw [same]
        exact zero
      · exact given _ isValue
    rw [IntRange.contains_iff] at first ⊢
    omega

/-- The values themselves are among the discriminants, in their order. -/
theorem sublist_discriminants (next : Int) (values : List (Option Int)) :
    (values.filterMap id).Sublist (discriminants next values) := by
  induction values generalizing next with
  | nil => exact List.Sublist.slnil
  | cons value rest inductionHypothesis =>
      cases value with
      | none => exact (inductionHypothesis _).cons _
      | some value => exact (inductionHypothesis _).cons_cons _

end TypedTables.Generate
