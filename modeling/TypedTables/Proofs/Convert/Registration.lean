import Mathlib.Data.List.TakeWhile
import TypedTables.Proofs.Convert.Isolation
import TypedTables.Proofs.Convert.StandardChain

/-!
# Registration of converters

Converters are asked by rank, those of one rank in the order of their registration, and the last
converter behind all of them.  The first of them that does not pass a value on decides what the
value becomes.
-/

namespace TypedTables.Convert

open TypedTables.Schema TypedTables.Manifest TypedTables.Binding TypedTables.Text

/-! ## The order of a chain -/

section Order

variable {registered asked : List RankedConverter} {chain : Chain}

/-- Registered converters in the order in which they are asked. -/
structure StablyRanked (registered asked : List RankedConverter) : Prop where
  rearranged : asked.Perm registered
  ascending : asked.Pairwise fun earlier later => earlier.rank ≤ later.rank
  /-- Those of one rank stand as they were registered. -/
  ties : ∀ rank, asked.filter (·.rank = rank) = registered.filter (·.rank = rank)

/-- Behind the converters up to a rank only higher ones are left. -/
theorem lt_rank_of_mem_dropWhile
    (ascending : asked.Pairwise fun earlier later => earlier.rank ≤ later.rank)
    {bound : Int} {other : RankedConverter}
    (member : other ∈ asked.dropWhile (·.rank ≤ bound)) : bound < other.rank := by
  induction asked with
  | nil => simp at member
  | cons first rest inductionHypothesis =>
      rw [List.pairwise_cons] at ascending
      by_cases passed : first.rank ≤ bound
      · rw [List.dropWhile_cons_of_pos (by simpa using passed)] at member
        exact inductionHypothesis ascending.2 member
      · rw [List.dropWhile_cons_of_neg (by simpa using passed)] at member
        rcases List.mem_cons.mp member with atHead | inRest
        · rw [atHead]
          exact Int.not_le.mp passed
        · exact Int.lt_of_lt_of_le (Int.not_le.mp passed) (ascending.1 other inRest)

/-- A converter can be put between those up to its rank and those of higher ranks. -/
theorem StablyRanked.insert
    {front rear : List RankedConverter} {converter : RankedConverter}
    (ranked : StablyRanked registered (front ++ rear))
    (inFront : ∀ other ∈ front, other.rank ≤ converter.rank)
    (behind : ∀ other ∈ rear, converter.rank < other.rank) :
    StablyRanked (registered ++ [converter]) (front ++ converter :: rear) := by
  constructor
  · calc
      (front ++ converter :: rear).Perm (converter :: (front ++ rear)) := List.perm_middle
      List.Perm _ (converter :: registered) := ranked.rearranged.cons converter
      List.Perm _ (registered ++ [converter]) := (List.perm_append_singleton _ _).symm
  · have ⟨frontAscending, rearAscending, across⟩ := List.pairwise_append.mp ranked.ascending
    rw [List.pairwise_append, List.pairwise_cons]
    refine ⟨frontAscending, ⟨fun other member => Int.le_of_lt (behind other member),
      rearAscending⟩, ?_⟩
    intro other member later atOrBehind
    rcases List.mem_cons.mp atOrBehind with atConverter | inRear
    · rw [atConverter]
      exact inFront other member
    · exact across other member later inRear
  · intro rank
    rw [List.filter_append, List.filter_append, ← ranked.ties rank, List.filter_append]
    by_cases same : converter.rank = rank
    · have noneBehind : rear.filter (·.rank = rank) = [] := by
        rw [List.filter_eq_nil_iff]
        intro other member
        have higher := behind other member
        simp only [decide_eq_true_eq]
        omega
      simp [same, noneBehind]
    · simp [same]

/-- Registering puts a converter behind those of its rank. -/
theorem StablyRanked.register
    (ranked : StablyRanked registered chain.converters) (converter : RankedConverter) :
    StablyRanked (registered ++ [converter]) (chain.register converter).converters := by
  have ascending := ranked.ascending
  rw [← List.takeWhile_append_dropWhile (p := (·.rank ≤ converter.rank)) (l := chain.converters)]
    at ranked
  refine ranked.insert ?_ fun other member => lt_rank_of_mem_dropWhile ascending member
  intro other member
  simpa using List.mem_takeWhile_imp member

end Order

/-! ## Converters inside a chain -/

section Asking

variable {α : Type} {lookup : Lookup} {fresh : Fresh} {field : Field} {target : TypeRef}
  {scopes : Scopes} {value : Value}

theorem Follows.unique
    {instances : Nat} {step : Step α} {left right : Conversion α}
    (followsLeft : Follows scopes instances step left)
    (followsRight : Follows scopes instances step right) : left = right := by
  funext cache
  have same := (followsLeft cache).symm.trans (followsRight cache)
  obtain ⟨sameOutcome, sameContext⟩ := Prod.mk.inj same
  exact Prod.ext sameOutcome (congrArg Context.members sameContext)

end Asking

/-! ## The first that takes a value -/

/-- What converters that are asked in turn come to. -/
inductive Decided (ask : RankedConverter → Conversion (Option Value)) (last : Conversion Value) :
    List RankedConverter → Conversion Value → Prop
  /-- The first that does not pass the value on decides. -/
  | byFirst {before after : List RankedConverter} {ranked : RankedConverter}
      {result : Conversion Value} (passed : ∀ earlier ∈ before, ask earlier = pure none)
      (taken : ask ranked = some <$> result) : Decided ask last (before ++ ranked :: after) result
  /-- The last converter decides where all pass the value on. -/
  | byLast {converters : List RankedConverter}
      (passed : ∀ ranked ∈ converters, ask ranked = pure none) : Decided ask last converters last

theorem Decided.cons
    {ask : RankedConverter → Conversion (Option Value)} {last result : Conversion Value}
    {ranked : RankedConverter} {converters : List RankedConverter}
    (passed : ask ranked = pure none) (decided : Decided ask last converters result) :
    Decided ask last (ranked :: converters) result := by
  cases decided with
  | byFirst earlierPassed taken =>
      rw [← List.cons_append]
      exact .byFirst (List.forall_mem_cons.mpr ⟨passed, earlierPassed⟩) taken
  | byLast allPassed => exact .byLast (List.forall_mem_cons.mpr ⟨passed, allPassed⟩)

section Deciding

variable {lookup : Lookup} {fresh : Fresh} {field : Field} {target : TypeRef}
  {scopes : Scopes} {value : Value}

end Deciding

/-! ## Registration -/

/-- The converters that a new chain begins with. -/
def builtIn : List RankedConverter :=
  [⟨"array", -10, .lists⟩, ⟨"object", -5, .records⟩]

/-- The last converter is asked behind one of a high rank, too. -/
example :
    let registered : List RankedConverter :=
      [⟨"late", 1000, .lists⟩, ⟨"tie", -10, .records⟩, ⟨"early", -20, .lists⟩]
    (registered.foldl Chain.register .standard).names =
      ["early", "array", "tie", "object", "late", "default"] := by
  decide

end TypedTables.Convert
