import Mathlib.Data.List.ReduceOption
import TypedTables.Proofs.Discover.Reopening

/-!
# Stages of an opening that succeeds

Opening reads the sheets one by one and then resolves the tables one by one.  It succeeds exactly if
each step does and no two tables share a name; what a step gives depends on its sheet or on its
table, and on the tables that can be looked up by name.
-/

namespace TypedTables.Discover

open TypedTables.Schema TypedTables.Config TypedTables.Text

namespace Source

variable {settings : Settings} {run : Naming.Scope} {provider : SheetProvider}

/-- No two tables share a name, letter case ignored. -/
def NamesApart (loaded : List LoadedTable) : Prop :=
  (loaded.map fun entry => lowercase entry.table.name).Nodup

theorem namesApart_concat_iff
    {source : Source} (apart : NamesApart source.loaded) {entry : LoadedTable} :
    NamesApart (source.loaded ++ [entry]) ↔ source.tables.get? entry.table.name = none := by
  rw [tables_get?_eq_none_iff, NamesApart, List.map_append, List.map_singleton,
    ← List.concat_eq_append, List.nodup_concat]
  exact and_iff_left apart

theorem addSheets_eq_ok_iff
    {source found : Source} {refs : List SheetRef} (apart : NamesApart source.loaded) :
    source.addSheets settings run provider refs = (found, .ok ()) ↔
      ∃ read, refs.mapM (readSheet settings run provider) = .ok read ∧
        NamesApart (source.loaded ++ read.reduceOption) ∧
        found = { source with loaded := source.loaded ++ read.reduceOption } := by
  induction refs generalizing source with
  | nil =>
      rw [addSheets, List.mapM_nil]
      constructor
      · rintro ⟨⟩
        refine ⟨[], rfl, ?_, ?_⟩
        · rw [List.reduceOption_nil, List.append_nil]
          exact apart
        · rw [List.reduceOption_nil, List.append_nil]
      · rintro ⟨read, none, -, same⟩
        rw [← Outcome.pure_eq_ok_iff.mp none, List.reduceOption_nil, List.append_nil] at same
        rw [same]
  | cons ref rest inductionHypothesis =>
      simp only [addSheets, addSheet_eq, List.mapM_cons, Outcome.bind_eq_ok_iff,
        Outcome.pure_eq_ok_iff]
      rcases readSheet settings run provider ref with failure | _ | entry
      · simp
      · dsimp only
        rw [inductionHypothesis apart]
        constructor
        · rintro ⟨read, ran, holds⟩
          exact ⟨none :: read, ⟨none, rfl, read, ran, rfl⟩, holds⟩
        · rintro ⟨_, ⟨_, ⟨⟩, read, ran, rfl⟩, holds⟩
          exact ⟨read, ran, holds⟩
      · dsimp only
        have parts : ∀ read : List (Option LoadedTable),
            source.loaded ++ (some entry :: read).reduceOption =
              source.loaded ++ [entry] ++ read.reduceOption := by
          intro read
          rw [List.reduceOption_cons_of_some, List.append_assoc]
          rfl
        by_cases absent : source.tables.get? entry.table.name = none
        · rw [add_eq_ok_iff.mpr ⟨absent, rfl⟩]
          dsimp only
          rw [inductionHypothesis ((namesApart_concat_iff apart).mpr absent)]
          constructor
          · rintro ⟨read, ran, holds⟩
            refine ⟨some entry :: read, ⟨some entry, rfl, read, ran, rfl⟩, ?_⟩
            rw [parts]
            exact holds
          · rintro ⟨_, ⟨_, ⟨⟩, read, ran, rfl⟩, holds⟩
            rw [parts] at holds
            exact ⟨read, ran, holds⟩
        · constructor
          · intro ended
            cases added : source.add entry with
            | error failure => simp [added] at ended
            | ok grown => exact absurd (add_eq_ok_iff.mp added).1 absent
          · rintro ⟨_, ⟨_, ⟨⟩, read, _, rfl⟩, namesApart, _⟩
            refine absurd ((namesApart_concat_iff apart).mp ?_) absent
            rw [parts, NamesApart, List.map_append] at namesApart
            exact namesApart.of_append_left

theorem resolve_eq_ok_iff
    {mappings : List TypeMapping} {source resolved : Source} :
    source.resolve mappings = (resolved, .ok ()) ↔
      source.loaded.mapM (typedTable mappings source.tables) = .ok resolved.loaded ∧
        (∀ entry ∈ resolved.loaded, entry.table.validateIndices = .ok ()) ∧
        resolved.isOpen = source.isOpen := by
  constructor
  · intro ran
    obtain ⟨tablesRan, isOpen, checked⟩ := resolve_eq_ok ran
    refine ⟨resolveTables_eq_ok_iff.mp tablesRan, ?_, isOpen⟩
    intro entry member
    exact checked entry.table (List.mem_map_of_mem member)
  · rintro ⟨typed, checked, isOpen⟩
    have passes : (resolved.loaded.map (·.table)).forM (·.validateIndices) = .ok () := by
      rw [Outcome.forM_eq_ok_iff]
      intro table member
      obtain ⟨entry, loaded, rfl⟩ := List.mem_map.mp member
      exact checked entry loaded
    have same : resolved = { source with loaded := resolved.loaded } := by
      rw [← isOpen]
    rw [resolve, resolveTables_eq_ok_iff.mpr typed, same]
    exact Prod.ext rfl passes

/-- What the opening of a source by some sheets makes of it, if it succeeds. -/
structure OpenedBy (settings : Settings) (run : Naming.Scope) (provider : SheetProvider)
    (refs : List SheetRef) (source last : Source) (read : List (Option LoadedTable)) : Prop where
  placed : settings.input.role? .fieldName ≠ none
  sheets : refs.mapM (readSheet settings run provider) = .ok read
  namesApart : NamesApart (source.loaded ++ read.reduceOption)
  typed : (source.loaded ++ read.reduceOption).mapM (typedTable settings.typeMappings
    ⟨(source.loaded ++ read.reduceOption).map (·.table)⟩) = .ok last.loaded
  checked : ∀ entry ∈ last.loaded, entry.table.validateIndices = .ok ()
  isOpen : last.isOpen = true

theorem openWith_eq_ok_iff
    {source last : Source} {refs : List SheetRef} (closed : source.isOpen = false)
    (apart : NamesApart source.loaded) (listed : provider.sheets = .ok refs) :
    source.openWith settings run provider = (last, .ok ()) ↔
      ∃ read, OpenedBy settings run provider refs source last read := by
  rw [openWith, if_neg (by simp [closed])]
  constructor
  · intro opened
    have placed : settings.input.role? .fieldName ≠ none := by
      intro missing
      rw [discover, if_pos (by rw [missing]; rfl)] at opened
      cases opened
    rw [discover_of_sheets placed listed] at opened
    rcases added : source.addSheets settings run provider refs with ⟨found, outcome⟩
    rw [added] at opened
    cases outcome with
    | error failure => cases opened
    | ok value =>
        dsimp only at opened
        rcases ran : found.resolve settings.typeMappings with ⟨resolved, last⟩
        rw [ran] at opened
        cases last with
        | error failure => cases opened
        | ok value =>
            cases opened
            obtain ⟨read, sheets, namesApart, rfl⟩ := (addSheets_eq_ok_iff apart).mp added
            obtain ⟨typed, checked, -⟩ := resolve_eq_ok_iff.mp ran
            exact ⟨read, placed, sheets, namesApart, typed, checked, rfl⟩
  · rintro ⟨read, opened⟩
    have added := (addSheets_eq_ok_iff apart).mpr ⟨read, opened.sheets, opened.namesApart, rfl⟩
    have ran : Source.resolve settings.typeMappings
        { source with loaded := source.loaded ++ read.reduceOption } =
          ({ last with isOpen := source.isOpen }, .ok ()) :=
      resolve_eq_ok_iff.mpr ⟨opened.typed, opened.checked, rfl⟩
    rw [discover_of_sheets opened.placed listed, added]
    dsimp only
    rw [ran]
    dsimp only
    rw [← opened.isOpen]

end Source

end TypedTables.Discover
