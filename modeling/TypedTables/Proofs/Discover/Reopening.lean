import Mathlib.Data.List.Induction
import TypedTables.Proofs.Discover.Opening

/-!
# Sources that are opened again

An opening that fails leaves the tables that it found before.  The source is not open then, but its
tables can be read, and the next opening finds the first of them a second time.
-/

namespace TypedTables.Discover

open TypedTables.Schema TypedTables.Config TypedTables.Text

namespace Source

variable {settings : Settings} {run : Naming.Scope} {provider : SheetProvider}

/-! ## Calls -/

/-- What the holder of a source can do to it. -/
inductive Call
  | open
  | close
  deriving Repr, DecidableEq

/-- The source after a call. -/
def call (settings : Settings) (run : Naming.Scope) (provider : SheetProvider)
    (source : Source) : Call → Source
  | .open => (source.openWith settings run provider).1
  | .close => source.close

/-- A new source after calls. -/
def afterCalls (settings : Settings) (run : Naming.Scope) (provider : SheetProvider)
    (calls : List Call) : Source :=
  calls.foldl (call settings run provider) {}

/-- A source that is not open is empty, and an opening that fails leaves no trace. -/
structure Traceless (settings : Settings) (run : Naming.Scope) (provider : SheetProvider)
    (source : Source) : Prop where
  schema : source.isOpen = false → source.tables.tables = []
  rows : source.isOpen = false → ∀ name, ∃ failure, source.rows name = .error failure
  kept : ∀ left failure, source.openWith settings run provider = (left, .error failure) →
    left = source
  again : ∀ left failure, source.openWith settings run provider = (left, .error failure) →
    (left.openWith settings run provider).2 = .error failure

/-! ## Sheets -/

/-- The table of a sheet, if it is one. -/
def readSheet (settings : Settings) (run : Naming.Scope) (provider : SheetProvider)
    (ref : SheetRef) : Outcome (Option LoadedTable) := do
  let sheet ← provider.load ref
  let header ← readHeader settings run ref sheet
  return header.map fun entry => ⟨entry.1, sheet, entry.2⟩

/-- Opening finds no table before it fails. -/
def FailsEarly (settings : Settings) (run : Naming.Scope) (provider : SheetProvider) : Prop :=
  settings.input.role? .fieldName = none ∨ (∃ failure, provider.sheets = .error failure) ∨
    ∃ before ref after failure, provider.sheets = .ok (before ++ ref :: after) ∧
      (∀ other ∈ before, readSheet settings run provider other = .ok none) ∧
      readSheet settings run provider ref = .error failure

theorem addSheet_eq (source : Source) (ref : SheetRef) :
    source.addSheet settings run provider ref =
      match readSheet settings run provider ref with
      | .ok (some entry) => source.add entry
      | .ok none => .ok source
      | .error failure => .error failure := by
  unfold addSheet readSheet
  cases provider.load ref with
  | error failure => rfl
  | ok sheet =>
      show (readHeader settings run ref sheet >>= _) = _
      cases shape : readHeader settings run ref sheet with
      | error failure => simp [bind, Except.bind, shape]
      | ok header =>
          cases header with
          | none => simp [bind, Except.bind, pure, Except.pure, shape]
          | some entry => simp [bind, Except.bind, pure, Except.pure, shape]

theorem addSheets_skip
    {before : List SheetRef}
    (skipped : ∀ ref ∈ before, readSheet settings run provider ref = .ok none)
    (source : Source) (rest : List SheetRef) :
    source.addSheets settings run provider (before ++ rest) =
      source.addSheets settings run provider rest := by
  induction before with
  | nil => rfl
  | cons ref others inductionHypothesis =>
      have here : source.addSheet settings run provider ref = .ok source := by
        rw [addSheet_eq, skipped ref List.mem_cons_self]
      have later := inductionHypothesis fun other member =>
        skipped other (List.mem_cons_of_mem ref member)
      rw [List.cons_append, addSheets, here]
      exact later

theorem addSheets_grows
    (settings : Settings) (run : Naming.Scope) (provider : SheetProvider)
    (source : Source) (refs : List SheetRef) :
    source.loaded <+: (source.addSheets settings run provider refs).1.loaded ∧
      (source.addSheets settings run provider refs).1.isOpen = source.isOpen := by
  induction refs generalizing source with
  | nil => exact ⟨List.prefix_rfl, rfl⟩
  | cons ref rest inductionHypothesis =>
      rw [addSheets, addSheet_eq]
      cases readSheet settings run provider ref with
      | error failure => exact ⟨List.prefix_rfl, rfl⟩
      | ok header =>
          cases header with
          | none => exact inductionHypothesis source
          | some entry =>
              dsimp only
              cases added : source.add entry with
              | error failure => exact ⟨List.prefix_rfl, rfl⟩
              | ok grown =>
                  obtain ⟨-, same⟩ := add_eq_ok_iff.mp added
                  have later := inductionHypothesis grown
                  rw [same] at later
                  dsimp only
                  rw [same]
                  exact ⟨(List.prefix_append _ _).trans later.1, later.2⟩

/-- Either no sheet is a table, or there is a first one that is a table or cannot be read. -/
theorem first_of_sheets
    (settings : Settings) (run : Naming.Scope) (provider : SheetProvider)
    (refs : List SheetRef) :
    (∀ ref ∈ refs, readSheet settings run provider ref = .ok none) ∨
      ∃ before ref after, refs = before ++ ref :: after ∧
        (∀ other ∈ before, readSheet settings run provider other = .ok none) ∧
        ((∃ failure, readSheet settings run provider ref = .error failure) ∨
          ∃ entry, readSheet settings run provider ref = .ok (some entry)) := by
  induction refs with
  | nil => exact Or.inl (by simp)
  | cons ref rest inductionHypothesis =>
      cases shape : readSheet settings run provider ref with
      | error failure => exact Or.inr ⟨[], ref, rest, rfl, by simp, Or.inl ⟨failure, shape⟩⟩
      | ok header =>
          cases header with
          | some entry => exact Or.inr ⟨[], ref, rest, rfl, by simp, Or.inr ⟨entry, shape⟩⟩
          | none =>
              rcases inductionHypothesis with all | ⟨before, found, after, parts, skipped, last⟩
              · left
                intro other member
                rcases List.mem_cons.mp member with atHead | inRest
                · rw [atHead, shape]
                · exact all other inRest
              · right
                refine ⟨ref :: before, found, after, by rw [parts]; rfl, ?_, last⟩
                intro other member
                rcases List.mem_cons.mp member with atHead | inRest
                · rw [atHead, shape]
                · exact skipped other inRest

theorem addSheets_of_error
    {before after : List SheetRef} {ref : SheetRef} {failure : Failure}
    (skipped : ∀ other ∈ before, readSheet settings run provider other = .ok none)
    (failed : readSheet settings run provider ref = .error failure) (source : Source) :
    source.addSheets settings run provider (before ++ ref :: after) =
      (source, .error failure) := by
  rw [addSheets_skip skipped, addSheets, addSheet_eq, failed]

/-- A source that has the first table of the sheets already finds it a second time. -/
theorem addSheets_of_present
    {before after : List SheetRef} {ref : SheetRef} {entry : LoadedTable} {source : Source}
    (skipped : ∀ other ∈ before, readSheet settings run provider other = .ok none)
    (read : readSheet settings run provider ref = .ok (some entry))
    (present : lowercase entry.table.name ∈
      source.loaded.map fun loaded => lowercase loaded.table.name) :
    source.addSheets settings run provider (before ++ ref :: after) =
      (source, .error (.duplicateTable entry.table.name)) := by
  have taken : (source.tables.get? entry.table.name).isSome = true := by
    rw [Option.isSome_iff_ne_none, ne_eq, tables_get?_eq_none_iff, Classical.not_not]
    exact present
  have refused : source.add entry = .error (.duplicateTable entry.table.name) := by
    rw [add, TableSet.insert, if_pos taken]
    rfl
  rw [addSheets_skip skipped, addSheets, addSheet_eq, read]
  dsimp only
  rw [refused]

theorem addSheets_of_table
    {before : List SheetRef} {ref : SheetRef} {entry : LoadedTable} (after : List SheetRef)
    (skipped : ∀ other ∈ before, readSheet settings run provider other = .ok none)
    (read : readSheet settings run provider ref = .ok (some entry)) :
    entry ∈ (({} : Source).addSheets settings run provider (before ++ ref :: after)).1.loaded := by
  have added : ({} : Source).add entry = .ok { loaded := [entry] } :=
    add_eq_ok_iff.mpr ⟨rfl, rfl⟩
  rw [addSheets_skip skipped, addSheets, addSheet_eq, read]
  dsimp only
  rw [added]
  have kept := (addSheets_grows settings run provider { loaded := [entry] } after).1
  exact kept.subset List.mem_cons_self

/-! ## Openings of a new source -/

theorem resolve_names (mappings : List TypeMapping) (source : Source) :
    ((source.resolve mappings).1.loaded.map fun entry => lowercase entry.table.name) =
      source.loaded.map fun entry => lowercase entry.table.name :=
  names_of_keeps lowercase (resolveTables_keeps mappings source.tables source.loaded)

theorem openWith_of_discover_error
    {source left : Source} {failure : Failure} (closed : source.isOpen = false)
    (failed : source.discover settings run provider = (left, .error failure)) :
    source.openWith settings run provider = (left, .error failure) := by
  rw [openWith, if_neg (by simp [closed]), failed]

theorem isOpen_of_openWith
    {source first : Source}
    (opened : source.openWith settings run provider = (first, .ok ())) : first.isOpen = true := by
  rcases openWith_eq_ok opened with ⟨isOpen, same⟩ | ⟨found, _, same⟩
  · rwa [same]
  · rw [same]

theorem discover_of_sheets
    {refs : List SheetRef} (placed : settings.input.role? .fieldName ≠ none)
    (listed : provider.sheets = .ok refs) (source : Source) :
    source.discover settings run provider =
      match source.addSheets settings run provider refs with
      | (found, .ok ()) => found.resolve settings.typeMappings
      | (found, .error failure) => (found, .error failure) := by
  have present : ¬ (settings.input.role? .fieldName).isNone = true := by
    rw [Option.isNone_iff_eq_none]
    exact placed
  simp only [discover, listed]
  exact if_neg present

theorem openWith_of_failsEarly (early : FailsEarly settings run provider) :
    ∃ failure, ({} : Source).openWith settings run provider = ({}, .error failure) := by
  by_cases missing : settings.input.role? .fieldName = none
  · refine ⟨.missingFieldNameRow, openWith_of_discover_error rfl ?_⟩
    rw [discover, if_pos (by rw [missing]; rfl)]
  · rcases early.resolve_left missing with
      ⟨failure, unlisted⟩ | ⟨before, ref, after, failure, listed, skipped, failed⟩
    · refine ⟨failure, openWith_of_discover_error rfl ?_⟩
      rw [discover, if_neg (by rwa [Option.isNone_iff_eq_none]), unlisted]
    · refine ⟨failure, openWith_of_discover_error rfl ?_⟩
      rw [discover_of_sheets missing listed, addSheets_of_error skipped failed]

/-- What is left of an opening that found a table has a table of that name. -/
theorem discover_of_table
    {before after : List SheetRef} {ref : SheetRef} {entry : LoadedTable}
    (placed : settings.input.role? .fieldName ≠ none)
    (listed : provider.sheets = .ok (before ++ ref :: after))
    (skipped : ∀ other ∈ before, readSheet settings run provider other = .ok none)
    (read : readSheet settings run provider ref = .ok (some entry)) :
    let left := (({} : Source).discover settings run provider).1
    left.isOpen = false ∧
      lowercase entry.table.name ∈ left.loaded.map fun loaded => lowercase loaded.table.name := by
  have found := addSheets_of_table after skipped read
  have shut := (addSheets_grows settings run provider {} (before ++ ref :: after)).2
  have named : lowercase entry.table.name ∈
      (({} : Source).addSheets settings run provider (before ++ ref :: after)).1.loaded.map
        fun loaded => lowercase loaded.table.name :=
    List.mem_map.mpr ⟨entry, found, rfl⟩
  dsimp only
  rw [discover_of_sheets placed listed]
  rcases shape : ({} : Source).addSheets settings run provider (before ++ ref :: after) with
    ⟨grown, outcome⟩
  rw [shape] at shut named
  cases outcome with
  | error failure => exact ⟨shut, named⟩
  | ok value =>
      dsimp only
      rw [resolve_names]
      exact ⟨shut, named⟩

/-- How the first opening ends: it succeeds, or it fails and leaves nothing, or it fails and leaves
tables, of which every later opening finds one a second time. -/
theorem openWith_new_cases
    (settings : Settings) (run : Naming.Scope) (provider : SheetProvider) :
    (∃ first, ({} : Source).openWith settings run provider = (first, .ok ())) ∨
    FailsEarly settings run provider ∨
    ∃ left failure name, ({} : Source).openWith settings run provider = (left, .error failure) ∧
      left.isOpen = false ∧ left.loaded ≠ [] ∧
      left.openWith settings run provider = (left, .error (.duplicateTable name)) := by
  rcases shape : ({} : Source).discover settings run provider with ⟨left, outcome⟩
  cases outcome with
  | ok value =>
      left
      refine ⟨{ left with isOpen := true }, ?_⟩
      rw [openWith, if_neg (by simp), shape]
  | error failure =>
      right
      by_cases early : FailsEarly settings run provider
      · exact Or.inl early
      · right
        have placed : settings.input.role? .fieldName ≠ none :=
          fun missing => early (Or.inl missing)
        cases listed : provider.sheets with
        | error unlisted => exact absurd (Or.inr (Or.inl ⟨unlisted, listed⟩)) early
        | ok refs =>
            rcases first_of_sheets settings run provider refs
              with all | ⟨before, ref, after, rfl, skipped, ⟨failed, reason⟩ | ⟨entry, read⟩⟩
            · rw [discover_of_sheets placed listed] at shape
              have none := addSheets_skip all {} []
              rw [List.append_nil] at none
              rw [none] at shape
              cases shape
            · exact absurd (Or.inr (Or.inr ⟨before, ref, after, failed, listed, skipped, reason⟩))
                early
            · have found := discover_of_table placed listed skipped read
              rw [shape] at found
              obtain ⟨shut, named⟩ := found
              refine ⟨left, failure, entry.table.name, openWith_of_discover_error rfl shape, shut,
                ?_, openWith_of_discover_error shut ?_⟩
              · intro empty
                dsimp only at named
                rw [empty] at named
                cases named
              · rw [discover_of_sheets placed listed, addSheets_of_present skipped read named]

/-! ## Sequences of calls -/

/-- Opening once more what the first opening left changes nothing. -/
theorem openWith_again
    (settings : Settings) (run : Naming.Scope) (provider : SheetProvider) :
    let left := (({} : Source).openWith settings run provider).1
    (left.openWith settings run provider).1 = left := by
  dsimp only
  rcases openWith_new_cases settings run provider with
    ⟨first, opened⟩ | early | ⟨left, failure, name, failed, -, -, again⟩
  · rw [opened, openWith, if_pos (isOpen_of_openWith opened)]
  · obtain ⟨failure, failed⟩ := openWith_of_failsEarly early
    rw [failed, failed]
  · rw [failed, again]

theorem call_cases
    {source : Source} (next : Call)
    (reached : source = {} ∨ source = (({} : Source).openWith settings run provider).1) :
    source.call settings run provider next = {} ∨
      source.call settings run provider next =
        (({} : Source).openWith settings run provider).1 := by
  cases next with
  | close => exact Or.inl rfl
  | «open» =>
      right
      rcases reached with rfl | rfl
      · rfl
      · exact openWith_again settings run provider

/-- However often a source is opened and closed, it is new or as the first opening left it. -/
theorem afterCalls_cases
    (settings : Settings) (run : Naming.Scope) (provider : SheetProvider)
    (calls : List Call) :
    afterCalls settings run provider calls = {} ∨
      afterCalls settings run provider calls =
        (({} : Source).openWith settings run provider).1 := by
  -- a call comes last, so the list is taken apart from its end
  induction calls using List.reverseRecOn with
  | nil => exact Or.inl rfl
  | append_singleton calls next inductionHypothesis =>
      have last : afterCalls settings run provider (calls ++ [next]) =
          (afterCalls settings run provider calls).call settings run provider next := by
        unfold afterCalls
        rw [List.foldl_append]
        rfl
      rw [last]
      exact call_cases next inductionHypothesis

theorem traceless_of_isOpen {source : Source} (isOpen : source.isOpen = true) :
    Traceless settings run provider source where
  schema shut := by
    rw [isOpen] at shut
    cases shut
  rows shut := by
    rw [isOpen] at shut
    cases shut
  kept left failure failed := by
    rw [openWith, if_pos isOpen] at failed
    cases failed
  again left failure failed := by
    rw [openWith, if_pos isOpen] at failed
    cases failed

theorem traceless_new
    (kept : ∀ left failure, ({} : Source).openWith settings run provider = (left, .error failure) →
      left = {}) :
    Traceless settings run provider {} where
  schema _ := rfl
  rows _ name := ⟨.unknownTable name, rfl⟩
  kept := kept
  again left failure failed := by
    rw [kept left failure failed, failed]

/-- A source that is not open is empty, and an opening that fails leaves no trace, however the
source is opened and closed, exactly if opening the sheets succeeds or finds no table before it
fails. -/
theorem traceless_iff :
    (∀ calls, Traceless settings run provider (afterCalls settings run provider calls)) ↔
      (({} : Source).openWith settings run provider).2 = .ok () ∨
        FailsEarly settings run provider := by
  constructor
  · intro traceless
    rcases openWith_new_cases settings run provider with
      ⟨first, opened⟩ | early | ⟨left, failure, name, failed, shut, nonempty, -⟩
    · left
      rw [opened]
    · exact Or.inr early
    · have reached : afterCalls settings run provider [.open] = left :=
        congrArg Prod.fst failed
      have empty := (traceless [.open]).schema
      rw [reached] at empty
      exact absurd (List.map_eq_nil_iff.mp (empty shut)) nonempty
  · intro either calls
    rcases either with succeeded | early
    · rcases shape : ({} : Source).openWith settings run provider with ⟨first, outcome⟩
      rw [shape] at succeeded
      dsimp only at succeeded
      subst succeeded
      rcases afterCalls_cases settings run provider calls with same | same
      · rw [same]
        apply traceless_new
        intro left failure failed
        rw [shape] at failed
        cases failed
      · rw [same, shape]
        exact traceless_of_isOpen (isOpen_of_openWith shape)
    · obtain ⟨failure, failed⟩ := openWith_of_failsEarly early
      have same : afterCalls settings run provider calls = {} := by
        have either := afterCalls_cases settings run provider calls
        rw [failed] at either
        exact either.elim id id
      rw [same]
      apply traceless_new
      intro left other again
      rw [failed] at again
      cases again
      rfl

/-- Sheets of two tables, the second with a field of a type that does not exist. -/
def monsterSheets : SheetProvider := .ofList [
  ("Item", .ofTexts [[], ["Id"], ["int"], [], [], ["1"]]),
  ("Hero", .ofTexts [[], ["Id"], ["Monster"], [], [], ["1"]])]

/-- An opening that fails leaves tables that can be read, and the next one fails for another
reason. -/
theorem trace_of_unknown_type :
    (({} : Source).openWith {} .empty monsterSheets).2 =
        .error (.fieldType "Hero" "Id" (.unknownType "Monster")) ∧
      let source := afterCalls {} .empty monsterSheets [.open]
      source.isOpen = false ∧ source.tables.tables.map (·.name) = ["Item", "Hero"] ∧
        (source.rows "Item").toOption.isSome = true ∧
        (source.openWith {} .empty monsterSheets).2 = .error (.duplicateTable "Item") := by
  decide +kernel

end Source

end TypedTables.Discover
