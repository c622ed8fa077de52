import TypedTables.Proofs.Discover.Opening

/-!
# Names of tables

A table is named after the label of its sheet, with every character replaced that may not stand in
an identifier.  Neither the words of its header nor the types of its fields change the name.
-/

namespace TypedTables.Discover

open TypedTables.Schema TypedTables.Config

/-- The table has the name that a label stands for. -/
def Labelled (table : Table) : Prop :=
  table.name ≠ "" ∧ ∃ label, table.name = Naming.sanitize label

/-! ## Headers -/

theorem labelled_readHeader
    {settings : Settings} {run : Naming.Scope} {ref : SheetRef} {sheet : Sheet}
    {table : Table} {first : Nat}
    (read : readHeader settings run ref sheet = .ok (some (table, first))) : Labelled table := by
  have header : HeaderRead settings run ref sheet table first := headerRead_of_readHeader read
  refine header.invariant (fun _ table => Labelled table) ?_ ?_
  · intro table named label _
    exact ⟨named, label⟩
  · intro _ column _ table next _ labelled step
    cases step with
    | skipped flags => exact labelled
    | added flags field => exact labelled

/-! ## Sources -/

namespace Source

variable {settings : Settings} {run : Naming.Scope} {provider : SheetProvider} {source : Source}

end Source

end TypedTables.Discover
