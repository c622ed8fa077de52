import TypedTables.Proofs.Data.Sparing

/-!
# What builds leave of their configuration

A build reads its configuration first and does not look after the file from then on.  Writing data
takes every file of the data format out of the output folder that is none of a table, and the
configuration may be one of them.
-/

namespace TypedTables

open TypedTables.Config TypedTables.Discover TypedTables.Files TypedTables.Generate

variable {compiler : Compiler} {settings : Settings} {options : BuildOptions} {source : Source}
  {origin : Store} {location : Location} {held : Option ByteArray}

/-! ## Parts of builds -/

section Builds

variable {after failed : Store → Prop}

end Builds

/-! ## Configurations -/

end TypedTables
