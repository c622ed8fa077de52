import TypedTables.Proofs.Discover.Labels
import TypedTables.Proofs.Discover.Reopening
import TypedTables.Proofs.Naming.Identifiers
import TypedTables.Proofs.Schema.Indices

/-!
# Schemas of opened sources

What every later stage relies on in the tables of an opened source.  The fields are as the columns
of the header give them, and stay so when their types are resolved, whether that succeeds or not.
A source may have been opened and closed before, each time with other sheets: tables that a failed
opening left are resolved anew.
-/

namespace TypedTables.Discover

open TypedTables.Schema TypedTables.Config TypedTables.Text

/-! ## Declared types -/

/-- A primitive, or lists of one. -/
def IsBuiltin : TypeRef → Prop
  | .primitive _ => True
  | .array element => IsBuiltin element
  | .table _ | .enumeration _ | .external _ => False

theorem isBuiltin_nest (depth : Nat) (type : TypeRef) :
    IsBuiltin (nest depth type) ↔ IsBuiltin type := by
  induction depth with
  | zero => exact Iff.rfl
  | succ depth inductionHypothesis => exact inductionHypothesis

theorem isBuiltin_of_builtinBase?
    {mappings : List TypeMapping} {name : String} {type : TypeRef}
    (found : builtinBase? mappings name = some type) : IsBuiltin type := by
  unfold builtinBase? at found
  split at found
  · cases found
    trivial
  · obtain ⟨_, -, same⟩ := Option.map_eq_some_iff.mp found
    rw [← same]
    trivial

/-- Among tables, too, nothing declares a primitive but what does so by itself. -/
theorem builtinBase?_eq_some_iff
    {mappings : List TypeMapping} {name : String} {type : TypeRef} (tables : TableSet) :
    builtinBase? mappings name = some type ↔
      IsBuiltin type ∧ baseType mappings tables name = .ok type := by
  constructor
  · intro found
    refine ⟨isBuiltin_of_builtinBase? found, ?_⟩
    unfold baseType
    rw [found]
  · rintro ⟨builtin, based⟩
    unfold baseType at based
    split at based
    · next found =>
        cases based
        exact found
    · dsimp only at based
      split at based
      · next table _ =>
          cases based
          unfold tableType at builtin
          split at builtin <;> exact builtin.elim
      · cases based
        exact builtin.elim
      · cases based

/-- What is known of a declared type before any table is, is what is known in the end. -/
theorem builtinType?_eq_some_iff
    {mappings : List TypeMapping} {declared : String} {type : TypeRef} (tables : TableSet) :
    builtinType? mappings declared = some type ↔
      IsBuiltin type ∧ declaredType mappings tables declared = .ok type := by
  unfold builtinType? declaredType
  rcases declaredParts declared with ⟨depth, name⟩
  dsimp only
  rw [Option.map_eq_some_iff, Outcome.bind_eq_ok_iff]
  constructor
  · rintro ⟨base, found, rfl⟩
    obtain ⟨builtin, based⟩ := (builtinBase?_eq_some_iff tables).mp found
    exact ⟨(isBuiltin_nest depth base).mpr builtin, base, based, rfl⟩
  · rintro ⟨builtin, base, based, nested⟩
    rw [Outcome.pure_eq_ok_iff] at nested
    rw [← nested, isBuiltin_nest] at builtin
    exact ⟨base, (builtinBase?_eq_some_iff tables).mpr ⟨builtin, based⟩, nested⟩

/-! ## Fields -/

/-- Fields as the columns of a header give them, their types aside. -/
structure DrawnFields (mappings : List TypeMapping) (columns : List Nat) (fields : List Field) :
    Prop where
  named : ∀ field ∈ fields, field.name ≠ ""
  columns : (fields.map (·.column)).Sublist columns
  order : fields.map (·.order) = List.range fields.length
  defaults : ∀ field ∈ fields, ∀ value, field.default = some value →
    Suits (builtinType? mappings field.declared) value

/-- A table as a header gives it, the types of its fields aside. -/
structure Drawn (settings : Settings) (entry : LoadedTable) : Prop where
  labelled : Labelled entry.table
  nonempty : entry.table.fields ≠ []
  fields : DrawnFields settings.typeMappings (fieldColumns settings.input entry.sheet)
    entry.table.fields

theorem drawnFields_nil (mappings : List TypeMapping) (columns : List Nat) :
    DrawnFields mappings columns [] where
  named := by simp
  columns := List.nil_sublist columns
  order := rfl
  defaults := by simp

theorem DrawnFields.step
    {mappings : List TypeMapping} {before : List Nat} {column : Nat} {table next : Table}
    (drawn : DrawnFields mappings before table.fields)
    (step : ColumnStep mappings column table next) :
    DrawnFields mappings (before ++ [column]) next.fields := by
  have within : (table.fields.map (·.column)).Sublist (before ++ [column]) :=
    drawn.columns.trans (List.sublist_append_left before [column])
  cases step with
  | skipped flags => exact ⟨drawn.named, within, drawn.order, drawn.defaults⟩
  | added flags field named inColumn last typed suits =>
      refine ⟨?_, ?_, ?_, ?_⟩
      · intro other member
        rcases List.mem_append.mp member with earlier | atEnd
        · exact drawn.named other earlier
        · rw [List.mem_singleton.mp atEnd]
          exact named
      · rw [List.map_append, List.map_singleton, inColumn]
        exact drawn.columns.append (List.Sublist.refl [column])
      · rw [List.map_append, List.map_singleton, last, drawn.order, List.length_append,
          List.length_singleton, List.range_succ]
      · intro other member value given
        rcases List.mem_append.mp member with earlier | atEnd
        · exact drawn.defaults other earlier value given
        · rw [List.mem_singleton.mp atEnd] at given ⊢
          rw [← typed]
          exact suits value given

theorem drawn_of_readHeader
    {settings : Settings} {run : Naming.Scope} {ref : SheetRef} {entry : LoadedTable}
    (read : readHeader settings run ref entry.sheet = .ok (some (entry.table, entry.dataRow))) :
    Drawn settings entry where
  labelled := labelled_readHeader read
  nonempty := (headerRead_of_readHeader read).nonempty
  fields := by
    refine (headerRead_of_readHeader read).invariant
      (fun columns table => DrawnFields settings.typeMappings columns table.fields) ?_ ?_
    · intro table _ _ empty
      rw [empty]
      exact drawnFields_nil settings.typeMappings []
    · intro before column after table next _ drawn step
      exact drawn.step step

/-! ## Types left aside -/

theorem DrawnFields.of_untyped
    {mappings : List TypeMapping} {columns : List Nat} {before after : List Field}
    (drawn : DrawnFields mappings columns before)
    (same : after.map untyped = before.map untyped) : DrawnFields mappings columns after := by
  have origin : ∀ field ∈ after, ∃ other ∈ before, untyped other = untyped field := by
    intro field member
    have shown : untyped field ∈ after.map untyped := List.mem_map_of_mem member
    rw [same] at shown
    exact List.mem_map.mp shown
  have lengths : after.length = before.length := by simpa using congrArg List.length same
  refine ⟨?_, ?_, ?_, ?_⟩
  · intro field member
    obtain ⟨other, present, sameField⟩ := origin field member
    have sameName : (untyped other).name = (untyped field).name := by rw [sameField]
    dsimp only [untyped] at sameName
    rw [← sameName]
    exact drawn.named other present
  · rw [map_of_untyped (·.column) (fun _ => rfl) same]
    exact drawn.columns
  · rw [map_of_untyped (·.order) (fun _ => rfl) same, lengths]
    exact drawn.order
  · intro field member value given
    obtain ⟨other, present, sameField⟩ := origin field member
    have sameDefault : (untyped other).default = (untyped field).default := by rw [sameField]
    have sameDeclared : (untyped other).declared = (untyped field).declared := by rw [sameField]
    dsimp only [untyped] at sameDefault sameDeclared
    rw [← sameDeclared]
    apply drawn.defaults other present
    rw [sameDefault]
    exact given

theorem Drawn.of_untyped
    {settings : Settings} {before after : LoadedTable} (drawn : Drawn settings before)
    (same : before.untyped = after.untyped) : Drawn settings after := by
  have sameFields : before.untyped.table.fields = after.untyped.table.fields := by rw [same]
  have sameName : before.untyped.table.name = after.untyped.table.name := by rw [same]
  have sameSheet : before.untyped.sheet = after.untyped.sheet := by rw [same]
  dsimp only [LoadedTable.untyped] at sameFields sameName sameSheet
  refine ⟨?_, ?_, ?_⟩
  · have labelled := drawn.labelled
    unfold Labelled at labelled ⊢
    rwa [sameName] at labelled
  · intro empty
    rw [empty, List.map_nil, List.map_eq_nil_iff] at sameFields
    exact drawn.nonempty sameFields
  · rw [← sameSheet]
    exact drawn.fields.of_untyped sameFields.symm

/-! ## Schemas -/

/-- What later stages rely on in a table. -/
structure WellShaped (input : Input) (table : Table) : Prop where
  identifier : Naming.isIdentifier table.name = true
  nonempty : table.fields ≠ []
  named : ∀ field ∈ table.fields, field.name ≠ ""
  columns : (table.fields.map (·.column)).Pairwise (· < ·)
  beyond : ∀ field ∈ table.fields, input.offsetColumn < field.column
  order : table.fields.map (·.order) = List.range table.fields.length
  index : (table.fields.map (·.index)).Perm (List.range table.fields.length)
  defaults : ∀ field ∈ table.fields, ∀ target value, field.type = some (.primitive target) →
    field.default = some value → Convert.Inhabits target value

/-- What later stages rely on in the tables of a source. -/
structure WellFormed (input : Input) (tables : TableSet) : Prop where
  names : (tables.tables.map fun table => lowercase table.name).Nodup
  shaped : ∀ table ∈ tables.tables, WellShaped input table
  types : ∀ table ∈ tables.tables, ∀ field ∈ table.fields,
    ∃ type, field.type = some type ∧ RefersTo tables type

theorem Drawn.wellShaped
    {settings : Settings} {entry : LoadedTable} (drawn : Drawn settings entry)
    (checked : entry.table.validateIndices = .ok ())
    (typed : ∀ field ∈ entry.table.fields, ∃ tables type, field.type = some type ∧
      declaredType settings.typeMappings tables field.declared = .ok type) :
    WellShaped settings.input entry.table := by
  obtain ⟨nameNonempty, label, named⟩ := drawn.labelled
  refine ⟨?_, drawn.nonempty, drawn.fields.named, ?_, ?_, drawn.fields.order,
    validateIndices_eq_ok_iff.mp checked, ?_⟩
  · rw [named] at nameNonempty ⊢
    exact Naming.isIdentifier_sanitize nameNonempty
  · exact (List.pairwise_lt_range').sublist drawn.fields.columns
  · intro field member
    have inColumns : field.column ∈ fieldColumns settings.input entry.sheet :=
      drawn.fields.columns.subset (List.mem_map_of_mem member)
    have bounds := List.mem_range'_1.mp inColumns
    omega
  · intro field member target value hasType given
    obtain ⟨tables, type, found, declared⟩ := typed field member
    rw [hasType, Option.some.injEq] at found
    rw [← found] at declared
    have suits : Suits (builtinType? settings.typeMappings field.declared) value :=
      drawn.fields.defaults field member value given
    have builtin : IsBuiltin (.primitive target) := trivial
    rw [(builtinType?_eq_some_iff tables).mpr ⟨builtin, declared⟩] at suits
    exact suits.2 target rfl

/-! ## Histories -/

namespace Source

variable {settings : Settings} {run : Naming.Scope} {source : Source}

/-- A source that openings and closings lead to, whatever sheets each opening meets. -/
inductive Reached (settings : Settings) (run : Naming.Scope) : Source → Prop
  | new : Reached settings run {}
  | opened {source : Source} (provider : SheetProvider) :
      Reached settings run source → Reached settings run (source.openWith settings run provider).1
  | closed {source : Source} : Reached settings run source → Reached settings run source.close

theorem Reached.of_ofProvider
    {provider : SheetProvider} (opened : ofProvider settings run provider = .ok source) :
    Reached settings run source := by
  have reached : Reached settings run (({} : Source).openWith settings run provider).1 :=
    .opened provider .new
  unfold ofProvider at opened
  split at opened
  · next last ran =>
      rw [ran] at reached
      cases opened
      exact reached
  · cases opened

/-- Tables with distinct names that headers gave, whether their types are resolved or not. -/
structure Collected (settings : Settings) (source : Source) : Prop where
  names : (source.loaded.map fun entry => lowercase entry.table.name).Nodup
  drawn : ∀ entry ∈ source.loaded, Drawn settings entry

theorem collected_new (settings : Settings) : Collected settings {} where
  names := List.nodup_nil
  drawn := by simp

namespace Collected

theorem addSheets (collected : Collected settings source) (run : Naming.Scope)
    (provider : SheetProvider) (refs : List SheetRef) :
    Collected settings (source.addSheets settings run provider refs).1 where
  names := names_addSheets settings run provider refs collected.names
  drawn entry member := by
    rcases exists_of_mem_addSheets member with before | ⟨ref, _, read⟩
    · exact collected.drawn entry before
    · exact drawn_of_readHeader read

theorem resolve (collected : Collected settings source) (mappings : List TypeMapping) :
    Collected settings (source.resolve mappings).1 where
  names := by
    rw [resolve_names]
    exact collected.names
  drawn entry member := by
    have keeps := resolveTables_untyped mappings source.tables source.loaded
    obtain ⟨origin, present, same⟩ := exists_of_untyped keeps member
    exact (collected.drawn origin present).of_untyped same

theorem discover (collected : Collected settings source) (run : Naming.Scope)
    (provider : SheetProvider) :
    Collected settings (source.discover settings run provider).1 := by
  unfold Source.discover
  split
  · exact collected
  · split
    · exact collected
    · next refs _ =>
        have grown := collected.addSheets run provider refs
        split
        · next found added =>
            rw [added] at grown
            exact grown.resolve settings.typeMappings
        · next found failure added =>
            rw [added] at grown
            exact grown

theorem openWith (collected : Collected settings source) (run : Naming.Scope)
    (provider : SheetProvider) :
    Collected settings (source.openWith settings run provider).1 := by
  have discovered := collected.discover run provider
  unfold Source.openWith
  split
  · exact collected
  · split
    · next found ran =>
        rw [ran] at discovered
        exact ⟨discovered.names, discovered.drawn⟩
    · next found failure ran =>
        rw [ran] at discovered
        exact discovered

theorem found (collected : Collected settings source) : Found source where
  names := collected.names
  nonempty entry member := (collected.drawn entry member).nonempty
  defaults entry member field inFields value given :=
    ((collected.drawn entry member).fields.defaults field inFields value given).1

end Collected

theorem wellFormed_of_discover
    {provider : SheetProvider} {resolved : Source} (collected : Collected settings source)
    (ran : source.discover settings run provider = (resolved, .ok ())) :
    WellFormed settings.input resolved.tables := by
  have kept : Collected settings resolved := by
    have discovered := collected.discover run provider
    rwa [ran] at discovered
  obtain ⟨refs, found, added, resolving⟩ := discover_eq_ok ran
  have foundCollected : Collected settings found := by
    have grown := collected.addSheets run provider refs
    rwa [added] at grown
  have types := (resolved_of_resolve foundCollected.found resolving).types
  obtain ⟨tablesRan, _, checked⟩ := resolve_eq_ok resolving
  refine ⟨?_, ?_, ?_⟩
  · unfold tables
    rw [List.map_map]
    exact kept.names
  · intro table member
    obtain ⟨entry, loaded, rfl⟩ := List.mem_map.mp member
    apply (kept.drawn entry loaded).wellShaped (checked _ member)
    intro field inFields
    obtain ⟨before, _, fieldsRan⟩ := mem_resolveTables tablesRan loaded
    obtain ⟨origin, _, type, declared, same⟩ := mem_resolveFields fieldsRan inFields
    rw [same]
    exact ⟨found.tables, type, rfl, declared⟩
  · intro table member
    obtain ⟨entry, loaded, rfl⟩ := List.mem_map.mp member
    exact types entry loaded

theorem isOpen_discover
    (settings : Settings) (run : Naming.Scope) (provider : SheetProvider) (source : Source) :
    (source.discover settings run provider).1.isOpen = source.isOpen := by
  unfold discover
  split
  · rfl
  · split
    · rfl
    · next refs _ =>
        have grown := (addSheets_grows settings run provider source refs).2
        split
        · next found added =>
            rw [added] at grown
            exact grown
        · next found failure added =>
            rw [added] at grown
            exact grown

/-- However a source is reached, its tables are collected from headers, and they are well formed
when it is open. -/
theorem tidy_of_reached (reached : Reached settings run source) :
    Collected settings source ∧
      (source.isOpen = true → WellFormed settings.input source.tables) := by
  induction reached with
  | new => exact ⟨collected_new settings, fun isOpen => by cases isOpen⟩
  | closed _ _ => exact ⟨collected_new settings, fun isOpen => by cases isOpen⟩
  | @opened source provider _ inductionHypothesis =>
      obtain ⟨collected, wellFormed⟩ := inductionHypothesis
      refine ⟨collected.openWith run provider, ?_⟩
      rcases ran : source.openWith settings run provider with ⟨last, outcome⟩
      cases outcome with
      | ok value =>
          intro _
          rcases openWith_eq_ok ran with ⟨isOpen, same⟩ | ⟨found, discovered, same⟩
          · rw [same]
            exact wellFormed isOpen
          · have formed : WellFormed settings.input found.tables :=
              wellFormed_of_discover collected discovered
            rw [same]
            exact formed
      | error failure =>
          -- Only a closed source can fail to open, and it stays closed.
          intro isOpen
          have shut : source.isOpen = false := by
            by_contra already
            rw [openWith, if_pos (by simpa using already)] at ran
            cases ran
          have stays := isOpen_discover settings run provider source
          rw [openWith, if_neg (by simp [shut])] at ran
          split at ran
          · cases ran
          · next found other discovered =>
              cases ran
              rw [discovered, shut] at stays
              rw [stays] at isOpen
              cases isOpen

theorem wellFormed_of_reached
    (reached : Reached settings run source) (isOpen : source.isOpen = true) :
    WellFormed settings.input source.tables :=
  (tidy_of_reached reached).2 isOpen

theorem resolved_of_reached
    (reached : Reached settings run source) (isOpen : source.isOpen = true) : Resolved source where
  toFound := (tidy_of_reached reached).1.found
  types entry loaded := by
    have inTables : entry.table ∈ source.tables.tables := List.mem_map_of_mem loaded
    exact (wellFormed_of_reached reached isOpen).types entry.table inTables

end Source

end TypedTables.Discover
