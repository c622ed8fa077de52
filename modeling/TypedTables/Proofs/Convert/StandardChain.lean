import TypedTables.Proofs.Convert.Steadiness

/-!
# The standard chain

With the converters for lists and records and no others, the type alone decides which converter
takes a value: lists go to the first, tables to the second, and all other types to the last.
-/

namespace TypedTables.Convert

open TypedTables.Schema TypedTables.Manifest TypedTables.Binding TypedTables.Text

variable {lookup : Lookup} {fresh : Fresh} {field : Field}

/-- The conversion of members inside a record with so many levels of records around it left. -/
def memberLevels (lookup : Lookup) (fresh : Fresh) (field : Field) :
    Nat → TypeRef → ValueConversion
  | 0 => fun _ _ value => pure value
  | levels + 1 => convertLevels lookup fresh field levels

theorem convertLevels_eq (levels : Nat) :
    convertLevels lookup fresh field levels =
      convertTo lookup fresh field (memberLevels lookup fresh field levels) := by
  cases levels <;> rfl

/-- A separator of records is in force inside no more records than there are separators. -/
theorem objectDepth_lt_of_separatorAt
    {separators : Separators} {scopes : Scopes} {separator : String}
    (here : separators.separatorAt field (scopes.enter .object) = .ok separator) :
    scopes.objectDepth < (separators.listFor field .object).length := by
  have innermost : (scopes.enter .object).innermost? = some .object := rfl
  have position : (scopes.enter .object).depth .object - 1 = scopes.objectDepth := rfl
  by_contra behind
  have absent : (separators.listFor field .object)[scopes.objectDepth]? = none :=
    List.getElem?_eq_none (Nat.le_of_not_lt behind)
  simp only [Separators.separatorAt, innermost, position, absent] at here
  cases here

/-- Where a separator of records is in force, the members of a record are converted as any value
is inside the record. -/
theorem memberLevels_eq_changeType
    {scopes : Scopes} {separator : String}
    (here : lookup.separators.separatorAt field (scopes.enter .object) = .ok separator)
    (type : TypeRef) (value : Value) :
    memberLevels lookup fresh field
        ((lookup.separators.listFor field .object).length - scopes.objectDepth) type
        (scopes.enter .object) value =
      changeType lookup fresh field type (scopes.enter .object) value := by
  have room := objectDepth_lt_of_separatorAt here
  have inside : (scopes.enter .object).objectDepth = scopes.objectDepth + 1 := rfl
  have left : (lookup.separators.listFor field .object).length - scopes.objectDepth =
      (lookup.separators.listFor field .object).length - (scopes.objectDepth + 1) + 1 := by
    omega
  rw [changeType, inside, left]
  rfl

theorem standard_converters :
    Chain.standard.converters = [⟨"array", -10, .lists⟩, ⟨"object", -5, .records⟩] := rfl

section Taking

variable {element : ValueConversion} {member : TypeRef → ValueConversion}
  {scopes : Scopes} {value : Value}

/-- The first converter takes every value for a list. -/
theorem ask_array (standard : lookup.chain = .standard) (item : TypeRef) :
    askConverters lookup fresh field element member (.array item) lookup.chain.converters
        scopes value =
      convertList lookup field element scopes value := by
  rw [standard, standard_converters, askConverters_cons]
  simp only [takenBy, map_eq_pure_bind, bind_assoc, pure_bind, bind_pure]

/-- The second converter has the first say on a table, the last converter the last. -/
theorem ask_table (standard : lookup.chain = .standard) (name : String) :
    askConverters lookup fresh field element member (.table name) lookup.chain.converters
        scopes value =
      convertRecord lookup fresh field member name scopes value >>= fun taken =>
        match taken with
        | some result => pure result
        | none => convertLast lookup fresh (.table name) value := by
  have passedOver :
      takenBy lookup fresh field element member (.table name) .lists scopes value = pure none := rfl
  rw [standard, standard_converters, askConverters_cons, passedOver, pure_bind]
  dsimp only
  rw [askConverters_cons]
  rfl

/-- A type that is neither a list nor a table. -/
def IsLeaf : TypeRef → Prop
  | .primitive _ | .enumeration _ | .external _ => True
  | .array _ | .table _ => False

/-- The last converter alone takes a value of any other type. -/
theorem ask_leaf
    (standard : lookup.chain = .standard) {target : TypeRef} (leaf : IsLeaf target) :
    askConverters lookup fresh field element member target lookup.chain.converters scopes value =
      convertLast lookup fresh target value := by
  have passedOver : ∀ converter ∈ [Converter.lists, Converter.records],
      takenBy lookup fresh field element member target converter scopes value = pure none := by
    cases target with
    | array _ => exact leaf.elim
    | table _ => exact leaf.elim
    | primitive _ | enumeration _ | external _ =>
        intro converter choice
        cases converter with
        | lists | records => rfl
        | custom _ => simp at choice
  rw [standard, standard_converters, askConverters_cons, passedOver _ (by simp), pure_bind]
  dsimp only
  rw [askConverters_cons, passedOver _ (by simp), pure_bind]
  rfl

end Taking

variable {scopes : Scopes} {value : Value}

theorem convertLevels_array
    (standard : lookup.chain = .standard) (levels : Nat) (item : TypeRef) :
    convertLevels lookup fresh field levels (.array item) scopes value =
      convertList lookup field (convertLevels lookup fresh field levels item) scopes value := by
  rw [convertLevels_eq, convertTo, ask_array standard]

theorem convertLevels_table
    (standard : lookup.chain = .standard) (levels : Nat) (name : String) :
    convertLevels lookup fresh field levels (.table name) scopes value =
      convertRecord lookup fresh field (memberLevels lookup fresh field levels) name scopes value
        >>= fun taken =>
          match taken with
          | some result => pure result
          | none => convertLast lookup fresh (.table name) value := by
  rw [convertLevels_eq, convertTo, ask_table standard]
  simp

theorem convertLevels_leaf
    (standard : lookup.chain = .standard) (levels : Nat) {target : TypeRef}
    (leaf : IsLeaf target) :
    convertLevels lookup fresh field levels target scopes value =
      convertLast lookup fresh target value := by
  rw [convertLevels_eq, convertTo]
  · exact ask_leaf standard leaf
  · intro item same
    rw [same] at leaf
    exact leaf

end TypedTables.Convert
