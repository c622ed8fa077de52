import TypedTables.Convert.Coerce

/-!
# Values of primitive types

Coercion gives values of the wanted type: an integer in the range of the type and of its sign, or
the matching kind of value for the other types.
-/

namespace TypedTables.Convert

open TypedTables.Schema TypedTables.Number

/-- A value of a primitive type. -/
inductive Inhabits : Primitive → Value → Prop
  | signed {type : Primitive} {number : Int}
      (signed : type.isSigned = true) (inRange : type.range.contains number = true) :
      Inhabits type (.int number)
  | unsigned {type : Primitive} {number : Nat}
      (unsigned : type.isUnsigned = true) (inRange : type.range.contains number = true) :
      Inhabits type (.uint number)
  | float {type : Primitive} (float : type.isFloat = true) (value : BinaryFloat) :
      Inhabits type (.float value)
  | bool (value : Bool) : Inhabits .bool (.bool value)
  | text (value : String) : Inhabits .string (.text value)

theorem Inhabits.exists_float {type : Primitive} {value : Value} (inhabits : Inhabits type value)
    (isFloat : type.isFloat = true) : ∃ number, value = .float number := by
  cases inhabits with
  | float _ number => exact ⟨number, rfl⟩
  | signed signed _ => cases type <;> cases isFloat <;> cases signed
  | unsigned unsigned _ => cases type <;> cases isFloat <;> cases unsigned
  | bool _ | text _ => cases isFloat

theorem inhabits_zero (type : Primitive) : Inhabits type (Value.zero type) := by
  cases type with
  | int8 | int16 | int32 | int64 => exact Inhabits.signed rfl (by decide)
  | uint8 | uint16 | uint32 | uint64 => exact Inhabits.unsigned rfl (by decide)
  | float32 | float64 => exact Inhabits.float rfl _
  | bool => exact Inhabits.bool _
  | string => exact Inhabits.text _

/-- A value that is not blank is coerced into an integer type by its number. -/
theorem coercePrimitive_integer {type : Primitive} {value : Value}
    (visible : ¬value.isEmpty = true)
    (integer : type.isSigned = true ∨ type.isUnsigned = true) :
    coercePrimitive value type = coerceInteger value type := by
  unfold coercePrimitive
  rw [if_neg visible]
  cases type with
  | float32 | float64 | bool | string => simp [Primitive.isSigned, Primitive.isUnsigned] at integer
  | _ => rfl

theorem low_of_isUnsigned {type : Primitive} (unsigned : type.isUnsigned = true) :
    type.range.low = 0 := by
  cases type <;> first | rfl | simp [Primitive.isUnsigned] at unsigned

theorem inhabits_coerceInteger {value result : Value} {type : Primitive}
    (integer : type.isSigned = true ∨ type.isUnsigned = true)
    (coerced : coerceInteger value type = .ok result) : Inhabits type result := by
  unfold coerceInteger at coerced
  split at coerced
  · cases coerced
  · next number _ =>
      split at coerced
      · next inRange =>
          rw [Except.ok.injEq] at coerced
          rw [← coerced]
          by_cases signed : type.isSigned = true
          · rw [if_pos signed]
            exact Inhabits.signed signed inRange
          · rw [if_neg signed]
            have unsigned := integer.resolve_left signed
            have nonnegative : 0 ≤ number := by
              simp only [IntRange.contains, low_of_isUnsigned unsigned, Bool.and_eq_true,
                decide_eq_true_eq] at inRange
              exact inRange.1
            apply Inhabits.unsigned unsigned
            rw [Int.toNat_of_nonneg nonnegative]
            exact inRange
      · cases coerced

theorem inhabits_coercePrimitive {value result : Value} {type : Primitive}
    (coerced : coercePrimitive value type = .ok result) : Inhabits type result := by
  by_cases blank : value.isEmpty = true
  · unfold coercePrimitive at coerced
    rw [if_pos blank, Except.ok.injEq] at coerced
    rw [← coerced]
    exact inhabits_zero type
  · by_cases integer : type.isSigned = true ∨ type.isUnsigned = true
    · rw [coercePrimitive_integer blank integer] at coerced
      exact inhabits_coerceInteger integer coerced
    · unfold coercePrimitive at coerced
      rw [if_neg blank] at coerced
      dsimp only at coerced
      split at coerced
      case h_5 =>
        cases type <;> simp [Primitive.isSigned, Primitive.isUnsigned] at integer <;> contradiction
      all_goals
        split at coerced
        · next found =>
            cases coerced
            obtain ⟨_, _, same⟩ := Option.map_eq_some_iff.mp found
            rw [← same]
            first
              | exact Inhabits.float rfl _
              | exact Inhabits.bool _
              | exact Inhabits.text _
        · cases coerced

end TypedTables.Convert
