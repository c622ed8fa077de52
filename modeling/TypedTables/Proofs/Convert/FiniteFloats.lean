import TypedTables.Proofs.Convert.Coercion
import TypedTables.Proofs.Number.Printing

/-!
# Floating-point numbers of cells

A cell is coerced into a finite number exactly where the number that it stands for is bounded: it
has a nearest number of 64 bits, which for the narrow type has a nearest one of 32 bits.  Beyond
the bounds, and for the words that stand for no finite number, the coercion does not fail.
-/

namespace TypedTables.Convert

open TypedTables.Schema TypedTables.Number TypedTables.Text

/-- The number that a cell stands for which holds an integer, a truth value or a decimal literal
with white space around it. -/
inductive Stands : Value → ℚ → Prop
  | int (number : Int) : Stands (.int number) number
  | uint (number : Nat) : Stands (.uint number) number
  | bool (value : Bool) : Stands (.bool value) (boolNumber value)
  | text {text : String} {literal : Literal} (trimmed : trim text = String.ofList literal.text) :
      Stands (.text text) literal.value

/-- A cell whose number the type has room for: a number of 64 bits is one that 32 bits have room
for where the type is the narrow one, and any other number is rounded to one of 64 bits first. -/
inductive Bounded (type : Primitive) : Value → Prop
  | blank {value : Value} (blank : value.isEmpty = true) : Bounded type value
  | float {negative : Bool} {significand : Nat} {exponent : Int}
      (fits : type = .float32 → (significand : ℚ) * 2 ^ exponent < BinaryFormat.single.limit) :
      Bounded type (.float (.finite negative significand exponent))
  | number {value : Value} {number : ℚ} (stands : Stands value number)
      (small : |number| < BinaryFormat.double.limit)
      (fits : type = .float32 → ∃ rounded, Nearest .double number rounded ∧
        |rounded| < BinaryFormat.single.limit) : Bounded type value

variable {type : Primitive} {value : Value} {number wide : BinaryFloat}

/-! ## Numbers of 64 bits -/

theorem roundsTo_ofInt (integer : Int) :
    ∃ negative size, RoundsTo .double negative size (BinaryFloat.ofInt .double integer) ∧
      withSign negative size = integer ∧ 0 ≤ size := by
  refine ⟨decide (integer < 0), Ratio.value ⟨integer.natAbs, 1⟩,
    roundsTo_ofRatio sound_double _ Nat.one_pos, ?_, Ratio.value_nonneg⟩
  have size : Ratio.value ⟨integer.natAbs, 1⟩ = ((|integer| : Int) : ℚ) := by
    simp [Ratio.value]
  rw [size]
  by_cases negative : integer < 0
  · simp [withSign, negative, abs_of_neg negative]
  · simp [withSign, negative, abs_of_nonneg (not_lt.mp negative)]

/-- A number that a cell stands for is rounded to one of 64 bits. -/
theorem float?_of_stands {exact : ℚ} (stands : Stands value exact) :
    ∃ negative size wide, float? value = some wide ∧ RoundsTo .double negative size wide ∧
      withSign negative size = exact ∧ 0 ≤ size := by
  cases stands with
  | int integer =>
      obtain ⟨negative, size, rounds, same⟩ := roundsTo_ofInt integer
      exact ⟨negative, size, _, rfl, rounds, same⟩
  | uint integer =>
      obtain ⟨negative, size, rounds, same⟩ := roundsTo_ofInt integer
      exact ⟨negative, size, _, rfl, rounds, same⟩
  | bool value =>
      obtain ⟨negative, size, rounds, same⟩ := roundsTo_ofInt (boolNumber value)
      exact ⟨negative, size, _, rfl, rounds, same⟩
  | @text text literal trimmed =>
      have rounds := Decimal.roundsTo_toBinary settled_double literal.decimal
      have nonnegative : 0 ≤ literal.decimal.size := by
        unfold Decimal.size
        positivity
      refine ⟨_, _, _, ?_, rounds, ?_, nonnegative⟩
      · rw [float?, trimmed, literal.read?_text]
      · rw [literal.size_decimal]
        rfl

/-- Where 32 bits have room for a number of 64 bits. -/
def FitsSingle : BinaryFloat → Prop
  | .finite _ significand exponent =>
      (significand : ℚ) * 2 ^ exponent < BinaryFormat.single.limit
  | _ => False

theorem narrow_infinite (negative : Bool) :
    narrow (.infinite negative) = some (.infinite negative) := by
  cases negative <;> rfl

/-- Narrowing gives a finite number where 32 bits have room for the number. -/
theorem isFinite_narrow (narrowed : narrow wide = some number) :
    number.isFinite = true ↔ FitsSingle wide := by
  cases wide with
  | nan =>
      have isNan : narrow .nan = some .nan := rfl
      rw [isNan] at narrowed
      cases narrowed
      simp [BinaryFloat.isFinite, FitsSingle]
  | infinite negative =>
      rw [narrow_infinite] at narrowed
      cases narrowed
      simp [BinaryFloat.isFinite, FitsSingle]
  | finite negative significand exponent =>
      have rounds := roundsTo_ofRatio sound_single negative
        (BinaryFloat.denominator_magnitude significand exponent)
      rw [BinaryFloat.value_magnitude] at rounds
      rw [narrow, BinaryFloat.convert] at narrowed
      rw [FitsSingle, ← rounds.isFinite_iff]
      cases shape : BinaryFloat.ofRatio .single negative
          (BinaryFloat.magnitude significand exponent) with
      | nan =>
          rw [shape] at rounds
          cases rounds
      | infinite negative =>
          rw [shape] at narrowed
          have same := (narrow_infinite negative).symm.trans narrowed
          cases same
          rfl
      | finite negative rounded place =>
          rw [shape] at narrowed rounds
          cases rounds with
          | finite small fits least most nearest =>
              obtain ⟨read, isRead, finite⟩ := isFinite_read?_plain fits most
              rw [isRead, Option.some.injEq] at narrowed
              rw [← narrowed]
              exact iff_of_true finite rfl

/-! ## Bounds -/

/-- What a number is rounded to is finite and has room in the type where the number has. -/
theorem room_iff
    {negative : Bool} {size exact : ℚ} (rounds : RoundsTo .double negative size wide)
    (same : withSign negative size = exact) (nonnegative : 0 ≤ size) :
    (wide.isFinite = true ∧ (type = .float32 → FitsSingle wide)) ↔
      |exact| < BinaryFormat.double.limit ∧ (type = .float32 →
        ∃ rounded, Nearest .double exact rounded ∧ |rounded| < BinaryFormat.single.limit) := by
  rw [rounds.isFinite_iff, ← same, abs_withSign, abs_of_nonneg nonnegative]
  refine and_congr_right fun small => forall_congr' fun _ => ?_
  cases rounds with
  | infinite large => exact absurd small (not_lt.mpr large)
  | @finite significand exponent _ fits least most nearest =>
      have signed := nearest.withSign negative
      have size : |withSign negative (significand * 2 ^ exponent)| = significand * 2 ^ exponent := by
        rw [abs_withSign]
        exact abs_of_nonneg (by positivity)
      constructor
      · intro fitsSingle
        exact ⟨_, signed, by rw [size]; exact fitsSingle⟩
      · intro ⟨rounded, isNearest, fitsSingle⟩
        rw [isNearest.unique signed, size] at fitsSingle
        exact fitsSingle

theorem bounded_iff (visible : value.isEmpty = false) (given : float? value = some wide) :
    Bounded type value ↔ wide.isFinite = true ∧ (type = .float32 → FitsSingle wide) := by
  constructor
  · intro bounded
    cases bounded with
    | blank blank =>
        rw [visible] at blank
        cases blank
    | float fits =>
        rw [float?, Option.some.injEq] at given
        rw [← given]
        exact ⟨rfl, fits⟩
    | number stands small fits =>
        obtain ⟨negative, size, other, isOther, rounds, same, nonnegative⟩ :=
          float?_of_stands stands
        rw [given, Option.some.injEq] at isOther
        subst isOther
        exact (room_iff rounds same nonnegative).mpr ⟨small, fits⟩
  · intro room
    have ofStands : ∀ exact, Stands value exact → Bounded type value := by
      intro exact stands
      obtain ⟨negative, size, other, isOther, rounds, same, nonnegative⟩ := float?_of_stands stands
      rw [given, Option.some.injEq] at isOther
      subst isOther
      obtain ⟨small, fits⟩ := (room_iff rounds same nonnegative).mp room
      exact .number stands small fits
    cases value with
    | int number => exact ofStands _ (.int number)
    | uint number => exact ofStands _ (.uint number)
    | bool value => exact ofStands _ (.bool value)
    | text text =>
        rw [float?] at given
        obtain ⟨literal, trimmed⟩ := exists_literal_of_read? given room.1
        exact ofStands _ (.text trimmed)
    | float number =>
        rw [float?, Option.some.injEq] at given
        subst given
        cases number with
        | finite negative significand exponent => exact .float room.2
        | nan | infinite _ => simp [BinaryFloat.isFinite] at room
    | null | array _ | record _ _ | variant _ _ => simp [float?] at given

theorem coercePrimitive_float64 (visible : value.isEmpty = false) :
    coercePrimitive value .float64 = .ok (.float number) ↔ float? value = some number := by
  unfold coercePrimitive
  rw [if_neg (by simp [visible])]
  cases float? value <;> simp

theorem coercePrimitive_float32 (visible : value.isEmpty = false) :
    coercePrimitive value .float32 = .ok (.float number) ↔
      ∃ wide, float? value = some wide ∧ narrow wide = some number := by
  rw [← Option.bind_eq_some_iff]
  unfold coercePrimitive
  rw [if_neg (by simp [visible])]
  cases (float? value).bind narrow <;> simp

/-- A cell is coerced into a finite number exactly where it is bounded. -/
theorem isFinite_iff_bounded
    (isFloat : type.isFloat = true) (coerced : coercePrimitive value type = .ok (.float number)) :
    number.isFinite = true ↔ Bounded type value := by
  by_cases blank : value.isEmpty = true
  · have isZero : coercePrimitive value type = .ok (Value.zero type) := if_pos blank
    rw [isZero, Except.ok.injEq] at coerced
    have finite : number.isFinite = true := by
      cases type with
      | float32 | float64 =>
          cases coerced
          rfl
      | _ => cases isFloat
    exact iff_of_true finite (.blank blank)
  · have visible : value.isEmpty = false := Bool.eq_false_iff.mpr blank
    cases type with
    | float32 =>
        obtain ⟨wide, given, narrowed⟩ := (coercePrimitive_float32 visible).mp coerced
        rw [bounded_iff visible given, isFinite_narrow narrowed]
        cases wide <;> simp [FitsSingle, BinaryFloat.isFinite]
    | float64 =>
        have given := (coercePrimitive_float64 visible).mp coerced
        rw [bounded_iff visible given]
        simp
    | _ => cases isFloat

end TypedTables.Convert
