import TypedTables.Proofs.Convert.Coercion
import TypedTables.Proofs.Number.Literals

/-!
# Integers of cells

A cell of a number, of a truth value or of digits is coerced into an integer type exactly.  A literal
with a point or an exponent is rounded to a floating-point number of 64 bits first: the integer that
it is coerced into is the nearest one of those.
-/

namespace TypedTables.Convert

open TypedTables.Schema TypedTables.Number TypedTables.Text

/-- The value of an integer type that holds an integer. -/
def holding (type : Primitive) (integer : Int) : Value :=
  if type.isSigned then .int integer else .uint integer.toNat

/-- The outcome is the value of an integer in the range of a type, where a number is one of those
that the integers stand for. -/
def Gives (type : Primitive) (standsFor : Int → Prop) (outcome : Outcome Value) : Prop :=
  ∀ result, outcome = .ok result ↔
    ∃ integer, standsFor integer ∧ type.range.contains integer = true ∧
      result = holding type integer

/-- The outcome is the integer that a number is, if it is one of the type, and else a failure. -/
def Exact (type : Primitive) (number : ℚ) (outcome : Outcome Value) : Prop :=
  Gives type (fun integer => number = integer) outcome

variable {type : Primitive}

/-- The integers that an integer type can hold at most. -/
def widest : IntRange :=
  ⟨-(2 ^ 64), 2 ^ 64 - 1⟩

/-- Every range lies within 64 bits with a sign or without. -/
theorem widest_contains {integer : Int} (inRange : type.range.contains integer = true) :
    widest.contains integer = true := by
  refine contains_of_within ?_ ?_ inRange <;> cases type <;> decide

theorem holding_injective
    (isInteger : type.isSigned = true ∨ type.isUnsigned = true) {one two : Int}
    (oneInRange : type.range.contains one = true) (twoInRange : type.range.contains two = true)
    (same : holding type one = holding type two) : one = two := by
  by_cases isSigned : type.isSigned = true
  · simpa [holding, isSigned] using same
  · have low := low_of_isUnsigned (isInteger.resolve_left isSigned)
    rw [IntRange.contains_iff, low] at oneInRange twoInRange
    simp only [holding, isSigned, Bool.false_eq_true, if_false, Value.uint.injEq] at same
    omega

theorem coerceInteger_gives {value : Value} {number? : Option Int} (given : whole? value = number?) :
    Gives type (fun integer => number? = some integer) (coerceInteger value type) := by
  intro result
  rw [coerceInteger, given]
  cases number? with
  | none => simp
  | some number =>
      by_cases inRange : type.range.contains number = true
      · simp only [inRange, if_true, Except.ok.injEq, Option.some.injEq, exists_eq_left', true_and]
        exact eq_comm
      · simp only [inRange, Bool.false_eq_true, if_false, reduceCtorEq, Option.some.injEq,
          exists_eq_left', false_and]

/-- Integers stand for the same in the range of the type. -/
theorem Gives.congr
    {one two : Int → Prop} {outcome : Outcome Value} (gives : Gives type one outcome)
    (same : ∀ integer, type.range.contains integer = true → (one integer ↔ two integer)) :
    Gives type two outcome := by
  intro result
  rw [gives result]
  refine exists_congr fun integer => ?_
  constructor
  · intro ⟨stands, inRange, isHeld⟩
    exact ⟨(same integer inRange).mp stands, inRange, isHeld⟩
  · intro ⟨stands, inRange, isHeld⟩
    exact ⟨(same integer inRange).mpr stands, inRange, isHeld⟩

theorem Gives.iff
    (isInteger : type.isSigned = true ∨ type.isUnsigned = true) {one two : Int → Prop}
    {outcome : Outcome Value} (gives : Gives type one outcome) :
    Gives type two outcome ↔
      ∀ integer, type.range.contains integer = true → (one integer ↔ two integer) := by
  refine ⟨?_, gives.congr⟩
  intro others integer inRange
  have same := (gives (holding type integer)).symm.trans (others (holding type integer))
  have holds : ∀ stands : Int → Prop, stands integer ↔
      ∃ other, stands other ∧ type.range.contains other = true ∧
        holding type integer = holding type other := by
    intro stands
    constructor
    · intro here
      exact ⟨integer, here, inRange, rfl⟩
    · intro ⟨other, stands, otherInRange, isHeld⟩
      rw [holding_injective isInteger inRange otherInRange isHeld]
      exact stands
  rw [holds one, holds two]
  exact same

/-! ## Literals -/

variable {literal : Literal} {before after : List Char}

/-- A text of a literal with white space around it. -/
def paddedText (before : List Char) (literal : Literal) (after : List Char) : String :=
  String.ofList (before ++ literal.text ++ after)

theorem trim_paddedText
    (blankBefore : ∀ c ∈ before, isBlank c = true) (blankAfter : ∀ c ∈ after, isBlank c = true) :
    trim (paddedText before literal after) = String.ofList literal.text :=
  trim_padded blankBefore literal.visible_text blankAfter

theorem isBlankText_paddedText : isBlankText (paddedText before literal after) = false := by
  obtain ⟨c, rest, shape⟩ := List.exists_cons_of_ne_nil literal.text_ne_nil
  rw [isBlankText_eq_false_iff]
  refine ⟨c, ?_, literal.visible_text c (by simp [shape])⟩
  simp [paddedText, shape]

theorem abs_le_of_contains {integer : Int} (inRange : type.range.contains integer = true) :
    |(integer : ℚ)| ≤ 2 ^ 64 := by
  obtain ⟨low, high⟩ := IntRange.contains_iff.mp (widest_contains inRange)
  have bound : |integer| ≤ 2 ^ 64 :=
    abs_le.mpr ⟨low, high.trans (by decide : (2 : Int) ^ 64 - 1 ≤ 2 ^ 64)⟩
  exact_mod_cast bound

/-- The floating-point number that a literal is read as is an integer of a type when the nearest
one is. -/
theorem toInt?_literal {integer : Int} (inRange : type.range.contains integer = true) :
    (literal.decimal.toBinary .double).toInt? = some integer ↔
      Nearest .double literal.value integer := by
  have rounds := Decimal.roundsTo_toBinary settled_double literal.decimal
  rw [literal.size_decimal] at rounds
  apply rounds.toInt?_eq_some_iff sound_double
  calc |(integer : ℚ)| ≤ 2 ^ 64 := abs_le_of_contains inRange
    _ = 2 ^ (64 : Int) := by norm_cast
    _ < 2 ^ ((53 : Nat) + (971 : Int) - 1) := zpow_lt_zpow_right₀ one_lt_two (by decide)

/-- Beyond 127 bits no number is rounded to an integer of a type. -/
theorem not_nearest_of_not_contains
    {number integer : Int} (beyond : ¬wideIntegers.contains number = true)
    (inRange : type.range.contains integer = true) : ¬Nearest .double number integer := by
  intro nearest
  have power : Represents .double (2 ^ 127) :=
    ⟨1, 127, by decide, by decide, by decide, by rw [abs_of_pos (by positivity)]; norm_num⟩
  obtain ⟨low, high⟩ := abs_le.mp (abs_le_of_contains inRange)
  rw [IntRange.contains_iff, not_and_or, not_le, not_le] at beyond
  rcases beyond with below | above
  · have least : (number : ℚ) ≤ -2 ^ 127 := by
      have : number ≤ -2 ^ 127 := below.le
      exact_mod_cast this
    have := nearest.ge_of_ge (Nearest.represents_neg power) least
    norm_num at this low
    linarith
  · have greatest : (2 ^ 127 : ℚ) ≤ number := by
      have : 2 ^ 127 - 1 < number := above
      exact_mod_cast Int.add_one_le_iff.mpr this
    have := nearest.le_of_le power greatest
    norm_num at this high
    linarith

/-! ## Cells -/

section Cells

variable (isInteger : type.isSigned = true ∨ type.isUnsigned = true)
include isInteger

theorem gives_of_whole?
    {value : Value} (visible : value.isEmpty = false) {number? : Option Int}
    (given : whole? value = number?) :
    Gives type (fun integer => number? = some integer) (coercePrimitive value type) := by
  rw [coercePrimitive_integer (by simp [visible]) isInteger]
  exact coerceInteger_gives given

theorem exact_of_whole?
    {value : Value} (visible : value.isEmpty = false) {number : Int}
    (given : whole? value = some number) : Exact type number (coercePrimitive value type) := by
  refine (gives_of_whole? isInteger visible given).congr fun integer _ => ?_
  rw [Option.some.injEq]
  norm_cast

/-- Digits are coerced exactly: those that no integer type can hold are read as a floating-point
number, which no integer type can hold either. -/
theorem exact_of_isPlain
    (plain : literal.isPlain = true) (blankBefore : ∀ c ∈ before, isBlank c = true)
    (blankAfter : ∀ c ∈ after, isBlank c = true) :
    Exact type literal.value (coercePrimitive (.text (paddedText before literal after)) type) := by
  have visible : (Value.text (paddedText before literal after)).isEmpty = false :=
    isBlankText_paddedText
  have trimmed : trim (paddedText before literal after) = String.ofList literal.text :=
    trim_paddedText blankBefore blankAfter
  have read := Literal.readIntIn?_text plain wideIntegers
  rw [Literal.value_of_isPlain plain]
  by_cases wide : wideIntegers.contains literal.number = true
  · apply exact_of_whole? isInteger visible
    simp [whole?, wholeText?, trimmed, read, wide]
  · have given : whole? (.text (paddedText before literal after)) =
        (literal.decimal.toBinary .double).toInt? := by
      simp [whole?, wholeText?, trimmed, read, wide, literal.read?_text]
    refine (gives_of_whole? isInteger visible given).congr fun integer inRange => ?_
    rw [toInt?_literal inRange, Literal.value_of_isPlain plain]
    constructor
    · intro nearest
      exact absurd nearest (not_nearest_of_not_contains wide inRange)
    · intro same
      have isNumber : literal.number = integer := by exact_mod_cast same
      have contained : wideIntegers.contains integer = true :=
        contains_of_within (by decide) (by decide) (widest_contains inRange)
      rw [isNumber] at wide
      exact absurd contained wide

/-- A literal with a point or an exponent is coerced into the integer that is the nearest
floating-point number. -/
theorem gives_nearest
    (notPlain : literal.isPlain = false) (blankBefore : ∀ c ∈ before, isBlank c = true)
    (blankAfter : ∀ c ∈ after, isBlank c = true) :
    Gives type (fun integer => Nearest .double literal.value integer)
      (coercePrimitive (.text (paddedText before literal after)) type) := by
  have trimmed : trim (paddedText before literal after) = String.ofList literal.text :=
    trim_paddedText blankBefore blankAfter
  have visible : (Value.text (paddedText before literal after)).isEmpty = false :=
    isBlankText_paddedText
  have given : whole? (.text (paddedText before literal after)) =
      (literal.decimal.toBinary .double).toInt? := by
    simp [whole?, wholeText?, trimmed, readIntIn?,
      Literal.readInt?_text_of_not_isPlain notPlain, literal.read?_text]
  exact (gives_of_whole? isInteger visible given).congr fun integer inRange =>
    toInt?_literal inRange

/-- Integers, truth values and digits are coerced into an integer type exactly.  Any other literal
is coerced into the integer that the nearest floating-point number of 64 bits is, so exactly where
the integers of the type are nearest to the literal when they are its value. -/
theorem integers_exact_or_nearest :
    (∀ number : Int, Exact type number (coercePrimitive (.int number) type)) ∧
    (∀ number : Nat, Exact type number (coercePrimitive (.uint number) type)) ∧
    (∀ value : Bool, Exact type (boolNumber value) (coercePrimitive (.bool value) type)) ∧
    ∀ (literal : Literal) (before after : List Char),
      (∀ c ∈ before, isBlank c = true) → (∀ c ∈ after, isBlank c = true) →
        let outcome := coercePrimitive (.text (paddedText before literal after)) type
        (literal.isPlain = true → Exact type literal.value outcome) ∧
        (literal.isPlain = false →
          Gives type (fun integer => Nearest .double literal.value integer) outcome ∧
          (Exact type literal.value outcome ↔
            ∀ integer, type.range.contains integer = true →
              (Nearest .double literal.value integer ↔ literal.value = integer))) := by
  refine ⟨?_, ?_, ?_, ?_⟩
  · intro number
    exact exact_of_whole? isInteger rfl rfl
  · intro number
    exact exact_of_whole? isInteger rfl rfl
  · intro value
    exact exact_of_whole? isInteger rfl rfl
  · intro literal before after blankBefore blankAfter
    refine ⟨fun plain => exact_of_isPlain isInteger plain blankBefore blankAfter, ?_⟩
    intro notPlain
    have gives := gives_nearest isInteger notPlain blankBefore blankAfter
    exact ⟨gives, gives.iff isInteger⟩

end Cells

/-- The literal `-1.50e2`. -/
def scaledLiteral : Literal where
  sign := .minus
  whole := ['1']
  fraction := some ['5', '0']
  scale := some ⟨'e', Or.inl rfl, .none, ['2'], by decide, List.all_eq_true.mp rfl⟩
  nonempty := by decide
  wholeDigits := List.all_eq_true.mp rfl
  fractionDigits := List.all_eq_true.mp rfl

theorem value_scaledLiteral : scaledLiteral.value = ((-150 : Int) : ℚ) := by
  have whole : digitsValue scaledLiteral.whole = 1 := rfl
  have places : digitsValue scaledLiteral.places = 50 := rfl
  have count : scaledLiteral.places.length = 2 := rfl
  have scale : scaledLiteral.scaleValue = 2 := rfl
  have isMinus : scaledLiteral.sign.isMinus = true := rfl
  rw [Literal.value, Literal.size, whole, places, count, scale, isMinus]
  norm_num [withSign]

theorem integers_exact_or_nearest_scaled :
    Primitive.int64.isSigned = true ∧ scaledLiteral.isPlain = false ∧
      coercePrimitive (.text " -1.50e2 ") .int64 = .ok (.int (-150)) ∧
      Exact .int64 scaledLiteral.value (coercePrimitive (.text " -1.50e2 ") .int64) := by
  have represented : Represents .double ((-150 : Int) : ℚ) :=
    ⟨150, 0, by decide, by decide, by decide, by norm_num⟩
  have isNearest : Nearest .double ((-150 : Int) : ℚ) ((-150 : Int) : ℚ) :=
    .of_represents represented
  have isInteger : Primitive.int64.isSigned = true ∨ Primitive.int64.isUnsigned = true :=
    Or.inl rfl
  obtain ⟨gives, isExact⟩ := ((integers_exact_or_nearest isInteger).2.2.2 scaledLiteral [' '] [' ']
    (List.all_eq_true.mp rfl) (List.all_eq_true.mp rfl)).2 rfl
  rw [value_scaledLiteral] at gives isExact ⊢
  refine ⟨rfl, rfl, (gives _).mpr ⟨-150, isNearest, by decide, rfl⟩, isExact.mpr ?_⟩
  intro integer _
  constructor
  · exact isNearest.unique
  · intro same
    rw [← same]
    exact isNearest

/-- Digits in front of a point and behind it. -/
def pointLiteral (whole fraction : String)
    (digits : (whole ++ fraction).toList ≠ [] ∧ whole.toList.all isAsciiDigit = true ∧
      fraction.toList.all isAsciiDigit = true) : Literal where
  sign := .none
  whole := whole.toList
  fraction := some fraction.toList
  scale := none
  nonempty := by simpa using digits.1
  wholeDigits := List.all_eq_true.mp digits.2.1
  fractionDigits := List.all_eq_true.mp digits.2.2

theorem value_pointLiteral {whole fraction : String}
    (digits : (whole ++ fraction).toList ≠ [] ∧ whole.toList.all isAsciiDigit = true ∧
      fraction.toList.all isAsciiDigit = true) :
    (pointLiteral whole fraction digits).value =
      digitsValue whole.toList + digitsValue fraction.toList / 10 ^ fraction.toList.length := by
  simp [pointLiteral, Literal.value, Literal.size, Literal.places, Literal.scaleValue, withSign,
    Sign.isMinus]

/-- A literal with a point loses a unit, and another one of less than a unit becomes one. -/
theorem literals_altered :
    (∃ literal : Literal, String.ofList literal.text = "9007199254740993.0" ∧
      literal.value = (9007199254740993 : Int) ∧
      Primitive.int64.range.contains 9007199254740993 = true ∧
      coercePrimitive (.text "9007199254740993.0") .int64 = .ok (.int 9007199254740992)) ∧
    ∃ literal : Literal, String.ofList literal.text = "0.99999999999999999999" ∧
      0 < literal.value ∧ literal.value < 1 ∧
      coercePrimitive (.text "0.99999999999999999999") .int64 = .ok (.int 1) := by
  constructor
  · refine ⟨pointLiteral "9007199254740993" "0" (by decide), rfl, ?_, by decide, rfl⟩
    have whole : digitsValue "9007199254740993".toList = 9007199254740993 := rfl
    have places : digitsValue "0".toList = 0 := rfl
    rw [value_pointLiteral, whole, places]
    norm_num
  · have whole : digitsValue "0".toList = 0 := rfl
    have places : digitsValue "99999999999999999999".toList = 99999999999999999999 := rfl
    have count : "99999999999999999999".toList.length = 20 := rfl
    refine ⟨pointLiteral "0" "99999999999999999999" (by decide), rfl, ?_, ?_, rfl⟩
    all_goals
      rw [value_pointLiteral, whole, places, count]
      norm_num

end TypedTables.Convert
