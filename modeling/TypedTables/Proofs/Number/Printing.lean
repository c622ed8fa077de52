import TypedTables.Number.Layout
import TypedTables.Proofs.Number.Literals

/-!
# Printed numbers

In positional notation a number is written as a literal, which is read as a finite number again
wherever the number that was written is small enough.
-/

namespace TypedTables.Number

open TypedTables.Text

/-! ## Positional notation -/

theorem digitsValue_zeros (count : Nat) : digitsValue (List.replicate count '0') = 0 := by
  induction count with
  | zero => rfl
  | succ count inductionHypothesis =>
      rw [List.replicate_succ', digitsValue_append, inductionHypothesis]
      rfl

theorem allDigits_zeros (count : Nat) : AllDigits (List.replicate count '0') := by
  intro c member
  rw [List.eq_of_mem_replicate member]
  rfl

/-- Digits and digits behind a point are a literal without an exponent. -/
theorem exists_literal_of_digits
    (sign : Sign) (whole : List Char) (fraction : Option (List Char))
    (nonempty : whole ++ fraction.getD [] ≠ []) (wholeDigits : AllDigits whole)
    (fractionDigits : AllDigits (fraction.getD [])) :
    ∃ literal : Literal,
      literal.text = sign.text ++ (whole ++ (fraction.map ('.' :: ·)).getD []) ∧
      literal.size = digitsValue (whole ++ fraction.getD []) *
        10 ^ (0 - Int.ofNat (fraction.getD []).length) := by
  let literal : Literal := ⟨sign, whole, fraction, none, nonempty, wholeDigits, fractionDigits⟩
  refine ⟨literal, ?_, literal.size_decimal.symm⟩
  simp [literal, Literal.text, Literal.unsignedText, Literal.scaleText]

/-- Digits with a point somewhere are a literal of the digits' value times a power of ten. -/
theorem exists_literal_placePoint
    (sign : Sign) {digits : List Char} (nonempty : digits ≠ []) (allDigits : AllDigits digits)
    (leading : Int) :
    ∃ literal : Literal, literal.text = sign.text ++ FloatLayout.placePoint false digits leading ∧
      literal.size = digitsValue digits * 10 ^ (leading - Int.ofNat digits.length) := by
  by_cases front : leading ≤ 0
  · let zeros := List.replicate (-leading).toNat '0'
    have zero : AllDigits ['0'] := List.forall_mem_singleton.mpr rfl
    have behindPoint : AllDigits (zeros ++ digits) :=
      List.forall_mem_append.mpr ⟨allDigits_zeros _, allDigits⟩
    obtain ⟨literal, text, size⟩ :=
      exists_literal_of_digits sign ['0'] (some (zeros ++ digits)) (by simp) zero behindPoint
    refine ⟨literal, ?_, ?_⟩
    · rw [text]
      simp [FloatLayout.placePoint, front, zeros]
    · have same : digitsValue (['0'] ++ (zeros ++ digits)) = digitsValue digits := by
        have zero : digitsValue ['0'] = 0 := rfl
        rw [digitsValue_append, digitsValue_append, digitsValue_zeros, zero]
        simp
      have exponent : 0 - Int.ofNat (zeros ++ digits).length =
          leading - Int.ofNat digits.length := by
        simp only [zeros, List.length_append, List.length_replicate, Int.ofNat_eq_natCast]
        omega
      rw [size, Option.getD_some, same, exponent]
  · by_cases behind : Int.ofNat digits.length ≤ leading
    · let count := (leading - Int.ofNat digits.length).toNat
      let zeros := List.replicate count '0'
      have allWhole : AllDigits (digits ++ zeros) :=
        List.forall_mem_append.mpr ⟨allDigits, allDigits_zeros _⟩
      obtain ⟨literal, text, size⟩ := exists_literal_of_digits sign (digits ++ zeros) none
        (by simp [nonempty]) allWhole (List.forall_mem_nil _)
      refine ⟨literal, ?_, ?_⟩
      · have behind' : (digits.length : Int) ≤ leading := behind
        rw [text]
        simp [FloatLayout.placePoint, front, behind', zeros, count]
      · have power : leading - Int.ofNat digits.length = count := by
          simp only [count]
          omega
        rw [size, power, zpow_natCast]
        simp [digitsValue_append, digitsValue_zeros, zeros]
    · let whole := digits.take leading.toNat
      let places := digits.drop leading.toNat
      have parts : whole ++ places = digits := List.take_append_drop _ _
      obtain ⟨literal, text, size⟩ := exists_literal_of_digits sign whole (some places)
        (by rwa [Option.getD_some, parts]) (fun c member => allDigits c (List.mem_of_mem_take member))
        (fun c member => allDigits c (List.mem_of_mem_drop member))
      refine ⟨literal, ?_, ?_⟩
      · have behind' : ¬(digits.length : Int) ≤ leading := behind
        rw [text]
        simp [FloatLayout.placePoint, front, behind', whole, places]
      · have exponent : 0 - Int.ofNat places.length = leading - Int.ofNat digits.length := by
          simp only [Int.ofNat_eq_natCast] at behind
          simp only [places, List.length_drop, Int.ofNat_eq_natCast]
          omega
        rw [size, Option.getD_some, parts, exponent]

/-! ## Shortest decimals -/

variable {format : BinaryFormat}

theorem RoundsTo.isFinite_iff
    {negative : Bool} {size : ℚ} {number : BinaryFloat}
    (rounds : RoundsTo format negative size number) :
    number.isFinite = true ↔ size < format.limit := by
  cases rounds with
  | infinite large => simp [BinaryFloat.isFinite, not_lt.mpr large]
  | finite small => simp [BinaryFloat.isFinite, small]

theorem size_stripZeros (fuel significand : Nat) (exponent : Int) :
    ((stripZeros fuel significand exponent).1 : ℚ) * 10 ^ (stripZeros fuel significand exponent).2 =
      significand * 10 ^ exponent := by
  induction fuel generalizing significand exponent with
  | zero => rfl
  | succ fuel inductionHypothesis =>
      rw [stripZeros]
      split
      · next ends =>
          simp only [bne_iff_ne, ne_eq, Bool.and_eq_true, beq_iff_eq] at ends
          have parts : significand = 10 * (significand / 10) := by omega
          have parts' : (significand : ℚ) = 10 * (significand / 10 : Nat) := by
            exact_mod_cast parts
          rw [inductionHypothesis, parts', zpow_add_one₀ (by norm_num)]
          ring
      · rfl

/-- A decimal of the grid is one that rounds to the number. -/
theorem size_gridDecimal?_lt
    (settled : format.Settled) {rule : HalfwayRule} {value : BinaryFloat} {negative : Bool}
    {ratio : Ratio} {place : Int} {decimal : Decimal} (finite : value.isFinite = true)
    (found : gridDecimal? rule format value negative ratio place = some decimal) :
    decimal.size < format.limit := by
  have rounded : decimal.toBinary format = value := by
    unfold gridDecimal? at found
    dsimp only at found
    split at found
    · next upper =>
        cases found
        exact beq_iff_eq.mp (Bool.and_eq_true_iff.mp upper).1
    · split at found
      · next lower =>
          cases found
          exact beq_iff_eq.mp lower
      · cases found
  have rounds := Decimal.roundsTo_toBinary settled decimal
  rw [rounded] at rounds
  exact rounds.isFinite_iff.mp finite

theorem limit_single_lt : BinaryFormat.single.limit < 2 ^ (128 : Int) := by
  have exponent : (BinaryFormat.single.precision + BinaryFormat.single.maxExponent : Int) = 128 := by
    decide
  rw [← exponent]
  exact BinaryFormat.single.limit_bounds.2

theorem le_limit_double : 2 ^ (1023 : Int) ≤ BinaryFormat.double.limit := by
  have exponent :
      (BinaryFormat.double.precision + BinaryFormat.double.maxExponent - 1 : Int) = 1023 := by
    decide
  rw [← exponent]
  exact BinaryFormat.double.limit_bounds.1

/-- The digits of a number of 32 bits are those of a decimal that 64 bits can hold. -/
theorem size_shortestDecimal_lt
    {rule : HalfwayRule} {negative : Bool} {significand : Nat} {exponent : Int}
    (fits : significand < 2 ^ BinaryFormat.single.precision)
    (most : exponent ≤ BinaryFormat.single.maxExponent) :
    (shortestDecimal rule .single negative significand exponent).size <
      BinaryFormat.double.limit := by
  unfold shortestDecimal
  dsimp only
  split
  · next decimal found =>
      obtain ⟨_, _, onGrid⟩ := List.exists_of_findSome?_eq_some found
      have small := size_gridDecimal?_lt settled_single rfl onGrid
      rw [Decimal.size, size_stripZeros, ← Decimal.size]
      calc decimal.size < BinaryFormat.single.limit := small
        _ ≤ 2 ^ (128 : Int) := limit_single_lt.le
        _ ≤ 2 ^ (1023 : Int) := zpow_le_zpow_right₀ one_le_two (by decide)
        _ ≤ BinaryFormat.double.limit := le_limit_double
  · have fits' : (significand : ℚ) < 2 ^ 24 := by exact_mod_cast fits
    calc (significand : ℚ) * 10 ^ exponent
        ≤ 2 ^ 24 * 10 ^ (104 : Int) := by
          have : (10 : ℚ) ^ exponent ≤ 10 ^ (104 : Int) := zpow_le_zpow_right₀ (by norm_num) most
          gcongr
      _ < 16 ^ (112 : Int) := by norm_num
      _ = 2 ^ (4 * 112 : Int) := by rw [zpow_mul]; norm_num
      _ ≤ 2 ^ (1023 : Int) := zpow_le_zpow_right₀ one_le_two (by decide)
      _ ≤ BinaryFormat.double.limit := le_limit_double

/-! ## Characters -/

/-- A character that numbers are written with. -/
def IsNumeral (c : Char) : Prop :=
  isAsciiDigit c = true ∨ c ∈ ['.', 'e', '-', '+']

theorem isNumeral_placePoint
    {pointZero : Bool} {digits : List Char} (allDigits : AllDigits digits) (leading : Int) :
    ∀ c ∈ FloatLayout.placePoint pointZero digits leading, IsNumeral c := by
  have numerals : ∀ c ∈ digits, IsNumeral c := fun c member => Or.inl (allDigits c member)
  have zero : IsNumeral '0' := Or.inl rfl
  have point : IsNumeral '.' := Or.inr (by decide)
  have zeros : ∀ count, ∀ c ∈ List.replicate count '0', IsNumeral c :=
    fun count c member => List.eq_of_mem_replicate member ▸ zero
  unfold FloatLayout.placePoint
  dsimp only
  split
  · simp only [List.forall_mem_append, List.forall_mem_cons]
    exact ⟨⟨⟨zero, point, by simp⟩, zeros _⟩, numerals⟩
  · split
    · simp only [List.forall_mem_append]
      refine ⟨⟨numerals, zeros _⟩, ?_⟩
      split <;> simp [zero, point]
    · simp only [List.forall_mem_append, List.forall_mem_cons]
      exact ⟨fun c member => numerals c (List.mem_of_mem_take member), point,
        fun c member => numerals c (List.mem_of_mem_drop member)⟩

theorem isNumeral_scientific
    (layout : FloatLayout) {digits : List Char} (allDigits : AllDigits digits) (exponent : Int) :
    ∀ c ∈ layout.scientific digits exponent, IsNumeral c := by
  have numerals : ∀ c ∈ digits, IsNumeral c := fun c member => Or.inl (allDigits c member)
  have places : ∀ c ∈ Nat.toDigits 10 exponent.natAbs, IsNumeral c :=
    fun c member => Or.inl (isAsciiDigit_of_mem_toDigits member)
  have marks : ∀ c ∈ ['.', 'e', '-', '+'], IsNumeral c := fun c member => Or.inr member
  have zero : IsNumeral '0' := Or.inl rfl
  simp only [List.forall_mem_cons] at marks
  obtain ⟨point, letter, minus, plus, _⟩ := marks
  unfold FloatLayout.scientific
  simp only [List.forall_mem_append, List.forall_mem_cons]
  refine ⟨⟨?_, letter, ?_⟩, places⟩
  · split
    · simp [zero]
    · exact numerals
    · simp only [List.forall_mem_cons] at numerals ⊢
      exact ⟨numerals.1, point, numerals.2⟩
  · split
    · simp [minus]
    · split <;> simp [plus]

/-- A finite number is written with nothing but digits and marks. -/
theorem isNumeral_format
    (layout : FloatLayout) (size : BinaryFormat) (negative : Bool) (significand : Nat)
    (exponent : Int) :
    ∀ c ∈ (layout.format size (.finite negative significand exponent)).toList, IsNumeral c := by
  have minus : IsNumeral '-' := Or.inr (by decide)
  unfold FloatLayout.format
  simp only [String.toList_ofList, List.forall_mem_append]
  constructor
  · cases negative <;> simp [minus]
  · split
    · exact isNumeral_placePoint (by simp [AllDigits, isAsciiDigit]) 1
    · have digits : ∀ number, AllDigits (Nat.toDigits 10 number) :=
        fun number c member => isAsciiDigit_of_mem_toDigits member
      unfold FloatLayout.decimalText
      dsimp only
      split
      · exact isNumeral_placePoint (digits _) _
      · split
        · exact isNumeral_placePoint (digits _) _
        · exact isNumeral_scientific layout (digits _) _

/-! ## Narrowing -/

/-- A finite number is written as a literal of its shortest decimal. -/
theorem exists_literal_plain
    (format : BinaryFormat) (negative : Bool) (significand : Nat) (exponent : Int) :
    ∃ literal : Literal,
      FloatLayout.plain.format format (.finite negative significand exponent) =
        String.ofList literal.text ∧
      literal.size = if significand = 0 then 0
        else (shortestDecimal .upper format negative significand exponent).size := by
  obtain ⟨sign, isSign⟩ : ∃ sign : Sign, sign.text = if negative then ['-'] else [] := by
    cases negative
    · exact ⟨.none, rfl⟩
    · exact ⟨.minus, rfl⟩
  by_cases zero : significand = 0
  · have digit : AllDigits ['0'] := List.forall_mem_singleton.mpr rfl
    obtain ⟨literal, text, size⟩ :=
      exists_literal_placePoint sign (List.cons_ne_nil '0' []) digit 1
    have nothing : digitsValue ['0'] = 0 := rfl
    refine ⟨literal, ?_, ?_⟩
    · simp [FloatLayout.format, zero, text, isSign, FloatLayout.plain]
    · rw [size, nothing, if_pos zero, Nat.cast_zero, zero_mul]
  · obtain ⟨decimal, isDecimal⟩ : ∃ decimal, decimal =
        shortestDecimal .upper format negative significand exponent := ⟨_, rfl⟩
    have digits : AllDigits (Nat.toDigits 10 decimal.significand) :=
      fun c member => isAsciiDigit_of_mem_toDigits member
    obtain ⟨literal, text, size⟩ := exists_literal_placePoint sign Nat.toDigits_ne_nil digits
      (Int.ofNat (Nat.toDigits 10 decimal.significand).length + decimal.exponent)
    have value : digitsValue (Nat.toDigits 10 decimal.significand) = decimal.significand :=
      Nat.ofDigitChars_ten_toDigits
    refine ⟨literal, ?_, ?_⟩
    · simp [FloatLayout.format, zero, text, isSign, FloatLayout.plain, FloatLayout.decimalText,
        ← isDecimal]
    · rw [size, value, add_sub_cancel_left, if_neg zero, ← isDecimal, Decimal.size]

/-- A number of 32 bits is written as a literal that 64 bits can hold. -/
theorem isFinite_read?_plain
    {negative : Bool} {significand : Nat} {exponent : Int}
    (fits : significand < 2 ^ BinaryFormat.single.precision)
    (most : exponent ≤ BinaryFormat.single.maxExponent) :
    ∃ number, BinaryFloat.read? .double
        (FloatLayout.plain.format .single (.finite negative significand exponent)) = some number ∧
      number.isFinite = true := by
  obtain ⟨literal, text, size⟩ := exists_literal_plain .single negative significand exponent
  have small : literal.size < BinaryFormat.double.limit := by
    rw [size]
    split
    · exact (by positivity : (0 : ℚ) < 2 ^ (1023 : Int)).trans_le le_limit_double
    · exact size_shortestDecimal_lt fits most
  have rounds := Decimal.roundsTo_toBinary settled_double literal.decimal
  rw [literal.size_decimal] at rounds
  rw [text, literal.read?_text]
  exact ⟨_, rfl, rounds.isFinite_iff.mpr small⟩

end TypedTables.Number
