import Mathlib.Tactic.LinearCombination
import TypedTables.Proofs.Number.Ratios

/-!
# Rounding to binary formats

A format has the numbers whose significand and exponent fit.  Rounding gives the nearest of them,
of two equally near ones the one that is an even multiple of their distance.  Sizes from half a
place above the greatest number on have no nearest number: they become infinite.
-/

namespace TypedTables.Number

/-! ## Numbers of a format -/

/-- The size from which on numbers are infinite in a format: half a place above its greatest
number. -/
def BinaryFormat.limit (format : BinaryFormat) : ℚ :=
  (2 ^ format.precision - 1 / 2) * 2 ^ format.maxExponent

/-- A format that has a place for digits. -/
structure BinaryFormat.Sound (format : BinaryFormat) : Prop where
  precise : 0 < format.precision
  ordered : format.minExponent ≤ format.maxExponent

theorem sound_single : BinaryFormat.single.Sound :=
  ⟨by decide, by decide⟩

theorem sound_double : BinaryFormat.double.Sound :=
  ⟨by decide, by decide⟩

variable {format : BinaryFormat} {size number : ℚ} {place : Int} {whole : Nat}

/-- A number that a format has. -/
def Represents (format : BinaryFormat) (number : ℚ) : Prop :=
  ∃ (significand : Nat) (exponent : Int), significand < 2 ^ format.precision ∧
    format.minExponent ≤ exponent ∧ exponent ≤ format.maxExponent ∧
    |number| = significand * 2 ^ exponent

/-- The number of a format that is nearest to a number: of two equally near ones the even multiple
of their distance. -/
structure Nearest (format : BinaryFormat) (exact rounded : ℚ) : Prop where
  represented : Represents format rounded
  nearest : ∀ other, Represents format other → |exact - rounded| ≤ |exact - other|
  even : ∀ other, Represents format other → |exact - other| = |exact - rounded| →
    other ≠ rounded → ∃ steps : Int, rounded = 2 * steps * (other - rounded)

namespace Nearest

variable {exact rounded other : ℚ}

theorem unique (one : Nearest format exact rounded) (two : Nearest format exact other) :
    rounded = other := by
  by_contra different
  have same : |exact - rounded| = |exact - other| :=
    le_antisymm (one.nearest other two.represented) (two.nearest rounded one.represented)
  obtain ⟨steps, roundedEven⟩ := one.even other two.represented same.symm (Ne.symm different)
  obtain ⟨others, otherEven⟩ := two.even rounded one.represented same different
  have gap : (other - rounded) * (1 + 2 * ((steps + others : Int) : ℚ)) = 0 := by
    push_cast
    linear_combination otherEven - roundedEven
  have odd : (1 + 2 * ((steps + others : Int) : ℚ)) ≠ 0 := by
    norm_cast
    omega
  rcases mul_eq_zero.mp gap with zero | zero
  · exact different (sub_eq_zero.mp zero).symm
  · exact odd zero

theorem of_represents (represented : Represents format exact) : Nearest format exact exact where
  represented := represented
  nearest other _ := by simp
  even other _ same different := by
    rw [sub_self, abs_zero, abs_eq_zero, sub_eq_zero] at same
    exact absurd same.symm different

theorem represents_neg (represented : Represents format number) : Represents format (-number) := by
  rw [Represents, abs_neg]
  exact represented

theorem neg (nearest : Nearest format exact rounded) : Nearest format (-exact) (-rounded) where
  represented := represents_neg nearest.represented
  nearest other represented := by
    have closest := nearest.nearest (-other) (represents_neg represented)
    rw [abs_sub_comm, neg_sub_neg, abs_sub_comm (-exact)]
    rwa [sub_neg_eq_add, add_comm, ← sub_neg_eq_add] at closest
  even other represented same different := by
    rw [abs_sub_comm (-exact) (-rounded), neg_sub_neg, abs_sub_comm (-exact), sub_neg_eq_add] at same
    have atOther : |exact - -other| = |exact - rounded| := by
      rw [sub_neg_eq_add, add_comm]
      exact same
    obtain ⟨steps, isEven⟩ := nearest.even (-other) (represents_neg represented) atOther
      (fun equal => different (neg_eq_iff_eq_neg.mp equal))
    exact ⟨steps, by linear_combination -isEven⟩

/-- Rounding does not cross a number of the format. -/
theorem le_of_le
    (nearest : Nearest format exact rounded) (represented : Represents format number)
    (below : number ≤ exact) : number ≤ rounded := by
  have closest := nearest.nearest number represented
  rw [abs_of_nonneg (by linarith : 0 ≤ exact - number)] at closest
  linarith [le_abs_self (exact - rounded)]

theorem ge_of_ge
    (nearest : Nearest format exact rounded) (represented : Represents format number)
    (above : exact ≤ number) : rounded ≤ number := by
  have negated := nearest.neg.le_of_le (represents_neg represented) (neg_le_neg above)
  exact neg_le_neg_iff.mp negated

end Nearest

/-! ## Places -/

/-- A place for the last digit of a size in a format: the significand fits below it and, except at
the least place, fills it. -/
structure AtPlace (format : BinaryFormat) (size : ℚ) (place : Int) : Prop where
  least : format.minExponent ≤ place
  fits : size < 2 ^ (format.precision + place)
  filled : place = format.minExponent ∨ 2 ^ (format.precision + place - 1) ≤ size

/-- The significand of a size fits below its place. -/
theorem AtPlace.inUnits (atPlace : AtPlace format size place) :
    size / 2 ^ place < 2 ^ format.precision := by
  rw [div_lt_iff₀ (by positivity), ← zpow_natCast, ← zpow_add₀ two_ne_zero]
  exact atPlace.fits

theorem atPlace_placeOf
    {ratio : Ratio} (positive : 0 < ratio.numerator) (divisor : 0 < ratio.denominator) :
    AtPlace format ratio.value (BinaryFloat.placeOf format ratio) := by
  let estimate := Int.ofNat ratio.numerator.log2 - Int.ofNat ratio.denominator.log2 -
    Int.ofNat format.precision
  obtain ⟨low, high⟩ := Ratio.value_bounds positive divisor
  have small : (ratio.scale 2 (-estimate)).numerator <
        powerOfTwo format.precision * (ratio.scale 2 (-estimate)).denominator ↔
      ratio.value < 2 ^ (format.precision + estimate) := by
    rw [Ratio.lt_mul_denominator_iff (Ratio.denominator_scale two_pos divisor _),
      Ratio.value_scale two_pos, powerOfTwo, Nat.pow_eq, zpow_neg, ← div_eq_mul_inv,
      div_lt_iff₀ (by positivity), zpow_add₀ two_ne_zero]
    norm_cast
  obtain ⟨exact, isPlace, fits, filled⟩ : ∃ exact,
      BinaryFloat.placeOf format ratio = max format.minExponent exact ∧
      ratio.value < 2 ^ (format.precision + exact) ∧
      2 ^ (format.precision + exact - 1) ≤ ratio.value := by
    by_cases less : ratio.value < 2 ^ (format.precision + estimate)
    · refine ⟨estimate, congrArg (max _) (if_pos (small.mpr less)), less, ?_⟩
      convert low using 2
      simp only [estimate, Int.ofNat_eq_natCast]
      ring
    · refine ⟨estimate + 1, congrArg (max _) (if_neg (fun fits => less (small.mp fits))), ?_, ?_⟩
      · convert high using 2
        simp only [estimate, Int.ofNat_eq_natCast]
        ring
      · rw [← add_assoc, add_sub_cancel_right]
        exact not_lt.mp less
  rw [isPlace]
  refine ⟨le_max_left _ _, ?_, ?_⟩
  · refine fits.trans_le (zpow_le_zpow_right₀ one_le_two ?_)
    have := le_max_right format.minExponent exact
    omega
  · rcases max_choice format.minExponent exact with atLeast | atExact
    · exact Or.inl atLeast
    · exact Or.inr (by rw [atExact]; exact filled)

/-- A number of a format is a multiple of a place, or less than what fills the place. -/
theorem represents_grid (represented : Represents format number) (place : Int) :
    (∃ steps : Int, number = steps * 2 ^ place) ∨
      format.minExponent < place ∧ |number| < 2 ^ (format.precision + place - 1) := by
  obtain ⟨significand, exponent, fits, least, _, size⟩ := represented
  by_cases above : place ≤ exponent
  · left
    obtain ⟨power, same⟩ := Int.eq_ofNat_of_zero_le (by omega : 0 ≤ exponent - place)
    have multiple : |number| = (significand * 2 ^ power : Nat) * 2 ^ place := by
      rw [size, show exponent = power + place by omega, zpow_add₀ two_ne_zero, zpow_natCast]
      push_cast
      ring
    rcases abs_choice number with same | same
    · exact ⟨(significand * 2 ^ power : Nat), by rw [← same, multiple]; norm_cast⟩
    · refine ⟨-(significand * 2 ^ power : Nat), ?_⟩
      push_cast at multiple ⊢
      linarith
  · right
    refine ⟨by omega, ?_⟩
    calc |number| = significand * 2 ^ exponent := size
      _ < 2 ^ format.precision * 2 ^ exponent := by
          have : (significand : ℚ) < 2 ^ format.precision := by exact_mod_cast fits
          gcongr
      _ = 2 ^ (format.precision + exponent) := by
          rw [zpow_add₀ two_ne_zero, zpow_natCast]
      _ ≤ 2 ^ (format.precision + place - 1) :=
          zpow_le_zpow_right₀ one_le_two (by omega)

/-- The multiple of the place that is nearest to a size is the number of the format that is nearest
to it. -/
theorem nearest_of_atPlace
    (sound : format.Sound) (atPlace : AtPlace format size place)
    (nearest : Ratio.NearestWhole (size / 2 ^ place) whole)
    (represented : Represents format (whole * 2 ^ place)) :
    Nearest format size (whole * 2 ^ place) := by
  have positive : (0 : ℚ) < 2 ^ place := by positivity
  have inUnits : ∀ units : ℚ, |size - units * 2 ^ place| = |size / 2 ^ place - units| * 2 ^ place := by
    intro units
    rw [← abs_of_pos positive, ← abs_mul, abs_of_pos positive, sub_mul, div_mul_cancel₀ _ positive.ne']
  -- A number between two places is below what fills the place, which is nearer to the size.
  have farther : ∀ other, format.minExponent < place →
      |other| < 2 ^ (format.precision + place - 1) →
      |size - whole * 2 ^ place| < |size - other| := by
    intro other notLeast below
    have filled := atPlace.filled.resolve_left notLeast.ne'
    have power : (2 : ℚ) ^ (format.precision + place - 1) =
        ((2 ^ (format.precision - 1) : Nat) : Int) * 2 ^ place := by
      have precise := sound.precise
      rw [show (format.precision + place - 1 : Int) = (format.precision - 1 : Nat) + place by omega,
        zpow_add₀ two_ne_zero, zpow_natCast]
      norm_cast
    have closest := (nearest.closest (2 ^ (format.precision - 1) : Nat)).1
    calc |size - whole * 2 ^ place|
        ≤ |size - ((2 ^ (format.precision - 1) : Nat) : Int) * 2 ^ place| := by
          rw [inUnits, inUnits]
          gcongr
      _ = size - 2 ^ (format.precision + place - 1) := by
          rw [← power, abs_of_nonneg (by linarith)]
      _ < size - other := by linarith [le_abs_self other]
      _ ≤ |size - other| := le_abs_self _
  constructor
  · exact represented
  · intro other otherRepresented
    rcases represents_grid otherRepresented place with ⟨steps, rfl⟩ | ⟨notLeast, below⟩
    · have closest := (nearest.closest steps).1
      rw [inUnits, inUnits]
      gcongr
    · exact (farther other notLeast below).le
  · intro other otherRepresented tie different
    rcases represents_grid otherRepresented place with ⟨steps, rfl⟩ | ⟨notLeast, below⟩
    · rw [inUnits, inUnits, mul_left_inj' positive.ne'] at tie
      have notWhole : steps ≠ whole := by
        rintro rfl
        exact different (by norm_cast)
      obtain ⟨halves, isEven⟩ := (nearest.closest steps).2 tie notWhole
      exact ⟨halves, by linear_combination isEven * 2 ^ place⟩
    · exact absurd tie (farther other notLeast below).ne'

/-! ## Rounding -/

theorem BinaryFormat.limit_bounds (format : BinaryFormat) :
    (2 : ℚ) ^ (format.precision + format.maxExponent - 1) ≤ format.limit ∧
      format.limit < 2 ^ (format.precision + format.maxExponent) := by
  have positive : (0 : ℚ) < 2 ^ format.maxExponent := by positivity
  have large : (1 : ℚ) ≤ 2 ^ format.precision := one_le_pow₀ one_le_two
  rw [zpow_sub_one₀ two_ne_zero, zpow_add₀ two_ne_zero, zpow_natCast, limit]
  constructor <;> nlinarith

theorem limit_le_iff
    (sound : format.Sound) (atPlace : AtPlace format size place)
    (nearest : Ratio.NearestWhole (size / 2 ^ place) whole) :
    format.limit ≤ size ↔
      format.maxExponent < if whole = 2 ^ format.precision then place + 1 else place := by
  obtain ⟨limitLow, limitHigh⟩ := format.limit_bounds
  have ordered := sound.ordered
  rcases lt_trichotomy place format.maxExponent with below | same | above
  · have small : size < format.limit := by
      calc size < 2 ^ (format.precision + place) := atPlace.fits
        _ ≤ 2 ^ (format.precision + format.maxExponent - 1) :=
            zpow_le_zpow_right₀ one_le_two (by omega)
        _ ≤ format.limit := limitLow
    have within : ¬format.maxExponent < if whole = 2 ^ format.precision then place + 1 else place := by
      split <;> omega
    exact iff_of_false (not_le.mpr small) within
  · subst same
    have positive : (0 : ℚ) < 2 ^ format.maxExponent := by positivity
    rw [BinaryFormat.limit, ← le_div_iff₀ positive,
      ← nearest.eq_power_iff sound.precise atPlace.inUnits]
    by_cases carried : whole = 2 ^ format.precision
    · simp [carried]
    · simp [carried]
  · have filled := atPlace.filled.resolve_left (by omega)
    have large : format.limit ≤ size := by
      calc format.limit ≤ 2 ^ (format.precision + format.maxExponent) := limitHigh.le
        _ ≤ 2 ^ (format.precision + place - 1) := zpow_le_zpow_right₀ one_le_two (by omega)
        _ ≤ size := filled
    have beyond : format.maxExponent < if whole = 2 ^ format.precision then place + 1 else place := by
      split <;> omega
    exact iff_of_true large beyond

/-- What a size becomes in a format: the nearest number, or an infinity from the limit on. -/
inductive RoundsTo (format : BinaryFormat) (negative : Bool) (size : ℚ) : BinaryFloat → Prop
  | infinite (large : format.limit ≤ size) : RoundsTo format negative size (.infinite negative)
  | finite {significand : Nat} {exponent : Int} (small : size < format.limit)
      (fits : significand < 2 ^ format.precision) (least : format.minExponent ≤ exponent)
      (most : exponent ≤ format.maxExponent)
      (nearest : Nearest format size (significand * 2 ^ exponent)) :
      RoundsTo format negative size (.finite negative significand exponent)

/-- A size below half the least place becomes zero. -/
theorem roundsTo_zero_of_lt
    (sound : format.Sound) {negative : Bool} (nonnegative : 0 ≤ size)
    (small : size < 2 ^ (format.minExponent - 1)) :
    RoundsTo format negative size (BinaryFloat.zero format negative) := by
  have ordered := sound.ordered
  have precise := sound.precise
  have half : (2 : ℚ) ^ (format.minExponent - 1) * 2 = 2 ^ format.minExponent := by
    rw [← zpow_add_one₀ two_ne_zero, sub_add_cancel]
  have farther : ∀ other, Represents format other → other ≠ 0 → |size - 0| < |size - other| := by
    intro other represented nonzero
    obtain ⟨steps, rfl⟩ :=
      (represents_grid represented format.minExponent).resolve_right fun between =>
        absurd between.1 (lt_irrefl _)
    have nonzeroSteps : steps ≠ 0 := by
      rintro rfl
      simp at nonzero
    have one : ((1 : Int) : ℚ) ≤ |(steps : ℚ)| := by
      exact_mod_cast Int.one_le_abs nonzeroSteps
    have unit : (2 : ℚ) ^ format.minExponent ≤ |(steps : ℚ) * 2 ^ format.minExponent| := by
      rw [abs_mul, abs_of_pos (by positivity : (0 : ℚ) < 2 ^ format.minExponent)]
      exact le_mul_of_one_le_left (by positivity) (by simpa using one)
    have triangle := abs_sub_abs_le_abs_sub (steps * 2 ^ format.minExponent : ℚ) size
    rw [abs_sub_comm, abs_of_nonneg nonnegative] at triangle
    rw [sub_zero, abs_of_nonneg nonnegative]
    linarith
  have below : size < format.limit := by
    refine small.trans_le (le_trans ?_ format.limit_bounds.1)
    exact zpow_le_zpow_right₀ one_le_two (by omega)
  refine .finite below (by positivity) le_rfl ordered ?_
  rw [Nat.cast_zero, zero_mul]
  refine ⟨⟨0, format.minExponent, by positivity, le_rfl, ordered, by simp⟩, ?_, ?_⟩
  · intro other represented
    by_cases zero : other = 0
    · rw [zero]
    · exact (farther other represented zero).le
  · intro other represented tie nonzero
    exact absurd tie (farther other represented nonzero).ne'

theorem roundsTo_zero (sound : format.Sound) (negative : Bool) :
    RoundsTo format negative 0 (BinaryFloat.zero format negative) :=
  roundsTo_zero_of_lt sound le_rfl (by positivity)

/-- A size is rounded to the nearest multiple of its place, in whatever way the format writes it. -/
theorem roundsTo_of_atPlace
    (sound : format.Sound) (negative : Bool) (atPlace : AtPlace format size place)
    (nearest : Ratio.NearestWhole (size / 2 ^ place) whole) (small : size < format.limit)
    {significand : Nat} {exponent : Int} (fits : significand < 2 ^ format.precision)
    (least : format.minExponent ≤ exponent) (most : exponent ≤ format.maxExponent)
    (same : (significand : ℚ) * 2 ^ exponent = whole * 2 ^ place) :
    RoundsTo format negative size (.finite negative significand exponent) := by
  refine .finite small fits least most ?_
  rw [same]
  refine nearest_of_atPlace sound atPlace nearest ⟨significand, exponent, fits, least, most, ?_⟩
  rw [← same]
  exact abs_of_nonneg (by positivity)

/-- A significand that is carried over its last place is half as large, one place up. -/
theorem carried_eq (precise : 0 < format.precision) (place : Int) :
    ((2 ^ (format.precision - 1) : Nat) : ℚ) * 2 ^ (place + 1) =
      (2 ^ format.precision : Nat) * 2 ^ place := by
  have double : 2 ^ format.precision = 2 * 2 ^ (format.precision - 1) := by
    rw [← pow_succ', Nat.sub_add_cancel precise]
  rw [double, zpow_add_one₀ two_ne_zero]
  push_cast
  ring

theorem roundsTo_ofRatio
    (sound : format.Sound) (negative : Bool) {ratio : Ratio} (divisor : 0 < ratio.denominator) :
    RoundsTo format negative ratio.value (BinaryFloat.ofRatio format negative ratio) := by
  by_cases zero : ratio.numerator = 0
  · have isZero : ratio.value = 0 := by simp [Ratio.value, zero]
    rw [BinaryFloat.ofRatio, if_pos (by simp [zero]), isZero]
    exact roundsTo_zero sound negative
  · obtain ⟨place, isPlace⟩ : ∃ place, place = BinaryFloat.placeOf format ratio := ⟨_, rfl⟩
    obtain ⟨whole, isWhole⟩ : ∃ whole, whole = (ratio.scale 2 (-place)).roundHalfEven := ⟨_, rfl⟩
    have atPlace : AtPlace format ratio.value place :=
      isPlace ▸ atPlace_placeOf (Nat.pos_of_ne_zero zero) divisor
    have nearest : Ratio.NearestWhole (ratio.value / 2 ^ place) whole := by
      have scaled := Ratio.nearestWhole_roundHalfEven
        (Ratio.denominator_scale two_pos divisor (-place))
      rw [Ratio.value_scale two_pos, zpow_neg, ← div_eq_mul_inv, ← isWhole] at scaled
      exact scaled
    have beyond := limit_le_iff sound atPlace nearest
    rw [BinaryFloat.ofRatio, if_neg (by simpa using zero)]
    simp only [powerOfTwo, Nat.pow_eq, beq_iff_eq, ← isPlace, ← isWhole]
    by_cases large : format.limit ≤ ratio.value
    · rw [if_pos (beyond.mp large)]
      exact .infinite large
    · have most := not_lt.mp (fun above => large (beyond.mpr above))
      rw [if_neg (fun above => large (beyond.mpr above))]
      have least := atPlace.least
      by_cases carried : whole = 2 ^ format.precision
      · rw [if_pos carried] at most
        simp only [if_pos carried]
        have fits : 2 ^ (format.precision - 1) < 2 ^ format.precision :=
          Nat.pow_lt_pow_right one_lt_two (Nat.sub_one_lt_of_lt sound.precise)
        exact roundsTo_of_atPlace sound negative atPlace nearest (not_le.mp large) fits (by omega)
          most (by rw [carried_eq sound.precise, carried])
      · rw [if_neg carried] at most
        simp only [if_neg carried]
        have fits : whole < 2 ^ format.precision :=
          (nearest.le_of_lt (by exact_mod_cast atPlace.inUnits)).lt_of_ne carried
        exact roundsTo_of_atPlace sound negative atPlace nearest (not_le.mp large) fits least most
          rfl

/-! ## Signs and integers -/

/-- The power of two that begins the greatest numbers of a format. -/
theorem represents_greatest (sound : format.Sound) :
    Represents format (2 ^ (format.precision + format.maxExponent - 1)) := by
  have precise := sound.precise
  refine ⟨2 ^ (format.precision - 1), format.maxExponent,
    Nat.pow_lt_pow_right one_lt_two (by omega), sound.ordered, le_rfl, ?_⟩
  rw [abs_of_pos (by positivity)]
  push_cast
  rw [← zpow_natCast, ← zpow_add₀ two_ne_zero]
  congr 1
  omega

def withSign (negative : Bool) (size : ℚ) : ℚ :=
  if negative then -size else size

theorem abs_withSign (negative : Bool) (size : ℚ) : |withSign negative size| = |size| := by
  cases negative
  · rfl
  · exact abs_neg size

theorem Nearest.withSign {rounded : ℚ} (negative : Bool) (nearest : Nearest format size rounded) :
    Nearest format (withSign negative size) (withSign negative rounded) := by
  cases negative
  · exact nearest
  · exact nearest.neg

theorem withSign_eq_intCast_iff {negative : Bool} (nonnegative : 0 ≤ size) {integer : Int} :
    withSign negative size = integer ↔
      ∃ whole : Nat, size = whole ∧ (if negative then -(whole : Int) else whole) = integer := by
  cases negative with
  | false =>
      constructor
      · intro same
        have notNegative : 0 ≤ integer := by
          have : (0 : ℚ) ≤ integer := nonnegative.trans_eq same
          exact_mod_cast this
        obtain ⟨whole, rfl⟩ := Int.eq_ofNat_of_zero_le notNegative
        exact ⟨whole, by exact_mod_cast same, rfl⟩
      · rintro ⟨whole, rfl, rfl⟩
        simp [withSign]
  | true =>
      constructor
      · intro same
        have opposite : size = ((-integer : Int) : ℚ) := by
          push_cast
          rw [← same]
          simp [withSign]
        have notNegative : 0 ≤ -integer := by
          have : (0 : ℚ) ≤ ((-integer : Int) : ℚ) := nonnegative.trans_eq opposite
          exact_mod_cast this
        obtain ⟨whole, isWhole⟩ := Int.eq_ofNat_of_zero_le notNegative
        rw [isWhole] at opposite
        exact ⟨whole, by exact_mod_cast opposite, by simp; omega⟩
      · rintro ⟨whole, rfl, rfl⟩
        simp [withSign]

theorem BinaryFloat.denominator_magnitude (significand : Nat) (exponent : Int) :
    0 < (magnitude significand exponent).denominator :=
  Ratio.denominator_scale two_pos Nat.one_pos _

theorem BinaryFloat.value_magnitude (significand : Nat) (exponent : Int) :
    (magnitude significand exponent).value = significand * 2 ^ exponent := by
  rw [magnitude, Ratio.value_scale two_pos]
  simp [Ratio.value]

/-- A finite number is an integer when its value is. -/
theorem BinaryFloat.toInt?_finite
    {negative : Bool} {significand : Nat} {exponent : Int} {integer : Int} :
    (BinaryFloat.finite negative significand exponent).toInt? = some integer ↔
      withSign negative (significand * 2 ^ exponent) = integer := by
  obtain ⟨ratio, isRatio⟩ : ∃ ratio, ratio = magnitude significand exponent := ⟨_, rfl⟩
  have divisor : 0 < ratio.denominator := isRatio ▸ denominator_magnitude significand exponent
  rw [← value_magnitude, ← isRatio, withSign_eq_intCast_iff Ratio.value_nonneg]
  simp only [toInt?, ← isRatio, Ratio.value_eq_natCast_iff divisor, beq_iff_eq]
  by_cases divides : ratio.numerator % ratio.denominator = 0
  · simp [divides]
  · simp [divides]

/-- What a number is rounded to is an integer when the nearest number is, for integers that are far
from the limit. -/
theorem RoundsTo.toInt?_eq_some_iff
    {negative : Bool} {result : BinaryFloat} (sound : format.Sound)
    (rounds : RoundsTo format negative size result) {integer : Int}
    (within : |(integer : ℚ)| < 2 ^ (format.precision + format.maxExponent - 1)) :
    result.toInt? = some integer ↔ Nearest format (withSign negative size) integer := by
  cases rounds with
  | infinite large =>
      have beyond := format.limit_bounds.1.trans large
      have notNearest : ¬Nearest format (withSign negative size) integer := by
        intro nearest
        obtain ⟨low, high⟩ := abs_lt.mp within
        cases negative with
        | false => exact absurd (nearest.le_of_le (represents_greatest sound) beyond) (not_le.mpr high)
        | true =>
            have negated : Nearest format size (-(integer : ℚ)) := by
              simpa [withSign] using nearest.neg
            linarith [negated.le_of_le (represents_greatest sound) beyond]
      simp [BinaryFloat.toInt?, notNearest]
  | finite small fits least most nearest =>
      rw [BinaryFloat.toInt?_finite]
      have signed := nearest.withSign negative
      constructor
      · intro same
        exact same ▸ signed
      · intro nearestInteger
        exact signed.unique nearestInteger

end TypedTables.Number
