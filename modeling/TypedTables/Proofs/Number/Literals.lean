import TypedTables.Proofs.Number.Decimals

/-!
# Decimal literals

A decimal literal is an optional sign, digits with an optional point among or beside them, and an
optional exponent.  Reading it as a floating-point number rounds its value once; reading it as an
integer succeeds when it is nothing but an optional sign and digits.
-/

namespace TypedTables.Number

open TypedTables.Text

/-! ## Digits -/

theorem digitsValue_append (left right : List Char) :
    digitsValue (left ++ right) = digitsValue left * 10 ^ right.length + digitsValue right := by
  have general : ∀ (text : List Char) (first : Nat),
      text.foldl (fun number c => 10 * number + digitValue c) first =
        first * 10 ^ text.length + digitsValue text := by
    intro text
    induction text with
    | nil => simp [digitsValue]
    | cons c rest inductionHypothesis =>
        intro first
        have fromZero := inductionHypothesis (10 * 0 + digitValue c)
        rw [digitsValue, List.foldl_cons, List.foldl_cons, inductionHypothesis, fromZero,
          List.length_cons]
        ring
  rw [digitsValue, List.foldl_append]
  exact general right _

def AllDigits (text : List Char) : Prop :=
  ∀ c ∈ text, isAsciiDigit c = true

theorem isAsciiDigit_iff {c : Char} :
    isAsciiDigit c = true ↔ 48 ≤ c.toNat ∧ c.toNat ≤ 57 := by
  simp [isAsciiDigit, Char.le_def, UInt32.le_iff_toNat_le]

theorem readDigits?_of_allDigits {text : List Char} (nonempty : text ≠ []) (digits : AllDigits text) :
    readDigits? text = some (digitsValue text) := by
  have all : text.all isAsciiDigit = true := List.all_eq_true.mpr digits
  simp [readDigits?, nonempty, all]

/-- The first character behind digits, if any, is no digit. -/
def EndsDigits (text : List Char) : Prop :=
  ∀ c ∈ text.head?, isAsciiDigit c = false

theorem spanDigits_append {digits rest : List Char} (all : AllDigits digits) (ends : EndsDigits rest) :
    Decimal.spanDigits (digits ++ rest) = (digits, rest) := by
  rw [Decimal.spanDigits, List.takeWhile_append_of_pos all, List.dropWhile_append_of_pos all]
  cases rest with
  | nil => simp
  | cons c rest =>
      have other := ends c (by simp)
      rw [List.takeWhile_cons_of_neg (by simp [other]),
        List.dropWhile_cons_of_neg (by simp [other]), List.append_nil]

/-! ## Signs -/

inductive Sign
  | none
  | plus
  | minus

namespace Sign

def text : Sign → List Char
  | none => []
  | plus => ['+']
  | minus => ['-']

def isMinus : Sign → Bool
  | minus => true
  | _ => false

end Sign

/-- The first character of a text, if any, is no sign. -/
def StartsUnsigned (text : List Char) : Prop :=
  ∀ c ∈ text.head?, c ≠ '+' ∧ c ≠ '-'

theorem takeSign_append (sign : Sign) {rest : List Char} (unsigned : StartsUnsigned rest) :
    takeSign (sign.text ++ rest) = (sign.isMinus, rest) := by
  cases sign with
  | plus | minus => rfl
  | none =>
      change takeSign rest = (false, rest)
      unfold takeSign
      split
      · exact absurd rfl (unsigned '-' (by simp)).2
      · exact absurd rfl (unsigned '+' (by simp)).1
      · rfl

theorem startsUnsigned_of_allDigits {text : List Char} (digits : AllDigits text) :
    StartsUnsigned text := by
  intro c first
  have digit := isAsciiDigit_iff.mp (digits c (List.mem_of_mem_head? first))
  constructor <;> rintro rfl <;> simp at digit

/-! ## Literals -/

/-- An exponent with its mark. -/
structure Scale where
  mark : Char
  isMark : mark = 'e' ∨ mark = 'E'
  sign : Sign
  digits : List Char
  nonempty : digits ≠ []
  allDigits : AllDigits digits

namespace Scale

def text (scale : Scale) : List Char :=
  scale.mark :: (scale.sign.text ++ scale.digits)

def value (scale : Scale) : Int :=
  if scale.sign.isMinus then -(digitsValue scale.digits) else digitsValue scale.digits

end Scale

/-- A decimal literal: the digits in front of the point and, where there is a point, those behind
it, with an optional sign and an optional exponent. -/
structure Literal where
  sign : Sign
  whole : List Char
  fraction : Option (List Char)
  scale : Option Scale
  nonempty : whole ++ fraction.getD [] ≠ []
  wholeDigits : AllDigits whole
  fractionDigits : AllDigits (fraction.getD [])

namespace Literal

variable (literal : Literal)

/-- The digits behind the point. -/
def places : List Char :=
  literal.fraction.getD []

def scaleText : List Char :=
  (literal.scale.map Scale.text).getD []

def scaleValue : Int :=
  (literal.scale.map Scale.value).getD 0

def unsignedText : List Char :=
  literal.whole ++ (literal.fraction.map ('.' :: ·)).getD [] ++ literal.scaleText

def text : List Char :=
  literal.sign.text ++ literal.unsignedText

/-- A literal of nothing but an optional sign and digits. -/
def isPlain : Bool :=
  literal.fraction.isNone && literal.scale.isNone

def size : ℚ :=
  (digitsValue literal.whole + digitsValue literal.places / 10 ^ literal.places.length) *
    10 ^ literal.scaleValue

/-- The number that the literal writes. -/
def value : ℚ :=
  withSign literal.sign.isMinus literal.size

/-- The decimal that the literal is read as. -/
def decimal : Decimal where
  negative := literal.sign.isMinus
  significand := digitsValue (literal.whole ++ literal.places)
  exponent := literal.scaleValue - Int.ofNat literal.places.length

theorem size_decimal : literal.decimal.size = literal.size := by
  have ten : (10 : ℚ) ≠ 0 := by norm_num
  rw [Decimal.size, decimal, digitsValue_append, size, Int.ofNat_eq_natCast, zpow_sub₀ ten,
    zpow_natCast]
  push_cast
  field_simp

/-! ## Reading a literal -/

theorem scaleText_cases :
    literal.scaleText = [] ∨ ∃ mark rest, literal.scaleText = mark :: rest ∧
      (mark = 'e' ∨ mark = 'E') := by
  unfold scaleText
  cases literal.scale with
  | none => exact Or.inl rfl
  | some scale => exact Or.inr ⟨scale.mark, _, rfl, scale.isMark⟩

theorem endsDigits_scaleText : EndsDigits literal.scaleText := by
  intro c first
  rcases literal.scaleText_cases with empty | ⟨mark, rest, shape, isMark⟩
  · simp [empty] at first
  · simp only [shape, List.head?_cons, Option.mem_some_iff] at first
    rw [← first]
    rcases isMark with rfl | rfl <;> decide

theorem readExponent?_scaleText :
    Decimal.readExponent? literal.scaleText = some literal.scaleValue := by
  unfold scaleText scaleValue
  cases literal.scale with
  | none => rfl
  | some scale =>
      have marked : (scale.mark == 'e' || scale.mark == 'E') = true := by
        simpa using scale.isMark
      simp only [Option.map_some, Option.getD_some, Scale.text, Decimal.readExponent?, marked,
        if_true, takeSign_append scale.sign (startsUnsigned_of_allDigits scale.allDigits),
        readDigits?_of_allDigits scale.nonempty scale.allDigits, Scale.value,
        Int.ofNat_eq_natCast]

theorem readUnsigned?_unsignedText :
    Decimal.readUnsigned? literal.sign.isMinus literal.unsignedText = some literal.decimal := by
  have shaped : (literal.whole.isEmpty && literal.places.isEmpty) = false := by
    rw [← Bool.not_eq_true]
    intro empty
    simp only [Bool.and_eq_true, List.isEmpty_iff] at empty
    exact literal.nonempty (List.append_eq_nil_iff.mpr empty)
  have ends := literal.endsDigits_scaleText
  have exponent := literal.readExponent?_scaleText
  have allDigits : AllDigits literal.places := literal.fractionDigits
  unfold decimal unsignedText
  unfold places at shaped allDigits ⊢
  cases isFraction : literal.fraction with
  | none =>
      simp only [isFraction, Option.getD_none, List.isEmpty_nil, Bool.and_true] at shaped
      simp only [Option.map_none, Option.getD_none, List.append_nil, Decimal.readUnsigned?,
        spanDigits_append literal.wholeDigits ends]
      -- What stands behind the digits is the mark of an exponent and no point.
      rcases literal.scaleText_cases with empty | ⟨mark, rest, shape, isMark⟩
      · rw [empty] at exponent ⊢
        simp [shaped, exponent]
      · rw [shape] at exponent ⊢
        rcases isMark with rfl | rfl <;> simp [shaped, exponent]
  | some fraction =>
      rw [isFraction, Option.getD_some] at shaped allDigits
      have pointEnds : EndsDigits ('.' :: (fraction ++ literal.scaleText)) := by
        intro c first
        simp only [List.head?_cons, Option.mem_some_iff] at first
        rw [← first]
        decide
      simp only [Option.map_some, Option.getD_some, List.append_assoc, List.cons_append,
        Decimal.readUnsigned?, spanDigits_append literal.wholeDigits pointEnds,
        spanDigits_append allDigits ends, shaped, exponent]
      rfl

/-- The first character behind the sign of a literal is a digit or the point. -/
theorem exists_unsignedText_eq_cons :
    ∃ c rest, literal.unsignedText = c :: rest ∧ (isAsciiDigit c = true ∨ c = '.') := by
  unfold unsignedText
  cases shape : literal.whole with
  | cons c rest =>
      refine ⟨c, _, rfl, Or.inl (literal.wholeDigits c ?_)⟩
      rw [shape]
      exact List.mem_cons_self
  | nil =>
      have nonempty := literal.nonempty
      cases isFraction : literal.fraction with
      | none => simp [shape, isFraction] at nonempty
      | some fraction => exact ⟨'.', _, rfl, Or.inr rfl⟩

/-- A literal is none of the words for what is no number. -/
theorem toLower_unsignedText_ne {word : String} {c : Char} {rest : List Char}
    (first : word.toList = c :: rest) (letter : isAsciiDigit c = false ∧ c ≠ '.') :
    String.ofList (literal.unsignedText.map Char.toLower) ≠ word := by
  obtain ⟨start, others, shape, isStart⟩ := literal.exists_unsignedText_eq_cons
  have kept : start.toLower = start := by
    rcases isStart with digit | rfl
    · have bounds := isAsciiDigit_iff.mp digit
      have notUpper : ¬(start.val ≥ 'A'.val ∧ start.val ≤ 'Z'.val) := by
        simp only [ge_iff_le, UInt32.le_iff_toNat_le, not_and]
        intro above
        have : 65 ≤ start.toNat := above
        omega
      exact dif_neg notUpper
    · rfl
  intro same
  have heads := congrArg (fun text => text.toList.head?) same
  simp only [String.toList_ofList, shape, List.map_cons, List.head?_cons, first, kept,
    Option.some.injEq] at heads
  rw [heads] at isStart
  rcases isStart with digit | point
  · rw [letter.1] at digit
    cases digit
  · exact letter.2 point

theorem startsUnsigned_unsignedText : StartsUnsigned literal.unsignedText := by
  obtain ⟨c, rest, shape, isFirst⟩ := literal.exists_unsignedText_eq_cons
  intro first same
  simp only [shape, List.head?_cons, Option.mem_some_iff] at same
  subst same
  rcases isFirst with digit | rfl
  · have bounds := isAsciiDigit_iff.mp digit
    constructor <;> rintro rfl <;> simp at bounds
  · decide

/-- A literal is read as its decimal, rounded once. -/
theorem read?_text (format : BinaryFormat) :
    BinaryFloat.read? format (String.ofList literal.text) =
      some (literal.decimal.toBinary format) := by
  have infinity : String.ofList (literal.unsignedText.map Char.toLower) ≠ "infinity" :=
    literal.toLower_unsignedText_ne rfl (by decide)
  have inf : String.ofList (literal.unsignedText.map Char.toLower) ≠ "inf" :=
    literal.toLower_unsignedText_ne rfl (by decide)
  have nan : String.ofList (literal.unsignedText.map Char.toLower) ≠ "nan" :=
    literal.toLower_unsignedText_ne rfl (by decide)
  have signed := takeSign_append literal.sign literal.startsUnsigned_unsignedText
  rw [BinaryFloat.read?, String.toList_ofList, text, signed]
  simp [infinity, inf, nan, readUnsigned?_unsignedText]

/-! ## Reading an integer -/

/-- The integer in front of the point. -/
def number : Int :=
  if literal.sign.isMinus then -(digitsValue literal.whole) else digitsValue literal.whole

variable {literal}

theorem value_of_isPlain (plain : literal.isPlain = true) : literal.value = literal.number := by
  obtain ⟨noFraction, noScale⟩ := Bool.and_eq_true_iff.mp plain
  rw [Option.isNone_iff_eq_none] at noFraction noScale
  have noPlaces : literal.places = [] := by rw [places, noFraction, Option.getD_none]
  have noScaleValue : literal.scaleValue = 0 := by rw [scaleValue, noScale]; rfl
  have whole : literal.size = digitsValue literal.whole := by
    simp [size, noPlaces, noScaleValue, digitsValue]
  rw [value, whole, withSign, number]
  split
  · push_cast
    rfl
  · push_cast
    rfl

theorem readInt?_text_of_isPlain (plain : literal.isPlain = true) :
    readInt? (String.ofList literal.text) = some literal.number := by
  obtain ⟨noFraction, noScale⟩ := Bool.and_eq_true_iff.mp plain
  rw [Option.isNone_iff_eq_none] at noFraction noScale
  have shape : literal.unsignedText = literal.whole := by
    simp [unsignedText, scaleText, noFraction, noScale]
  have nonempty : literal.whole ≠ [] := by
    have nonempty := literal.nonempty
    rwa [noFraction, Option.getD_none, List.append_nil] at nonempty
  have signed := takeSign_append literal.sign literal.startsUnsigned_unsignedText
  rw [readInt?, String.toList_ofList, text, signed]
  simp only [shape, readDigits?_of_allDigits nonempty literal.wholeDigits, Option.map_some]
  rfl

/-- A point or the mark of an exponent is no digit. -/
theorem readInt?_text_of_not_isPlain (notPlain : literal.isPlain = false) :
    readInt? (String.ofList literal.text) = none := by
  have signed := takeSign_append literal.sign literal.startsUnsigned_unsignedText
  have other : ∃ c ∈ literal.unsignedText, isAsciiDigit c = false := by
    unfold unsignedText scaleText
    cases isFraction : literal.fraction with
    | some fraction => exact ⟨'.', by simp, by decide⟩
    | none =>
        cases isScale : literal.scale with
        | none => simp [isPlain, isFraction, isScale] at notPlain
        | some scale =>
            refine ⟨scale.mark, by simp [Scale.text], ?_⟩
            rcases scale.isMark with same | same <;> rw [same] <;> decide
  have notAll : literal.unsignedText.all isAsciiDigit = false := by
    rw [List.all_eq_false]
    obtain ⟨c, member, notDigit⟩ := other
    exact ⟨c, member, by simp [notDigit]⟩
  rw [readInt?, String.toList_ofList, text, signed]
  simp [readDigits?, notAll]

/-- Digits are read as an integer of a range when their number lies in it. -/
theorem readIntIn?_text (plain : literal.isPlain = true) (range : IntRange) :
    readIntIn? range (String.ofList literal.text) =
      if range.contains literal.number then some literal.number else none := by
  rw [readIntIn?, readInt?_text_of_isPlain plain]
  rfl

/-! ## White space around a literal -/

theorem visible_of_allDigits {text : List Char} (digits : AllDigits text) :
    ∀ c ∈ text, isBlank c = false :=
  fun c member => isBlank_of_isNumberChar (by simp [isNumberChar, digits c member])

theorem visible_sign (sign : Sign) : ∀ c ∈ sign.text, isBlank c = false := by
  cases sign with
  | none => exact List.forall_mem_nil _
  | plus | minus => exact List.forall_mem_singleton.mpr rfl

theorem visible_text : ∀ c ∈ literal.text, isBlank c = false := by
  have whole := visible_of_allDigits literal.wholeDigits
  have fraction : ∀ c ∈ (literal.fraction.map ('.' :: ·)).getD [], isBlank c = false := by
    have digits := visible_of_allDigits literal.fractionDigits
    cases isFraction : literal.fraction with
    | none => simp
    | some text =>
        rw [isFraction] at digits
        exact List.forall_mem_cons.mpr ⟨by decide, digits⟩
  have scale : ∀ c ∈ literal.scaleText, isBlank c = false := by
    unfold scaleText
    cases literal.scale with
    | none => simp
    | some scale =>
        have mark : isBlank scale.mark = false := by
          rcases scale.isMark with same | same <;> rw [same] <;> decide
        have digits := visible_of_allDigits scale.allDigits
        have sign := visible_sign scale.sign
        exact List.forall_mem_cons.mpr ⟨mark, List.forall_mem_append.mpr ⟨sign, digits⟩⟩
  unfold text unsignedText
  simp only [List.forall_mem_append]
  exact ⟨visible_sign literal.sign, ⟨whole, fraction⟩, scale⟩

theorem text_ne_nil : literal.text ≠ [] := by
  obtain ⟨c, rest, shape, _⟩ := literal.exists_unsignedText_eq_cons
  rw [text, shape]
  simp

end Literal

/-! ## Texts that are literals -/

theorem spanDigits_parts (text : List Char) :
    (Decimal.spanDigits text).1 ++ (Decimal.spanDigits text).2 = text ∧
      AllDigits (Decimal.spanDigits text).1 :=
  ⟨List.takeWhile_append_dropWhile, fun _ member => List.mem_takeWhile_imp member⟩

theorem exists_sign (text : List Char) : ∃ sign : Sign, text = sign.text ++ (takeSign text).2 := by
  unfold takeSign
  split
  · exact ⟨.minus, rfl⟩
  · exact ⟨.plus, rfl⟩
  · exact ⟨.none, rfl⟩

theorem allDigits_of_readDigits? {text : List Char} {number : Nat}
    (read : readDigits? text = some number) : text ≠ [] ∧ AllDigits text := by
  unfold readDigits? at read
  split at read
  · next shape =>
      simp only [Bool.and_eq_true, Bool.not_eq_true', List.isEmpty_eq_false_iff] at shape
      exact ⟨shape.1, List.all_eq_true.mp shape.2⟩
  · cases read

theorem exists_scale {text : List Char} {exponent : Int}
    (read : Decimal.readExponent? text = some exponent) :
    ∃ scale : Option Scale, text = (scale.map Scale.text).getD [] := by
  cases text with
  | nil => exact ⟨none, rfl⟩
  | cons mark rest =>
      simp only [Decimal.readExponent?] at read
      split at read
      · next isMark =>
          obtain ⟨number, digitsRead, _⟩ := Option.map_eq_some_iff.mp read
          obtain ⟨nonempty, allDigits⟩ := allDigits_of_readDigits? digitsRead
          obtain ⟨sign, parts⟩ := exists_sign rest
          have marked : mark = 'e' ∨ mark = 'E' := by simpa using isMark
          refine ⟨some ⟨mark, marked, sign, _, nonempty, allDigits⟩, ?_⟩
          exact congrArg (mark :: ·) parts
      · cases read

/-- What is read as a decimal is a literal. -/
theorem exists_literal_of_readUnsigned?
    {negative : Bool} {text : List Char} {decimal : Decimal}
    (read : Decimal.readUnsigned? negative text = some decimal) (sign : Sign) :
    ∃ literal : Literal, literal.text = sign.text ++ text := by
  obtain ⟨parts, wholeDigits⟩ := spanDigits_parts text
  rcases shape : Decimal.spanDigits text with ⟨whole, afterWhole⟩
  simp only [shape] at parts wholeDigits
  -- A literal with the digits read in front of the point and behind it, if there is one.
  have finish : ∀ (fraction : Option (List Char)) (rest : List Char) (exponent : Int),
      whole ++ fraction.getD [] ≠ [] → AllDigits (fraction.getD []) →
      Decimal.readExponent? rest = some exponent →
      afterWhole = (fraction.map ('.' :: ·)).getD [] ++ rest →
      ∃ literal : Literal, literal.text = sign.text ++ text := by
    intro fraction rest exponent nonempty digits readRest after
    obtain ⟨scale, rfl⟩ := exists_scale readRest
    refine ⟨⟨sign, whole, fraction, scale, nonempty, wholeDigits, digits⟩, ?_⟩
    rw [← parts, after, ← List.append_assoc whole]
    rfl
  have nonempty : ∀ fraction : List Char, ¬(whole.isEmpty && fraction.isEmpty) = true →
      whole ++ fraction ≠ [] := by
    intro fraction some empty
    simp [List.append_eq_nil_iff.mp empty] at some
  simp only [Decimal.readUnsigned?, shape] at read
  split at read
  · next tail =>
      obtain ⟨tailParts, fractionDigits⟩ := spanDigits_parts tail
      split at read
      · cases read
      · next isSome =>
          obtain ⟨exponent, readRest, _⟩ := Option.map_eq_some_iff.mp read
          exact finish (some (Decimal.spanDigits tail).1) _ exponent (nonempty _ isSome)
            fractionDigits readRest (congrArg ('.' :: ·) tailParts.symm)
  · split at read
    · cases read
    · next isSome =>
        obtain ⟨exponent, readRest, _⟩ := Option.map_eq_some_iff.mp read
        exact finish none _ exponent (nonempty [] isSome) (by simp [AllDigits]) readRest rfl

/-- A text that is read as a finite number is a literal. -/
theorem exists_literal_of_read?
    {format : BinaryFormat} {text : String} {number : BinaryFloat}
    (read : BinaryFloat.read? format text = some number) (finite : number.isFinite = true) :
    ∃ literal : Literal, text = String.ofList literal.text := by
  obtain ⟨sign, parts⟩ := exists_sign text.toList
  unfold BinaryFloat.read? at read
  dsimp only at read
  split at read
  · cases read
    cases finite
  · split at read
    · cases read
      cases finite
    · obtain ⟨decimal, readDecimal, _⟩ := Option.map_eq_some_iff.mp read
      obtain ⟨literal, same⟩ := exists_literal_of_readUnsigned? readDecimal sign
      exact ⟨literal, by rw [same, ← parts, String.ofList_toList]⟩

end TypedTables.Number
