import TypedTables.Number.Integer
import TypedTables.Proofs.Text.Pieces

/-!
# Integers and their texts

The text of an integer is a minus sign, where it is negative, and its decimal digits.  Reading the
text gives the integer back.
-/

namespace TypedTables.Number

open TypedTables.Text

/-- A character that the text of an integer can have. -/
def isNumberChar (c : Char) : Bool :=
  isAsciiDigit c || c == '-'

theorem IntRange.contains_iff {range : IntRange} {number : Int} :
    range.contains number = true ↔ range.low ≤ number ∧ number ≤ range.high := by
  simp [contains]

theorem contains_of_within {inner outer : IntRange} {number : Int}
    (low : outer.low ≤ inner.low) (high : inner.high ≤ outer.high)
    (inRange : inner.contains number = true) : outer.contains number = true := by
  rw [IntRange.contains_iff] at inRange ⊢
  omega

theorem isAsciiDigit_of_mem_toDigits {number : Nat} {c : Char}
    (member : c ∈ Nat.toDigits 10 number) :
    isAsciiDigit c = true := by
  have digit : c.isDigit = true :=
    Nat.isDigit_of_mem_toDigits (by decide) (by decide) member
  simpa [isAsciiDigit, Char.isDigit, Char.le_def] using digit

theorem isBlank_of_isNumberChar {c : Char} (shown : isNumberChar c = true) :
    isBlank c = false := by
  rw [isNumberChar, Bool.or_eq_true] at shown
  rcases shown with digit | minus
  · have bounds : 48 ≤ c.toNat ∧ c.toNat ≤ 57 := by
      simpa [isAsciiDigit, Char.le_def, UInt32.le_iff_toNat_le] using digit
    simp [isBlank]
    omega
  · have same : c = '-' := by simpa using minus
    subst same
    decide

theorem readDigits?_toDigits (number : Nat) :
    readDigits? (Nat.toDigits 10 number) = some number := by
  have allDigits : (Nat.toDigits 10 number).all isAsciiDigit = true :=
    List.all_eq_true.mpr fun c member => isAsciiDigit_of_mem_toDigits member
  have value : digitsValue (Nat.toDigits 10 number) = number :=
    Nat.ofDigitChars_ten_toDigits
  simp [readDigits?, allDigits, value]

theorem takeSign_toDigits (number : Nat) :
    takeSign (Nat.toDigits 10 number) = (false, Nat.toDigits 10 number) := by
  cases shape : Nat.toDigits 10 number with
  | nil => rfl
  | cons c rest =>
      have digit : isAsciiDigit c = true :=
        isAsciiDigit_of_mem_toDigits (by simp [shape] : c ∈ Nat.toDigits 10 number)
      unfold takeSign
      split
      · next equality =>
        rw [List.cons.injEq] at equality
        rw [equality.1] at digit
        exact absurd digit (by decide)
      · next equality =>
        rw [List.cons.injEq] at equality
        rw [equality.1] at digit
        exact absurd digit (by decide)
      · rfl

/-- The characters of an integer's text. -/
theorem toList_toString_int (number : Int) :
    (toString number).toList =
      if 0 ≤ number then Nat.toDigits 10 number.toNat
      else '-' :: Nat.toDigits 10 (-number).toNat := by
  rw [Int.toString_eq_repr, Int.repr_eq_if]
  by_cases nonnegative : 0 ≤ number
  · rw [if_pos nonnegative, if_pos nonnegative, Nat.toList_repr]
  · rw [if_neg nonnegative, if_neg nonnegative, String.toList_append, Nat.toList_repr]
    rfl

/-- Reading the text of an integer gives it back. -/
theorem readInt?_toString (number : Int) :
    readInt? (toString number) = some number := by
  unfold readInt?
  rw [toList_toString_int]
  by_cases nonnegative : 0 ≤ number
  · rw [if_pos nonnegative, takeSign_toDigits]
    simp [readDigits?_toDigits]
    omega
  · rw [if_neg nonnegative]
    simp only [takeSign, readDigits?_toDigits, Option.map_some, if_true, Option.some.injEq]
    simp only [Int.ofNat_eq_natCast]
    omega

theorem readIntIn?_toString {range : IntRange} {number : Int}
    (inRange : range.contains number = true) :
    readIntIn? range (toString number) = some number := by
  rw [readIntIn?, readInt?_toString]
  simp [inRange]

theorem isNumberChar_of_mem_toString {number : Int} {c : Char}
    (member : c ∈ (toString number).toList) :
    isNumberChar c = true := by
  rw [toList_toString_int] at member
  rw [isNumberChar, Bool.or_eq_true]
  by_cases nonnegative : 0 ≤ number
  · rw [if_pos nonnegative] at member
    exact Or.inl (isAsciiDigit_of_mem_toDigits member)
  · rw [if_neg nonnegative, List.mem_cons] at member
    rcases member with minus | digit
    · exact Or.inr (by simp [minus])
    · exact Or.inl (isAsciiDigit_of_mem_toDigits digit)

/-- The text of an integer has no white space. -/
theorem trim_toString_int (number : Int) : trim (toString number) = toString number :=
  trim_of_all fun _ member => isBlank_of_isNumberChar (isNumberChar_of_mem_toString member)

theorem isBlankText_toString_int (number : Int) : isBlankText (toString number) = false := by
  rw [isBlankText_eq_false_iff]
  have nonempty : (toString number).toList ≠ [] := by
    rw [toList_toString_int]
    split
    · exact Nat.toDigits_ne_nil
    · exact List.cons_ne_nil _ _
  obtain ⟨c, rest, shape⟩ := List.exists_cons_of_ne_nil nonempty
  have member : c ∈ (toString number).toList := by
    rw [shape]
    exact List.mem_cons_self
  exact ⟨c, member, isBlank_of_isNumberChar (isNumberChar_of_mem_toString member)⟩

end TypedTables.Number
