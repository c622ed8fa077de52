import TypedTables.Naming.Identifier
import TypedTables.Text.Lowercase

/-!
# Lower case of ASCII text

The full mapping to lower case and the one of ASCII letters agree on text of ASCII characters, such
as an identifier.
-/

namespace TypedTables.Text

theorem lowerChars_of_ascii
    {before text : List Char} (ascii : ∀ c ∈ text, c.toNat < 0x80) :
    lowerChars before text = text.map Char.toLower := by
  induction text generalizing before with
  | nil => rfl
  | cons c rest inductionHypothesis =>
      have small : c.toNat < 0x80 := ascii c List.mem_cons_self
      have notSigma : (c == 'Σ') = false := by
        apply beq_false_of_ne
        intro same
        rw [same] at small
        exact absurd small (by decide)
      have notDotted : (c == 'İ') = false := by
        apply beq_false_of_ne
        intro same
        rw [same] at small
        exact absurd small (by decide)
      have restAscii : ∀ other ∈ rest, other.toNat < 0x80 :=
        fun other member => ascii other (List.mem_cons_of_mem c member)
      rw [lowerChars, inductionHypothesis restAscii]
      simp [notSigma, notDotted, lowerChar, small]

theorem lowercase_of_ascii
    {text : String} (ascii : ∀ c ∈ text.toList, c.toNat < 0x80) :
    lowercase text = asciiLower text := by
  unfold lowercase asciiLower
  rw [lowerChars_of_ascii ascii]

theorem equalIgnoringAsciiCase_iff {left right : String} :
    equalIgnoringAsciiCase left right = true ↔ asciiLower left = asciiLower right := by
  unfold equalIgnoringAsciiCase asciiLower
  rw [beq_iff_eq, String.ofList_inj]

theorem bounds_of_isIdentifierChar {c : Char} (allowed : Naming.isIdentifierChar c = true) :
    48 ≤ c.toNat ∧ c.toNat < 0x80 := by
  simp only [Naming.isIdentifierChar, isAsciiLetter, isAsciiDigit, Bool.or_eq_true,
    Bool.and_eq_true, decide_eq_true_eq, beq_iff_eq, Char.le_def, UInt32.le_iff_toNat_le] at allowed
  rcases allowed with ((lower | upper) | digit) | underscore
  · change 97 ≤ c.toNat ∧ c.toNat ≤ 122 at lower
    omega
  · change 65 ≤ c.toNat ∧ c.toNat ≤ 90 at upper
    omega
  · change 48 ≤ c.toNat ∧ c.toNat ≤ 57 at digit
    omega
  · rw [underscore]
    decide

theorem ascii_of_isIdentifierChar {c : Char} (allowed : Naming.isIdentifierChar c = true) :
    c.toNat < 0x80 :=
  (bounds_of_isIdentifierChar allowed).2

theorem asciiLower_ne_empty {text : String} (nonempty : text ≠ "") : asciiLower text ≠ "" := by
  intro empty
  have noCharacters := congrArg String.toList empty
  rw [asciiLower, String.toList_ofList] at noCharacters
  exact nonempty (String.toList_eq_nil_iff.mp (List.map_eq_nil_iff.mp noCharacters))

theorem isIdentifierChar_of_mem {text : String} (identifier : Naming.isIdentifier text = true)
    {c : Char} (member : c ∈ text.toList) : Naming.isIdentifierChar c = true := by
  unfold Naming.isIdentifier at identifier
  split at identifier
  · cases identifier
  · next first rest shape =>
      rw [shape] at member
      exact List.all_eq_true.mp (Bool.and_eq_true_iff.mp identifier).2 c member

theorem ascii_of_isIdentifier {text : String} (identifier : Naming.isIdentifier text = true) :
    ∀ c ∈ text.toList, c.toNat < 0x80 :=
  fun _ member => ascii_of_isIdentifierChar (isIdentifierChar_of_mem identifier member)

end TypedTables.Text
