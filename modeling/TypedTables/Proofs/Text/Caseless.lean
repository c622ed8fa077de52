import TypedTables.Text.Blank
import TypedTables.Text.Lowercase
import TypedTables.Text.AsciiCase

/-!
# Characters without case

White space and parentheses have no case.  Lower-casing a text leaves such a character where it is,
and makes one of no other character.
-/

namespace TypedTables.Text

/-- A code point that the run neither covers nor leads to. -/
def CaseRun.avoids (run : CaseRun) (code : Nat) : Bool :=
  !run.covers code && (run.preimage? code).isNone

/-- Code points with a lower-case mapping of their own, and those that such a mapping yields. -/
def specialCodes : List Nat := [0, 0x69, 0x130, 0x307, 0x3A3, 0x3C2, 0x3C3]

/-- A code point that no mapping to lower case takes part in. -/
def isCaselessCode (code : Nat) : Bool :=
  !(0x41 ≤ code && code ≤ 0x5A) && !(0x61 ≤ code && code ≤ 0x7A) && !specialCodes.contains code &&
    lowercaseRuns.all (·.avoids code)

def isCaseless (c : Char) : Bool :=
  isCaselessCode c.toNat

def blankCodes : List Nat := [
  0x9, 0xA, 0xB, 0xC, 0xD, 0x20, 0x85, 0xA0, 0x1680, 0x2000, 0x2001, 0x2002, 0x2003, 0x2004, 0x2005,
  0x2006, 0x2007, 0x2008, 0x2009, 0x200A, 0x2028, 0x2029, 0x202F, 0x205F, 0x3000]

theorem mem_blankCodes {c : Char} (blank : isBlank c = true) : c.toNat ∈ blankCodes := by
  simp only [isBlank, Bool.or_eq_true, Bool.and_eq_true, decide_eq_true_eq, beq_iff_eq] at blank
  simp only [blankCodes, List.mem_cons, List.not_mem_nil, or_false]
  omega

theorem isCaseless_of_isBlank {c : Char} (blank : isBlank c = true) : isCaseless c = true := by
  have all : blankCodes.all isCaselessCode = true := by decide +kernel
  exact List.all_eq_true.mp all c.toNat (mem_blankCodes blank)

/-! ## Single characters -/

section Mapping

variable {c : Char}

theorem toNat_ofNat_of_ne_zero {code : Nat} (nonzero : (Char.ofNat code).toNat ≠ 0) :
    (Char.ofNat code).toNat = code := by
  by_cases valid : code.isValidChar
  · rw [Char.ofNat, dif_pos valid]
    rfl
  · rw [Char.ofNat, dif_neg valid] at nonzero
    exact absurd rfl nonzero

theorem preimage?_image {run : CaseRun} {code : Nat} (covered : run.covers code = true)
    (nonzero : run.image code ≠ 0) : run.preimage? (run.image code) = some code := by
  have back : (Int.ofNat (run.image code) - run.offset).toNat = code := by
    unfold CaseRun.image at nonzero ⊢
    rw [Int.ofNat_eq_natCast] at nonzero ⊢
    rw [Int.ofNat_eq_natCast]
    omega
  unfold CaseRun.preimage?
  dsimp only
  rw [back, covered]
  simp

theorem toLower_cases (c : Char) :
    c.toLower = c ∧ ¬ (0x41 ≤ c.toNat ∧ c.toNat ≤ 0x5A) ∨
      0x61 ≤ c.toLower.toNat ∧ c.toLower.toNat ≤ 0x7A ∧ 0x41 ≤ c.toNat ∧ c.toNat ≤ 0x5A := by
  have bounds : c.val ≥ 'A'.val ∧ c.val ≤ 'Z'.val ↔ 0x41 ≤ c.toNat ∧ c.toNat ≤ 0x5A := by
    rw [ge_iff_le, UInt32.le_iff_toNat_le, UInt32.le_iff_toNat_le]
    rfl
  unfold Char.toLower
  split
  · next upper =>
      have shifted : (c.val + ('a'.val - 'A'.val)).toNat = c.toNat + 32 := by
        rw [UInt32.toNat_add]
        have small := (bounds.mp upper).2
        change (c.toNat + 32) % 2 ^ 32 = c.toNat + 32
        omega
      right
      change 0x61 ≤ (c.val + ('a'.val - 'A'.val)).toNat ∧
        (c.val + ('a'.val - 'A'.val)).toNat ≤ 0x7A ∧ _
      rw [shifted]
      have range := bounds.mp upper
      omega
  · next other => exact Or.inl ⟨rfl, fun range => other (bounds.mpr range)⟩

/-- What is known of a character without case. -/
structure Spared (c : Char) : Prop where
  notUpper : ¬ (0x41 ≤ c.toNat ∧ c.toNat ≤ 0x5A)
  notLower : ¬ (0x61 ≤ c.toNat ∧ c.toNat ≤ 0x7A)
  notSpecial : c.toNat ∉ specialCodes
  avoided : ∀ run ∈ lowercaseRuns, run.covers c.toNat = false ∧ run.preimage? c.toNat = none

theorem spared_of_isCaseless (caseless : isCaseless c = true) : Spared c := by
  simp only [isCaseless, isCaselessCode, Bool.and_eq_true, Bool.not_eq_true', Bool.and_eq_false_iff,
    decide_eq_false_iff_not, List.all_eq_true, CaseRun.avoids, Option.isNone_iff_eq_none,
    List.contains_eq_mem] at caseless
  obtain ⟨⟨⟨notUpper, notLower⟩, notSpecial⟩, avoided⟩ := caseless
  exact ⟨by omega, by omega, notSpecial, avoided⟩

theorem lowerChar_of_isCaseless (caseless : isCaseless c = true) : lowerChar c = c := by
  have spared := spared_of_isCaseless caseless
  unfold lowerChar
  split
  · rcases toLower_cases c with ⟨same, -⟩ | ⟨-, -, upper⟩
    · exact same
    · exact absurd upper spared.notUpper
  · have missing : lowercaseRuns.find? (·.covers c.toNat) = none :=
      List.find?_eq_none.mpr fun run member => by simp [(spared.avoided run member).1]
    rw [mapCase, missing]

theorem eq_of_lowerChar_eq (caseless : isCaseless c = true) {d : Char} (same : lowerChar d = c) :
    d = c := by
  have spared := spared_of_isCaseless caseless
  unfold lowerChar at same
  split at same
  · rcases toLower_cases d with ⟨kept, -⟩ | ⟨low, high, -⟩
    · exact kept.symm.trans same
    · rw [same] at low high
      exact absurd ⟨low, high⟩ spared.notLower
  · unfold mapCase at same
    split at same
    · next run found =>
        have covered := List.find?_some found
        have nonzero : c.toNat ≠ 0 := fun zero => spared.notSpecial (by simp [specialCodes, zero])
        have image : run.image d.toNat = c.toNat := by
          rw [← same] at nonzero ⊢
          exact (toNat_ofNat_of_ne_zero nonzero).symm
        have back := preimage?_image covered (image ▸ nonzero)
        rw [image, (spared.avoided run (List.mem_of_find?_eq_some found)).2] at back
        cases back
    · exact same

end Mapping

/-! ## Texts -/

section Texts

variable {c : Char} {before text : List Char}

theorem ne_of_isCaseless {d : Char} (caseless : isCaseless c = true)
    (special : d.toNat ∈ specialCodes) : c ≠ d := by
  rintro rfl
  exact (spared_of_isCaseless caseless).notSpecial special

/-- Every character has an image of its own, which is a caseless character for that alone. -/
theorem lowerChars_cons (caseless : isCaseless c = true) (before : List Char) (d : Char)
    (rest : List Char) :
    ∃ first others, lowerChars before (d :: rest) =
        first :: (others ++ lowerChars (d :: before) rest) ∧
      (first = c ↔ d = c) ∧ c ∉ others := by
  have other : ∀ e : Char, e.toNat ∈ specialCodes → (e = c ↔ False) :=
    fun e special => iff_false_intro (ne_of_isCaseless caseless special).symm
  rw [lowerChars]
  split
  · next sigma =>
      rw [eq_of_beq sigma, other 'Σ' (by decide)]
      split
      · exact ⟨'ς', [], rfl, other 'ς' (by decide), List.not_mem_nil⟩
      · exact ⟨'σ', [], rfl, other 'σ' (by decide), List.not_mem_nil⟩
  · split
    · next dotted =>
        rw [eq_of_beq dotted, other 'İ' (by decide)]
        refine ⟨'i', ['\u0307'], rfl, other 'i' (by decide), ?_⟩
        rw [List.mem_singleton]
        exact ne_of_isCaseless caseless (by decide)
    · refine ⟨lowerChar d, [], rfl, ⟨eq_of_lowerChar_eq caseless, ?_⟩, List.not_mem_nil⟩
      rintro rfl
      exact lowerChar_of_isCaseless caseless

theorem mem_lowerChars_iff (caseless : isCaseless c = true) :
    c ∈ lowerChars before text ↔ c ∈ text := by
  induction text generalizing before with
  | nil => rfl
  | cons d rest inductionHypothesis =>
      obtain ⟨first, others, image, same, absent⟩ := lowerChars_cons caseless before d rest
      rw [image, List.mem_cons, List.mem_append, inductionHypothesis, List.mem_cons, eq_comm, same,
        eq_comm]
      simp [absent]

theorem mem_lowercase_iff (caseless : isCaseless c = true) {text : String} :
    c ∈ (lowercase text).toList ↔ c ∈ text.toList := by
  rw [lowercase, String.toList_ofList, mem_lowerChars_iff caseless]

theorem head?_lowercase_iff (caseless : isCaseless c = true) {text : String} :
    (lowercase text).toList.head? = some c ↔ text.toList.head? = some c := by
  rw [lowercase, String.toList_ofList]
  cases text.toList with
  | nil => rfl
  | cons d rest =>
      obtain ⟨first, others, image, same, -⟩ := lowerChars_cons caseless [] d rest
      rw [image, List.head?_cons, List.head?_cons, Option.some.injEq, Option.some.injEq, same]

theorem lowercase_eq_empty_iff {text : String} : lowercase text = "" ↔ text = "" := by
  rw [← String.toList_eq_nil_iff, ← String.toList_eq_nil_iff, lowercase, String.toList_ofList]
  cases text.toList with
  | nil => simp [lowerChars]
  | cons d rest =>
      have blank : isCaseless ' ' = true := isCaseless_of_isBlank rfl
      obtain ⟨first, others, image, -⟩ := lowerChars_cons blank [] d rest
      simp [image]

end Texts

end TypedTables.Text
