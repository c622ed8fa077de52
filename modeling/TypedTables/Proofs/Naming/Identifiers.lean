import TypedTables.Naming.Casing
import TypedTables.Proofs.Text.Ascii

/-!
# Sanitized names

A sanitized name is an identifier unless it is empty, and neither a raw mark nor a style of casing
brings a character into a name that separates the parts of a path, or that is white space.
-/

namespace TypedTables.Naming

open TypedTables.Text

/-! ## Characters -/

theorem isIdentifierStart_of_not_digit {c : Char} (allowed : isIdentifierChar c = true)
    (notDigit : isAsciiDigit c = false) : isIdentifierStart c = true := by
  unfold isIdentifierChar at allowed
  rwa [notDigit, Bool.or_false] at allowed

theorem isIdentifierChar_of_mem_replaced
    {text : List Char} {c : Char}
    (member : c ∈ text.map fun d => if isIdentifierChar d then d else '_') :
    isIdentifierChar c = true := by
  obtain ⟨before, -, rfl⟩ := List.mem_map.mp member
  split
  · next allowed => exact allowed
  · decide

/-- A leading digit gets an underscore in front, which may start an identifier. -/
theorem guardDigit_cons {c : Char} {rest : List Char}
    (allowed : ∀ d ∈ c :: rest, isIdentifierChar d = true) :
    ∃ first others, guardDigit (c :: rest) = first :: others ∧ isIdentifierStart first = true ∧
      ∀ d ∈ first :: others, isIdentifierChar d = true := by
  unfold guardDigit
  by_cases digit : isAsciiDigit c = true
  · refine ⟨'_', c :: rest, if_pos digit, by decide, ?_⟩
    intro d member
    rcases List.mem_cons.mp member with atHead | inRest
    · rw [atHead]
      decide
    · exact allowed d inRest
  · refine ⟨c, rest, if_neg digit, ?_, allowed⟩
    have start : isIdentifierChar c = true := allowed c List.mem_cons_self
    exact isIdentifierStart_of_not_digit start (by simpa using digit)

/-! ## Names -/

theorem sanitize_cases (name : String) :
    sanitize name = "" ∨
      ∃ first others, (sanitize name).toList = first :: others ∧
        isIdentifierStart first = true ∧ ∀ d ∈ first :: others, isIdentifierChar d = true := by
  unfold sanitize
  cases shown : name.toList.map fun d => if isIdentifierChar d then d else '_' with
  | nil => exact Or.inl rfl
  | cons c rest =>
      right
      have allowed : ∀ d ∈ c :: rest, isIdentifierChar d = true := by
        intro d member
        rw [← shown] at member
        exact isIdentifierChar_of_mem_replaced member
      obtain ⟨first, others, guarded, start, all⟩ := guardDigit_cons allowed
      refine ⟨first, others, ?_, start, all⟩
      rw [guarded, String.toList_ofList]

theorem isIdentifier_sanitize {name : String} (nonempty : sanitize name ≠ "") :
    isIdentifier (sanitize name) = true := by
  obtain ⟨first, others, shape, start, all⟩ := (sanitize_cases name).resolve_left nonempty
  unfold isIdentifier
  rw [shape]
  dsimp only
  rw [start, Bool.true_and, List.all_eq_true]
  exact all

theorem isIdentifierChar_of_mem_sanitize
    {name : String} {c : Char} (member : c ∈ (sanitize name).toList) :
    isIdentifierChar c = true := by
  rcases sanitize_cases name with empty | ⟨first, others, shape, _, all⟩
  · rw [empty] at member
    cases member
  · rw [shape] at member
    exact all c member

theorem slash_not_mem_sanitize (name : String) : '/' ∉ (sanitize name).toList := by
  intro member
  exact absurd (isIdentifierChar_of_mem_sanitize member) (by decide)

/-- Escaping brings in an underscore or a raw mark, and no other character. -/
theorem not_mem_escapeReserved
    {c : Char} {identifier : String} (absent : c ∉ identifier.toList) (letter : c ≠ '_')
    (unmarked : c ∉ rawMark.toList) : c ∉ (escapeReserved identifier).toList := by
  unfold escapeReserved
  split
  · rw [String.toList_append, List.mem_append, not_or]
    exact ⟨absent, by simpa using letter⟩
  · split
    · rw [String.toList_append, List.mem_append, not_or]
      exact ⟨unmarked, absent⟩
    · exact absent

theorem slash_not_mem_snakeCase (name : String) : '/' ∉ (snakeCase name).toList := by
  unfold snakeCase identifierBy
  exact not_mem_escapeReserved (slash_not_mem_sanitize _) (by decide) (by decide)

theorem isBlank_of_isIdentifierChar {c : Char} (allowed : isIdentifierChar c = true) :
    isBlank c = false := by
  have bounds := bounds_of_isIdentifierChar allowed
  simp only [isBlank, Bool.or_eq_false_iff, Bool.and_eq_false_iff, decide_eq_false_iff_not,
    beq_eq_false_iff_ne]
  omega

theorem isBlank_of_mem_pascalCase
    {label : String} {c : Char} (member : c ∈ (pascalCase label).toList) : isBlank c = false := by
  rw [Bool.eq_false_iff]
  intro blank
  have outside : ∀ d, isBlank d = false → c ≠ d := by
    rintro d visible rfl
    rw [visible] at blank
    cases blank
  unfold pascalCase identifierBy at member
  refine not_mem_escapeReserved ?_ (outside '_' (by decide)) ?_ member
  · intro inName
    exact outside c (isBlank_of_isIdentifierChar (isIdentifierChar_of_mem_sanitize inName)) rfl
  · intro inMark
    have visible : rawMark.toList.all (!isBlank ·) = true := by decide
    have notBlank := List.all_eq_true.mp visible c inMark
    exact outside c (by simpa using notBlank) rfl

theorem mem_of_mem_dropRawMarks {c : Char} {name : List Char}
    (member : c ∈ dropRawMarks name) : c ∈ name := by
  fun_induction dropRawMarks name with
  | case1 rest inductionHypothesis =>
      exact List.mem_cons_of_mem _ (List.mem_cons_of_mem _ (inductionHypothesis member))
  | case2 => exact member

/-! ## Names of modules -/

theorem guardDigit_cons_ne_nil (c : Char) (rest : List Char) : guardDigit (c :: rest) ≠ [] := by
  rw [guardDigit]
  split <;> simp

theorem sanitize_ne_empty {name : String} (nonempty : name ≠ "") : sanitize name ≠ "" := by
  intro empty
  have noCharacters := congrArg String.toList empty
  rw [sanitize, String.toList_ofList] at noCharacters
  cases shown : name.toList with
  | nil => exact nonempty (String.toList_eq_nil_iff.mp shown)
  | cons c rest =>
      rw [shown, List.map_cons] at noCharacters
      exact guardDigit_cons_ne_nil _ _ noCharacters

theorem escapeReserved_ne_empty {name : String} (nonempty : name ≠ "") :
    escapeReserved name ≠ "" := by
  unfold escapeReserved
  split
  · simp
  · split
    · simp [rawMark]
    · exact nonempty

theorem pascalCase_ne_empty (label : String) : pascalCase label ≠ "" := by
  unfold pascalCase identifierBy
  apply escapeReserved_ne_empty
  apply sanitize_ne_empty
  split
  · simp
  · next visible => simpa using visible

/-- A text without marks has none to take off. -/
theorem dropRawMarks_of_all {text : List Char} (all : ∀ d ∈ text, isIdentifierChar d = true) :
    dropRawMarks text = text := by
  fun_cases dropRawMarks text with
  | case1 rest =>
      have mark : isIdentifierChar '#' = true := all '#' (by simp)
      exact absurd mark (by decide)
  | case2 => rfl

/-- Without its mark, an escaped name is the name, or has an underscore behind it. -/
theorem withoutRawMark_escapeReserved
    {name : String} (all : ∀ d ∈ name.toList, isIdentifierChar d = true) :
    withoutRawMark (escapeReserved name) = name ∨
      withoutRawMark (escapeReserved name) = name ++ "_" := by
  unfold escapeReserved withoutRawMark
  split
  · right
    rw [dropRawMarks_of_all, String.ofList_toList]
    intro d member
    rw [String.toList_append, List.mem_append] at member
    rcases member with inName | isUnderscore
    · exact all d inName
    · rw [List.mem_singleton.mp isUnderscore]
      decide
  · left
    split
    · have marked : (rawMark ++ name).toList = 'r' :: '#' :: name.toList := String.toList_append
      rw [marked, dropRawMarks, dropRawMarks_of_all all, String.ofList_toList]
    · rw [dropRawMarks_of_all all, String.ofList_toList]

theorem isIdentifierChar_of_mem_withoutRawMark
    {name : String} (all : ∀ d ∈ name.toList, isIdentifierChar d = true) {c : Char}
    (member : c ∈ (withoutRawMark (escapeReserved name)).toList) : isIdentifierChar c = true := by
  rcases withoutRawMark_escapeReserved all with same | behind
  · rw [same] at member
    exact all c member
  · rw [behind, String.toList_append, List.mem_append] at member
    rcases member with inName | isUnderscore
    · exact all c inName
    · rw [List.mem_singleton.mp isUnderscore]
      decide

theorem isIdentifierChar_of_mem_module
    {name : String} {c : Char} (member : c ∈ (withoutRawMark (snakeCase name)).toList) :
    isIdentifierChar c = true := by
  unfold snakeCase identifierBy at member
  exact isIdentifierChar_of_mem_withoutRawMark (fun _ => isIdentifierChar_of_mem_sanitize) member

theorem module_ne_empty (name : String) : withoutRawMark (snakeCase name) ≠ "" := by
  unfold snakeCase identifierBy
  dsimp only
  generalize joinSnake (nameWords (sanitize name)) = joined
  have nonempty : String.ofList (if joined.isEmpty then ['_'] else joined) ≠ "" := by
    intro empty
    have noCharacters := congrArg String.toList empty
    rw [String.toList_ofList] at noCharacters
    split at noCharacters
    · cases noCharacters
    · next shown =>
        rw [noCharacters] at shown
        exact shown rfl
  have visible := sanitize_ne_empty nonempty
  rcases withoutRawMark_escapeReserved fun _ => isIdentifierChar_of_mem_sanitize with same | behind
  · rw [same]
    exact visible
  · rw [behind]
    simp

end TypedTables.Naming
