import TypedTables.Proofs.Keyword.Reading

/-!
# Printed keyword cells

A list of tokens can be printed in many ways: the dollar sign, the case of the words and the white
space between the tokens are free.  Reading any of them gives the tokens back.
-/

namespace TypedTables.Keyword

open TypedTables.Text

/-! ## Printing -/

/-- A token whose parts cannot be taken for anything else in a cell. -/
structure Legible (token : Token) : Prop where
  nonempty : token.word ≠ ""
  unopened : '(' ∉ token.word.toList
  visible : token.word.toList.any isBlank = false
  unmarked : token.word.toList.head? ≠ some '$'
  enclosed : ∀ parameter ∈ token.parameter, ')' ∉ parameter.toList ∧ '\n' ∉ parameter.toList

def parameterText : Option String → String
  | none => ""
  | some parameter => "(" ++ parameter ++ ")"

/-- The token can be printed as the text: behind a dollar sign or not, and with its word in any
case. -/
def PrintsAs (token : Token) (text : String) : Prop :=
  ∃ mark spelling, mark ∈ ["", "$"] ∧ lowercase spelling = lowercase token.word ∧
    text = mark ++ spelling ++ parameterText token.parameter

/-- The tokens can be printed as the text of a cell, with white space between each two. -/
inductive Prints : List Token → String → Prop
  | nil : Prints [] ""
  | last {token : Token} {text : String} (printed : PrintsAs token text) : Prints [token] text
  | cons {token next : Token} {rest : List Token} {text gap cell : String}
      (printed : PrintsAs token text) (apart : gap ≠ "") (blank : isBlankText gap = true)
      (others : Prints (next :: rest) cell) :
      Prints (token :: next :: rest) (text ++ gap ++ cell)

/-- A token as it is read: with its word in lower case. -/
def lowered (token : Token) : Token :=
  { token with word := lowercase token.word }

/-! ## Reading what was printed -/

section Spelling

variable {token : Token} {mark spelling : String}

/-- The characters that delimit words have no case, so another spelling has none of them either. -/
theorem isWord_spelling (legible : Legible token)
    (spelled : lowercase spelling = lowercase token.word) : IsWord spelling.toList where
  nonempty := by
    intro empty
    rw [String.toList_eq_nil_iff] at empty
    rw [lowercase_eq_empty_iff.mpr empty] at spelled
    exact legible.nonempty (lowercase_eq_empty_iff.mp spelled.symm)
  wordChars := by
    have carried : ∀ c, isCaseless c = true → c ∈ spelling.toList → c ∈ token.word.toList := by
      intro c caseless member
      rwa [← mem_lowercase_iff caseless, spelled, mem_lowercase_iff caseless] at member
    intro c member
    have unopened : c ≠ '(' := by
      rintro rfl
      exact legible.unopened (carried '(' (by decide +kernel) member)
    have visible : isBlank c = false := by
      rw [Bool.eq_false_iff]
      intro blank
      have inWord := carried c (isCaseless_of_isBlank blank) member
      exact List.any_eq_false.mp legible.visible c inWord blank
    unfold isWordChar
    simp [unopened, visible]

theorem head?_spelling (legible : Legible token)
    (spelled : lowercase spelling = lowercase token.word) : spelling.toList.head? ≠ some '$' := by
  have caseless : isCaseless '$' = true := by decide +kernel
  rw [Ne, ← head?_lowercase_iff caseless, spelled, head?_lowercase_iff caseless]
  exact legible.unmarked

theorem dropDollar_spelling (isWord : IsWord spelling.toList)
    (unmarked : spelling.toList.head? ≠ some '$') (marked : mark ∈ ["", "$"]) :
    dropDollar (mark ++ spelling).toList = spelling.toList := by
  cases shape : spelling.toList with
  | nil => exact absurd shape isWord.nonempty
  | cons c rest =>
      have wordChar : isWordChar c = true := isWord.wordChars c (shape ▸ List.mem_cons_self)
      rw [shape] at unmarked
      have notDollar : c ≠ '$' := fun same => unmarked (congrArg some same)
      simp only [List.mem_cons, List.not_mem_nil, or_false] at marked
      rcases marked with rfl | rfl
      · rw [String.empty_append, shape]
        simp [dropDollar, notDollar]
      · rw [String.toList_append, shape]
        exact if_pos wordChar

theorem isWord_marked (isWord : IsWord spelling.toList) (marked : mark ∈ ["", "$"]) :
    IsWord (mark ++ spelling).toList where
  nonempty := by
    rw [String.toList_append]
    exact List.append_ne_nil_of_right_ne_nil _ isWord.nonempty
  wordChars := by
    have markChars : ∀ c ∈ mark.toList, isWordChar c = true := by
      simp only [List.mem_cons, List.not_mem_nil, or_false] at marked
      rcases marked with rfl | rfl <;> exact List.all_eq_true.mp (by decide)
    rw [String.toList_append]
    exact List.forall_mem_append.mpr ⟨markChars, isWord.wordChars⟩

end Spelling

/-- A printed token is read whatever follows it, if only that does not continue it. -/
theorem tokensIn_printed
    {token : Token} {text : String} (legible : Legible token) (printed : PrintsAs token text)
    {rest : List Char} (ends : EndsWord rest)
    (unopened : (rest.dropWhile isBlank).head? ≠ some '(') :
    tokensIn (text.toList ++ rest) = lowered token :: tokensIn rest := by
  obtain ⟨mark, spelling, marked, spelled, rfl⟩ := printed
  have isSpelling := isWord_spelling legible spelled
  have isWord := isWord_marked isSpelling marked
  have word : leadingWord (mark ++ spelling).toList = lowercase token.word := by
    unfold leadingWord
    rw [dropDollar_spelling isSpelling (head?_spelling legible spelled) marked,
      List.takeWhile_eq_self_iff.mpr isSpelling.wordChars, String.ofList_toList, spelled]
  cases given : token.parameter with
  | none =>
      have read := tokensIn_bare isWord ends unopened
      rw [word] at read
      rw [parameterText, String.append_empty, read, lowered, given]
  | some parameter =>
      obtain ⟨unclosed, oneLine⟩ := legible.enclosed parameter given
      have read := tokensIn_enclosed isWord unclosed oneLine rest
      rw [word, String.ofList_toList] at read
      rw [parameterText, String.toList_append, String.toList_append, String.toList_append,
        lowered, given, ← read]
      simp

/-- A printed token begins with a character that neither separates words nor opens a parameter. -/
theorem exists_of_printsAs {token : Token} {text : String} (legible : Legible token)
    (printed : PrintsAs token text) :
    ∃ first others, text.toList = first :: others ∧ isWordChar first = true := by
  obtain ⟨mark, spelling, marked, spelled, rfl⟩ := printed
  have isWord := isWord_marked (isWord_spelling legible spelled) marked
  obtain ⟨first, others, shape⟩ := List.exists_cons_of_ne_nil isWord.nonempty
  refine ⟨first, others ++ (parameterText token.parameter).toList, ?_, ?_⟩
  · rw [String.toList_append, shape, List.cons_append]
  · exact isWord.wordChars first (shape ▸ List.mem_cons_self)

theorem exists_of_prints {token : Token} {rest : List Token} {cell : String}
    (legible : Legible token) (printed : Prints (token :: rest) cell) :
    ∃ first others, cell.toList = first :: others ∧ isWordChar first = true := by
  cases printed with
  | last printed => exact exists_of_printsAs legible printed
  | @cons _ _ _ text gap later printed =>
      obtain ⟨first, others, shape, wordChar⟩ := exists_of_printsAs legible printed
      refine ⟨first, others ++ gap.toList ++ later.toList, ?_, wordChar⟩
      rw [String.toList_append, String.toList_append, shape, List.cons_append, List.cons_append]

/-- Reading a printed cell gives its tokens. -/
theorem tokens_of_prints {list : List Token} {cell : String}
    (legible : ∀ token ∈ list, Legible token) (printed : Prints list cell) :
    tokens cell = list.map lowered := by
  rw [tokens_eq]
  induction printed with
  | nil => rfl
  | @last token text printed =>
      have ends : EndsWord [] := by simp [EndsWord]
      have read := tokensIn_printed (legible token List.mem_cons_self) printed ends (by simp)
      rwa [List.append_nil] at read
  | @cons token next rest text gap cell printed apart blank others inductionHypothesis =>
      have allBlank : ∀ c ∈ gap.toList, isBlank c = true := List.all_eq_true.mp blank
      have outside : ∀ c ∈ gap.toList, isWordChar c = false :=
        fun c member => isWordChar_of_isBlank (allBlank c member)
      have ends : EndsWord (gap.toList ++ cell.toList) := by
        obtain ⟨c, others, shape⟩ :=
          List.exists_cons_of_ne_nil (mt String.toList_eq_nil_iff.mp apart)
        rw [shape] at outside ⊢
        rintro _ ⟨⟩
        exact outside c List.mem_cons_self
      have unopened : ((gap.toList ++ cell.toList).dropWhile isBlank).head? ≠ some '(' := by
        obtain ⟨first, later, shape, wordChar⟩ := exists_of_prints (legible next (by simp)) others
        have visible : ¬ isBlank first = true := fun isBlank => by
          rw [isWordChar_of_isBlank isBlank] at wordChar
          cases wordChar
        rw [List.dropWhile_append_of_pos allBlank, shape, List.dropWhile_cons_of_neg visible]
        rintro ⟨⟩
        exact absurd wordChar (by decide)
      have restLegible : ∀ other ∈ next :: rest, Legible other :=
        fun other member => legible other (List.mem_cons_of_mem token member)
      rw [String.toList_append, String.toList_append, List.append_assoc,
        tokensIn_printed (legible token List.mem_cons_self) printed ends unopened,
        tokensIn_append outside, inductionHypothesis restLegible]
      rfl

/-- Reading undoes printing, none of the tokens lost, split or merged. -/
theorem tokens_printed {list : List Token} {cell : String}
    (legible : ∀ token ∈ list, Legible token)
    (inLowerCase : ∀ token ∈ list, lowercase token.word = token.word)
    (printed : Prints list cell) : tokens cell = list := by
  have unchanged : ∀ token ∈ list, lowered token = token := by
    intro token member
    rw [lowered, inLowerCase token member]
  rw [tokens_of_prints legible printed, List.map_congr_left unchanged, List.map_id']

/-- Tokens whose words and parameters have parentheses, and one without a parameter. -/
def markedTokens : List Token := [
  ⟨"a)b", none⟩, ⟨"key", none⟩, ⟨"arr_sep", some "; ($"⟩, ⟨"index", some ""⟩]

theorem legible_markedTokens : ∀ token ∈ markedTokens, Legible token := by
  intro token member
  simp only [markedTokens, List.mem_cons, List.not_mem_nil, or_false] at member
  rcases member with rfl | rfl | rfl | rfl <;>
    exact ⟨by decide, by decide, by decide, by decide, by simp⟩

theorem tokens_printed_marked :
    tokens "A)b\n$\u212Aey \u3000$Arr_Sep(; ($)\tindex()" = markedTokens := by
  have printed : Prints markedTokens ("A)b" ++ "\n" ++ ("$\u212Aey" ++ " \u3000" ++
      ("$Arr_Sep(; ($)" ++ "\t" ++ "index()"))) := by
    have word : PrintsAs ⟨"a)b", none⟩ "A)b" :=
      ⟨"", "A)b", by simp, by decide +kernel, rfl⟩
    have key : PrintsAs ⟨"key", none⟩ "$\u212Aey" :=
      ⟨"$", "\u212Aey", by simp, by decide +kernel, rfl⟩
    have separators : PrintsAs ⟨"arr_sep", some "; ($"⟩ "$Arr_Sep(; ($)" :=
      ⟨"$", "Arr_Sep", by simp, by decide +kernel, rfl⟩
    have index : PrintsAs ⟨"index", some ""⟩ "index()" :=
      ⟨"", "index", by simp, rfl, rfl⟩
    exact .cons word (by decide) (by decide) <|
      .cons key (by decide) (by decide) <| .cons separators (by decide) (by decide) (.last index)
  have inLowerCase : ∀ token ∈ markedTokens, lowercase token.word = token.word := by
    decide +kernel
  exact tokens_printed legible_markedTokens inLowerCase printed

end TypedTables.Keyword
