import Mathlib.Data.List.TakeWhile
import TypedTables.Keyword.Token
import TypedTables.Proofs.Text.Caseless

/-!
# Reading keyword cells

A cell is read word by word: what a word and its parameter take up does not depend on what stands
behind them, and what is between two words is passed over.
-/

namespace TypedTables.Keyword

open TypedTables.Text

/-! ## One word -/

/-- The word that a text starts with. -/
def leadingWord (text : List Char) : String :=
  lowercase (String.ofList ((dropDollar text).takeWhile isWordChar))

/-- What stands behind the word that a text starts with, white space passed over. -/
def behindWord (text : List Char) : List Char :=
  ((dropDollar text).dropWhile isWordChar).dropWhile isBlank

theorem length_behindWord {c : Char} (wordChar : isWordChar c = true) (rest : List Char) :
    (behindWord (c :: rest)).length ≤ rest.length := by
  have dropped : ((dropDollar (c :: rest)).dropWhile isWordChar).length ≤ rest.length := by
    unfold dropDollar
    split
    · next shape =>
        cases shape
        split
        · exact (List.dropWhile_suffix isWordChar).length_le
        · rw [List.dropWhile_cons_of_pos wordChar]
          exact (List.dropWhile_suffix isWordChar).length_le
    · rw [List.dropWhile_cons_of_pos wordChar]
      exact (List.dropWhile_suffix isWordChar).length_le
  exact (List.dropWhile_suffix isBlank).length_le.trans dropped

theorem length_of_readParameter? {text parameter after : List Char}
    (found : readParameter? text = some (parameter, after)) : after.length < text.length := by
  unfold readParameter? at found
  split at found
  · next inner =>
      dsimp only at found
      split at found
      · next rest dropped =>
          cases found
          have shorter := (List.dropWhile_suffix
            (fun c => !(c == ')' || c == '\n')) (l := inner)).length_le
          rw [dropped, List.length_cons] at shorter
          rw [List.length_cons]
          omega
      · cases found
  · cases found

/-! ## The words of a text -/

theorem tokensWithin_succ
    {text rest : List Char} {c : Char} (found : text.dropWhile (!isWordChar ·) = c :: rest)
    (bound : Nat) :
    tokensWithin (bound + 1) text =
      match readParameter? (behindWord (c :: rest)) with
      | some (parameter, after) =>
        ⟨leadingWord (c :: rest), some (String.ofList parameter)⟩ :: tokensWithin bound after
      | none => ⟨leadingWord (c :: rest), none⟩ :: tokensWithin bound (behindWord (c :: rest)) := by
  conv => lhs; unfold tokensWithin
  rw [found]
  rfl

theorem tokensWithin_nil
    {text : List Char} (found : text.dropWhile (!isWordChar ·) = []) (bound : Nat) :
    tokensWithin bound text = [] := by
  cases bound with
  | zero => rfl
  | succ bound =>
      unfold tokensWithin
      rw [found]

theorem isWordChar_of_dropWhile
    {text rest : List Char} {c : Char} (found : text.dropWhile (!isWordChar ·) = c :: rest) :
    isWordChar c = true := by
  have stopped := List.head_dropWhile_not (!isWordChar ·) (l := text) (by rw [found]; simp)
  simpa [found] using stopped

/-- The bound does not matter as long as it is not below the length of the text. -/
theorem tokensWithin_eq {text : List Char} {bound other : Nat} (enough : text.length ≤ bound)
    (otherEnough : text.length ≤ other) : tokensWithin bound text = tokensWithin other text := by
  induction bound generalizing text other with
  | zero =>
      have empty : text = [] := List.length_eq_zero_iff.mp (Nat.le_zero.mp enough)
      rw [empty, tokensWithin_nil rfl, tokensWithin_nil rfl]
  | succ bound inductionHypothesis =>
      cases found : text.dropWhile (!isWordChar ·) with
      | nil => rw [tokensWithin_nil found, tokensWithin_nil found]
      | cons c rest =>
          have shorter := (List.dropWhile_suffix (!isWordChar ·) (l := text)).length_le
          rw [found, List.length_cons] at shorter
          have behind := length_behindWord (isWordChar_of_dropWhile found) rest
          obtain ⟨smaller, rfl⟩ := Nat.exists_eq_succ_of_ne_zero (n := other) (by omega)
          rw [tokensWithin_succ found, tokensWithin_succ found]
          split
          · next read =>
              have after := length_of_readParameter? read
              exact congrArg (_ :: ·) (inductionHypothesis (by omega) (by omega))
          · exact congrArg (_ :: ·) (inductionHypothesis (by omega) (by omega))

/-- The words of a text. -/
def tokensIn (text : List Char) : List Token :=
  tokensWithin text.length text

theorem tokens_eq (text : String) : tokens text = tokensIn text.toList := by
  rw [tokens, tokensIn, String.length_toList]

theorem tokensIn_eq_nil {text : List Char} (found : text.dropWhile (!isWordChar ·) = []) :
    tokensIn text = [] :=
  tokensWithin_nil found text.length

theorem tokensIn_eq
    {text rest : List Char} {c : Char} (found : text.dropWhile (!isWordChar ·) = c :: rest) :
    tokensIn text =
      match readParameter? (behindWord (c :: rest)) with
      | some (parameter, after) =>
        ⟨leadingWord (c :: rest), some (String.ofList parameter)⟩ :: tokensIn after
      | none => ⟨leadingWord (c :: rest), none⟩ :: tokensIn (behindWord (c :: rest)) := by
  have shorter := (List.dropWhile_suffix (!isWordChar ·) (l := text)).length_le
  rw [found, List.length_cons] at shorter
  have behind := length_behindWord (isWordChar_of_dropWhile found) rest
  obtain ⟨bound, length⟩ := Nat.exists_eq_succ_of_ne_zero (n := text.length) (by omega)
  rw [tokensIn, length, tokensWithin_succ found]
  split
  · next read =>
      have after := length_of_readParameter? read
      exact congrArg (_ :: ·) (tokensWithin_eq (by omega) (Nat.le_refl _))
  · exact congrArg (_ :: ·) (tokensWithin_eq (by omega) (Nat.le_refl _))

/-! ## Between words -/

theorem isWordChar_of_isBlank {c : Char} (blank : isBlank c = true) : isWordChar c = false := by
  rw [isWordChar, blank, Bool.not_true, Bool.and_false]

theorem tokensIn_append
    {gap : List Char} (outside : ∀ c ∈ gap, isWordChar c = false) (text : List Char) :
    tokensIn (gap ++ text) = tokensIn text := by
  have same : (gap ++ text).dropWhile (!isWordChar ·) = text.dropWhile (!isWordChar ·) :=
    List.dropWhile_append_of_pos fun c member => by rw [outside c member, Bool.not_false]
  cases found : text.dropWhile (!isWordChar ·) with
  | nil => rw [tokensIn_eq_nil found, tokensIn_eq_nil (same.trans found)]
  | cons c rest => rw [tokensIn_eq found, tokensIn_eq (same.trans found)]

theorem tokensIn_dropWhile (text : List Char) :
    tokensIn (text.dropWhile isBlank) = tokensIn text := by
  have blank : ∀ c ∈ text.takeWhile isBlank, isWordChar c = false :=
    fun c member => isWordChar_of_isBlank (List.mem_takeWhile_imp member)
  rw [← tokensIn_append blank, List.takeWhile_append_dropWhile]

/-! ## A word and its parameter -/

/-- A dollar sign, if there is one, and a word as they stand in a cell. -/
structure IsWord (word : List Char) : Prop where
  nonempty : word ≠ []
  wordChars : ∀ c ∈ word, isWordChar c = true

/-- A text that does not continue a word in front of it. -/
def EndsWord (rest : List Char) : Prop :=
  ∀ c ∈ rest.head?, isWordChar c = false

section Words

variable {word rest : List Char}

theorem dropDollar_append (isWord : IsWord word) (ends : EndsWord rest) :
    dropDollar (word ++ rest) = dropDollar word ++ rest := by
  rcases word with _ | ⟨c, _ | ⟨d, others⟩⟩
  · exact absurd rfl isWord.nonempty
  · cases rest with
    | nil => simp
    | cons e later =>
        have outside : isWordChar e = false := ends e rfl
        by_cases dollar : c = '$'
        · rw [dollar]
          simp [dropDollar, outside]
        · simp [dropDollar, dollar]
  · by_cases dollar : c = '$'
    · rw [dollar]
      simp [dropDollar, isWord.wordChars d (by simp)]
    · simp [dropDollar, dollar]

theorem wordChars_dropDollar (isWord : IsWord word) :
    ∀ c ∈ dropDollar word, isWordChar c = true := by
  unfold dropDollar
  split
  · split
    · exact fun c member => isWord.wordChars c (List.mem_cons_of_mem _ member)
    · exact isWord.wordChars
  · exact isWord.wordChars

theorem takeWhile_of_endsWord (ends : EndsWord rest) : rest.takeWhile isWordChar = [] := by
  cases rest with
  | nil => rfl
  | cons c later => exact List.takeWhile_cons_of_neg (by simp [ends c rfl])

theorem dropWhile_of_endsWord (ends : EndsWord rest) : rest.dropWhile isWordChar = rest := by
  cases rest with
  | nil => rfl
  | cons c later => exact List.dropWhile_cons_of_neg (by simp [ends c rfl])

theorem leadingWord_append (isWord : IsWord word) (ends : EndsWord rest) :
    leadingWord (word ++ rest) = leadingWord word := by
  have all := wordChars_dropDollar isWord
  unfold leadingWord
  rw [dropDollar_append isWord ends, List.takeWhile_append_of_pos all, takeWhile_of_endsWord ends,
    List.append_nil, List.takeWhile_eq_self_iff.mpr all]

theorem behindWord_append (isWord : IsWord word) (ends : EndsWord rest) :
    behindWord (word ++ rest) = rest.dropWhile isBlank := by
  unfold behindWord
  rw [dropDollar_append isWord ends, List.dropWhile_append_of_pos (wordChars_dropDollar isWord),
    dropWhile_of_endsWord ends]

/-- A word is read together with the parameter that follows it, if one does. -/
theorem tokensIn_word (isWord : IsWord word) (ends : EndsWord rest) :
    tokensIn (word ++ rest) =
      match readParameter? (rest.dropWhile isBlank) with
      | some (parameter, after) =>
        ⟨leadingWord word, some (String.ofList parameter)⟩ :: tokensIn after
      | none => ⟨leadingWord word, none⟩ :: tokensIn rest := by
  rw [← tokensIn_dropWhile rest, ← behindWord_append isWord ends, ← leadingWord_append isWord ends]
  cases shape : word with
  | nil => exact absurd shape isWord.nonempty
  | cons c others =>
      have wordChar : isWordChar c = true := isWord.wordChars c (shape ▸ List.mem_cons_self)
      exact tokensIn_eq (List.dropWhile_cons_of_neg (by simp [wordChar]))

theorem tokensIn_bare (isWord : IsWord word) (ends : EndsWord rest)
    (unopened : (rest.dropWhile isBlank).head? ≠ some '(') :
    tokensIn (word ++ rest) = ⟨leadingWord word, none⟩ :: tokensIn rest := by
  have noParameter : readParameter? (rest.dropWhile isBlank) = none := by
    unfold readParameter?
    split
    · next shape =>
        rw [shape] at unopened
        exact absurd rfl unopened
    · rfl
  rw [tokensIn_word isWord ends, noParameter]

theorem endsWord_opening (rest : List Char) : EndsWord ('(' :: rest) := by
  rintro c ⟨⟩
  decide

theorem dropWhile_opening (rest : List Char) : ('(' :: rest).dropWhile isBlank = '(' :: rest :=
  List.dropWhile_cons_of_neg (by decide)

/-- What follows an opening parenthesis is a parameter if it gets to a closing one before a line
feed. -/
theorem readParameter?_opening
    {inner : List Char} {c : Char} (unclosed : ')' ∉ inner) (oneLine : '\n' ∉ inner)
    (stop : c = ')' ∨ c = '\n') (rest : List Char) :
    readParameter? ('(' :: (inner ++ c :: rest)) =
      if c = ')' then some (inner, rest) else none := by
  have inside : ∀ d ∈ inner, (!(d == ')' || d == '\n')) = true := by
    intro d member
    have notClosing : d ≠ ')' := fun same => unclosed (same ▸ member)
    have notFeed : d ≠ '\n' := fun same => oneLine (same ▸ member)
    simp [notClosing, notFeed]
  unfold readParameter?
  simp only [List.dropWhile_append_of_pos inside, List.takeWhile_append_of_pos inside]
  rcases stop with rfl | rfl <;> simp

/-- A parameter on one line is read up to the parenthesis that closes it. -/
theorem tokensIn_enclosed
    (isWord : IsWord word) {parameter : List Char} (unclosed : ')' ∉ parameter)
    (oneLine : '\n' ∉ parameter) (rest : List Char) :
    tokensIn (word ++ '(' :: (parameter ++ ')' :: rest)) =
      ⟨leadingWord word, some (String.ofList parameter)⟩ :: tokensIn rest := by
  have read := readParameter?_opening unclosed oneLine (Or.inl rfl) rest
  rw [tokensIn_word isWord (endsWord_opening _), dropWhile_opening, read, if_pos rfl]

/-- A parameter with a line feed is none, and is read as further words. -/
theorem tokensIn_broken
    (isWord : IsWord word) {parameter : List Char} (unclosed : ')' ∉ parameter)
    (broken : '\n' ∈ parameter) (rest : List Char) :
    tokensIn (word ++ '(' :: (parameter ++ rest)) =
      ⟨leadingWord word, none⟩ :: tokensIn (parameter ++ rest) := by
  obtain ⟨line, later, rfl, oneLine⟩ := List.eq_append_cons_of_mem broken
  have unclosedLine : ')' ∉ line := fun member => unclosed (List.mem_append_left _ member)
  have noParameter := readParameter?_opening unclosedLine oneLine (Or.inr rfl) (later ++ rest)
  have opening : ∀ c ∈ ['('], isWordChar c = false := List.forall_mem_singleton.mpr (by decide)
  rw [if_neg (by decide)] at noParameter
  rw [tokensIn_word isWord (endsWord_opening _), dropWhile_opening, List.append_assoc,
    List.cons_append, noParameter, ← tokensIn_append opening (line ++ '\n' :: (later ++ rest))]
  rfl

end Words

end TypedTables.Keyword
