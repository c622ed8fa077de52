import Mathlib.Data.List.TakeWhile
import TypedTables.Text.Segments

/-!
# Splitting what was joined

Joining pieces with a separator and splitting the result gives the pieces back, provided that no
piece has a character of the separator.
-/

namespace TypedTables.Text

/-! ## Splitting -/

section Splitting

variable {first : Char} {rest : List Char}

theorem piecesAt_cons_of_ne
    {c : Char} (different : c ≠ first) (text : List Char) :
    piecesAt first rest (c :: text) = consPiece c (piecesAt first rest text) := by
  rw [piecesAt, if_neg]
  simp [List.isPrefixOf, Ne.symm different]

/-- A piece without the first character of the separator is read up to the separator. -/
theorem piecesAt_append
    {piece : List Char} (absent : first ∉ piece) (text : List Char) :
    piecesAt first rest (piece ++ (first :: rest ++ text)) =
      piece :: piecesAt first rest text := by
  induction piece with
  | nil =>
      have here : (first :: rest).isPrefixOf (first :: (rest ++ text)) = true := by
        rw [List.isPrefixOf_iff_prefix]
        exact List.prefix_append (first :: rest) text
      rw [List.nil_append, List.cons_append, piecesAt, if_pos here, List.drop_left]
  | cons c piece inductionHypothesis =>
      rw [List.mem_cons, not_or] at absent
      rw [List.cons_append, piecesAt_cons_of_ne (Ne.symm absent.1),
        inductionHypothesis absent.2]
      rfl

theorem piecesAt_of_not_mem
    {piece : List Char} (absent : first ∉ piece) :
    piecesAt first rest piece = [piece] := by
  induction piece with
  | nil => rw [piecesAt]
  | cons c piece inductionHypothesis =>
      rw [List.mem_cons, not_or] at absent
      rw [piecesAt_cons_of_ne (Ne.symm absent.1), inductionHypothesis absent.2]
      rfl

theorem piecesAt_intercalate
    {pieces : List (List Char)} (nonempty : pieces ≠ [])
    (absent : ∀ piece ∈ pieces, first ∉ piece) :
    piecesAt first rest ((first :: rest).intercalate pieces) = pieces := by
  induction pieces with
  | nil => exact absurd rfl nonempty
  | cons piece others inductionHypothesis =>
      have absentHere : first ∉ piece := absent piece List.mem_cons_self
      cases others with
      | nil => rw [List.intercalate_singleton, piecesAt_of_not_mem absentHere]
      | cons next later =>
          have absentLater : ∀ other ∈ next :: later, first ∉ other :=
            fun other member => absent other (List.mem_cons_of_mem piece member)
          rw [List.intercalate_cons_cons, List.append_assoc, piecesAt_append absentHere,
            inductionHypothesis (by simp) absentLater]

theorem piecesAt_ne_nil {text : List Char} : piecesAt first rest text ≠ [] := by
  cases text with
  | nil => simp [piecesAt]
  | cons c text =>
      rw [piecesAt]
      split
      · simp
      · cases piecesAt first rest text <;> simp [consPiece]

theorem consPiece_append
    {c : Char} {pieces : List (List Char)} (nonempty : pieces ≠ []) (others : List (List Char)) :
    consPiece c (pieces ++ others) = consPiece c pieces ++ others := by
  cases pieces with
  | nil => exact absurd rfl nonempty
  | cons piece later => rfl

theorem piecesAt_cons_self (text : List Char) :
    piecesAt first [] (first :: text) = [] :: piecesAt first [] text := by
  have empty : first ∉ [] := by simp
  have here : piecesAt first [] ([] ++ ([first] ++ text)) = [] :: piecesAt first [] text :=
    piecesAt_append empty text
  simpa using here

/-- A separator of one character separates texts with any pieces. -/
theorem piecesAt_append_cons (left right : List Char) :
    piecesAt first [] (left ++ first :: right) =
      piecesAt first [] left ++ piecesAt first [] right := by
  induction left with
  | nil =>
      rw [List.nil_append, piecesAt_cons_self]
      simp [piecesAt]
  | cons c left inductionHypothesis =>
      by_cases same : c = first
      · rw [same, List.cons_append, piecesAt_cons_self, piecesAt_cons_self, inductionHypothesis]
        rfl
      · rw [List.cons_append, piecesAt_cons_of_ne same, piecesAt_cons_of_ne same,
          inductionHypothesis, consPiece_append piecesAt_ne_nil]

theorem piecesBy_eq_piecesAt (text : List Char) :
    piecesBy (· == first) text = piecesAt first [] text := by
  induction text with
  | nil => rw [piecesBy, piecesAt]
  | cons c text inductionHypothesis =>
      by_cases same : c = first
      · rw [same, piecesAt_cons_self, piecesBy, if_pos (beq_self_eq_true first),
          inductionHypothesis]
      · rw [piecesAt_cons_of_ne same, piecesBy, if_neg (by simpa using same), inductionHypothesis]

/-- Joining undoes splitting at a separator of one character. -/
theorem intercalate_piecesAt (text : List Char) :
    [first].intercalate (piecesAt first [] text) = text := by
  induction text with
  | nil => simp [piecesAt]
  | cons c text inductionHypothesis =>
      have nonempty : piecesAt first [] text ≠ [] := piecesAt_ne_nil
      obtain ⟨piece, others, shape⟩ := List.exists_cons_of_ne_nil nonempty
      rw [shape] at inductionHypothesis
      by_cases same : c = first
      · rw [same, piecesAt_cons_self, shape, List.intercalate_cons_cons, inductionHypothesis]
        rfl
      · rw [piecesAt_cons_of_ne same, shape]
        cases others with
        | nil => simpa [consPiece] using inductionHypothesis
        | cons next later =>
            rw [List.intercalate_cons_cons] at inductionHypothesis
            rw [consPiece, List.intercalate_cons_cons, List.cons_append, List.cons_append]
            exact congrArg (c :: ·) inductionHypothesis

theorem not_mem_of_mem_piecesAt
    {text piece : List Char} (member : piece ∈ piecesAt first [] text) : first ∉ piece := by
  induction text generalizing piece with
  | nil =>
      rw [piecesAt, List.mem_singleton] at member
      simp [member]
  | cons c text inductionHypothesis =>
      by_cases same : c = first
      · rw [same, piecesAt_cons_self] at member
        rcases List.mem_cons.mp member with empty | later
        · simp [empty]
        · exact inductionHypothesis later
      · have nonempty : piecesAt first [] text ≠ [] := piecesAt_ne_nil
        obtain ⟨head, others, shape⟩ := List.exists_cons_of_ne_nil nonempty
        rw [piecesAt_cons_of_ne same, shape, consPiece] at member
        rw [shape] at inductionHypothesis
        rcases List.mem_cons.mp member with grown | later
        · rw [grown, List.mem_cons, not_or]
          exact ⟨Ne.symm same, inductionHypothesis List.mem_cons_self⟩
        · exact inductionHypothesis (List.mem_cons_of_mem _ later)

/-- What is written behind a text without a separator belongs to the text's last piece. -/
theorem piecesAt_append_of_not_mem
    {ending : List Char} (absent : first ∉ ending) (text : List Char) :
    ∃ initial last, piecesAt first [] (text ++ ending) = initial ++ [last ++ ending] := by
  induction text with
  | nil => exact ⟨[], [], piecesAt_of_not_mem absent⟩
  | cons c text inductionHypothesis =>
      obtain ⟨initial, last, shape⟩ := inductionHypothesis
      by_cases same : c = first
      · exact ⟨[] :: initial, last, by rw [same, List.cons_append, piecesAt_cons_self, shape]; rfl⟩
      · rw [List.cons_append, piecesAt_cons_of_ne same, shape]
        cases initial with
        | nil => exact ⟨[], c :: last, rfl⟩
        | cons piece others => exact ⟨(c :: piece) :: others, last, rfl⟩

end Splitting

/-- Splitting undoes joining. -/
theorem split_intercalate
    {separator : String} {pieces : List String}
    (visible : separator ≠ "") (nonempty : pieces ≠ [])
    (apart : ∀ piece ∈ pieces, ∀ c ∈ separator.toList, c ∉ piece.toList) :
    split separator (separator.intercalate pieces) = pieces := by
  unfold split
  cases shape : separator.toList with
  | nil =>
      have empty : separator = "" := String.toList_eq_nil_iff.mp shape
      exact absurd empty visible
  | cons first rest =>
      have absent : ∀ piece ∈ pieces.map String.toList, first ∉ piece := by
        intro piece member
        obtain ⟨text, textMember, rfl⟩ := List.mem_map.mp member
        exact apart text textMember first (by simp [shape])
      have mapped : pieces.map String.toList ≠ [] := by simpa using nonempty
      simp only [String.toList_intercalate, shape]
      rw [piecesAt_intercalate mapped absent, List.map_map]
      simp [Function.comp_def]

section Character

variable {separator : String} {c : Char}

theorem split_eq_piecesAt (single : separator.toList = [c]) (text : String) :
    split separator text = (piecesAt c [] text.toList).map String.ofList := by
  unfold split
  rw [single]

theorem split_of_not_mem
    (single : separator.toList = [c]) {text : String} (absent : c ∉ text.toList) :
    split separator text = [text] := by
  rw [split_eq_piecesAt single, piecesAt_of_not_mem absent]
  simp

theorem split_append
    (single : separator.toList = [c]) (left right : String) :
    split separator (left ++ separator ++ right) =
      split separator left ++ split separator right := by
  simp only [split_eq_piecesAt single]
  rw [String.toList_append, String.toList_append, single, List.append_assoc,
    List.singleton_append, piecesAt_append_cons, List.map_append]

theorem split_append_of_not_mem
    (single : separator.toList = [c]) {ending : String} (absent : c ∉ ending.toList)
    (text : String) :
    ∃ initial stem, split separator (text ++ ending) = initial ++ [stem ++ ending] := by
  obtain ⟨initial, last, shape⟩ := piecesAt_append_of_not_mem absent text.toList
  refine ⟨initial.map String.ofList, String.ofList last, ?_⟩
  rw [split_eq_piecesAt single, String.toList_append, shape, List.map_append, List.map_singleton,
    String.ofList_append, String.ofList_toList]

theorem intercalate_split
    (single : separator.toList = [c]) (text : String) :
    separator.intercalate (split separator text) = text := by
  apply String.toList_injective
  have plain : String.toList ∘ String.ofList = id := by
    funext piece
    simp
  rw [String.toList_intercalate, split_eq_piecesAt single, single, List.map_map, plain,
    List.map_id, intercalate_piecesAt]

end Character

/-! ## Pieces as parts of a text -/

/-- Every piece of a text is a part of it, and the first one its beginning. -/
theorem piecesAt_parts (first : Char) (rest text : List Char) :
    (∀ piece ∈ (piecesAt first rest text).head?, piece <+: text) ∧
      ∀ piece ∈ piecesAt first rest text, piece <:+: text := by
  fun_induction piecesAt first rest text with
  | case1 => simp
  | case2 c text here inductionHypothesis =>
      have dropped : text.drop rest.length <:+: c :: text :=
        ((List.drop_suffix _ _).trans (List.suffix_cons c text)).isInfix
      constructor
      · simp
      · intro piece member
        rcases List.mem_cons.mp member with empty | later
        · rw [empty]
          exact List.nil_infix
        · exact (inductionHypothesis.2 piece later).trans dropped
  | case3 c text here inductionHypothesis =>
      have nonempty : piecesAt first rest text ≠ [] := piecesAt_ne_nil
      obtain ⟨piece, others, shape⟩ := List.exists_cons_of_ne_nil nonempty
      rw [shape, List.head?_cons] at inductionHypothesis
      obtain ⟨beginning, parts⟩ := inductionHypothesis
      have grown : c :: piece <+: c :: text := (List.prefix_cons_inj c).mpr (beginning piece rfl)
      rw [shape, consPiece]
      constructor
      · rintro _ ⟨⟩
        exact grown
      · intro other member
        rcases List.mem_cons.mp member with same | later
        · rw [same]
          exact grown.isInfix
        · exact (parts other (List.mem_cons_of_mem piece later)).trans
            (List.suffix_cons c text).isInfix

theorem infix_of_mem_split {separator text piece : String} (member : piece ∈ split separator text) :
    piece.toList <:+: text.toList := by
  unfold split at member
  split at member
  · simp only [List.cons_append, List.mem_cons, List.mem_append, List.mem_map, List.not_mem_nil,
      or_false] at member
    rcases member with rfl | ⟨c, inText, rfl⟩ | rfl
    · exact List.nil_infix
    · rw [String.toList_ofList]
      obtain ⟨before, after, parts⟩ := List.append_of_mem inText
      exact ⟨before, after, by simp [parts]⟩
    · exact List.nil_infix
  · obtain ⟨part, inPieces, rfl⟩ := List.mem_map.mp member
    rw [String.toList_ofList]
    exact (piecesAt_parts _ _ _).2 part inPieces
/-! ## Characters of joined pieces -/

/-- The characters of joined pieces are those of the pieces and of the separator. -/
theorem mem_toList_intercalate
    {separator : String} {pieces : List String} {c : Char}
    (member : c ∈ (separator.intercalate pieces).toList) :
    c ∈ separator.toList ∨ ∃ piece ∈ pieces, c ∈ piece.toList := by
  induction pieces with
  | nil => simp at member
  | cons piece others inductionHypothesis =>
      cases others with
      | nil =>
          rw [String.intercalate_singleton] at member
          exact Or.inr ⟨piece, List.mem_cons_self, member⟩
      | cons next later =>
          rw [String.intercalate_cons_cons, String.toList_append, String.toList_append,
            List.mem_append, List.mem_append] at member
          rcases member with (inPiece | inSeparator) | inRest
          · exact Or.inr ⟨piece, List.mem_cons_self, inPiece⟩
          · exact Or.inl inSeparator
          · rcases inductionHypothesis inRest with inSeparator | ⟨other, otherMember, inOther⟩
            · exact Or.inl inSeparator
            · exact Or.inr ⟨other, List.mem_cons_of_mem piece otherMember, inOther⟩

/-- Joined pieces have every character of every piece. -/
theorem mem_toList_intercalate_of_mem
    {separator : String} {pieces : List String} {piece : String} {c : Char}
    (member : piece ∈ pieces) (here : c ∈ piece.toList) :
    c ∈ (separator.intercalate pieces).toList := by
  induction pieces with
  | nil => simp at member
  | cons head others inductionHypothesis =>
      cases others with
      | nil =>
          rw [List.mem_singleton] at member
          rwa [String.intercalate_singleton, ← member]
      | cons next later =>
          rw [String.intercalate_cons_cons, String.toList_append, String.toList_append,
            List.mem_append, List.mem_append]
          rcases List.mem_cons.mp member with atHead | inRest
          · exact Or.inl (Or.inl (atHead ▸ here))
          · exact Or.inr (inductionHypothesis inRest)

/-! ## White space -/

theorem isBlankText_eq_false_iff {text : String} :
    isBlankText text = false ↔ ∃ c ∈ text.toList, isBlank c = false := by
  simp [isBlankText]

/-- A text with a visible character is not empty. -/
theorem ne_empty_of_isBlankText {text : String} (visible : isBlankText text = false) :
    text ≠ "" := by
  rintro rfl
  simp [isBlankText] at visible

theorem trim_of_isBlankText {text : String} (blank : isBlankText text = true) :
    trim text = "" := by
  have nothing : text.toList.dropWhile isBlank = [] :=
    List.dropWhile_eq_nil_iff.mpr (List.all_eq_true.mp blank)
  rw [trim, nothing]
  rfl

theorem dropBlankEnd_append
    {text after : List Char} (visible : ∀ c ∈ text, isBlank c = false)
    (blank : ∀ c ∈ after, isBlank c = true) : dropBlankEnd (text ++ after) = text := by
  induction text with
  | nil =>
      induction after with
      | nil => rfl
      | cons c rest inductionHypothesis =>
          have restBlank := inductionHypothesis fun other member =>
            blank other (List.mem_cons_of_mem c member)
          rw [List.nil_append] at restBlank ⊢
          simp [dropBlankEnd, restBlank, blank c List.mem_cons_self]
  | cons c rest inductionHypothesis =>
      have restKept := inductionHypothesis fun other member =>
        visible other (List.mem_cons_of_mem c member)
      rw [List.cons_append, dropBlankEnd, restKept]
      cases rest with
      | nil => simp [visible c List.mem_cons_self]
      | cons d later => rfl

/-- White space around a text without any is trimmed. -/
theorem trim_padded
    {before text after : List Char} (blankBefore : ∀ c ∈ before, isBlank c = true)
    (visible : ∀ c ∈ text, isBlank c = false) (blankAfter : ∀ c ∈ after, isBlank c = true) :
    trim (String.ofList (before ++ text ++ after)) = String.ofList text := by
  rw [trim, String.toList_ofList, List.append_assoc,
    List.dropWhile_append_of_pos fun c member => blankBefore c member]
  cases text with
  | nil =>
      have nothing : after.dropWhile isBlank = [] := List.dropWhile_eq_nil_iff.mpr blankAfter
      rw [List.nil_append, nothing]
      rfl
  | cons c rest =>
      rw [List.cons_append, List.dropWhile_cons_of_neg (by simp [visible c List.mem_cons_self]),
        ← List.cons_append, dropBlankEnd_append visible blankAfter]

/-- A text without white space has nothing to trim. -/
theorem trim_of_all
    {text : String} (visible : ∀ c ∈ text.toList, isBlank c = false) :
    trim text = text := by
  have nothing : ∀ c ∈ ([] : List Char), isBlank c = true := by simp
  have padded := trim_padded nothing visible nothing
  rwa [List.nil_append, List.append_nil, String.ofList_toList] at padded

theorem dropBlankEnd_prefix (text : List Char) : dropBlankEnd text <+: text := by
  induction text with
  | nil => exact List.prefix_rfl
  | cons c rest inductionHypothesis =>
      unfold dropBlankEnd
      split
      · split
        · exact List.nil_prefix
        · exact List.cons_prefix_cons.mpr ⟨rfl, List.nil_prefix⟩
      · exact List.cons_prefix_cons.mpr ⟨rfl, inductionHypothesis⟩

theorem dropBlankEnd_idem (text : List Char) :
    dropBlankEnd (dropBlankEnd text) = dropBlankEnd text := by
  induction text with
  | nil => rfl
  | cons c rest inductionHypothesis =>
      rw [dropBlankEnd]
      split
      · split
        · rfl
        · next visible => simp [dropBlankEnd, visible]
      · next nonempty =>
          rw [dropBlankEnd, inductionHypothesis]
          split
          · next empty => exact absurd empty nonempty
          · rfl

/-- What is trimmed has nothing more to trim. -/
theorem trim_trim (text : String) : trim (trim text) = trim text := by
  have starts : (dropBlankEnd (text.toList.dropWhile isBlank)).dropWhile isBlank =
      dropBlankEnd (text.toList.dropWhile isBlank) := by
    obtain ⟨rest, parts⟩ := dropBlankEnd_prefix (text.toList.dropWhile isBlank)
    have visible := List.head?_dropWhile_not isBlank text.toList
    rw [← parts] at visible
    cases shape : dropBlankEnd (text.toList.dropWhile isBlank) with
    | nil => rfl
    | cons c others =>
        rw [shape, List.cons_append, List.head?_cons] at visible
        exact List.dropWhile_cons_of_neg (Bool.not_eq_true _ ▸ visible)
  unfold trim
  rw [String.toList_ofList, starts, dropBlankEnd_idem]

end TypedTables.Text
