import TypedTables.Proofs.Naming.Identifiers
import TypedTables.Proofs.Text.Pieces

/-!
# Legal identifiers

A name may stand in the generated code as an identifier if it is a word of ASCII letters, digits
and underscores that the language does not keep for itself, or such a keyword behind a raw mark.
Both styles of casing make a legal identifier of a name exactly if it has an ASCII letter or digit:
of any other name nothing is left but an underscore, which is no identifier.
-/

namespace TypedTables.Naming

open TypedTables.Text

/-! ## The language -/

/-- Keywords of the language in every edition. -/
def strictKeywords : List String := [
  "as", "break", "const", "continue", "crate", "else", "enum", "extern", "false", "fn", "for", "if",
  "impl", "in", "let", "loop", "match", "mod", "move", "mut", "pub", "ref", "return", "self",
  "Self", "static", "struct", "super", "trait", "true", "type", "unsafe", "use", "where", "while"]

/-- Keywords that an edition has added. -/
def laterKeywords : List String := ["async", "await", "dyn"]

/-- Words that are kept for later use. -/
def keptKeywords : List String := [
  "abstract", "become", "box", "do", "final", "macro", "override", "priv", "typeof", "unsized",
  "virtual", "yield", "try", "gen"]

def keywords : List String :=
  strictKeywords ++ laterKeywords ++ keptKeywords

/-- Keywords that name places of a path, and that no raw mark makes identifiers of. -/
def pathKeywords : List String := ["crate", "self", "super", "Self"]

/-- A word of ASCII letters, digits and underscores that no digit begins.  The underscore by itself
is a pattern and no name. -/
structure IsWord (text : String) : Prop where
  shape : ∃ first rest, text.toList = first :: rest ∧ (first.isAlpha = true ∨ first = '_') ∧
    ∀ c ∈ rest, c.isAlphanum = true ∨ c = '_'
  named : text ≠ "_"

/-- A word that is no keyword, or a word behind a raw mark that may have one. -/
def IsLegal (text : String) : Prop :=
  IsWord text ∧ text ∉ keywords ∨
    ∃ word, text = "r#" ++ word ∧ IsWord word ∧ word ∉ pathKeywords

def HasLetterOrDigit (name : String) : Prop :=
  ∃ c ∈ name.toList, c.isAlphanum = true

theorem reservedWords_perm : reservedWords.Perm keywords := by
  decide

theorem mem_reservedWords {text : String} : text ∈ reservedWords ↔ text ∈ keywords :=
  reservedWords_perm.mem_iff

theorem mem_neverRaw {text : String} : text ∈ neverRaw ↔ text ∈ pathKeywords := by
  have same : neverRaw.Perm pathKeywords := by decide
  exact same.mem_iff

/-! ## Words -/

theorem isAsciiLetter_iff {c : Char} : isAsciiLetter c = true ↔ c.isAlpha = true := by
  delta Char.isAlpha Char.isUpper Char.isLower
  simp only [isAsciiLetter, Char.le_def, Bool.or_eq_true, Bool.and_eq_true, decide_eq_true_eq,
    ge_iff_le]
  exact or_comm

theorem isIdentifierStart_iff {c : Char} :
    isIdentifierStart c = true ↔ c.isAlpha = true ∨ c = '_' := by
  rw [isIdentifierStart, Bool.or_eq_true, isAsciiLetter_iff, beq_iff_eq]

theorem isIdentifierChar_iff {c : Char} :
    isIdentifierChar c = true ↔ c.isAlphanum = true ∨ c = '_' := by
  have digit : isAsciiDigit c = true ↔ c.isDigit = true := by
    delta Char.isDigit
    simp only [isAsciiDigit, Char.le_def, Bool.and_eq_true, decide_eq_true_eq, ge_iff_le]
  rw [isIdentifierChar, Bool.or_eq_true, Bool.or_eq_true, isAsciiLetter_iff, digit, beq_iff_eq,
    ← Bool.or_eq_true]
  rfl

theorem isWord_iff {text : String} : IsWord text ↔ isIdentifier text = true ∧ text ≠ "_" := by
  have shape : isIdentifier text = true ↔ ∃ first rest, text.toList = first :: rest ∧
      (first.isAlpha = true ∨ first = '_') ∧ ∀ c ∈ rest, c.isAlphanum = true ∨ c = '_' := by
    unfold isIdentifier
    cases text.toList with
    | nil => simp
    | cons first rest =>
        have begins : isIdentifierStart first = true → isIdentifierChar first = true := by
          simp only [isIdentifierStart, isIdentifierChar, Bool.or_eq_true]
          exact Or.imp_left Or.inl
        simp only [Bool.and_eq_true, List.all_eq_true, List.forall_mem_cons, List.cons.injEq]
        constructor
        · rintro ⟨start, _, others⟩
          exact ⟨first, rest, ⟨rfl, rfl⟩, isIdentifierStart_iff.mp start,
            fun c member => isIdentifierChar_iff.mp (others c member)⟩
        · rintro ⟨_, _, ⟨rfl, rfl⟩, start, others⟩
          have starts := isIdentifierStart_iff.mpr start
          exact ⟨starts, begins starts, fun c member => isIdentifierChar_iff.mpr (others c member)⟩
  constructor
  · intro word
    exact ⟨shape.mpr word.shape, word.named⟩
  · rintro ⟨word, named⟩
    exact ⟨shape.mp word, named⟩

/-- An identifier that is used as it is. -/
theorem isLegal_iff_of_isIdentifier {text : String} (identifier : isIdentifier text = true) :
    IsLegal text ↔ text ∉ keywords ∧ text ≠ "_" := by
  constructor
  · rintro (⟨word, free⟩ | ⟨word, rfl, -, -⟩)
    · exact ⟨free, word.named⟩
    · have mark : isIdentifierChar '#' = true :=
        isIdentifierChar_of_mem identifier (by simp)
      exact absurd mark (by decide)
  · intro ⟨free, named⟩
    exact Or.inl ⟨isWord_iff.mpr ⟨identifier, named⟩, free⟩

/-- No keyword begins as the names of look-ups do. -/
theorem isLegal_lookUp {rest : String} (all : ∀ c ∈ rest.toList, isIdentifierChar c = true) :
    IsLegal ("index_by_" ++ rest) := by
  have shape : ("index_by_" ++ rest).toList =
      'i' :: ("ndex_by_".toList ++ rest.toList) := String.toList_append
  have begins : "index_by_".toList <+: ("index_by_" ++ rest).toList := by
    rw [String.toList_append]
    exact List.prefix_append _ _
  have identifier : isIdentifier ("index_by_" ++ rest) = true := by
    unfold isIdentifier
    rw [shape]
    have front : ('i' :: "ndex_by_".toList).all isIdentifierChar = true := by decide
    dsimp only
    rw [← List.cons_append, List.all_append, front, List.all_eq_true.mpr all]
    rfl
  have others : ∀ word ∈ "_" :: keywords, ¬ "index_by_".toList <+: word.toList := by
    decide
  rw [isLegal_iff_of_isIdentifier identifier]
  constructor
  · intro isKeyword
    exact others _ (List.mem_cons_of_mem _ isKeyword) begins
  · intro underscore
    exact others _ List.mem_cons_self (underscore ▸ begins)

/-- Escaping makes an identifier legal, but for the underscore. -/
theorem isLegal_escapeReserved_iff {text : String} (identifier : isIdentifier text = true) :
    IsLegal (escapeReserved text) ↔ text ≠ "_" := by
  unfold escapeReserved
  split
  · next isPath =>
      have member : text ∈ neverRaw := by simpa using isPath
      have escaped : ∀ word ∈ neverRaw, isIdentifier (word ++ "_") = true ∧
          word ++ "_" ∉ keywords ∧ word ++ "_" ≠ "_" ∧ word ≠ "_" := by decide
      obtain ⟨isIdentifier, free, named, other⟩ := escaped text member
      rw [isLegal_iff_of_isIdentifier isIdentifier]
      exact iff_of_true ⟨free, named⟩ other
  · next notPath =>
      have outside : text ∉ pathKeywords := by
        rw [← mem_neverRaw]
        simpa using notPath
      split
      · next isKeyword =>
          have named : text ≠ "_" := by
            rintro rfl
            exact absurd isKeyword (by decide)
          refine iff_of_true (Or.inr ⟨text, rfl, ?_, outside⟩) named
          exact isWord_iff.mpr ⟨identifier, named⟩
      · next notKeyword =>
          have free : text ∉ keywords := by
            rw [← mem_reservedWords]
            simpa using notKeyword
          rw [isLegal_iff_of_isIdentifier identifier]
          exact and_iff_right free

/-! ## Letters and digits -/

theorem mem_guardDigit {c : Char} {text : List Char} (other : c ≠ '_') :
    c ∈ guardDigit text ↔ c ∈ text := by
  cases text with
  | nil => rfl
  | cons first rest =>
      rw [guardDigit]
      split
      · exact List.mem_cons.trans (or_iff_right other)
      · rfl

theorem ne_underscore {c : Char} (letterOrDigit : c.isAlphanum = true) : c ≠ '_' := by
  rintro rfl
  cases letterOrDigit

/-- Sanitizing keeps the letters and digits of a name, and brings in none. -/
theorem mem_sanitize {c : Char} {name : String} (letterOrDigit : c.isAlphanum = true) :
    c ∈ (sanitize name).toList ↔ c ∈ name.toList := by
  have other := ne_underscore letterOrDigit
  rw [sanitize, String.toList_ofList, mem_guardDigit other, List.mem_map]
  constructor
  · rintro ⟨d, member, same⟩
    split at same
    · exact same ▸ member
    · exact absurd same.symm other
  · intro member
    exact ⟨c, member, if_pos (isIdentifierChar_iff.mpr (Or.inl letterOrDigit))⟩

theorem flatten_consPiece (c : Char) (pieces : List (List Char)) :
    (consPiece c pieces).flatten = c :: pieces.flatten := by
  cases pieces <;> rfl

/-- Cutting a name into pieces takes nothing away but the underscores. -/
theorem flatten_piecesAfter (previous : Option Char) (text : List Char) :
    (piecesAfter previous text).flatten = text.filter (· != '_') := by
  fun_induction piecesAfter previous text with
  | case1 previous => rfl
  | case2 previous c rest underscore inductionHypothesis =>
      rw [List.flatten_cons, inductionHypothesis, List.filter_cons_of_neg (by simpa using underscore)]
      rfl
  | case3 previous c rest other isStart pieces start inductionHypothesis =>
      rw [List.flatten_cons, flatten_consPiece, inductionHypothesis,
        List.filter_cons_of_pos (by simpa using other)]
      rfl
  | case4 previous c rest other isStart pieces inside inductionHypothesis =>
      rw [flatten_consPiece, inductionHypothesis, List.filter_cons_of_pos (by simpa using other)]

theorem flatten_nameWords (name : String) :
    (nameWords name).flatten = name.toList.filter (· != '_') := by
  rw [nameWords, List.flatten_filter_not_isEmpty, flatten_piecesAfter]

/-- A word of a name: not empty, and without other characters than letters and digits. -/
def IsPart (word : List Char) : Prop :=
  word ≠ [] ∧ ∀ c ∈ word, c.isAlphanum = true

theorem isPart_of_mem_nameWords {name : String} {word : List Char}
    (member : word ∈ nameWords (sanitize name)) : IsPart word := by
  constructor
  · rintro rfl
    simp [nameWords] at member
  · intro c inWord
    have inName : c ∈ (nameWords (sanitize name)).flatten :=
      List.mem_flatten.mpr ⟨word, member, inWord⟩
    rw [flatten_nameWords, List.mem_filter] at inName
    have allowed := isIdentifierChar_iff.mp (isIdentifierChar_of_mem_sanitize inName.1)
    exact allowed.resolve_right (by simpa using inName.2)

theorem nameWords_eq_nil_iff {name : String} :
    nameWords (sanitize name) = [] ↔ ¬ HasLetterOrDigit name := by
  constructor
  · rintro none ⟨c, member, letterOrDigit⟩
    have kept := flatten_nameWords (sanitize name)
    rw [none, List.flatten_nil, eq_comm, List.filter_eq_nil_iff] at kept
    have underscore := kept c ((mem_sanitize letterOrDigit).mpr member)
    exact ne_underscore letterOrDigit (by simpa using underscore)
  · intro bare
    by_contra some
    obtain ⟨word, rest, shape⟩ := List.exists_cons_of_ne_nil some
    have part : word ∈ nameWords (sanitize name) := by simp [shape]
    obtain ⟨nonempty, letters⟩ := isPart_of_mem_nameWords part
    obtain ⟨c, member⟩ := List.exists_mem_of_ne_nil word nonempty
    have inName : c ∈ (nameWords (sanitize name)).flatten :=
      List.mem_flatten.mpr ⟨word, part, member⟩
    rw [flatten_nameWords, List.mem_filter] at inName
    exact bare ⟨c, (mem_sanitize (letters c member)).mp inName.1, letters c member⟩

/-! ## Styles of casing -/

/-- A style of joining words that leaves a letter or digit of any word. -/
structure Joins (join : List (List Char) → List Char) : Prop where
  empty : join [] = []
  visible : ∀ word words, IsPart word → ∃ c ∈ join (word :: words), c.isAlphanum = true

theorem isAlphanum_of_case {c : Char} (letterOrDigit : c.isAlphanum = true) :
    c.toLower.isAlphanum = true ∧ c.toUpper.isAlphanum = true := by
  have all : ∀ code < 0x80, (Char.ofNat code).isAlphanum = true →
      (Char.ofNat code).toLower.isAlphanum = true ∧
        (Char.ofNat code).toUpper.isAlphanum = true := by
    decide
  have ascii := ascii_of_isIdentifierChar (isIdentifierChar_iff.mpr (Or.inl letterOrDigit))
  have here := all c.toNat ascii
  rw [Char.ofNat_toNat] at here
  exact here letterOrDigit

theorem joins_snake : Joins joinSnake where
  empty := rfl
  visible word words part := by
    obtain ⟨c, rest, rfl⟩ := List.exists_cons_of_ne_nil part.1
    refine ⟨c.toLower, ?_, (isAlphanum_of_case (part.2 c List.mem_cons_self)).1⟩
    cases words <;> simp [joinSnake, List.intercalate]

theorem joins_pascal : Joins joinPascal where
  empty := rfl
  visible word words part := by
    obtain ⟨c, rest, rfl⟩ := List.exists_cons_of_ne_nil part.1
    refine ⟨c.toUpper, ?_, (isAlphanum_of_case (part.2 c List.mem_cons_self)).2⟩
    simp [joinPascal, capitalize]

/-- A style of casing makes a legal identifier of a name exactly if it has a letter or digit. -/
theorem isLegal_identifierBy_iff {join : List (List Char) → List Char} (joins : Joins join)
    (name : String) : IsLegal (identifierBy join name) ↔ HasLetterOrDigit name := by
  rw [← not_iff_not, ← nameWords_eq_nil_iff]
  unfold identifierBy
  dsimp only
  cases words : nameWords (sanitize name) with
  | nil =>
      have bare : sanitize (String.ofList ['_']) = "_" := by decide
      rw [joins.empty, List.isEmpty_nil, if_pos rfl, bare, isLegal_escapeReserved_iff (by decide)]
      simp
  | cons word rest =>
      have isWord : word ∈ nameWords (sanitize name) := by simp [words]
      have part := isPart_of_mem_nameWords isWord
      obtain ⟨c, member, letterOrDigit⟩ := joins.visible word rest part
      have nonempty : join (word :: rest) ≠ [] := List.ne_nil_of_mem member
      rw [if_neg (by simpa using nonempty)]
      have present : c ∈ (sanitize (String.ofList (join (word :: rest)))).toList := by
        rw [mem_sanitize letterOrDigit, String.toList_ofList]
        exact member
      have unlike : ∀ text : String, c ∉ text.toList →
          sanitize (String.ofList (join (word :: rest))) ≠ text := by
        rintro text absent same
        exact absent (same ▸ present)
      have other := ne_underscore letterOrDigit
      rw [isLegal_escapeReserved_iff (isIdentifier_sanitize (unlike "" (by simp)))]
      simpa using unlike "_" (by simpa using other)

theorem isLegal_snakeCase_iff (name : String) :
    IsLegal (snakeCase name) ↔ HasLetterOrDigit name :=
  isLegal_identifierBy_iff joins_snake name

theorem isLegal_pascalCase_iff (name : String) :
    IsLegal (pascalCase name) ↔ HasLetterOrDigit name :=
  isLegal_identifierBy_iff joins_pascal name

end TypedTables.Naming
