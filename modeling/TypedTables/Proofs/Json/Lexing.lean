import TypedTables.Json.Printer
import TypedTables.Json.Token
import TypedTables.Proofs.Number.Integer

/-!
# Tokens of written JSON

The pretty form of a document is cut into the tokens of the document.  An integer ends where a
character stands that does not go on with a number; every other token ends by itself.
-/

namespace TypedTables.Json

open TypedTables.Text TypedTables.Number

/-! ## Cutting -/

/-- Behind a text that is followed in a certain way, cutting goes on with the text's tokens cut
off. -/
def Cuts (followed : List Char → Prop) (text : List Char) (tokens : List Token) : Prop :=
  ∀ bound rest after, followed rest → tokensWithin bound rest = some after →
    tokensWithin (text.length + bound) (text ++ rest) = some (tokens ++ after)

/-- The text does not go on with a number. -/
def EndsNumber (text : List Char) : Prop :=
  ∀ c rest, text = c :: rest → isAsciiDigit c = false ∧ c ≠ '.' ∧ c ≠ 'e' ∧ c ≠ 'E'

/-- Anything may follow. -/
def Anything (_ : List Char) : Prop := True

theorem tokensWithin_blank
    {text : List Char} (blank : text.dropWhile isSpace = []) (bound : Nat) :
    tokensWithin bound text = some [] := by
  unfold tokensWithin
  rw [blank]

theorem tokensWithin_zero
    {text : List Char} (visible : text.dropWhile isSpace ≠ []) : tokensWithin 0 text = none := by
  unfold tokensWithin
  split
  · next blank => exact absurd blank visible
  · rfl

theorem tokensWithin_succ
    {text : List Char} (visible : text.dropWhile isSpace ≠ []) (bound : Nat) :
    tokensWithin (bound + 1) text =
      (readToken? (text.dropWhile isSpace)).bind fun read =>
        (tokensWithin bound read.2).map (read.1 :: ·) := by
  rw [tokensWithin.eq_def]
  split
  · next blank => exact absurd blank visible
  · cases readToken? (text.dropWhile isSpace) with
    | none => rfl
    | some read =>
        dsimp only [Option.bind_eq_bind, Option.bind_some]
        cases tokensWithin bound read.2 <;> rfl

/-- A larger bound cuts at least as far. -/
theorem tokensWithin_grow
    {bound : Nat} {text : List Char} {tokens : List Token} (more : Nat)
    (cut : tokensWithin bound text = some tokens) :
    tokensWithin (more + bound) text = some tokens := by
  induction bound generalizing text tokens with
  | zero =>
      by_cases blank : text.dropWhile isSpace = []
      · rw [tokensWithin_blank blank] at cut ⊢
        exact cut
      · rw [tokensWithin_zero blank] at cut
        cases cut
  | succ bound inductionHypothesis =>
      by_cases blank : text.dropWhile isSpace = []
      · rw [tokensWithin_blank blank] at cut ⊢
        exact cut
      · rw [tokensWithin_succ blank, Option.bind_eq_some_iff] at cut
        obtain ⟨read, found, cutRest⟩ := cut
        obtain ⟨tail, cutTail, same⟩ := Option.map_eq_some_iff.mp cutRest
        rw [← Nat.add_assoc, tokensWithin_succ blank, found, Option.bind_some,
          inductionHypothesis cutTail, Option.map_some, same]

theorem tokensWithin_space
    {c : Char} (space : isSpace c = true) (bound : Nat) (rest : List Char) :
    tokensWithin bound (c :: rest) = tokensWithin bound rest := by
  unfold tokensWithin
  rw [List.dropWhile_cons_of_pos space]

namespace Cuts

theorem weaken
    {strong weak : List Char → Prop} {text : List Char} {tokens : List Token}
    (cuts : Cuts weak text tokens) (implies : ∀ rest, strong rest → weak rest) :
    Cuts strong text tokens :=
  fun bound rest after follows => cuts bound rest after (implies rest follows)

theorem append
    {first second : List Char → Prop} {left right : List Char}
    {leftTokens rightTokens : List Token}
    (leftCuts : Cuts first left leftTokens) (rightCuts : Cuts second right rightTokens)
    (follows : ∀ rest, second rest → first (right ++ rest)) :
    Cuts second (left ++ right) (leftTokens ++ rightTokens) := by
  intro bound rest after behind cut
  have cutRight := rightCuts bound rest after behind cut
  have cutLeft := leftCuts _ _ _ (follows rest behind) cutRight
  rw [List.length_append, List.append_assoc, List.append_assoc, Nat.add_assoc]
  exact cutLeft

theorem space
    {followed : List Char → Prop} {text : List Char} (spaces : ∀ c ∈ text, isSpace c = true) :
    Cuts followed text [] := by
  intro bound rest after _ cut
  have grown := tokensWithin_grow text.length cut
  generalize text.length + bound = enough at grown
  induction text with
  | nil => exact grown
  | cons c text inductionHypothesis =>
      rw [List.cons_append, tokensWithin_space (spaces c List.mem_cons_self)]
      exact inductionHypothesis fun other member => spaces other (List.mem_cons_of_mem c member)

theorem token
    {followed : List Char → Prop} {c : Char} {text : List Char} {token : Token}
    (visible : isSpace c = false)
    (read : ∀ rest, followed rest → readToken? (c :: text ++ rest) = some (token, rest)) :
    Cuts followed (c :: text) [token] := by
  intro bound rest after follows cut
  have grown := tokensWithin_grow text.length cut
  have kept : (c :: text ++ rest).dropWhile isSpace = c :: text ++ rest := by
    rw [List.cons_append, List.dropWhile_cons_of_neg (by simp [visible])]
  have shown : (c :: text ++ rest).dropWhile isSpace ≠ [] := by
    rw [kept]
    exact List.cons_ne_nil _ _
  have enough : (c :: text).length + bound = (text.length + bound) + 1 := by
    rw [List.length_cons]
    omega
  rw [enough, tokensWithin_succ shown, kept, read rest follows, Option.bind_some, grown]
  rfl

end Cuts

/-! ## Texts -/

/-- The escape of a control character is one of four hexadecimal digits. -/
theorem hexPadded_control :
    ∀ code < 0x20, (hexPadded 4 code).length = 4 ∧ hexNumber? (hexPadded 4 code) = some code := by
  decide

/-- The text starts with a mark of four digits. -/
def StartsMark (text : List Char) : Prop :=
  ∃ e f g h rest, text = '\\' :: 'u' :: e :: f :: g :: h :: rest

section Marks

variable {a b c d e f g h : Char} {rest : List Char} {code : Nat}

theorem readText_mark
    (alone : ¬ StartsMark rest) (number : hexNumber? [a, b, c, d] = some code)
    (single : code < 0xD800) :
    readText ('\\' :: 'u' :: a :: b :: c :: d :: rest) =
      (readText rest).map fun (chars, after) => (Char.ofNat code :: chars, after) := by
  have bounded : ¬ 0xD800 ≤ code := by omega
  rw [readText]
  · simp [number, bounded]
  · intro e f g h tail same
    exact alone ⟨e, f, g, h, tail, same⟩

theorem readText_marks
    (number : hexNumber? [a, b, c, d] = some code) (single : code < 0xD800)
    (second : (hexNumber? [e, f, g, h]).isSome) :
    readText ('\\' :: 'u' :: a :: b :: c :: d :: '\\' :: 'u' :: e :: f :: g :: h :: rest) =
      (readText ('\\' :: 'u' :: e :: f :: g :: h :: rest)).map fun (chars, after) =>
        (Char.ofNat code :: chars, after) := by
  have bounded : ¬ 0xD800 ≤ code := by omega
  obtain ⟨other, given⟩ := Option.isSome_iff_exists.mp second
  rw [readText]
  simp [number, given, surrogatePair?, bounded]

/-- A mark that can be read has four hexadecimal digits. -/
theorem isSome_of_readText
    {found : List Char × List Char}
    (read : readText ('\\' :: 'u' :: e :: f :: g :: h :: rest) = some found) :
    (hexNumber? [e, f, g, h]).isSome := by
  cases given : hexNumber? [e, f, g, h] with
  | some number => rfl
  | none =>
      by_cases mark : StartsMark rest
      · obtain ⟨_, _, _, _, _, rfl⟩ := mark
        rw [readText] at read
        simp [given] at read
      · rw [readText] at read
        · simp [given] at read
        · intro e f g h tail same
          exact mark ⟨e, f, g, h, tail, same⟩

end Marks

/-- The mark of a control character reads as that character, also in front of another mark: no
control character is half of a pair. -/
theorem readText_control
    {code : Nat} (control : code < 0x20) {rest chars after : List Char}
    (read : readText rest = some (chars, after)) :
    readText ('\\' :: 'u' :: hexPadded 4 code ++ rest) =
      some (Char.ofNat code :: chars, after) := by
  obtain ⟨width, number⟩ := hexPadded_control code control
  obtain ⟨a, b, c, d, digits⟩ : ∃ a b c d, hexPadded 4 code = [a, b, c, d] := by
    match hexPadded 4 code, width with
    | [a, b, c, d], _ => exact ⟨a, b, c, d, rfl⟩
  rw [digits] at number ⊢
  have single : code < 0xD800 := by omega
  by_cases mark : StartsMark rest
  · obtain ⟨e, f, g, h, tail, rfl⟩ := mark
    have second := isSome_of_readText read
    simp only [List.cons_append, List.nil_append]
    rw [readText_marks number single second, read, Option.map_some]
  · simp only [List.cons_append, List.nil_append]
    rw [readText_mark mark number single, read, Option.map_some]

/-- A character stands for itself, or behind a backslash by a letter or by its number. -/
theorem escape_cases (c : Char) :
    (∃ letter, letter ≠ 'u' ∧ escaped? letter = some c ∧ escape c = ['\\', letter]) ∨
      (c.toNat < 0x20 ∧ escape c = '\\' :: 'u' :: hexPadded 4 c.toNat) ∨
      (c ≠ '"' ∧ c ≠ '\\' ∧ 0x20 ≤ c.toNat ∧ escape c = [c]) := by
  by_cases lettered : c ∈ ['"', '\\', '\x08', '\x0c', '\n', '\r', '\t']
  · left
    simp only [List.mem_cons, List.not_mem_nil, or_false] at lettered
    rcases lettered with rfl | rfl | rfl | rfl | rfl | rfl | rfl
    all_goals exact ⟨_, by decide, by decide, rfl⟩
  · right
    simp only [List.mem_cons, List.not_mem_nil, or_false, not_or] at lettered
    obtain ⟨quote, backslash, _⟩ := lettered
    by_cases control : c.toNat < 0x20
    · left
      simp [escape, *]
    · right
      refine ⟨quote, backslash, by omega, ?_⟩
      simp [escape, *]

/-- An escaped character reads as the character. -/
theorem readText_escape
    {c : Char} {rest chars after : List Char} (read : readText rest = some (chars, after)) :
    readText (escape c ++ rest) = some (c :: chars, after) := by
  rcases escape_cases c with ⟨letter, other, stands, shape⟩ | ⟨control, shape⟩ |
    ⟨quote, backslash, visible, shape⟩
  · rw [shape, List.cons_append, List.cons_append, List.nil_append, readText]
    · simp [stands, read]
    · intro _ _ _ _ _ _ _ _ _ same
      exact absurd same other
    · intro _ _ _ _ _ same
      exact absurd same other
  · rw [shape, readText_control control read, Char.ofNat_toNat]
  · rw [shape, List.cons_append, List.nil_append, readText]
    · simp [visible, backslash, read]
    · intro same
      exact absurd same quote
    all_goals
      intros
      exact absurd ‹c = _› backslash

theorem readText_quote (chars rest : List Char) :
    readText (chars.flatMap escape ++ '"' :: rest) = some (chars, rest) := by
  induction chars with
  | nil =>
      unfold readText
      rfl
  | cons c chars inductionHypothesis =>
      rw [List.flatMap_cons, List.append_assoc]
      exact readText_escape inductionHypothesis

theorem toList_quote (text : String) :
    (quote text).toList = '"' :: (text.toList.flatMap escape ++ ['"']) := by
  simp [quote]

/-- A quoted text is read as the text. -/
theorem readToken?_quote (text : String) (rest : List Char) :
    readToken? ((quote text).toList ++ rest) = some (.text text, rest) := by
  have read := readText_quote text.toList rest
  rw [toList_quote]
  unfold readToken?
  simp [read]

theorem cuts_quote (text : String) : Cuts Anything (quote text).toList [.text text] := by
  have read := readToken?_quote text
  rw [toList_quote] at read ⊢
  exact Cuts.token rfl fun rest _ => read rest

/-! ## Numbers and words -/

/-- Only zero is written with a leading zero. -/
theorem eq_zero_of_head_toDigits
    {number : Nat} (leading : (Nat.toDigits 10 number).head? = some '0') : number = 0 := by
  induction number using Nat.strongRecOn with
  | ind number inductionHypothesis =>
      by_cases small : number < 10
      · rw [Nat.toDigits_of_lt_base small] at leading
        simpa using leading
      · have large : 10 ≤ number := Nat.le_of_not_lt small
        have digits : Nat.toDigits 10 (number / 10) ≠ [] := Nat.toDigits_ne_nil
        rw [Nat.toDigits_of_base_le (by decide) large] at leading
        obtain ⟨c, rest, shape⟩ := List.exists_cons_of_ne_nil digits
        have zero : number / 10 = 0 := by
          apply inductionHypothesis (number / 10) (by omega)
          rw [shape] at leading ⊢
          exact leading
        omega

theorem spanDigits_toDigits
    (number : Nat) {rest : List Char} (ends : EndsNumber rest) :
    Decimal.spanDigits (Nat.toDigits 10 number ++ rest) = (Nat.toDigits 10 number, rest) := by
  have digits : ∀ c ∈ Nat.toDigits 10 number, isAsciiDigit c = true :=
    fun c member => isAsciiDigit_of_mem_toDigits member
  unfold Decimal.spanDigits
  rw [List.takeWhile_append_of_pos digits, List.dropWhile_append_of_pos digits]
  cases rest with
  | nil => simp
  | cons c rest =>
      have other := (ends c rest rfl).1
      rw [List.takeWhile_cons_of_neg (by simp [other]),
        List.dropWhile_cons_of_neg (by simp [other]), List.append_nil]

theorem readWhole?_toDigits
    (number : Nat) {rest : List Char} (ends : EndsNumber rest) :
    readWhole? (Nat.toDigits 10 number ++ rest) = some (Nat.toDigits 10 number, rest) := by
  have span := spanDigits_toDigits number ends
  cases shape : Nat.toDigits 10 number with
  | nil => exact absurd shape Nat.toDigits_ne_nil
  | cons c digits =>
      by_cases zero : c = '0'
      · subst zero
        have isZero : number = 0 := eq_zero_of_head_toDigits (by rw [shape]; rfl)
        subst isZero
        rw [Nat.toDigits_zero, List.cons.injEq] at shape
        rw [← shape.2]
        rfl
      · rw [shape, List.cons_append] at span
        rw [List.cons_append, readWhole?]
        · rw [span]
          rfl
        · exact List.cons_ne_nil _ _
        · rintro _ ⟨⟩
          exact zero rfl

theorem readNumber?_toDigits
    (negative : Bool) (number : Nat) {rest : List Char} (ends : EndsNumber rest) :
    readNumber? negative (Nat.toDigits 10 number ++ rest) =
      some (numberToken negative (Nat.toDigits 10 number) [] none, rest) := by
  have fraction : readFraction? rest = some ([], rest) := by
    cases rest with
    | nil => rfl
    | cons c rest =>
        rw [readFraction?]
        rintro _ ⟨⟩
        exact (ends _ _ rfl).2.1 rfl
  have scale : readScale? rest = some (none, rest) := by
    cases rest with
    | nil => rfl
    | cons c rest =>
        obtain ⟨_, _, small, capital⟩ := ends c rest rfl
        simp [readScale?, small, capital]
  unfold readNumber?
  simp [readWhole?_toDigits number ends, fraction, scale]

theorem numberToken_toDigits
    {negative : Bool} {magnitude : Nat} {number : Int}
    (value : number = if negative then -Int.ofNat magnitude else Int.ofNat magnitude)
    (signed : negative = true → number ≠ 0) (exact : exactIntegers.contains number = true) :
    numberToken negative (Nat.toDigits 10 magnitude) [] none = .integer number := by
  have digits : digitsValue (Nat.toDigits 10 magnitude) = magnitude :=
    Nat.ofDigitChars_ten_toDigits
  unfold numberToken
  rw [digits]
  simp only [← value, exact]
  cases negative with
  | false => simp
  | true => simp [signed rfl]

theorem isSpace_of_digit {c : Char} (digit : isAsciiDigit c = true) : isSpace c = false := by
  cases spaced : isSpace c with
  | false => rfl
  | true =>
      simp only [isSpace, Bool.or_eq_true, beq_iff_eq] at spaced
      rcases spaced with ((rfl | rfl) | rfl) | rfl <;> exact absurd digit Bool.false_ne_true

theorem readToken?_digit
    {c : Char} (digit : isAsciiDigit c = true) (rest : List Char) :
    readToken? (c :: rest) = readNumber? false (c :: rest) := by
  rw [readToken?]
  all_goals
    rintro rfl
    exact absurd digit Bool.false_ne_true

theorem cuts_integer
    {number : Int} (exact : exactIntegers.contains number = true) :
    Cuts EndsNumber (toString number).toList [.integer number] := by
  rw [toList_toString_int]
  by_cases nonnegative : 0 ≤ number
  · rw [if_pos nonnegative]
    have token : numberToken false (Nat.toDigits 10 number.toNat) [] none = .integer number :=
      numberToken_toDigits (by simp; omega) (by simp) exact
    obtain ⟨c, digits, shape⟩ :=
      List.exists_cons_of_ne_nil (Nat.toDigits_ne_nil : Nat.toDigits 10 number.toNat ≠ [])
    have digit : isAsciiDigit c = true :=
      isAsciiDigit_of_mem_toDigits (by rw [shape]; exact List.mem_cons_self)
    rw [shape]
    apply Cuts.token
    · exact isSpace_of_digit digit
    · intro rest ends
      rw [List.cons_append, readToken?_digit digit, ← List.cons_append, ← shape,
        readNumber?_toDigits false number.toNat ends, token]
  · rw [if_neg nonnegative]
    have token : numberToken true (Nat.toDigits 10 (-number).toNat) [] none = .integer number :=
      numberToken_toDigits (by simp; omega) (by intro; omega) exact
    apply Cuts.token rfl
    intro rest ends
    rw [← token]
    exact readNumber?_toDigits true (-number).toNat ends

theorem cuts_bool (value : Bool) :
    Cuts Anything (if value then "true" else "false").toList [.bool value] := by
  cases value
  all_goals exact Cuts.token rfl fun _ _ => rfl

theorem cuts_null : Cuts Anything "null".toList [.null] :=
  Cuts.token rfl fun _ _ => rfl

/-! ## Documents -/

mutual

/-- The tokens of a document. -/
def tokensOf : Document → List Token
  | .null => [.null]
  | .bool value => [.bool value]
  | .integer value => [.integer value]
  | .float value => [.float value]
  | .text value | .plain value => [.text value]
  | .list items => .openList :: (itemTokens items ++ [.closeList])
  | .mapping entries => .openMapping :: (entryTokens entries ++ [.closeMapping])

def itemTokens : List Document → List Token
  | [] => []
  | [item] => tokensOf item
  | item :: items => tokensOf item ++ .comma :: itemTokens items

def entryTokens : List (String × Document) → List Token
  | [] => []
  | [(key, value)] => .text key :: .colon :: tokensOf value
  | (key, value) :: entries =>
    .text key :: .colon :: (tokensOf value ++ .comma :: entryTokens entries)

end

mutual

/-- A document whose scalars are texts, marks, nulls and integers that a reader keeps exact. -/
def Exact : Document → Prop
  | .null | .bool _ | .text _ => True
  | .integer value => exactIntegers.contains value = true
  | .float _ | .plain _ => False
  | .list items => ExactItems items
  | .mapping entries => ExactEntries entries

def ExactItems : List Document → Prop
  | [] => True
  | item :: items => Exact item ∧ ExactItems items

def ExactEntries : List (String × Document) → Prop
  | [] => True
  | (_, value) :: entries => Exact value ∧ ExactEntries entries

end

theorem endsNumber_cons
    {c : Char} (ends : isAsciiDigit c = false ∧ c ≠ '.' ∧ c ≠ 'e' ∧ c ≠ 'E') (rest : List Char) :
    EndsNumber (c :: rest) := by
  rintro _ _ ⟨⟩
  exact ends

theorem lineBreak_toList (level : Nat) :
    (lineBreak level).toList = '\n' :: List.replicate (2 * level) ' ' := by
  simp [lineBreak]

theorem cuts_lineBreak (followed : List Char → Prop) (level : Nat) :
    Cuts followed (lineBreak level).toList [] := by
  apply Cuts.space
  intro c member
  rw [lineBreak_toList, List.mem_cons, List.mem_replicate] at member
  rcases member with rfl | ⟨_, rfl⟩ <;> rfl

theorem endsNumber_lineBreak (level : Nat) (rest : List Char) :
    EndsNumber ((lineBreak level).toList ++ rest) := by
  rw [lineBreak_toList]
  exact endsNumber_cons (by decide) _

/-- An item or entry on a line of its own. -/
theorem cuts_onlyLine
    {written : String} {tokens : List Token} (level : Nat)
    (only : Cuts EndsNumber written.toList tokens) :
    Cuts EndsNumber (lineBreak level ++ written).toList tokens := by
  rw [String.toList_append]
  exact (cuts_lineBreak Anything level).append only fun _ _ => trivial

/-- An item or entry on a line of its own, with more of them behind a comma. -/
theorem cuts_line
    {written rest : String} {tokens restTokens : List Token} (level : Nat)
    (first : Cuts EndsNumber written.toList tokens)
    (others : Cuts EndsNumber rest.toList restTokens) :
    Cuts EndsNumber (lineBreak level ++ written ++ "," ++ rest).toList
      (tokens ++ .comma :: restTokens) := by
  have comma : Cuts Anything [','] [.comma] := Cuts.token rfl fun _ _ => rfl
  have line := ((cuts_lineBreak Anything level).append first fun _ _ => trivial).append
    (comma.append others fun _ _ => trivial) fun _ _ => endsNumber_cons (by decide) _
  simpa [String.toList_append] using line

theorem cuts_entry
    (key : String) {written : String} {tokens : List Token}
    (value : Cuts EndsNumber written.toList tokens) :
    Cuts EndsNumber (quote key ++ ": " ++ written).toList (.text key :: .colon :: tokens) := by
  have colon : Cuts Anything [':'] [.colon] := Cuts.token rfl fun _ _ => rfl
  have space : Cuts Anything [' '] [] := Cuts.space (by simp; rfl)
  have entry := (cuts_quote key).append ((colon.append space fun _ _ => trivial).append value
    fun _ _ => trivial) fun _ _ => trivial
  simpa [String.toList_append] using entry

/-- Lines between two brackets. -/
theorem cuts_bracketed
    {level : Nat} {before inside after : String} {opening closing : Token}
    {tokens : List Token} (first : Cuts Anything before.toList [opening])
    (last : Cuts Anything after.toList [closing]) (lines : Cuts EndsNumber inside.toList tokens) :
    Cuts EndsNumber (before ++ inside ++ lineBreak level ++ after).toList
      (opening :: (tokens ++ [closing])) := by
  have closed := (cuts_lineBreak Anything level).append last fun _ _ => trivial
  have all := (first.append lines fun _ _ => trivial).append closed fun rest _ => by
    rw [List.append_assoc]
    exact endsNumber_lineBreak level _
  simpa [String.toList_append] using all.weaken fun _ _ => trivial

theorem cuts_empty
    {before after : Char} {opening closing : Token} (first : Cuts Anything [before] [opening])
    (last : Cuts Anything [after] [closing]) :
    Cuts EndsNumber [before, after] [opening, closing] :=
  (first.append last fun _ _ => trivial).weaken fun _ _ => trivial

theorem cuts_scalar
    {text : String} {token : Token} (cuts : Cuts Anything text.toList [token]) :
    Cuts EndsNumber text.toList [token] :=
  cuts.weaken fun _ _ => trivial

mutual

/-- The pretty form of a document is cut into its tokens. -/
theorem cuts_prettyAt (level : Nat) (document : Document) (exact : Exact document) :
    Cuts EndsNumber (prettyAt level document).toList (tokensOf document) := by
  match document with
  | .null => exact cuts_scalar cuts_null
  | .bool value => exact cuts_scalar (cuts_bool value)
  | .integer value => exact cuts_integer exact
  | .text value => exact cuts_scalar (cuts_quote value)
  | .list [] =>
      have closed : Cuts EndsNumber ['[', ']'] [.openList, .closeList] :=
        cuts_empty (Cuts.token rfl fun _ _ => rfl) (Cuts.token rfl fun _ _ => rfl)
      simpa [prettyAt, tokensOf, itemTokens] using closed
  | .list (item :: items) =>
      have lines := cuts_prettyItems (level + 1) (item :: items) exact
      exact cuts_bracketed (Cuts.token rfl fun _ _ => rfl) (Cuts.token rfl fun _ _ => rfl) lines
  | .mapping [] =>
      have closed : Cuts EndsNumber ['\x7b', '\x7d'] [.openMapping, .closeMapping] :=
        cuts_empty (Cuts.token rfl fun _ _ => rfl) (Cuts.token rfl fun _ _ => rfl)
      simpa [prettyAt, tokensOf, entryTokens] using closed
  | .mapping (entry :: entries) =>
      have lines := cuts_prettyEntries (level + 1) (entry :: entries) exact
      exact cuts_bracketed (Cuts.token rfl fun _ _ => rfl) (Cuts.token rfl fun _ _ => rfl) lines

theorem cuts_prettyItems (level : Nat) (items : List Document) (exact : ExactItems items) :
    Cuts EndsNumber (prettyItems level items).toList (itemTokens items) := by
  match items with
  | [] => exact Cuts.space (by simp [prettyItems])
  | [item] =>
      have only := cuts_prettyAt level item exact.1
      exact cuts_onlyLine level only
  | item :: other :: items =>
      have first := cuts_prettyAt level item exact.1
      have others := cuts_prettyItems level (other :: items) exact.2
      exact cuts_line level first others

theorem cuts_prettyEntries
    (level : Nat) (entries : List (String × Document)) (exact : ExactEntries entries) :
    Cuts EndsNumber (prettyEntries level entries).toList (entryTokens entries) := by
  match entries with
  | [] => exact Cuts.space (by simp [prettyEntries])
  | [(key, value)] =>
      have only := cuts_entry key (cuts_prettyAt level value exact.1)
      simpa [prettyEntries, entryTokens, String.append_assoc] using cuts_onlyLine level only
  | (key, value) :: other :: entries =>
      have first := cuts_entry key (cuts_prettyAt level value exact.1)
      have others := cuts_prettyEntries level (other :: entries) exact.2
      simpa [prettyEntries, entryTokens, String.append_assoc] using cuts_line level first others

end

/-- A written document with a line break behind it is cut into the tokens of the document. -/
theorem tokens?_pretty {document : Document} (exact : Exact document) :
    tokens? (pretty document ++ "\n") = some (tokensOf document) := by
  have ends : EndsNumber ['\n'] := endsNumber_cons (by decide) []
  have cut := cuts_prettyAt 0 document exact 1 ['\n'] [] ends rfl
  rw [List.append_nil] at cut
  unfold tokens? pretty
  rw [String.toList_append, ← String.length_toList, String.toList_append, List.length_append]
  exact cut

end TypedTables.Json
