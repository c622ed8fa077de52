import Mathlib.Data.List.Basic
import TypedTables.Text.AsciiCase

/-!
# String literals of the generated code

A string literal of the language, without its opening quote: characters that stand for themselves,
line ends, and escapes.  A text that is written into a literal as it is denotes itself exactly if it
has no quote, no backslash and no carriage return.
-/

namespace TypedTables.Generate

open TypedTables.Text

/-! ## The language -/

/-- What letters stand for behind a backslash. -/
def letterEscapes : List (Char × Char) := [
  ('n', '\n'), ('r', '\r'), ('t', '\t'), ('0', '\x00'), ('\\', '\\'), ('\'', '\''), ('"', '"')]

/-- A character that stands for itself in a literal. -/
def StandsForItself (c : Char) : Prop :=
  c ≠ '"' ∧ c ≠ '\\' ∧ c ≠ '\r'

instance (c : Char) : Decidable (StandsForItself c) :=
  inferInstanceAs (Decidable (c ≠ '"' ∧ c ≠ '\\' ∧ c ≠ '\r'))

/-- A piece of a literal and the character that it stands for. -/
inductive LiteralPiece : List Char → Char → Prop
  | itself {c : Char} (stands : StandsForItself c) : LiteralPiece [c] c
  | lineEnd : LiteralPiece ['\r', '\n'] '\n'
  | letter {letter c : Char} (known : (letter, c) ∈ letterEscapes) : LiteralPiece ['\\', letter] c
  | ascii {high low : Char} {code : Nat} (number : hexNumber? [high, low] = some code)
      (small : code < 0x80) : LiteralPiece ['\\', 'x', high, low] (Char.ofNat code)
  /-- The number of a character in at most six digits, with underscores behind the first one. -/
  | unicode {first : Char} {digits : List Char} {code : Nat}
      (number : hexNumber? (first :: digits.filter (· != '_')) = some code)
      (short : (digits.filter (· != '_')).length ≤ 5) (valid : code.isValidChar) :
      LiteralPiece ('\\' :: 'u' :: '\x7b' :: first :: digits ++ ['\x7d']) (Char.ofNat code)

/-- White space that is hidden behind a hidden line end. -/
def marginChars : List Char := [' ', '\t', '\n', '\r']

/-- The characters that the body of a literal denotes.  A backslash at the end of a line hides the
line end and the margin of the next line. -/
inductive Spells : List Char → List Char → Prop
  | nil : Spells [] []
  | piece {piece body value : List Char} {c : Char} (here : LiteralPiece piece c)
      (there : Spells body value) : Spells (piece ++ body) (c :: value)
  | goesOn {lineEnd margin body value : List Char}
      (ended : lineEnd = ['\n'] ∨ lineEnd = ['\r', '\n']) (hidden : ∀ c ∈ margin, c ∈ marginChars)
      (visible : ∀ c ∈ body.head?, c ∉ marginChars) (there : Spells body value) :
      Spells ('\\' :: lineEnd ++ margin ++ body) value

/-- A text behind an opening quote is read as a literal with a value, and a rest behind its closing
quote. -/
def ReadsAs (text value rest : List Char) : Prop :=
  ∃ body, text = body ++ '"' :: rest ∧ Spells body value

/-! ## Quotes inside literals -/

/-- Where a quote stands in a literal, one stands further in front in the value. -/
def QuotesEarlier (body value : List Char) : Prop :=
  ∀ position : Nat, body[position]? = some '"' →
    ∃ earlier < position, value[earlier]? = some '"'

theorem quotesEarlier_of_not_mem {body value : List Char} (absent : '"' ∉ body) :
    QuotesEarlier body value := by
  intro position found
  exact absurd (List.mem_of_getElem? found) absent

theorem QuotesEarlier.append
    {front back frontValue backValue : List Char} (inFront : QuotesEarlier front frontValue)
    (behind : QuotesEarlier back backValue) (shorter : frontValue.length ≤ front.length) :
    QuotesEarlier (front ++ back) (frontValue ++ backValue) := by
  intro position found
  by_cases inside : position < front.length
  · rw [List.getElem?_append_left inside] at found
    obtain ⟨earlier, before, quote⟩ := inFront position found
    have inValue : earlier < frontValue.length := (List.getElem?_eq_some_iff.mp quote).1
    exact ⟨earlier, before, by rw [List.getElem?_append_left inValue, quote]⟩
  · rw [List.getElem?_append_right (by omega)] at found
    obtain ⟨earlier, before, quote⟩ := behind _ found
    refine ⟨frontValue.length + earlier, by omega, ?_⟩
    rw [List.getElem?_append_right (by omega), Nat.add_sub_cancel_left, quote]

theorem not_mem_of_hexNumber? {c : Char} (noDigit : hexValue? c = none)
    {digits : List Char} {code : Nat} (number : hexNumber? digits = some code) : c ∉ digits := by
  intro member
  obtain ⟨before, after, rfl⟩ := List.append_of_mem member
  rw [hexNumber?, List.foldlM_append, Option.bind_eq_bind, Option.bind_eq_some_iff] at number
  obtain ⟨_, _, rest⟩ := number
  rw [List.foldlM_cons, noDigit] at rest
  cases rest

theorem LiteralPiece.quotesEarlier {piece : List Char} {c : Char} (stands : LiteralPiece piece c) :
    QuotesEarlier piece [c] := by
  have noDigit : hexValue? '"' = none := by decide
  cases stands with
  | itself stands => exact quotesEarlier_of_not_mem (by simpa using Ne.symm stands.1)
  | lineEnd => exact quotesEarlier_of_not_mem (by decide)
  | @letter letter _ known =>
      -- Only here a quote may stand in the literal: behind its backslash.
      intro position found
      match position with
      | 0 => exact absurd found (by simp)
      | 1 =>
          have isQuote : letter = '"' := by simpa using found
          subst isQuote
          have same : c = '"' := by
            revert known
            simp [letterEscapes]
          exact ⟨0, by omega, by rw [same]; rfl⟩
      | position + 2 => simp at found
  | ascii number _ =>
      have absent := not_mem_of_hexNumber? noDigit number
      exact quotesEarlier_of_not_mem (by simpa using absent)
  | @unicode first digits _ number _ _ =>
      have absent := not_mem_of_hexNumber? noDigit number
      refine quotesEarlier_of_not_mem ?_
      simpa using absent

theorem LiteralPiece.length_pos {piece : List Char} {c : Char} (stands : LiteralPiece piece c) :
    0 < piece.length := by
  cases stands <;> simp

theorem LiteralPiece.itself_of_length {piece : List Char} {c : Char}
    (stands : LiteralPiece piece c) (short : piece.length ≤ 1) :
    piece = [c] ∧ StandsForItself c := by
  cases stands with
  | itself stands => exact ⟨rfl, stands⟩
  | lineEnd => simp at short
  | letter known => simp at short
  | ascii number small => simp at short
  | unicode number _ _ => simp at short

/-! ## Values -/

theorem Spells.length_le {body value : List Char} (spells : Spells body value) :
    value.length ≤ body.length := by
  induction spells with
  | nil => simp
  | piece here there inductionHypothesis =>
      have nonempty := here.length_pos
      rw [List.length_cons, List.length_append]
      omega
  | goesOn ended hidden visible there inductionHypothesis =>
      rw [List.length_append]
      omega

theorem Spells.quotesEarlier {body value : List Char} (spells : Spells body value) :
    QuotesEarlier body value := by
  induction spells with
  | nil => exact quotesEarlier_of_not_mem (by simp)
  | piece here there inductionHypothesis =>
      exact here.quotesEarlier.append inductionHypothesis here.length_pos
  | @goesOn lineEnd margin body value ended hidden visible there inductionHypothesis =>
      have absent : '"' ∉ '\\' :: lineEnd ++ margin := by
        have notHidden : '"' ∉ margin := fun member => absurd (hidden '"' member) (by decide)
        rcases ended with rfl | rfl <;> simpa using notHidden
      have front : QuotesEarlier ('\\' :: lineEnd ++ margin) [] := quotesEarlier_of_not_mem absent
      exact front.append inductionHypothesis (Nat.zero_le _)

/-- A literal that is as long as its value is the value itself. -/
theorem Spells.eq_of_length {body value : List Char} (spells : Spells body value)
    (short : body.length ≤ value.length) : body = value ∧ ∀ c ∈ value, StandsForItself c := by
  induction spells with
  | nil => simp
  | @piece piece body value c here there inductionHypothesis =>
      have nonempty := here.length_pos
      have others := there.length_le
      rw [List.length_append, List.length_cons] at short
      obtain ⟨rfl, stands⟩ := here.itself_of_length (by omega)
      obtain ⟨rfl, all⟩ := inductionHypothesis (by omega)
      exact ⟨rfl, List.forall_mem_cons.mpr ⟨stands, all⟩⟩
  | goesOn ended hidden visible there inductionHypothesis =>
      have others := there.length_le
      rw [List.length_append, List.length_append, List.length_cons] at short
      omega

theorem spells_self {text : List Char} (all : ∀ c ∈ text, StandsForItself c) :
    Spells text text := by
  induction text with
  | nil => exact .nil
  | cons c rest inductionHypothesis =>
      obtain ⟨here, there⟩ := List.forall_mem_cons.mp all
      exact .piece (.itself here) (inductionHypothesis there)

theorem readsAs_self {text rest : List Char} (all : ∀ c ∈ text, StandsForItself c) :
    ReadsAs (text ++ '"' :: rest) text rest :=
  ⟨text, rfl, spells_self all⟩

/-- A text that is written into a literal as it is is read back exactly if each of its characters
stands for itself. -/
theorem readsAs_self_iff {text behind : List Char} :
    (∃ rest, ReadsAs (text ++ '"' :: behind) text rest) ↔ ∀ c ∈ text, StandsForItself c := by
  refine ⟨?_, fun all => ⟨behind, readsAs_self all⟩⟩
  intro ⟨rest, body, parts, spells⟩
  have long := spells.length_le
  -- The body begins as the text does, up to the end of the shorter one.
  have agrees : ∀ position < text.length, body[position]? = text[position]? := by
    intro position inside
    have inBoth := congrArg (fun whole : List Char => whole[position]?) parts
    rw [List.getElem?_append_left inside, List.getElem?_append_left (by omega)] at inBoth
    exact inBoth.symm
  have unquoted : ∀ position : Nat, body[position]? ≠ some '"' := by
    intro position
    induction position using Nat.strongRecOn with
    | ind position inductionHypothesis =>
        intro found
        obtain ⟨earlier, before, quote⟩ := spells.quotesEarlier position found
        have inText : earlier < text.length := (List.getElem?_eq_some_iff.mp quote).1
        exact inductionHypothesis earlier before (by rw [agrees earlier inText, quote])
  have short : body.length ≤ text.length := by
    by_contra longer
    apply unquoted text.length
    have atEnd := congrArg (fun whole : List Char => whole[text.length]?) parts
    have inBody : text.length < body.length := by omega
    rw [List.getElem?_append_right (Nat.le_refl text.length), Nat.sub_self,
      List.getElem?_append_left inBody] at atEnd
    exact atEnd.symm
  exact (spells.eq_of_length short).2

/-! ## One reading -/

/-- The number that is written between braces. -/
def bracedNumber? (digits : List Char) : Option Nat :=
  hexNumber? (digits.take 1 ++ (digits.drop 1).filter (· != '_'))

/-- What a literal goes on with: the next character of its value, or none at a hidden line end.
There is nothing before the closing quote. -/
def readNext? : List Char → Option (Option Char × List Char)
  | [] => none
  | '\r' :: rest => if rest.head? = some '\n' then some (some '\n', rest.tail) else none
  | '\\' :: '\n' :: rest => some (none, rest.dropWhile (· ∈ marginChars))
  | '\\' :: '\r' :: rest => some (none, rest.dropWhile (· ∈ marginChars))
  | '\\' :: 'x' :: rest =>
    (hexNumber? (rest.take 2)).map fun code => (some (Char.ofNat code), rest.drop 2)
  | '\\' :: 'u' :: rest =>
    (bracedNumber? (rest.tail.takeWhile (· != '\x7d'))).map fun code =>
      (some (Char.ofNat code), (rest.dropWhile (· != '\x7d')).tail)
  | '\\' :: letter :: rest => (letterEscapes.lookup letter).map fun c => (some c, rest)
  | c :: rest => if StandsForItself c then some (some c, rest) else none

theorem readNext?_quote (rest : List Char) : readNext? ('"' :: rest) = none := by
  simp [readNext?, StandsForItself]

theorem readNext?_piece
    {piece : List Char} {c : Char} (stands : LiteralPiece piece c) (rest : List Char) :
    readNext? (piece ++ rest) = some (some c, rest) := by
  cases stands with
  | itself stands =>
      obtain ⟨noQuote, noMark, noReturn⟩ := stands
      rw [List.singleton_append, readNext?]
      · rw [if_pos ⟨noQuote, noMark, noReturn⟩]
      all_goals
        intros
        simp_all
  | lineEnd => simp [readNext?]
  | letter known =>
      simp only [letterEscapes, List.mem_cons, Prod.mk.injEq, List.not_mem_nil, or_false] at known
      rcases known with ⟨rfl, rfl⟩ | ⟨rfl, rfl⟩ | ⟨rfl, rfl⟩ | ⟨rfl, rfl⟩ | ⟨rfl, rfl⟩ |
        ⟨rfl, rfl⟩ | ⟨rfl, rfl⟩ <;> rfl
  | ascii number small => simp [readNext?, number]
  | @unicode first digits code number short valid =>
      have noDigit : hexValue? '\x7d' = none := by decide
      have inside : ∀ c ∈ first :: digits, (c != '\x7d') = true := by
        intro c member
        rw [bne_iff_ne]
        rintro rfl
        have absent := not_mem_of_hexNumber? noDigit number
        simp_all
      have digitsRead : (('\x7b' :: first :: digits) ++ '\x7d' :: rest).tail.takeWhile
          (· != '\x7d') = first :: digits := by
        rw [List.cons_append, List.tail_cons, List.takeWhile_append_of_pos inside]
        simp
      have behind : (('\x7b' :: first :: digits) ++ '\x7d' :: rest).dropWhile (· != '\x7d') =
          '\x7d' :: rest := by
        rw [List.dropWhile_append_of_pos]
        · simp
        · exact List.forall_mem_cons.mpr ⟨by decide, inside⟩
      have value : bracedNumber? (first :: digits) = some code := number
      have shape : '\\' :: 'u' :: '\x7b' :: first :: digits ++ ['\x7d'] ++ rest =
          '\\' :: 'u' :: (('\x7b' :: first :: digits) ++ '\x7d' :: rest) := by
        simp
      rw [shape, readNext?, behind, digitsRead, value]
      rfl

theorem readNext?_hidden
    {lineEnd margin body : List Char} (ended : lineEnd = ['\n'] ∨ lineEnd = ['\r', '\n'])
    (hidden : ∀ c ∈ margin, c ∈ marginChars) (visible : ∀ c ∈ body.head?, c ∉ marginChars)
    (rest : List Char) :
    readNext? ('\\' :: lineEnd ++ margin ++ body ++ '"' :: rest) =
      some (none, body ++ '"' :: rest) := by
  have dropped : (margin ++ (body ++ '"' :: rest)).dropWhile (· ∈ marginChars) =
      body ++ '"' :: rest := by
    rw [List.dropWhile_append_of_pos (by simpa using hidden)]
    cases body with
    | nil => exact List.dropWhile_cons_of_neg (by decide)
    | cons c body => exact List.dropWhile_cons_of_neg (by simpa using visible c rfl)
  have shape : '\\' :: lineEnd ++ margin ++ body ++ '"' :: rest =
      '\\' :: (lineEnd ++ (margin ++ (body ++ '"' :: rest))) := by
    simp
  have endHidden : '\n' ∈ marginChars := by decide
  rw [shape]
  rcases ended with rfl | rfl
  · rw [List.singleton_append, readNext?, dropped]
  · rw [List.cons_append, List.singleton_append, readNext?,
      List.dropWhile_cons_of_pos (by simpa using endHidden), dropped]

theorem ReadsAs.next
    {text value rest later : List Char} {shown : Option Char} (reads : ReadsAs text value rest)
    (read : readNext? text = some (shown, later)) :
    ∃ laterValue, value = shown.toList ++ laterValue ∧ ReadsAs later laterValue rest := by
  obtain ⟨body, rfl, spells⟩ := reads
  cases spells with
  | nil =>
      rw [List.nil_append, readNext?_quote] at read
      cases read
  | piece here there =>
      rw [List.append_assoc, readNext?_piece here] at read
      cases read
      exact ⟨_, rfl, _, rfl, there⟩
  | goesOn ended hidden visible there =>
      rw [readNext?_hidden ended hidden visible] at read
      cases read
      exact ⟨_, rfl, _, rfl, there⟩

theorem ReadsAs.ended
    {value rest behind : List Char} (reads : ReadsAs ('"' :: behind) value rest) :
    value = [] ∧ rest = behind := by
  obtain ⟨body, same, spells⟩ := reads
  have ended := readNext?_quote behind
  rw [same] at ended
  cases spells with
  | nil => exact ⟨rfl, (List.cons.inj same).2.symm⟩
  | piece here there =>
      rw [List.append_assoc, readNext?_piece here] at ended
      cases ended
  | goesOn lineEnded hidden visible there =>
      rw [readNext?_hidden lineEnded hidden visible] at ended
      cases ended

/-- A text is read as one literal at most. -/
theorem ReadsAs.unique
    {text value otherValue rest otherRest : List Char} (first : ReadsAs text value rest)
    (second : ReadsAs text otherValue otherRest) : value = otherValue ∧ rest = otherRest := by
  obtain ⟨body, rfl, spells⟩ := first
  -- Both readings go on with what is read next, so no two ways to spell are compared.
  induction spells generalizing otherValue with
  | nil =>
      obtain ⟨rfl, rfl⟩ := second.ended
      exact ⟨rfl, rfl⟩
  | piece here there inductionHypothesis =>
      rw [List.append_assoc] at second
      obtain ⟨laterValue, rfl, reads⟩ := second.next (readNext?_piece here _)
      obtain ⟨rfl, same⟩ := inductionHypothesis reads
      exact ⟨rfl, same⟩
  | goesOn ended hidden visible there inductionHypothesis =>
      obtain ⟨laterValue, rfl, reads⟩ := second.next (readNext?_hidden ended hidden visible _)
      exact inductionHypothesis reads

end TypedTables.Generate
