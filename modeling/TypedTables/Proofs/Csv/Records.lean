import TypedTables.Csv.Reader
import TypedTables.Proofs.Text.Pieces

/-!
# Records of plain text

In a text without quotes and carriage returns, the records are the lines that have a character, cut
at the delimiter.  Lines without any are passed over, so that a record is not found at the number
of its line where such a line stands in front of it.
-/

namespace TypedTables.Csv

open TypedTables.Text

/-- A text whose characters stand for themselves: no quotes, no carriage returns, and no mark of
byte order in front. -/
structure Plain (text : String) : Prop where
  unquoted : ∀ c ∈ text.toList, c ≠ '"'
  unreturned : ∀ c ∈ text.toList, c ≠ '\r'
  unmarked : text.toList.head? ≠ some '\ufeff'

/-! ## Lines -/

/-- A character that stands for itself inside a line. -/
def InLine (c : Char) : Prop :=
  c ≠ '"' ∧ endsRecord c = false

/-- The fields of a line. -/
def lineFields (delimiter : Char) (line : List Char) : List String :=
  (piecesAt delimiter [] line).map String.ofList

namespace Reading

/-- Inside a record, but for quotes. -/
def Begun (reading : Reading) : Prop :=
  reading.position = .field ∨ reading.position = .bare

variable (delimiter : Char) {reading : Reading} (begun : reading.Begun) {c : Char}

include begun

theorem add_of_begun (unquoted : c ≠ '"') :
    reading.add delimiter c = reading.addBare delimiter c := by
  rcases begun with position | position
  · rw [Reading.add, position]
    simp [unquoted]
  · rw [Reading.add, position]

/-- A character inside a line ends a field or belongs to it. -/
theorem add_inLine (inLine : InLine c) :
    reading.add delimiter c =
      if c = delimiter then reading.endField else reading.addCharacter .bare c := by
  rw [add_of_begun delimiter begun inLine.1, Reading.addBare, inLine.2]
  simp

theorem finish_of_begun : reading.finish = reading.endRecord.records.reverse := by
  rcases begun with position | position <;> rw [Reading.finish, position]

end Reading

section Line

variable {delimiter : Char} {line : List Char}

/-- A line read inside a record adds its fields, the first of which goes on with what has been read
of a field. -/
theorem foldl_line
    (inLine : ∀ c ∈ line, InLine c) (reading : Reading) (begun : reading.Begun)
    (whole : delimiter ∉ reading.characters) :
    (line.foldl (Reading.add delimiter) reading).Begun ∧
      (line.foldl (Reading.add delimiter) reading).endRecord =
        { records := (reading.fields.reverse ++
            lineFields delimiter (reading.characters.reverse ++ line)) :: reading.records } := by
  have unread : delimiter ∉ reading.characters.reverse := by simpa using whole
  induction line generalizing reading with
  | nil =>
      refine ⟨begun, ?_⟩
      rw [List.append_nil, lineFields, piecesAt_of_not_mem unread]
      simp [Reading.endRecord, Reading.endField]
  | cons c rest inductionHypothesis =>
      have inLineRest := fun d member => inLine d (List.mem_cons_of_mem c member)
      rw [List.foldl_cons, Reading.add_inLine delimiter begun (inLine c List.mem_cons_self)]
      by_cases same : c = delimiter
      · rw [if_pos same]
        obtain ⟨begunRest, ended⟩ := inductionHypothesis inLineRest reading.endField (Or.inl rfl)
          (by simp [Reading.endField]) (by simp [Reading.endField])
        refine ⟨begunRest, ended.trans ?_⟩
        have cut : lineFields delimiter (reading.characters.reverse ++ c :: rest) =
            String.ofList reading.characters.reverse :: lineFields delimiter rest := by
          rw [same, lineFields, piecesAt_append_cons, piecesAt_of_not_mem unread]
          rfl
        simp [Reading.endField, cut]
      · rw [if_neg same]
        have wholeStill : delimiter ∉ (reading.addCharacter .bare c).characters := by
          simpa [Reading.addCharacter] using ⟨Ne.symm same, whole⟩
        obtain ⟨begunRest, ended⟩ := inductionHypothesis inLineRest
          (reading.addCharacter .bare c) (Or.inr rfl) wholeStill (by simpa using wholeStill)
        refine ⟨begunRest, ended.trans ?_⟩
        simp [Reading.addCharacter]

/-- Read from the start of a record, a line with a character is a record. -/
theorem foldl_line_of_record
    (visible : line ≠ []) (inLine : ∀ c ∈ line, InLine c) (records : List (List String)) :
    (line.foldl (Reading.add delimiter) { records }).Begun ∧
      (line.foldl (Reading.add delimiter) { records }).endRecord =
        { records := lineFields delimiter line :: records } := by
  cases line with
  | nil => exact absurd rfl visible
  | cons c rest =>
      -- The first character is read as it is behind a delimiter.
      let started : Reading := { position := .field, records }
      have same : Reading.add delimiter { records } c = started.add delimiter c := by
        obtain ⟨unquoted, notEnd⟩ := inLine c List.mem_cons_self
        simp [started, Reading.add, Reading.addBare, Reading.endField, Reading.addCharacter,
          unquoted, notEnd]
      have whole : delimiter ∉ started.characters := by simp [started]
      have read := foldl_line inLine started (Or.inl rfl) whole
      rw [List.foldl_cons, ← same] at read
      exact read

end Line

/-! ## Texts -/

variable {delimiter : Char}

/-- Of lines read one after the other, each with a character is a record. -/
theorem finish_foldl_lines
    (visible : delimiter ≠ '\n') {lines : List (List Char)} (nonempty : lines ≠ [])
    (inLine : ∀ line ∈ lines, ∀ c ∈ line, InLine c) (records : List (List String)) :
    ((['\n'].intercalate lines).foldl (Reading.add delimiter) { records }).finish =
      records.reverse ++ (lines.filter (!·.isEmpty)).map (lineFields delimiter) := by
  induction lines generalizing records with
  | nil => exact absurd rfl nonempty
  | cons line rest inductionHypothesis =>
      have inLineHere := inLine line List.mem_cons_self
      have inLineRest := fun other member => inLine other (List.mem_cons_of_mem line member)
      cases rest with
      | nil =>
          rw [List.intercalate_singleton]
          by_cases empty : line = []
          · simp [empty, Reading.finish]
          · obtain ⟨begun, ended⟩ := foldl_line_of_record empty inLineHere records
            rw [Reading.finish_of_begun begun, ended]
            simp [empty]
      | cons next later =>
          rw [List.intercalate_cons_cons, List.foldl_append, List.foldl_append]
          by_cases empty : line = []
          · have passed : ['\n'].foldl (Reading.add delimiter) { records } = { records } := rfl
            rw [empty, List.foldl_nil, passed, inductionHypothesis (by simp) inLineRest records]
            simp
          · obtain ⟨begun, ended⟩ := foldl_line_of_record empty inLineHere records
            have closed : ['\n'].foldl (Reading.add delimiter)
                (line.foldl (Reading.add delimiter) { records }) =
                  { records := lineFields delimiter line :: records } := by
              rw [List.foldl_cons, List.foldl_nil, Reading.add_of_begun delimiter begun (by decide),
                Reading.addBare, ← ended]
              simp [Ne.symm visible, endsRecord]
            rw [closed, inductionHypothesis (by simp) inLineRest]
            simp [empty]

/-- The records of a plain text are its lines with a character, cut at the delimiter. -/
theorem records_eq
    (visible : delimiter ≠ '\n') {separator : String} (single : separator.toList = [delimiter])
    {text : String} (plain : Plain text) :
    records delimiter text = ((split "\n" text).filter (!·.isEmpty)).map (split separator) := by
  have marked : dropMark text.toList = text.toList := by
    unfold dropMark
    split
    · next rest shape => exact absurd (by rw [shape]; rfl) plain.unmarked
    · rfl
  have inLine : ∀ line ∈ piecesAt '\n' [] text.toList, ∀ c ∈ line, InLine c := by
    intro line member c inLine
    have inText : c ∈ text.toList := ((piecesAt_parts _ _ _).2 line member).mem inLine
    refine ⟨plain.unquoted c inText, ?_⟩
    have noFeed : c ≠ '\n' := by
      rintro rfl
      exact not_mem_of_mem_piecesAt member inLine
    simp [endsRecord, noFeed, plain.unreturned c inText]
  have sameLines : ((fun piece => !piece.isEmpty) ∘ String.ofList) =
      fun line : List Char => !line.isEmpty := by
    funext line
    cases line <;> simp
  have sameFields : split separator ∘ String.ofList = lineFields delimiter := by
    funext line
    rw [Function.comp_apply, split_eq_piecesAt single, String.toList_ofList]
    rfl
  have read := finish_foldl_lines visible piecesAt_ne_nil inLine []
  rw [intercalate_piecesAt] at read
  rw [records, marked, read, split_eq_piecesAt (c := '\n') rfl, List.filter_map, List.map_map,
    sameLines, sameFields]
  rfl

end TypedTables.Csv
