import TypedTables.Text.CategoryTable

/-!
# General category of a character

The run-length table is unfolded once into the starting points of its runs; a look-up searches the
last run that starts at or before the code point.
-/

namespace TypedTables.Text

/-- One entry of an unfolded run table: a code that holds from `start` to the next entry. -/
structure RunStart where
  start : Nat
  code : String
  deriving Repr, Inhabited

/-- State of unfolding a run table: the code being read, its run length, and the next start. -/
structure RunReader where
  code : List Char
  length : Nat
  next : Nat
  done : Array RunStart

namespace RunReader

def finish (reader : RunReader) : RunReader :=
  if reader.code.isEmpty then reader
  else
    { code := [], length := 0, next := reader.next + reader.length,
      done := reader.done.push ⟨reader.next, String.ofList reader.code.reverse⟩ }

/-- Reads one character: a digit extends the length, a letter the code or begins the next run. -/
def step (reader : RunReader) (c : Char) : RunReader :=
  if c.isDigit then
    { reader with length := 10 * reader.length + (c.toNat - '0'.toNat) }
  else if reader.length == 0 then
    { reader with code := c :: reader.code }
  else
    { reader.finish with code := [c] }

end RunReader

/-- The starting points of the runs that the lines of a table write. -/
def unfoldRuns (table : List String) : Array RunStart :=
  let empty : RunReader := ⟨[], 0, 0, #[]⟩
  let read (reader : RunReader) (line : String) : RunReader :=
    line.toList.foldl RunReader.step reader
  (table.foldl read empty).finish.done

/-- The last entry in `low ≤ index < high` that starts at or before a code point. -/
def searchRuns (runs : Array RunStart) (code : Nat) (low high : Nat) : Nat :=
  if high ≤ low + 1 then low
  else
    let middle := (low + high) / 2
    match runs[middle]? with
    | some run =>
      if run.start ≤ code then searchRuns runs code middle high
      else searchRuns runs code low middle
    | none => low
  termination_by high - low
  decreasing_by all_goals omega

/-- The code of the run that a code point lies in. -/
def runCode (runs : Array RunStart) (code : Nat) : String :=
  match runs[searchRuns runs code 0 runs.size]? with
  | some run => run.code
  | none => ""

def categoryStarts : Array RunStart :=
  unfoldRuns categoryRuns

/-- The two-letter general category of a character. -/
def category (c : Char) : String :=
  runCode categoryStarts c.toNat

/-- Whether a code point lies in one of the given inclusive ranges. -/
def inRanges (ranges : List (Nat × Nat)) (code : Nat) : Bool :=
  ranges.any fun range => range.1 ≤ code && code ≤ range.2

/-- Letters and marks that count as lower-case beside the category `Ll`. -/
def otherLowercase : List (Nat × Nat) := [
  (0xAA, 0xAA), (0xBA, 0xBA), (0x2B0, 0x2B8), (0x2C0, 0x2C1), (0x2E0, 0x2E4), (0x345, 0x345),
  (0x37A, 0x37A), (0x10FC, 0x10FC), (0x1D2C, 0x1D6A), (0x1D78, 0x1D78), (0x1D9B, 0x1DBF),
  (0x2071, 0x2071), (0x207F, 0x207F), (0x2090, 0x209C), (0x2170, 0x217F), (0x24D0, 0x24E9),
  (0x2C7C, 0x2C7D), (0xA69C, 0xA69D), (0xA770, 0xA770), (0xA7F2, 0xA7F4), (0xA7F8, 0xA7F9),
  (0xAB5C, 0xAB5F), (0xAB69, 0xAB69), (0x10780, 0x10780), (0x10783, 0x10785), (0x10787, 0x107B0),
  (0x107B2, 0x107BA), (0x1E030, 0x1E06D)]

/-- Letters and symbols that count as upper-case beside the category `Lu`. -/
def otherUppercase : List (Nat × Nat) := [
  (0x2160, 0x216F), (0x24B6, 0x24CF), (0x1F130, 0x1F149), (0x1F150, 0x1F169), (0x1F170, 0x1F189)]

/-- Punctuation inside words that casing looks past. -/
def midWordPunctuation : List (Nat × Nat) := [
  (0x27, 0x27), (0x2E, 0x2E), (0x3A, 0x3A), (0xB7, 0xB7), (0x387, 0x387), (0x55F, 0x55F),
  (0x5F4, 0x5F4), (0x2018, 0x2019), (0x2024, 0x2024), (0x2027, 0x2027), (0xFE13, 0xFE13),
  (0xFE52, 0xFE52), (0xFE55, 0xFE55), (0xFF07, 0xFF07), (0xFF0E, 0xFF0E), (0xFF1A, 0xFF1A)]

/-- Spacing marks that extend a grapheme beside the categories `Mn` and `Me`. -/
def otherGraphemeExtend : List (Nat × Nat) := [
  (0x9BE, 0x9BE), (0x9D7, 0x9D7), (0xB3E, 0xB3E), (0xB57, 0xB57), (0xBBE, 0xBBE), (0xBD7, 0xBD7),
  (0xCC2, 0xCC2), (0xCD5, 0xCD6), (0xD3E, 0xD3E), (0xD57, 0xD57), (0xDCF, 0xDCF), (0xDDF, 0xDDF),
  (0x1B35, 0x1B35), (0x200C, 0x200C), (0x302E, 0x302F), (0xFF9E, 0xFF9F), (0x1133E, 0x1133E),
  (0x11357, 0x11357), (0x114B0, 0x114B0), (0x114BD, 0x114BD), (0x115AF, 0x115AF),
  (0x11930, 0x11930), (0x1D165, 0x1D165), (0x1D16E, 0x1D172), (0xE0020, 0xE007F)]

/-- A character with the property `Lowercase`. -/
def isLowercase (c : Char) : Bool :=
  category c == "Ll" || inRanges otherLowercase c.toNat

/-- A character with the property `Uppercase`. -/
def isUppercase (c : Char) : Bool :=
  category c == "Lu" || inRanges otherUppercase c.toNat

/-- A character with the property `Cased`. -/
def isCased (c : Char) : Bool :=
  isLowercase c || isUppercase c || category c == "Lt"

/-- A character with the property `Case_Ignorable`. -/
def isCaseIgnorable (c : Char) : Bool :=
  ["Mn", "Me", "Cf", "Lm", "Sk"].contains (category c) || inRanges midWordPunctuation c.toNat

def isDecimalDigit (c : Char) : Bool :=
  if c.toNat < 0x80 then c.isDigit else category c == "Nd"

/-- A word character: a letter, mark, decimal digit, connector or join control. -/
def isWordChar (c : Char) : Bool :=
  if c.toNat < 0x80 then c.isAlphanum || c == '_'
  else
    ["Lu", "Ll", "Lt", "Lm", "Lo", "Nl", "Mn", "Mc", "Me", "Nd", "Pc"].contains (category c) ||
      inRanges [(0x24B6, 0x24E9), (0x1F130, 0x1F149), (0x1F150, 0x1F169), (0x1F170, 0x1F189),
        (0x200C, 0x200D)] c.toNat

/-- The categories of characters that do not show up in print. -/
def unprintedCategories : List String := ["Cc", "Cf", "Cs", "Co", "Cn", "Zl", "Zp", "Zs"]

/-- A character that shows up in print: neither a control, a format character, a surrogate, a
private or unassigned code point, nor a separator other than the plain space. -/
def isPrintable (c : Char) : Bool :=
  if c.toNat < 0x7F then 0x20 ≤ c.toNat else !unprintedCategories.contains (category c)

/-- A character with the property `Grapheme_Extend`. -/
def extendsGrapheme (c : Char) : Bool :=
  0x80 ≤ c.toNat &&
    (["Mn", "Me"].contains (category c) || inRanges otherGraphemeExtend c.toNat)

end TypedTables.Text
