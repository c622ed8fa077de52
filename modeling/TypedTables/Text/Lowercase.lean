import TypedTables.Text.CaseTable
import TypedTables.Text.Category

/-!
# Lower case of a text

The full Unicode mapping: one character at a time by the simple mapping, except that `İ` becomes
two characters and that a capital sigma at the end of a word becomes the final sigma.
-/

namespace TypedTables.Text

/-- The image of a character under the first run that covers it, or the character itself. -/
def mapCase (runs : List CaseRun) (c : Char) : Char :=
  match runs.find? (·.covers c.toNat) with
  | some run => Char.ofNat (run.image c.toNat)
  | none => c

/-- The simple lower-case mapping of one character. -/
def lowerChar (c : Char) : Char :=
  if c.toNat < 0x80 then c.toLower else mapCase lowercaseRuns c

/-- Whether the first character that casing does not look past is cased. -/
def meetsCased (context : List Char) : Bool :=
  match context.dropWhile isCaseIgnorable with
  | [] => false
  | c :: _ => isCased c

/-- Lower-cases characters, given those before them in reverse order. -/
def lowerChars (before : List Char) : List Char → List Char
  | [] => []
  | c :: rest =>
    let image :=
      if c == 'Σ' then
        if meetsCased before && !meetsCased rest then ['ς'] else ['σ']
      else if c == 'İ' then ['i', '\u0307']
      else [lowerChar c]
    image ++ lowerChars (c :: before) rest

def lowercase (text : String) : String :=
  String.ofList (lowerChars [] text.toList)

/-- The representative of a character's case variants under simple case folding. -/
def foldChar (c : Char) : Char :=
  if c.toNat < 0x80 then c.toLower else mapCase foldingRuns c

/-- Every character with the same folding as the given one, itself among them. -/
def caseVariants (c : Char) : List Char :=
  let folded := foldChar c
  folded :: (foldingRuns.filterMap fun run => (run.preimage? folded.toNat).map Char.ofNat)

end TypedTables.Text
