/-!
# White space

White space is the Unicode property of that name.  A cell whose text has nothing but white space
counts as blank, names are trimmed of it, and lists inside a cell are separated by it.
-/

namespace TypedTables.Text

/-- A character with the Unicode property `White_Space`. -/
def isBlank (c : Char) : Bool :=
  let code := c.toNat
  (0x9 ≤ code && code ≤ 0xD) || code == 0x20 || code == 0x85 || code == 0xA0 || code == 0x1680 ||
    (0x2000 ≤ code && code ≤ 0x200A) || code == 0x2028 || code == 0x2029 || code == 0x202F ||
    code == 0x205F || code == 0x3000

/-- The characters without the white space at their end. -/
def dropBlankEnd : List Char → List Char
  | [] => []
  | c :: rest =>
    match dropBlankEnd rest with
    | [] => if isBlank c then [] else [c]
    | kept => c :: kept

/-- The text without the white space at its end. -/
def trimEnd (text : String) : String :=
  String.ofList (dropBlankEnd text.toList)

/-- The text without the white space at both ends. -/
def trim (text : String) : String :=
  String.ofList (dropBlankEnd (text.toList.dropWhile isBlank))

def isBlankText (text : String) : Bool :=
  text.toList.all isBlank

/-- Puts a character in front of the first piece. -/
def consPiece (c : Char) : List (List Char) → List (List Char)
  | [] => [[c]]
  | piece :: pieces => (c :: piece) :: pieces

/-- The pieces between the characters that satisfy `stop`, empty ones included. -/
def piecesBy (stop : Char → Bool) : List Char → List (List Char)
  | [] => [[]]
  | c :: rest => if stop c then [] :: piecesBy stop rest else consPiece c (piecesBy stop rest)

/-- The maximal runs of characters that are not white space, in order. -/
def words (text : String) : List String :=
  ((piecesBy isBlank text.toList).filter (fun piece => !piece.isEmpty)).map String.ofList

end TypedTables.Text
