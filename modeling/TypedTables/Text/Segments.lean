import TypedTables.Text.Blank

/-!
# Splitting a text at a separator

The pieces between the occurrences of a separator, found from left to right without overlap.  The
empty separator occurs before every character and at the end.
-/

namespace TypedTables.Text

/-- The pieces between the occurrences of the separator `first :: rest`. -/
def piecesAt (first : Char) (rest : List Char) : List Char → List (List Char)
  | [] => [[]]
  | c :: text =>
    if (first :: rest).isPrefixOf (c :: text) then
      [] :: piecesAt first rest (text.drop rest.length)
    else
      consPiece c (piecesAt first rest text)
  termination_by text => text.length
  decreasing_by
    · simp only [List.length_drop, List.length_cons]; omega
    · simp

/-- The pieces of a text between the occurrences of a separator; always at least one piece. -/
def split (separator text : String) : List String :=
  match separator.toList with
  | [] => "" :: text.toList.map (fun c => String.ofList [c]) ++ [""]
  | first :: rest => (piecesAt first rest text.toList).map String.ofList

/-- The lines of a text, each without its line feed and without a carriage return before it; a
line feed at the very end opens no further line. -/
def lines (text : String) : List String :=
  let pieces := piecesBy (· == '\n') text.toList
  let kept := match pieces.getLast? with
    | some [] => pieces.dropLast
    | _ => pieces
  kept.mapIdx fun index piece =>
    let ended := index + 1 < pieces.length
    String.ofList (if ended && piece.getLast? == some '\r' then piece.dropLast else piece)

/-- Every occurrence of one character replaced by another. -/
def replaceChar (old new : Char) (text : String) : String :=
  String.ofList (text.toList.map fun c => if c == old then new else c)

end TypedTables.Text
