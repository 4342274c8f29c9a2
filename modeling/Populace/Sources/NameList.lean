import Populace.Sources.Stream

/-!
Lists of names: the first column of a file with commas between its fields.
-/

namespace Populace.Sources

/-- Adds the name of a row in front, unless it is empty or the header. -/
def readName (header : String) (names : List String) (row : Rows.Row) :
    Except Failure (List String) := do
  let name ← fieldText row 0
  return if name = "" ∨ name = header then names else name :: names

/-- The names, in the order of the file. -/
def readNames (header : String) (s : Stream) : Except Failure (List String) :=
  (s.foldRows Rows.comma (readName header) []).map List.reverse

end Populace.Sources
