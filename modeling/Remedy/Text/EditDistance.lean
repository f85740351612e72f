import Remedy.Text.Search

/-!
# Edit distance

How many characters have to be inserted, deleted or replaced to turn one text into the other. The
distances of all beginnings of the shorter text to a beginning of the longer one form a row, and
each character of the longer text gives the next row.
-/

namespace Remedy.Text

/-- The rest of a row, to the right of the entry `left`. The row above gives for each character of
the shorter text the entries above and diagonally above. -/
def extendRow (c : Char) : Nat → List Char → List Nat → List Nat
  | left, d :: ds, diagonal :: above :: row =>
    let entry := if d = c then diagonal else 1 + min (min diagonal above) left
    entry :: extendRow c entry ds (above :: row)
  | _, _, _ => []

/-- The row after `row`, for the next character of the longer text. -/
def nextRow (shorter : List Char) (row : List Nat) (c : Char) : List Nat :=
  let first := row.headD 0 + 1
  first :: extendRow c first shorter row

/-- The distances of all beginnings of the shorter text to the longer one. -/
def lastRow (shorter longer : List Char) : List Nat :=
  longer.foldl (nextRow shorter) (List.range (shorter.length + 1))

/-- The edit distance of two lists of characters. -/
def editDistanceChars (a b : List Char) : Nat :=
  let (shorter, longer) := if a.length > b.length then (b, a) else (a, b)
  (lastRow shorter longer).getLastD 0

/-- The edit distance of two texts (`levenshtein_distance`). -/
def editDistance (a b : String) : Nat :=
  editDistanceChars a.toList b.toList

end Remedy.Text
