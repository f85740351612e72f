/-!
# Lines

A text is a list of lines, each ended by a line break. A carriage return and a newline together are
one break; what stands after the last break is a line only if it is not empty.
-/

namespace Remedy.Text

/-- The characters that end a line. -/
def breaksLine (c : Char) : Bool :=
  ['\n', '\r', '\x0b', '\x0c', '\x1c', '\x1d', '\x1e', '\x85', '\u2028', '\u2029'].contains c

/-- The lines of a list of characters, given the beginning of the first line backwards. -/
def linesFrom : List Char → List Char → List (List Char)
  | line, [] => if line.isEmpty then [] else [line.reverse]
  | line, '\r' :: '\n' :: rest => line.reverse :: linesFrom [] rest
  | line, c :: rest =>
    if breaksLine c then line.reverse :: linesFrom [] rest else linesFrom (c :: line) rest

/-- The lines of a text, without their breaks. -/
def lines (s : String) : List String :=
  (linesFrom [] s.toList).map String.ofList

end Remedy.Text
