/-!
# Blank characters

The characters that count as white space at the ends of a text and around the code of a code block:
every separator and line break of any script, and the four information separators.
-/

namespace Remedy.Text

/-- A space, a tab, a line break or another separator. -/
def isBlank (c : Char) : Bool :=
  let n := c.toNat
  (9 ≤ n && n ≤ 13) || (28 ≤ n && n ≤ 32) || n == 0x85 || n == 0xa0 || n == 0x1680 ||
    (0x2000 ≤ n && n ≤ 0x200a) || n == 0x2028 || n == 0x2029 || n == 0x202f || n == 0x205f ||
    n == 0x3000

/-- Drops the blanks in front. -/
def trimFront (cs : List Char) : List Char :=
  cs.dropWhile isBlank

/-- Drops the blanks at the end. -/
def trimBack (cs : List Char) : List Char :=
  (cs.reverse.dropWhile isBlank).reverse

/-- Drops the blanks at both ends. -/
def trimmed (cs : List Char) : List Char :=
  trimBack (trimFront cs)

/-- A text without the blanks at its ends. -/
def strip (s : String) : String :=
  String.ofList (trimmed s.toList)

end Remedy.Text
