import Remedy.Text.Blank
import Remedy.Text.Search

/-!
# Sections of an answer

An answer is expected to have three sections under fixed titles. They are found by the first place
at which each title stands, in any order, and a section reaches to the next title that was found or
to the end of the answer. The end is taken for one more title, so it has a section too.
-/

namespace Remedy.Answer

/-- The title above the reasoning. -/
def reasoningTitle : String := "## Reasoning"

/-- The title above the updated file. -/
def updatedFileTitle : String := "## Updated File"

/-- The title above everything else. -/
def additionalTitle : String := "## Additional Information"

/-- The titles in the order in which they are asked for. -/
def titles : List String := [reasoningTitle, updatedFileTitle, additionalTitle]

/-- The first place of a text in a document. -/
def firstIndex? (document : List Char) (part : String) : Option Nat :=
  (Text.cut? part.toList document).map fun (before, _) => before.length

/-- The titles that occur, each with its first place, in the order of these places. -/
def marks (document : List Char) : List (Nat × String) :=
  (titles.filterMap fun t => (firstIndex? document t).map fun i => (i, t)).mergeSort
    fun a b => a.1 ≤ b.1

/-- The characters from one place up to another. -/
def between (document : List Char) (first last : Nat) : List Char :=
  (document.drop first).take (last - first)

/-- The end of a document, as a mark. -/
def endMark (document : List Char) : Nat × String := (document.length, "end")

/-- The text under a mark, up to the next one and without blanks around it. -/
def underMark (document : List Char) (mark next : Nat × String) : String × String :=
  (mark.2, String.ofList (Text.trimmed (between document (mark.1 + mark.2.length) next.1)))

/-- The sections of a document (`separate_sections`): the text under each mark and under the end,
after which the end comes again. -/
def sections (document : String) : List (String × String) :=
  let cs := document.toList
  let sorted := marks cs ++ [endMark cs]
  List.zipWith (underMark cs) sorted (sorted.tail ++ [endMark cs])

/-- The section under a title, empty if there is none. -/
def sectionOr (found : List (String × String)) (title : String) : String :=
  (found.lookup title).getD ""

end Remedy.Answer
