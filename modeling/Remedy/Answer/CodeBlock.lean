import Remedy.Text.Blank
import Remedy.Text.Search
import Remedy.Text.Word

/-!
# Code blocks

A code block opens with a fence, perhaps a tag of word characters, and at least one blank. Its code
begins after the blanks, has at least one character and reaches to the next fence.
-/

namespace Remedy.Answer

/-- Three backticks. -/
def fence : List Char := "```".toList

/-- Splits before the first fence that follows at least one character; what follows the fence is the
rest. -/
def untilFence : List Char → Option (List Char × List Char)
  | [] => none
  | c :: cs => (Text.cut? fence cs).map fun (code, rest) => (c :: code, rest)

/-- The code after the blanks of an opening. If the blanks are followed by a fence at once and no
other fence comes later, the last of several blanks is the code. -/
def codeAfter (blanks rest : List Char) : Option (List Char × List Char) :=
  match untilFence rest with
  | some found => some found
  | none =>
    match Text.front? fence rest, blanks.reverse with
    | some after, last :: _ :: _ => some ([last], after)
    | _, _ => none

/-- A code block that opens right here: its code and what follows it. -/
def blockHere (cs : List Char) : Option (List Char × List Char) :=
  match Text.front? fence cs with
  | none => none
  | some opened =>
    let tagged := opened.dropWhile Text.isWord
    let blanks := tagged.takeWhile Text.isBlank
    if blanks.isEmpty then none else codeAfter blanks (tagged.dropWhile Text.isBlank)

/-- The code of the blocks from here on, each found after the end of the one before. The fuel bounds
the number of places that are tried. -/
def blocksFrom : Nat → List Char → List (List Char)
  | 0, _ => []
  | _, [] => []
  | fuel + 1, c :: cs =>
    match blockHere (c :: cs) with
    | some (code, rest) => code :: blocksFrom fuel rest
    | none => blocksFrom fuel cs

/-- The code of every block of a text (`code_block_pattern`). -/
def codeBlocks (text : String) : List String :=
  (blocksFrom (text.length + 1) text.toList).map String.ofList

end Remedy.Answer
