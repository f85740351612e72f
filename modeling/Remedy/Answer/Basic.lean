import Remedy.Answer.Sections
import Remedy.Answer.CodeBlock
import Remedy.Language
import Remedy.Json.Basic

/-!
# Answers

What an answer of a model says about a file: the reasoning, the updated file and anything else. The
updated file is the first code block in the language of the file; if no block is in that language,
the first block as it stands.
-/

namespace Remedy

/-- What an answer says about a file (`FileSolutionContent`). -/
structure FileAnswer where
  reasoning : String
  updatedFile : String
  additional : String
deriving DecidableEq

namespace Answer

/-- Picks the updated file from the code blocks of an answer. -/
def pickBlock (g : Guesser) (language : String) (blocks : List String) : String :=
  match blocks.find? fun block => g.ofText block == language with
  | some block => Text.strip block
  | none => blocks.head?.getD ""

/-- Reads an answer about a file in the given language (`parse_file_solution_content`). -/
def parse (g : Guesser) (language content : String) : FileAnswer :=
  let found := sections content
  { reasoning := sectionOr found reasoningTitle
    updatedFile := pickBlock g language (codeBlocks (sectionOr found updatedFileTitle))
    additional := sectionOr found additionalTitle }

end Answer

/-- What an answer says, as a value. -/
def FileAnswer.encode (a : FileAnswer) : Json :=
  .obj [("reasoning", .str a.reasoning), ("updated_file", .str a.updatedFile),
        ("additional_info", .str a.additional)]

end Remedy
