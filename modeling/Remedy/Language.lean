import Remedy.Text.Search

/-!
# Guessing the language of a text

A guesser finds the language of a file by its name and its text, or of a text alone. How it does so is
left open. A text whose language is not found is in an unknown one.
-/

namespace Remedy

/-- How languages are found. -/
structure Guesser where
  /-- The language of a file, by its name and its text (`guess_lexer_for_filename`). -/
  ofFile? : String → String → Option String
  /-- The language of a text (`guess_lexer`). -/
  ofText? : String → Option String

namespace Guesser

/-- A guesser that finds nothing. -/
instance : Inhabited Guesser := ⟨⟨fun _ _ => none, fun _ => none⟩⟩

/-- The answer when nothing is found. -/
def unknown : String := "unknown"

/-- The language of a text. -/
def ofText (g : Guesser) (code : String) : String :=
  (g.ofText? code).getD unknown

/-- The language of a file if its name is given, otherwise of the text (`guess_language`). -/
def guess (g : Guesser) (code : String) (name : Option String) : String :=
  match name with
  | some n => if n.isEmpty then g.ofText code else (g.ofFile? n code).getD unknown
  | none => g.ofText code

end Guesser
end Remedy
