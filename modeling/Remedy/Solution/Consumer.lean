import Remedy.Solution.Basic
import Remedy.Config.Kinds
import Remedy.Prompt.Texts

/-!
# Showing solutions

The text that shows a solved example in a prompt. Several ways of showing it can be combined; their
texts then follow each other on new lines.
-/

namespace Remedy

/-- How solutions are shown: in one way, in several, or in a way that is not known. -/
inductive ConsumerChoice where
  | one (kind : ConsumerKind)
  | several (choices : List ConsumerChoice)
  | unknown (name : String)

namespace ConsumerChoice

/-- The choice of the ways in a configuration. -/
def ofKinds (kinds : List ConsumerKind) : ConsumerChoice :=
  .several (kinds.map .one)

/-- The choice that a word stands for. -/
def ofWord (word : String) : ConsumerChoice :=
  match ConsumerKind.all.find? fun k => k.word == word with
  | some kind => .one kind
  | none => .unknown word

mutual

/-- Reads a choice. -/
def decode : Json → ConsumerChoice
  | .arr items => .several (decodeAll items)
  | .str s => ofWord s
  | .null => .unknown (Json.display .null)
  | .bool b => .unknown (Json.display (.bool b))
  | .int n => .unknown (Json.display (.int n))
  | .real x => .unknown (Json.display (.real x))
  | .obj fields => .unknown (Json.display (.obj fields))

/-- Reads choices. -/
def decodeAll : List Json → List ConsumerChoice
  | [] => []
  | v :: vs => decode v :: decodeAll vs

end

/-- How the texts that show solutions are laid out. -/
def layout : TemplateLayout := {}

/-- Fills in a template about a solution. -/
def fill (template : Template) (s : Solution) : Outcome String :=
  Template.render layout template [("solution", s.encode)]

/-- The text for one way of showing a solution. Without a summary there is nothing to show of it. -/
def showOne (s : Solution) : ConsumerKind → Outcome String
  | .diffOnly => fill Prompt.diffOnly s
  | .beforeAndAfter => fill Prompt.beforeAndAfter s
  | .llmSummary =>
    match s.summary with
    | some _ => fill Prompt.summaryOnly s
    | none => .ok ""

mutual

/-- The text that shows a solution (`solution_consumer_factory`). -/
def consume (s : Solution) : ConsumerChoice → Outcome String
  | .one kind => showOne s kind
  | .several choices => (consumeAll s choices).map (Text.join "\n")
  | .unknown name => .error (.badValue ("Unknown solution consumer kind: " ++ name))

/-- The texts for several choices. -/
def consumeAll (s : Solution) : List ConsumerChoice → Outcome (List String)
  | [] => .ok []
  | c :: cs => do
    let first ← consume s c
    let rest ← consumeAll s cs
    return first :: rest

end

end ConsumerChoice
end Remedy
