import Remedy.Solution.Basic
import Remedy.Config.Kinds
import Remedy.Language
import Remedy.Model.Dialogue
import Remedy.Path
import Remedy.Prompt.Texts
import Remedy.Report.Location
import Remedy.Repository
import Remedy.Store.Row

/-!
# Making solutions

A solution is made from the repository when an incident is found to be solved. A summary is wanted
only by some producers and is made by a model when the solution is first used.
-/

namespace Remedy.Producer

/-- Reads the name of a producer (`solution_producer_factory`). -/
def ofName (name : Json) : Outcome ProducerKind :=
  match ProducerKind.all.find? fun k => name = .str k.word with
  | some kind => .ok kind
  | none => .error (.badValue ("Unknown solution producer kind: " ++ name.display))

/-- The solution of an incident between two commits. A file that is not there counts as empty, but the
differences must be available. -/
def produceText (repo : Repository) (old new : Option String) (row : IncidentRow) :
    GitAction Solution := do
  let path ← Action.ofOutcome (Location.ofEscapedUri row.uri)
  let codeBefore ← repo.contentOrEmpty (Repository.fileAt old path)
  let codeAfter ← repo.contentOrEmpty (Repository.fileAt new path)
  let fileDiff ← repo.differences old new (Path.join repo.directory path)
  return { uri := row.uri, fileDiff, codeBefore, codeAfter }

/-- Marks whether a summary is wanted. -/
def wanting (kind : ProducerKind) (s : Solution) : Solution :=
  match kind with
  | .textOnly => s
  | .llmLazy => { s with summaryGenerated := some false }

/-- Makes the solution of an incident (`produce_one`). -/
def produce (kind : ProducerKind) (repo : Repository) (old new : Option String) (row : IncidentRow) :
    GitAction Solution := do
  return wanting kind (← produceText repo old new row)

/-- Makes the solutions of several incidents (`produce_many`). -/
def produceAll (kind : ProducerKind) (repo : Repository) (old new : Option String) :
    List IncidentRow → GitAction (List Solution)
  | [] => return []
  | row :: rest => do
    let first ← produce kind repo old new row
    let others ← produceAll kind repo old new rest
    return first :: others

/-- What summaries are made with. -/
structure SummaryStyle where
  guesser : Guesser
  llamaHeader : Bool

/-- The values for the prompt that asks for a summary. -/
def summaryValues (style : SummaryStyle) (row : IncidentRow) (s : Solution) : Fields :=
  let name := some (Path.baseName s.uri)
  [("model_provider", .obj [("llama_header", .bool style.llamaHeader)]),
   ("src_file_name", .str s.uri),
   ("src_file_language", .str (style.guesser.guess s.codeBefore name)),
   ("src_file_contents", .str s.codeBefore),
   ("incident",
     .obj [("analysis_message", .str row.message), ("line_number", .int row.line)]),
   ("sln_file_name", .str s.uri),
   ("sln_file_language", .str (style.guesser.guess s.codeAfter name)),
   ("sln_file_contents", .str s.codeAfter)]

/-- The prompt that asks for a summary. -/
def summaryPrompt (style : SummaryStyle) (row : IncidentRow) (s : Solution) : Outcome String :=
  Template.render {} Prompt.summary (summaryValues style row s)

/-- Makes the summary of a solution, unless it has been made. -/
def summarize (style : SummaryStyle) (row : IncidentRow) (s : Solution) :
    Action Dialogue Solution := do
  if s.summaryGenerated == some true then return s
  let prompt ← Action.ofOutcome (summaryPrompt style row s)
  let summary ← Dialogue.ask prompt
  return { s with summaryGenerated := some true, summary := some summary }

/-- Completes a solution that is about to be used (`post_process_one`). -/
def finish (kind : ProducerKind) (style : SummaryStyle) (row : IncidentRow) (s : Solution) :
    Action Dialogue Solution :=
  match kind with
  | .textOnly => return s
  | .llmLazy => summarize style row s

/-- Completes several solutions in order (`post_process_many`). If completing one fails, those before
it stay complete and the rest stay as they are. -/
def finishMany (kind : ProducerKind) (style : SummaryStyle) :
    List (IncidentRow × Solution) → Dialogue →
      Outcome Unit × List (IncidentRow × Solution) × Dialogue
  | [], d => (.ok (), [], d)
  | (row, s) :: rest, d =>
    match (finish kind style row s).exec d with
    | (.ok done, d') =>
      let (result, others, d'') := finishMany kind style rest d'
      (result, (row, done) :: others, d'')
    | (.error e, d') => (.error e, (row, s) :: rest, d')

/-- Completes several solutions again and again; gives what came of each round. -/
def finishRounds (kind : ProducerKind) (style : SummaryStyle) :
    Nat → List (IncidentRow × Solution) → Dialogue → List (Outcome (List Solution)) × Dialogue
  | 0, _, d => ([], d)
  | n + 1, solutions, d =>
    let (result, after, d') := finishMany kind style solutions d
    let (results, last) := finishRounds kind style n after d'
    (result.map (fun _ => after.map Prod.snd) :: results, last)

end Remedy.Producer
