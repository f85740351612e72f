import Remedy.Answer.Basic
import Remedy.Json.Writer
import Remedy.Report.Decode
import Remedy.Report.Encode
import Remedy.Service.Basic
import Remedy.Trace

/-!
# Solving the incidents of a file

The incidents of a file are given to the model batch by batch, together with the file as the batch
before left it and with solved examples. The model is asked again if it fails or gives no file, up to
a number of attempts; if none succeeds, the file cannot be migrated.
-/

namespace Remedy

/-- A request to solve the incidents of a file. -/
structure FileRequest where
  fileName : String
  contents : String
  application : String
  incidents : List ExtendedIncident
  mode : BatchMode := .singleGroup
  /-- Solved examples are shown to the model. -/
  withExamples : Bool := true
  /-- The answers of the model are part of the result. -/
  withAnswers : Bool := false
deriving DecidableEq

/-- What became of a file (`UpdatedFileContent`). -/
structure UpdatedFile where
  contents : String
  reasoning : List String := []
  prompts : List String := []
  modelId : String
  additional : List String := []
  answers : Option (List String) := none
deriving DecidableEq

namespace FileRequest

open Decode

/-- Reads a request. -/
def decode (v : Json) : Outcome FileRequest := do
  let fields ← object v
  return {
    fileName := ← required fields ["file_name"] text
    contents := ← required fields ["file_contents"] text
    application := ← required fields ["application_name"] text
    incidents := ← required fields ["incidents"] (listOf ExtendedIncident.decode)
    mode := ← withDefault fields ["batch_mode"] BatchMode.decode .singleGroup
    withExamples := ← withDefault fields ["include_solved_incidents"] bool true
    withAnswers := ← withDefault fields ["include_llm_results"] bool false }

/-- As a value. -/
def encode (r : FileRequest) : Json :=
  .obj
    [("file_name", .str r.fileName), ("file_contents", .str r.contents),
     ("application_name", .str r.application),
     ("incidents", .arr (r.incidents.map ExtendedIncident.encode)),
     ("batch_mode", .str r.mode.word), ("include_solved_incidents", .bool r.withExamples),
     ("include_llm_results", .bool r.withAnswers)]

end FileRequest

/-- As a value. -/
def UpdatedFile.encode (u : UpdatedFile) : Json :=
  .obj
    [("updated_file", .str u.contents), ("total_reasoning", Json.texts u.reasoning),
     ("used_prompts", Json.texts u.prompts), ("model_id", .str u.modelId),
     ("additional_information", Json.texts u.additional),
     ("llm_results", encodeOption Json.texts u.answers)]

namespace Service

/-- The identifier of the model, which must be a text. -/
def modelId (setup : ServiceSetup) : Outcome String :=
  match setup.model.id with
  | .str id => .ok id
  | _ => .error .wrongKind

/-- The trace of a request. -/
def traceOf (setup : ServiceSetup) (r : FileRequest) : Action Service Trace := do
  let id ← Action.ofOutcome (modelId setup)
  return Trace.ofRequest setup.traceEnabled (← get).host.workingDirectory setup.logDir id
    r.application r.fileName r.mode.word

/-- The incident as the prompt is given it: with the text of a solved example, if there is one and it
says something. -/
def describeIncident (setup : ServiceSetup) (withExamples : Bool) (i : ExtendedIncident) :
    Action Service Json := do
  if withExamples then
    let found ← lookUp setup.finder ⟨i.ruleset, i.violation, i.vars, some i.snippet⟩
    let shown := ExtendedIncident.fields { i with vars := setup.finder.kept i.vars }
    match found with
    | [] => return .obj shown
    | first :: _ =>
      let solved ← Action.ofOutcome (ConsumerChoice.consume first setup.consumer)
      if solved.isEmpty then return .obj shown
      else return .obj (Fields.set shown "solution_str" (.str solved))
  else return i.encode

/-- The values of the prompt for a batch. -/
def batchValues (model : Model) (fileName language contents : String) (incidents : List Json) :
    Fields :=
  [("src_file_name", .str fileName), ("src_file_language", .str language),
   ("src_file_contents", .str contents), ("incidents", .arr incidents),
   (Trace.modelValue, model.forTemplates)]

/-- The failure when an answer has no updated file. -/
def noUpdatedFile (fileName : String) : Failure :=
  .told ("Error in LLM Response: The LLM did not provide an updated file for " ++ fileName)

/-- One answer of the model to the prompt of a batch. -/
structure BatchAnswer where
  answer : String
  file : FileAnswer

/-- The file so far, after a batch was solved. -/
def extended (soFar : UpdatedFile) (prompt : String) (got : BatchAnswer) : UpdatedFile :=
  { soFar with
    contents := got.file.updatedFile
    reasoning := soFar.reasoning ++ [got.file.reasoning]
    prompts := soFar.prompts ++ [prompt]
    additional := soFar.additional ++ [got.file.additional]
    answers := soFar.answers.map (· ++ [got.answer]) }

/-- Asks the model once. -/
def askOnce (setup : ServiceSetup) (trace : Trace) (fileName language prompt : String)
    (batch attempt : Int) : Action Service BatchAnswer := do
  let answer ← ask prompt
  onHost (trace.recordAnswer batch attempt (setup.runtime.shown answer))
  let file := Answer.parse setup.guesser language answer
  if file.updatedFile.isEmpty then throw (noUpdatedFile fileName)
  return ⟨answer, file⟩

/-- One attempt to solve a batch: the file that it leaves, and how it ended. The answer is part of the
file before the tape is saved, and stays there if that fails. -/
def attemptOnce (setup : ServiceSetup) (trace : Trace) (r : FileRequest) (language prompt : String)
    (batch attempt : Int) (soFar : UpdatedFile) : Action Service (UpdatedFile × Outcome Unit) := do
  let asked := playing setup.runtime.deck (tapeOf setup r.application r.fileName)
    (askOnce setup trace r.fileName language prompt batch attempt)
  match ← asked.attempt with
  | .ok (got, saved) => return (extended soFar prompt got, saved)
  | .error e => return (soFar, .error e)

/-- Makes attempts until one succeeds, a limited number of times. Each failure is traced and
followed by a pause. -/
def askUpTo (setup : ServiceSetup) (trace : Trace) (r : FileRequest) (language prompt : String)
    (batch : Int) : Nat → Int → UpdatedFile → Action Service UpdatedFile
  | 0, _, _ => throw .migrationFailed
  | left + 1, attempt, soFar => do
    let (file, ended) ← attemptOnce setup trace r language prompt batch attempt soFar
    match ended with
    | .ok _ => return file
    | .error e =>
      onHost (trace.recordFailure batch attempt e.text (setup.runtime.origin e))
      onHost (Host.sleep setup.model.retryDelay)
      askUpTo setup trace r language prompt batch left (attempt + 1) file

/-- Solves the incidents of one batch in the file as it stands. -/
def solveBatch (setup : ServiceSetup) (trace : Trace) (r : FileRequest) (language : String)
    (batch : Int) (incidents : List ExtendedIncident) (soFar : UpdatedFile) :
    Action Service UpdatedFile := do
  let described ← incidents.mapM (describeIncident setup r.withExamples)
  let values := batchValues setup.model r.fileName language soFar.contents described
  let text ← Action.ofOutcome (prompt setup values)
  onHost (trace.recordPrompt batch text values)
  askUpTo setup trace r language text batch setup.model.retries.toNat 0 soFar

/-- Solves batches one after the other, numbered from the given one. -/
def solveBatches (setup : ServiceSetup) (trace : Trace) (r : FileRequest) (language : String) :
    Int → List (List ExtendedIncident) → UpdatedFile → Action Service UpdatedFile
  | _, [], soFar => return soFar
  | batch, incidents :: rest, soFar => do
    let next ← solveBatch setup trace r language batch incidents soFar
    solveBatches setup trace r language (batch + 1) rest next

/-- Solves the incidents of a file, with the given trace (`get_incident_solutions_for_file`). -/
def solveTraced (setup : ServiceSetup) (trace : Trace) (r : FileRequest) :
    Action Service UpdatedFile := do
  let language := setup.guesser.guess r.contents (some r.fileName)
  let modelId ← Action.ofOutcome (modelId setup)
  solveBatches setup trace r language 1 (Batch.ofIncidents setup.runtime.order r.mode r.incidents)
    { contents := r.contents, modelId, answers := if r.withAnswers then some [] else none }

/-- Solves the incidents of a file (`get_incident_solutions_for_file`). -/
def solveFile (setup : ServiceSetup) (r : FileRequest) : Action Service UpdatedFile := do
  solveTraced setup (← traceOf setup r) r

end Service
end Remedy
