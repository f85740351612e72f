import Remedy.Answer.Basic
import Remedy.Benchmark.Example
import Remedy.Service.Assembly
import Remedy.Service.File
import Remedy.Store.Encode
import Remedy.Store.Load
import Remedy.Text.EditDistance

/-!
# Benchmarks

A benchmark asks the models of several configurations to solve the incidents of examples, and measures
how far each answer is from the file that is expected. The examples are loaded once: what solving one
changes in it is still changed when the next configuration comes to it.
-/

namespace Remedy.Benchmark

/-- How a model did on an example (`BenchmarkResult`). -/
structure Result where
  /-- The number of characters to change to reach what is expected. -/
  distance : Nat
  prompt : String
  answer : String
deriving DecidableEq, Repr

/-- The result of an example under a configuration. -/
structure Entry where
  exampleName : String
  config : String
  result : Result
deriving DecidableEq, Repr

/-- What a benchmark works with. -/
structure Setup where
  around : Surroundings
  /-- The directory of the examples. -/
  examples : String
  /-- The repository that is opened at a local address. It may be that of the example, so it depends on
  whether the example is a repository then. -/
  repository : Bool → String → Repository
  source : Detection.SourceKnowledge
  /-- A store of the kind that reports of examples are loaded into. -/
  store : Store := {}
  /-- The talk with a model. -/
  talk : Model → Dialogue := Model.dialogue

/-- What a benchmark changes. -/
structure State where
  host : Host := {}
  dialogue : Dialogue := Dialogue.silent
  /-- The examples that were made into repositories, in order. -/
  initialized : List String := []

/-- An action on the host. -/
def onHost {α : Type} (a : Action Host α) : Action State α :=
  Action.onPart State.host (fun s host => { s with host }) a

/-- The directory that makes an example a repository. -/
def Setup.markerOf (setup : Setup) (name : String) : String :=
  Path.join (Path.join setup.examples name) ".git"

/-- Runs an action while an example is a repository. If it was none, it is none afterwards. -/
def asRepository {α : Type} (setup : Setup) (name : String) (a : Action State α) :
    Action State α := do
  if ← onHost (Host.pathExists (setup.markerOf name)) then a
  else
    onHost (Host.makeDirs (setup.markerOf name))
    modify fun s => { s with initialized := s.initialized ++ [name] }
    a.andAlways (onHost (Host.removeDir (setup.markerOf name)))

/-- The examples that are repositories. -/
def repositoriesIn (setup : Setup) (t : FileTree) : List String :=
  ((t.list setup.examples).toOption.getD []).filter fun name =>
    t.pathExists (Path.joinAll setup.examples [name, ".git"])

/-- The store with the report of an example, which is a repository or not. -/
def storeOf (setup : Setup) (isRepository : Bool) (e : Example) : Outcome Store := do
  match e.application, e.report with
  | some columns, some report =>
    let load := Store.load
      { detector := .naive, producer := .textOnly, repository := setup.repository isRepository
        source := setup.source }
      (Application.ofColumns (.obj columns)) report
    match load.exec setup.store.emptied with
    | (.ok _, store) => .ok store
    | (.error e, _) => .error e
  | _, _ => .error .missingMember

/-- An incident as the prompt is given it, with the first solved example that the store has. -/
def describeIncident (setup : Setup) (store : Store) (incident : ExtendedIncident × Nat) :
    Outcome Json := do
  let (i, number) := incident
  let query : Store.Query := ⟨i.ruleset, i.violation, i.vars, some i.snippet⟩
  let style : Producer.SummaryStyle := { guesser := setup.around.guesser, llamaHeader := false }
  let found ← ((Store.find .textOnly style query).exec { store }).1
  let shown : Fields :=
    [("issue_number", .int number), ("uri", .str i.uri), ("analysis_message", .str i.message),
     ("code_snip", .str i.snippet), ("line_number", .int i.line),
     ("variables", .obj (Location.withoutPlace i.vars))]
  match found with
  | [] => return .obj shown
  | first :: _ =>
    return .obj (shown ++ [("solved_example_diff", .str first.fileDiff),
      ("solved_example_file_name", .str first.uri)])

/-- The prompt for an example, and the language of its file. -/
def promptOf (setup : Setup) (isRepository : Bool) (model : Model) (e : Example) :
    Outcome (String × String) := do
  let store ← storeOf setup isRepository e
  let some incidents := e.incidents | throw .wrongKind
  let described ← (incidents.zipIdx 1).mapM (describeIncident setup store)
  let some contents := e.before | throw .wrongKind
  let language := setup.around.guesser.guess contents none
  let some first := incidents.head? | throw .outOfRange
  let values := Service.batchValues model first.uri language contents described
  return (← Service.promptFrom setup.around.templates model values, language)

/-- The example as solving it leaves it: loading its report and looking up its incidents drop the
variables that say where an incident is. -/
def Example.placeless (e : Example) : Example :=
  { e with
    report := e.report.map fun r => { r with rulesets := r.rulesets.map Store.placelessRuleset }
    incidents := e.incidents.map fun is =>
      is.map fun i => { i with vars := Location.withoutPlace i.vars } }

/-- How many characters of the beginning of a prompt are shown. -/
def shownLength : Nat := 15

/-- Asks a model to solve an example and judges its answer; gives the example as this leaves it. -/
def solve (setup : Setup) (model : Model) (config : String) (e : Example) :
    Action State (Result × Example) := do
  let isRepository ← onHost (Host.pathExists (setup.markerOf e.name))
  let (prompt, language) ← Action.ofOutcome (promptOf setup isRepository model e)
  onHost (Host.printLine
    (e.name ++ " - " ++ config ++ "\n" ++ Text.slice prompt 0 shownLength ++ "...\n"))
  let answer ← Action.onPart State.dialogue (fun s dialogue => { s with dialogue })
    (Dialogue.ask prompt)
  let updated := (Answer.parse setup.around.guesser language answer).updatedFile
  let some expected := e.expected | throw .wrongKind
  return ({ distance := Text.editDistance expected updated, prompt, answer }, e.placeless)

/-- Solves the examples under one configuration; gives the examples as this leaves them. -/
def evaluateConfig (setup : Setup) (examples : List Example) (config : String × ModelConfig) :
    Action State (List Entry × List Example) := do
  let model ← Action.ofOutcome (Model.ofConfig setup.around.environment config.2)
  modify fun s => { s with dialogue := setup.talk model }
  let solved ← examples.mapM fun e => asRepository setup e.name (solve setup model config.1 e)
  return (solved.map fun (result, e) => ⟨e.name, config.1, result⟩, solved.map Prod.snd)

/-- Solves the examples under each configuration, as the one before has left them (`evaluate`). -/
def evaluate (setup : Setup) :
    List (String × ModelConfig) → List Example → Action State (List Entry)
  | [], _ => return []
  | config :: configs, examples => do
    let (entries, left) ← evaluateConfig setup examples config
    return entries ++ (← evaluate setup configs left)

/-- The distance as a real number (`judge_result`). -/
def Result.similarity (r : Result) : Binary64 := Binary64.ofInt r.distance

/-- Prints the results in a table (`print_nicely_formatted_comparison`). -/
def printTable (entries : List Entry) : Action State Unit := do
  onHost (Host.printLine "Example Name\tConfig Name\tBenchmark Result")
  entries.forM fun e => onHost (Host.printLine
    (e.exampleName ++ "\t" ++ e.config ++ "\t" ++
      Decimal.binary64 Decimal.plain e.result.similarity))

/-- Solves all examples under each configuration and prints the results. -/
def run (setup : Setup) (configs : List (String × ModelConfig)) : Action State (List Entry) := do
  let examples ← onHost (Example.loadAll setup.around.reader setup.examples)
  let entries ← evaluate setup configs examples
  printTable entries
  return entries

/-- As a value. -/
def Entry.encode (e : Entry) : Json :=
  .arr [.str e.exampleName, .str e.config, .real e.result.similarity, .str e.result.prompt,
    .str e.result.answer]

end Remedy.Benchmark
