import Remedy.Config.Load
import Remedy.Host.Basic
import Remedy.Report.Decode
import Remedy.Report.Encode

/-!
# Examples of a benchmark

An example is a directory with a file before and after its migration, the incidents in it, and a
report and an application to which it belongs. Files are told apart by their names without endings;
parts that are missing are announced, and the rest is loaded.
-/

namespace Remedy.Benchmark

/-- An example of a benchmark (`BenchmarkExample`). -/
structure Example where
  name : String
  /-- The file before its migration. -/
  before : Option String := none
  /-- The file as it should become. -/
  expected : Option String := none
  incidents : Option (List ExtendedIncident) := none
  report : Option Report := none
  /-- The columns of the application. -/
  application : Option Fields := none

namespace Example

/-- The columns that an application has. -/
def applicationColumns : List String :=
  ["application_name", "repo_uri_origin", "repo_uri_local", "current_branch", "current_commit",
   "generated_at"]

/-- Reads an application, which has all its columns and no other. -/
def readApplication : Json → Outcome Fields
  | .obj fields =>
    if fields.all (fun (k, _) => applicationColumns.contains k) &&
        applicationColumns.all (Fields.has fields) then .ok fields
    else .error .wrongKind
  | _ => .error .wrongKind

/-- Reads incidents. The items of an object are its keys and those of a text its characters, so
neither is an incident. -/
def readIncidents : Json → Outcome (List ExtendedIncident)
  | .arr items => items.mapM ExtendedIncident.decode
  | .obj fields => if fields.isEmpty then .ok [] else Decode.invalid
  | .str s => if s.isEmpty then .ok [] else Decode.invalid
  | _ => .error .wrongKind

/-- The data in a file. -/
def dataOf (path : String) : Action Host Json := do
  Action.ofOutcome (Config.dataOfText (← Host.read path))

/-- Takes a file of the directory into the example. -/
def takeFile (read : String → Option Json) (dir : String) (e : Example) (name : String) :
    Action Host Example := do
  let path := Path.join dir name
  match (Path.splitExtension name).1 with
  | "original" => return { e with before := some (← Host.readText path) }
  | "expected" => return { e with expected := some (← Host.readText path) }
  | "incidents" =>
    let data ← dataOf path
    return { e with incidents := some (← Action.ofOutcome (readIncidents data)) }
  | "report" =>
    let full ← Host.locate path
    let files := (← get).files
    return { e with report := some (← Action.ofOutcome (Report.ofFile read files full)) }
  | "application" =>
    let data ← dataOf path
    return { e with application := some (← Action.ofOutcome (readApplication data)) }
  | _ => return e

/-- Loads the example in a directory (`load_single_benchmark_example`). -/
def load (read : String → Option Json) (dir : String) : Action Host Example := do
  if !(← Host.dirExists dir) then throw (.badValue ("Expected directory, got " ++ dir))
  let e ← (← Host.list dir).foldlM (takeFile read dir) { name := Path.baseName dir }
  if e.before.isNone || e.expected.isNone then
    Host.printLine ("Missing original or expected file in " ++ dir)
  if e.report.isNone then Host.printLine ("Missing report file in " ++ dir)
  if e.application.isNone then Host.printLine ("Missing application file in " ++ dir)
  return e

/-- Loads the examples in the directories of a directory (`load_benchmark_examples`). -/
def loadAll (read : String → Option Json) (dir : String) : Action Host (List Example) := do
  (← Host.list dir).mapM fun name => load read (Path.join dir name)

/-- As a value. -/
def encode (e : Example) : Json :=
  .obj
    [("name", .str e.name), ("original", Json.ofText? e.before),
     ("expected", Json.ofText? e.expected),
     ("incidents", encodeOption (fun is => .arr (is.map ExtendedIncident.encode)) e.incidents),
     ("report", encodeOption (fun r : Report => .arr [.str r.id, .arr (r.names.map Json.ofText?)])
       e.report),
     ("application", encodeOption (fun fields =>
       .arr (["application_name", "current_branch", "generated_at"].map fun k =>
         (Fields.get? fields k).getD .null)) e.application)]

end Example
end Remedy.Benchmark
