import Remedy.Json.Reader
import Remedy.Service.File
import Remedy.Service.Single
import Remedy.Store.Load
import Remedy.Timestamp

/-!
# Routes

What the server answers under its addresses. A request brings a text that must be JSON; the answer is
JSON too.
-/

namespace Remedy.Web

/-- What the server is asked for. -/
inductive Route where
  | healthCheck
  | loadReport
  | solveIncident
  | solveFile
  | socket
deriving DecidableEq, Repr

namespace Route

/-- All routes, in the order in which they are set up. -/
def all : List Route := [.healthCheck, .loadReport, .solveIncident, .solveFile, .socket]

/-- The address of a route. -/
def path : Route → String
  | .healthCheck => "/health_check"
  | .loadReport => "/load_analysis_report"
  | .solveIncident => "/get_incident_solution"
  | .solveFile => "/get_incident_solutions_for_file"
  | .socket => "/ws/get_incident_solution"

/-- The method by which a route is asked. -/
def method : Route → String
  | .socket => "get"
  | _ => "post"

/-- The route of an address. -/
def ofPath? (path : String) : Option Route :=
  all.find? fun r => r.path == path

end Route

/-- An answer of the server. -/
structure Answer where
  status : Nat := 200
  text : String
  type : String := "application/json"
deriving DecidableEq, Repr

/-- The answer that gives a value. -/
def Answer.ofJson (v : Json) : Answer where
  text := Json.render Json.spaced v

/-- Reads the text of a request. -/
def bodyOf (text : String) : Outcome Json :=
  match Json.parse? text with
  | some v => .ok v
  | none => .error .malformedJson

/-- What the server is set up with. -/
structure Setup where
  service : ServiceSetup
  load : Store.LoadSetup
  /-- The service can be found by requests that look it up under a typed key. -/
  reachable : Bool := false

open Decode

/-- Answers that the server is there, with what it was sent (`post_health_check`). -/
def checkHealth (body : String) : Action Service Answer := do
  let v ← Action.ofOutcome (bodyOf body)
  return .ofJson (.obj [("status", .str "OK!"), ("recv'd", v)])

/-- A request to load a report. -/
structure LoadRequest where
  application : Application
  report : Json
  reportId : String

/-- Reads the application of a request. -/
def applicationOf (v : Json) : Outcome Application := do
  let fields ← object v
  let name ← required fields ["application_name"] text
  let origin ← required fields ["repo_uri_origin"] text
  let localUri ← required fields ["repo_uri_local"] text
  let branch ← required fields ["current_branch"] text
  let commit ← required fields ["current_commit"] text
  let generatedAt ← required fields ["generated_at"] Timestamp.decode
  return {
    name, localUri
    origin := some origin, branch := some branch, commit := some commit
    generatedAt := some generatedAt }

/-- Reads the data of a report: an object or a list of objects. -/
def reportDataOf : Json → Outcome Json
  | .obj fields => .ok (.obj fields)
  | .arr items => do
    let _ ← items.mapM object
    return .arr items
  | _ => invalid

/-- Reads a request to load a report. -/
def LoadRequest.decode (v : Json) : Outcome LoadRequest := do
  let fields ← object v
  return {
    application := ← required fields ["application"] applicationOf
    report := ← required fields ["report_data"] reportDataOf
    reportId := ← required fields ["report_id"] text }

/-- Loads a report and answers how many incidents are new, unsolved and solved
(`post_load_analysis_report`). -/
def loadReport (setup : Setup) (body : String) : Action Service Answer := do
  let r ← Action.ofOutcome (do LoadRequest.decode (← bodyOf body))
  let report ← Action.ofOutcome (Report.ofJson r.reportId r.report)
  let counts ← Service.onSession
    (Action.onPart Store.Session.store (fun s store => { s with store })
      (Store.load setup.load r.application report))
  return .ofJson (.obj
    [("number_new_incidents", .int counts.fresh), ("number_unsolved_incidents", .int counts.unsolved),
     ("number_solved_incidents", .int counts.solved)])

/-- Solves one incident (`post_get_incident_solution`). -/
def solveIncident (setup : Setup) (body : String) : Action Service Answer := do
  let r ← Action.ofOutcome (do SingleRequest.decode (← bodyOf body))
  if !setup.reachable then throw (.missingKey none)
  let answer ← Service.solveOne setup.service r
  return .ofJson (.obj [("llm_output", .str answer)])

/-- Solves a file under a trace that records the request, its failure and its timing. -/
def solveRecorded (setup : ServiceSetup) (trace : Trace) (request : Outcome String)
    (r : FileRequest) : Action Service UpdatedFile := do
  Service.onHost (trace.recordRequest request)
  let work : Action Service UpdatedFile := do
    match ← (Service.solveTraced setup trace r).attempt with
    | .ok updated => return updated
    | .error e =>
      Service.onHost (trace.recordFailure (-1) (-1) e.text (setup.runtime.origin e))
      throw e
  work.andAlways (Service.onHost do
    let now ← Host.now
    (trace.stop now).recordTiming)

/-- Solves the incidents of a file (`post_get_incident_solutions_for_file`). The answer is the text of
the result as a JSON text. -/
def solveFile (setup : Setup) (body : String) : Action Service Answer := do
  let start ← Service.onHost Host.now
  let r ← Action.ofOutcome (do FileRequest.decode (← bodyOf body))
  let trace ← Service.traceOf setup.service r
  let updated ← solveRecorded setup.service (trace.start start)
    (.ok (Json.render Json.compactText r.encode)) r
  return .ofJson (.str (Json.render Json.compactText updated.encode))

/-- Answers a request. Sockets are not answered at once. -/
def answer (setup : Setup) (route : Route) (body : String) : Action Service Answer :=
  match route with
  | .healthCheck => checkHealth body
  | .loadReport => loadReport setup body
  | .solveIncident => solveIncident setup body
  | .solveFile => solveFile setup body
  | .socket => throw .notOffered

end Remedy.Web
