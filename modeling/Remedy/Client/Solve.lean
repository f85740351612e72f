import Remedy.Client.Fix
import Remedy.Config.Load
import Remedy.Json.Access
import Remedy.Rpc.Params
import Remedy.Rpc.Server

/-!
# Fixing a file on request

A request names a configuration, an application, a file and its incidents, or a report that has them.
The answer is the fixed file.
-/

namespace Remedy.Client

open Rpc (Params)

/-- What is to be fixed: incidents from a report, or data that came with the request. -/
inductive Requested where
  | reported (incidents : List ExtendedIncident)
  | given (data : Json)

/-- The word for the kind of a value. -/
def kindWord : Json → String
  | .null => "NoneType"
  | .bool _ => "bool"
  | .int _ => "int"
  | .real _ => "float"
  | .str _ => "str"
  | .arr _ => "list"
  | .obj _ => "dict"

/-- The failure because an item is no incident. -/
def notIncident (kind : String) : Failure :=
  .lacksMember kind "model_dump"

/-- The incidents as the prompt is given them. Data that came with the request has no incidents among
its items, so it must be empty. -/
def Requested.described : Requested → Outcome (List Json)
  | .reported incidents => .ok (incidents.map ExtendedIncident.encode)
  | .given (.arr []) => .ok []
  | .given (.arr (v :: _)) => .error (notIncident (kindWord v))
  | .given (.obj fields) => if fields.isEmpty then .ok [] else .error (notIncident "str")
  | .given (.str s) => if s.isEmpty then .ok [] else .error (notIncident "str")
  | .given v => .error (.noItems (kindWord v))

/-- The number of what is to be fixed, if it has one. -/
def Requested.count : Requested → Outcome Nat
  | .reported incidents => .ok incidents.length
  | .given data => data.size

/-- A parameter that must be a text. -/
def textParam (p : Params) (name : String) : Outcome String :=
  match p.value name with
  | .str s => .ok s
  | _ => .error .wrongKind

/-- Sets up the log file of the server. -/
def logFor (p : Params) (c : Config) : Action Host Unit := do
  match p.value "log_level" with
  | .str level => Host.logToFile Host.serverLog c.logDir level true
  | _ =>
    let _ ← (Host.logToFile Host.serverLog c.logDir "" true).attempt
    throw .wrongKind

/-- The impacted files of a report (`get_impacted_files_from_report`). -/
def impactedFiles (read : String → Option Json) (path : String) : Action Host ImpactedFiles := do
  let full ← Host.locate path
  let files := (← get).files
  Action.ofOutcome do (← Report.ofFile read files full).impactedFiles

/-- What a request asks to fix. Of the files in a report, the first counts whose path ends the path
of the request. -/
def requested (read : String → Option Json) (p : Params) : Action Host Requested := do
  if (p.value "incidents").isSet then
    let content ← Action.ofOutcome (textParam p "incidents")
    match Json.parse? content with
    | some data => return .given data
    | none => throw .malformedJson
  else if (p.value "report_path").isSet then
    let files ← impactedFiles read (← Action.ofOutcome (textParam p "report_path"))
    match files, p.value "input_file_path" with
    | _ :: _, .str input =>
      match files.find? fun (path, _) => Text.endsWith input path with
      | some (_, incidents) => return .reported incidents
      | none => throw (.response .requestCancelled "no incidents to fix")
    | _ :: _, _ => throw .missingMember
    | [], _ => throw (.response .requestCancelled "no incidents to fix")
  else
    throw (.response .invalidParams "either params.incidents or params.report_path is required")

/-- Fixes the file of a request, given its contents. Without a trace the failure cannot be told, which
is a failure of its own. -/
def solveTraced (setup : ServiceSetup) (p : Params) (what : Requested) (input contents : String) :
    Action Service String := do
  let started ← Service.onHost Host.now
  let file := Path.baseName input
  match p.value "app_name", setup.model.id with
  | .str application, .str _ =>
    let trace := (← traceOf setup application file).start started
    let work : Action Service String := do
      let described ← Action.ofOutcome what.described
      let prompt ← promptFor setup trace file contents described
      return (← fix setup trace application input prompt).contents
    let outcome ← work.attempt
    match outcome with
    | .ok _ => pure ()
    | .error e => recordFailure setup trace e
    finish trace
    let _ ← Action.ofOutcome what.count
    match outcome with
    | .ok contents => return contents
    | .error e => throw (.fixFailed e)
  | _, _ => throw .unset

/-- Fixes the file of a request (`get_incident_solutions_for_file`). -/
def solve (around : Surroundings) (p : Params) : Action Service String := do
  let config ← Service.onHost do
    Config.ofExistingFile (← Action.ofOutcome (textParam p "config_path"))
  Service.onHost (logFor p config)
  let setup ← Action.ofOutcome (setupOf around config)
  modify fun s => { s with session.dialogue := around.talk setup.model }
  let what ← Service.onHost (requested around.reader p)
  let input ← Action.ofOutcome (textParam p "input_file_path")
  let contents ← Service.onHost (Host.readText input)
  solveTraced setup p what input contents

/-- The name of the method by which files are fixed. -/
def solveMethod : String := "get_incident_solutions_for_file"

/-- The server that fixes files (`KaiClientRPCServer`). -/
def server (around : Surroundings) : Rpc.Server Service where
  methods := [(solveMethod, fun args => return .str (← solve around ⟨args⟩))]
  handleResult := around.handleResult

/-- The log file of the server of a client. -/
def serverLogFile : String := "server.log"

/-- Serves requests until the stream ends (`run_rpc_server`). -/
def serve (around : Surroundings) : Rpc.Serving Service Unit := do
  Rpc.onWork (Service.onHost (Host.openLog serverLogFile))
  Rpc.run (server around)

/-- Serves requests; a failure of the server itself is passed over. -/
def serveQuietly (around : Surroundings) : Rpc.Serving Service Unit := do
  match ← (serve around).attempt with
  | .error (.exit status) => throw (.exit status)
  | _ => return

end Remedy.Client
