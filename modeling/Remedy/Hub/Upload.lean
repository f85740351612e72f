import Remedy.Config.Load
import Remedy.Host.Basic
import Remedy.Hub.Model
import Remedy.Hub.Server
import Remedy.Json.Display
import Remedy.Samples.Basic
import Remedy.Trace

/-!
# Filling a hub with samples

Sample applications are made known to a hub, with the reports of their analyses before and after the
migration. The issues of a report are numbered within their rulesets.
-/

namespace Remedy.Hub

open Samples (SampleRepo)

/-- A part of an object that may be missing. -/
def partOr (v : Json) (name : String) (default : Json) : Outcome Json :=
  match v with
  | .obj fields => .ok ((Fields.get? fields name).getD default)
  | _ => .error .missingMember

/-- An incident of a report as one of an issue. -/
def incidentData (issue : Nat) (incident : Json × Nat) : Outcome Json := do
  let (v, id) := incident
  let file ← v.part "uri"
  let line ← partOr v "lineNumber" (.int 0)
  let message ← v.part "message"
  let snippet ← partOr v "codeSnip" (.str "")
  let vars ← partOr v "variables" (.obj [])
  let made ← HubIncident.decode (.obj
    [("id", .int id), ("issue", .int issue), ("file", file), ("line", line), ("message", message),
     ("codeSnip", snippet), ("facts", vars)])
  return made.encode

/-- The issue of a violation. -/
def issueOf (analysis : Json) (ruleset : Json) (violation : (String × Json) × Nat) :
    Outcome Issue := do
  let ((rule, v), id) := violation
  let found ← (← partOr v "incidents" (.arr [])).each
  let incidents ← found.zipIdx.mapM (incidentData id)
  let name ← ruleset.part "name"
  let description ← v.part "description"
  let category ← v.part "category"
  Issue.decode (.obj
    [("id", .int id), ("analysis", analysis), ("ruleset", name), ("rule", .str rule),
     ("name", .str rule), ("description", description), ("category", category),
     ("effort", ← partOr v "effort" (.int 0)), ("incidents", .arr incidents),
     ("links", ← partOr v "links" (.arr [])), ("labels", ← partOr v "labels" (.arr []))])

/-- The issues of a ruleset, numbered from zero. -/
def issuesOf (analysis ruleset : Json) : Outcome (List Issue) := do
  match ← partOr ruleset "violations" (.obj []) with
  | .obj violations => violations.zipIdx.mapM (issueOf analysis ruleset)
  | _ => throw .missingMember

/-- The issues of a report. -/
def issuesOfReport (report analysis : Json) : Outcome (List Issue) := do
  return (← (← report.each).mapM (issuesOf analysis)).flatten

/-- A report in the form of a hub (`reformat_analysis_report`). -/
def reformat (report analysis commit : Json) : Outcome Json := do
  let issues ← issuesOfReport report analysis
  return .obj [("commit", commit), ("issues", .arr (issues.map Issue.encode)),
    ("dependencies", .arr [])]

/-- What filling a hub works on. -/
structure Uploader where
  host : Host := {}
  requests : List Request := []
  /-- The repositories that were opened. -/
  opened : List String := []
  /-- Warnings about unverified servers are switched off. -/
  muted : Bool := false
  /-- The number of the next analysis. -/
  nextAnalysis : Nat := 1

/-- What filling a hub is set up with. -/
structure UploadSetup where
  server : Server
  samples : Samples.Catalog
  /-- The directory of the samples. -/
  directory : String
  /-- The head of a branch in an opened repository, by its path. -/
  head : String → Outcome (Json → Outcome String)

/-- The hub to fill. -/
structure Target where
  url : String
  verify : Bool

namespace Uploader

/-- An action on the host. -/
def onHost {α : Type} (a : Action Host α) : Action Uploader α :=
  Action.onPart Uploader.host (fun s host => { s with host }) a

/-- Prints a line. -/
def tell (line : String) : Action Uploader Unit := onHost (Host.printLine line)

/-- Sends a request. -/
def ask (setup : UploadSetup) (r : Request) : Action Uploader Response :=
  Action.onPart Uploader.requests (fun s requests => { s with requests }) (send setup.server r)

end Uploader

/-- The number of the application of a name among those of a hub. -/
def findApplication (name : String) : List Json → Outcome Json
  | [] => .ok .null
  | v :: rest => do
    if (← v.part "name") = .str name then v.part "id" else findApplication name rest

/-- The number of an application at a hub (`get_application_id`); there is none if the hub does not
say. -/
def applicationId (server : Server) (hub : Target) (name : String) : Action (List Request) Json := do
  let r ← send server (.get (hub.url ++ "/applications") none 60 hub.verify)
  if r.status = 200 then Action.ofOutcome (do findApplication name (← r.body.each))
  else return .null

open Uploader

/-- The kind of the documents that are sent. -/
def mime : String := "application/x-yaml"

/-- Makes an application known (`add_applications`); gives its number if it has one. -/
def addApplication (setup : UploadSetup) (hub : Target) (name : String) (url branch : Json) :
    Action Uploader (Option Json) := do
  let data : Json := .obj
    [("name", .str name), ("description", .str (name ++ " application.")),
     ("repository", .obj [("kind", .str "git"), ("url", url), ("branch", branch)])]
  let r ← ask setup (.post (hub.url ++ "/applications")
    [("Content-Type", mime), ("Accept", "application/json")] (.data data) 60 hub.verify)
  if r.status = 201 then
    tell ("Successfully added " ++ name)
    return some (← Action.ofOutcome (r.body.part "id"))
  else if r.status = 409 then
    tell (name ++ " already exists. Retrieving existing application ID.")
    let id ← Action.onPart Uploader.requests (fun s requests => { s with requests })
      (applicationId setup.server hub name)
    if id.isSet then return some id
    tell ("Failed to retrieve application ID for " ++ name ++ ". Skipping analysis report upload.")
    return none
  else
    tell ("Failed to add " ++ name ++ ": " ++ Decimal.int r.status ++ " - " ++ r.text)
    return none

/-- The files that carry a report: all of it, its issues and its dependencies. -/
def reportFiles (report : Json) : List (String × FilePart) :=
  [("file", ⟨"reformatted_analysis.yaml", [report], mime⟩),
   ("issues", ⟨"reformatted_issues.yaml", report.itemsAt "issues", mime⟩),
   ("dependencies", ⟨"reformatted_dependencies.yaml", report.itemsAt "dependencies", mime⟩)]

/-- Sends the report in a file (`add_analysis_report`). -/
def addReport (setup : UploadSetup) (hub : Target) (id : Json) (path commit : String) :
    Action Uploader Unit := do
  let content ← onHost (Host.read path)
  let data ← Action.ofOutcome (Config.dataOfText content)
  let report ← Action.ofOutcome (reformat data (.int (← get).nextAnalysis) (.str commit))
  let r ← ask setup (.post (hub.url ++ "/applications/" ++ id.display ++ "/analyses")
    [("Accept", mime)] (.files (reportFiles report)) 120 hub.verify)
  if r.status = 201 then
    tell ("Successfully added analysis report for application ID " ++ id.display)
  else
    tell ("Failed to add analysis report for application ID " ++ id.display ++ ": " ++
      Decimal.int r.status ++ " - " ++ r.text)

/-- Sends a report if it is there. A failure is told and passed over. -/
def tryReport (setup : UploadSetup) (hub : Target) (name : String) (id : Json)
    (report : String × String) : Action Uploader Unit := do
  let (path, commit) := report
  if ← onHost (Host.pathExists path) then
    match ← (addReport setup hub id path commit).attempt with
    | .ok _ => modify fun s => { s with nextAnalysis := s.nextAnalysis + 1 }
    | .error e =>
      tell ("Failed to upload analysis report " ++ path ++ " for " ++ name ++ ": " ++ e.text)
  else tell ("Analysis report file missing for " ++ name)

/-- The path of the report of a sample. -/
def reportPath (setup : UploadSetup) (name stage : String) : String :=
  Path.join setup.directory ("analysis_reports/" ++ name ++ "/" ++ stage ++ "/output.yaml")

/-- Fills a hub with one sample. -/
def uploadSample (setup : UploadSetup) (hub : Target) (name path : String) (repo : SampleRepo) :
    Action Uploader Unit := do
  let (url, initial, solved) ← Action.ofOutcome repo.all
  let some id ← addApplication setup hub name url solved | return
  let place := Path.join setup.directory path
  modify fun s => { s with opened := s.opened ++ [place] }
  let head ← Action.ofOutcome (setup.head place)
  let before ← Action.ofOutcome (head initial)
  let after ← Action.ofOutcome (head solved)
  [(reportPath setup name "initial", before), (reportPath setup name "solved", after)].forM
    (tryReport setup hub name id)

/-- Fills a hub with one sample; if the hub is not reached, that is told and passed over. -/
def trySample (setup : UploadSetup) (hub : Target) (app : String × String) :
    Action Uploader Unit := do
  let (name, path) := app
  let some repo := setup.samples.repos.lookup name | return
  if repo.parts.isEmpty then return
  match ← (uploadSample setup hub name path repo).attempt with
  | .error (.unreachable t) => tell ("Request failed for " ++ name ++ ": " ++ t)
  | o => Action.ofOutcome o

/-- Fills a hub with all samples. -/
def upload (setup : UploadSetup) (hub : Target) : Action Uploader Unit :=
  setup.samples.apps.forM (trySample setup hub)

end Remedy.Hub
