import Remedy.Hub.Model
import Remedy.Hub.Server
import Remedy.Number.Decimal
import Remedy.Report.Decode

/-!
# Importing from a hub

The analyses that are new to us are turned into reports, the applications are checked out where they
were analysed, and the reports are loaded. What counts as new is told by the number of the analysis
that was first in the answer before.
-/

namespace Remedy.Hub

/-- A step of making a local copy of a repository. -/
inductive RepoStep where
  /-- Copies a branch. The command by which the copy is made is kept if one is set. -/
  | clone (url : Json) (destination : String) (branch : Json) (sshCommand : Option String)
  /-- Goes to a commit. -/
  | checkout (commit : Json)
deriving DecidableEq

/-- As a value. -/
def RepoStep.encode : RepoStep → Json
  | .clone url destination branch command =>
    .arr [.str "clone", url, .str destination, branch, Json.ofText? command]
  | .checkout commit => .arr [.str "checkout", commit]

/-- One entry of what `process_analyses` gives: a report that was made of an analysis. -/
structure Imported where
  application : HubApplication
  credentials : Option Identity
  analysis : Int
  report : Report

/-- As a value, with all that was found. -/
def Imported.encode (x : Imported) : Json :=
  .arr [x.application.encode, encodeOption Identity.encode x.credentials, .int x.analysis,
    .obj x.report.encode]

/-- As a value, with the names of the rulesets only. -/
def Imported.encodeBriefly (x : Imported) : Json :=
  .arr [x.application.encode, .int x.analysis, .arr (x.report.names.map Json.ofText?)]

/-- What an import works on. -/
structure Importer where
  requests : List Request := []
  steps : List RepoStep := []
  /-- The `GIT_SSH_COMMAND` that a key asked for; it stays set. -/
  sshCommand : Option String := none
  loaded : List Imported := []
  /-- How long was waited each time. -/
  slept : List Json := []

/-- What an import is set up with. -/
structure ImportSetup where
  hub : Connection
  /-- Where local copies are made. -/
  directory : String
  /-- What comes of a step on a repository. -/
  git : RepoStep → Outcome Unit := fun _ => .ok ()
  /-- Loads a report into the store. -/
  load : Imported → Outcome Unit := fun _ => .ok ()
  /-- What comes of waiting, given how long was waited before. -/
  sleep : List Json → Json → Outcome Unit := fun _ _ => .ok ()
  /-- The largest number of pages that are asked for. -/
  pageLimit : Nat

/-- Actions of an import. -/
abbrev Importing := Action Importer

/-- An action on the requests. -/
def onRequests {α : Type} (a : Action (List Request) α) : Importing α :=
  Action.onPart Importer.requests (fun s requests => { s with requests }) a

/-- The data at a path of the hub (`get_data_from_api`). -/
def fetch (setup : ImportSetup) (path : String) (condition : Option (String × String)) :
    Importing Json :=
  onRequests (setup.hub.fetch path condition)

/-- The `credentials` to use for an application: each of its identities is fetched in turn. -/
def credentialsOf (setup : ImportSetup) (identities : List Identity) :
    Importing (Option Identity) :=
  identities.foldlM (fun best i => do
    let found ← Action.ofOutcome
      (readObject Identity.decode (← fetch setup ("/identities/" ++ Decimal.int i.id) none))
    return some (best.elim found fun b => b.preferred found)) none

/-- Where the sources of an application lay when it was analysed; the prefix that `process_analyses`
removes. -/
def sourceRoot (application : String) : String :=
  "/addon/source/" ++ application ++ "/"

/-- An incident with its file below the sources of the application. -/
def HubIncident.within (application : String) (i : HubIncident) : HubIncident :=
  { i with file := (Text.dropFront? i.file (sourceRoot application)).getD i.file }

/-- The data of a violation: the entry of `report_data` under a rule. -/
def violationData (application : String) (i : Issue) : Json :=
  .obj
    [("category", .str i.category), ("description", .str i.description), ("effort", .int i.effort),
     ("incidents", .arr (i.incidents.map fun x => (x.within application).encode))]

/-- Adds an issue to `report_data`: to its ruleset, under its rule. -/
def addIssue (application : String) (data : Fields) (i : Issue) : Fields :=
  let entry := (data.get? i.ruleset).getD (.obj [("description", .str i.description),
    ("violations", .obj [])])
  let violations := ((entry.get? "violations").bind Json.fields?).getD []
  data.set i.ruleset (.obj (((entry.fields?).getD []).set "violations"
    (.obj (violations.set i.rule (violationData application i)))))

/-- The `report_data` of an analysis, made of all pages of its issues. -/
def reportData (setup : ImportSetup) (application : String) (analysis : Int) : Importing Fields :=
  paginate
    (fun offset => fetch setup ("/analyses/" ++ Decimal.int analysis ++ "/issues")
      (some ("offset", Decimal.natural offset)))
    (fun data v => do return addIssue application data (← Action.ofOutcome (readObject Issue.decode v)))
    setup.pageLimit []

/-- The report of an analysis; there is none if it found no issues. -/
def processAnalysis (setup : ImportSetup) (a : Analysis) : Importing (Option Imported) := do
  let v ← fetch setup ("/applications/" ++ Decimal.int a.application) none
  let (_, identities) ← Action.ofOutcome (readObject readApplication v)
  let credentials ← credentialsOf setup identities
  let application ← Action.ofOutcome
    (HubApplication.ofFields setup.directory ((v.fields?).getD []))
  let data ← reportData setup application.name a.id
  if data.isEmpty then return none
  let report ← Action.ofOutcome (Report.ofJson (Decimal.int a.id) (.obj data))
  return some
    { application := { application with commit := Json.ofText? a.commit }, credentials
      analysis := a.id, report }

/-- The reports of analyses (`process_analyses`). -/
def processAnalyses (setup : ImportSetup) (analyses : List Analysis) : Importing (List Imported) := do
  return (← analyses.mapM (processAnalysis setup)).filterMap id

/-- The address with a user and a password. -/
def withPassword (url : Json) (user password : String) : Outcome Json :=
  match url with
  | .str s => .ok (.str (Text.replace s "https://" ("https://" ++ user ++ ":" ++ password ++ "@")))
  | _ => .error .missingMember

/-- The address by which a repository is copied for an identity. A password goes into the address; a
key sets the command for this and later copies. -/
def authorize (url : Json) (identity : Option Identity) : Importing Json := do
  let some i := identity | return url
  match Identity.said i.user, Identity.said i.password, Identity.said i.key with
  | some user, some password, _ => Action.ofOutcome (withPassword url user password)
  | _, _, some key =>
    modify fun s => { s with sshCommand := some ("ssh -i " ++ key) }
    return url
  | _, _, none => return url

/-- Takes a step on a repository; gives whether it succeeded. -/
def takeStep (setup : ImportSetup) (step : RepoStep) : Importing Bool := do
  modify fun s => { s with steps := s.steps ++ [step] }
  match setup.git step with
  | .ok _ => return true
  | .error .git => return false
  | .error e => throw e

/-- Makes a local copy of a repository at a commit (`clone_repo_at_commit`). A copy that cannot be
made is passed over. -/
def cloneAt (setup : ImportSetup) (url branch commit : Json) (destination : String)
    (identity : Option Identity) : Importing Unit := do
  let address ← authorize url identity
  if ← takeStep setup (.clone address destination branch (← get).sshCommand) then
    let _ ← takeStep setup (.checkout commit)

/-- Copies an application and loads its report (`load_report`). -/
def install (setup : ImportSetup) (i : Imported) : Importing Unit := do
  let a := i.application
  cloneAt setup a.origin a.branch a.commit a.localPath i.credentials
  modify fun s => { s with loaded := s.loaded ++ [i] }
  Action.ofOutcome (setup.load i)

/-- Imports the analyses after the given one (`import_from_api`); gives the number of the first in the
answer. -/
def importNew (setup : ImportSetup) (last : Int) : Importing Int := do
  let v ← fetch setup "/analyses" (some ("filter", "id>" ++ Decimal.int last))
  let analyses ← Action.ofOutcome (do (← v.each).mapM (readObject Analysis.decode))
  (← processAnalyses setup analyses).forM (install setup)
  return (analyses.head?.map Analysis.id).getD last

/-- Waits (`time.sleep`). -/
def pause (setup : ImportSetup) (interval : Json) : Importing Unit := do
  let past := (← get).slept
  modify fun s => { s with slept := past ++ [interval] }
  Action.ofOutcome (setup.sleep past interval)

/-- Imports again and again (`poll_api`), and waits when nothing is new. Nothing but a failure ends
this; the fuel bounds the number of imports. -/
def poll (setup : ImportSetup) (interval : Json) : Nat → Int → Importing Unit
  | 0, _ => return
  | fuel + 1, last => do
    let next ← importNew setup last
    if next = last then
      pause setup interval
      poll setup interval fuel last
    else poll setup interval fuel next

end Remedy.Hub
