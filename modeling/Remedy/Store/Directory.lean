import Remedy.Config.Load
import Remedy.Report.Decode
import Remedy.Store.Load

/-!
# Loading a directory of reports

A directory holds a directory for each application, with the report of the application before and
after it was migrated and a file that names the two branches. Each application is loaded in both
states, so that what was migrated becomes solved incidents.
-/

namespace Remedy

/-- What reports are loaded from and into, and what was done to repositories on the way. -/
structure Intake where
  host : Host := {}
  store : Store := {}
  /-- Directories of the repositories that were opened. -/
  opened : List String := []
  /-- Branches that were checked out. -/
  checkouts : List String := []

namespace Intake

/-- An action on the host. -/
def onHost {α : Type} (a : Action Host α) : Action Intake α :=
  Action.onPart Intake.host (fun s host => { s with host }) a

/-- An action on the store. -/
def onStore {α : Type} (a : Action Store α) : Action Intake α :=
  Action.onPart Intake.store (fun s store => { s with store }) a

/-- Notes that a repository was opened. -/
def noteOpened (path : String) : Action Intake Unit :=
  modify fun s => { s with opened := s.opened ++ [path] }

/-- The file of an application that names its branches. -/
def branchFile : String := "app.yaml"

/-- What is said of an application (`__get_app_variables`): the data of its file, if there is one. -/
def appData (dir application : String) : Action Host (Option Json) := do
  let path := Path.joinAll dir [application, branchFile]
  if !(← Host.pathExists dir) then return none
  if !(← Host.pathExists path) then return none
  return some (← Action.ofOutcome (Config.dataOfText (← Host.read path)))

/-- The branch that an application names. -/
def branchOf (name : String) : Option Json → Outcome String
  | some (.obj fields) =>
    match Fields.get? fields name with
    | some (.str branch) => .ok branch
    | some _ => .error (.missingKey none)
    | none => .error (.missingKey (some name))
  | _ => .error .wrongKind

/-- One of the two states of an application. -/
inductive Phase where
  | initial
  | solved
deriving DecidableEq, Repr

/-- The directory of a state. -/
def Phase.directory : Phase → String
  | .initial => "initial"
  | .solved => "solved"

/-- The name under which the branch of a state is given. -/
def Phase.branchName : Phase → String
  | .initial => "initial_branch"
  | .solved => "solved_branch"

/-- There is something in a directory. -/
def hasEntries (dir : String) : Action Host Bool := do
  if ← Host.pathExists dir then return !(← Host.list dir).isEmpty else return false

/-- Checks a branch out and gives the commit at its head. -/
def checkOut (repo : Repository) (branch : String) : Action Intake String := do
  modify fun s => { s with checkouts := s.checkouts ++ [branch] }
  match repo.head? branch with
  | some commit => return commit
  | none => throw (.missingKey (some branch))

/-- Loads an application in one of its states. -/
def loadPhase (setup : Store.LoadSetup) (dir path application : String) (phase : Phase) :
    Action Intake Unit := do
  let repo := setup.repository path
  let branch ← Action.ofOutcome (branchOf phase.branchName (← onHost (appData dir application)))
  let commit ← checkOut repo branch
  let app : Application := {
    name := application, origin := some repo.origin, localUri := path, branch := some branch
    commit := some commit, generatedAt := some (.ofClock (← onHost Host.now)) }
  let content ← onHost (Host.read (Path.joinAll dir [application, phase.directory, "output.yaml"]))
  let report ← Action.ofOutcome (Report.ofText setup.reader content)
  noteOpened (← Action.ofOutcome (Store.repositoryPath app))
  let _ ← onStore (Store.load setup app report)

/-- Loads an application in both states. Gives whether loading goes on: a state without a report
ends it. -/
def loadApplication (setup : Store.LoadSetup) (repositories dir application : String) :
    Action Intake Bool := do
  let place := Path.join dir application
  if !(← onHost (Host.dirExists place)) then return true
  let path := Path.join repositories application
  if !(← onHost (hasEntries (Path.join place Phase.initial.directory))) then return false
  noteOpened path
  loadPhase setup dir path application .initial
  if !(← onHost (hasEntries (Path.join place Phase.solved.directory))) then return false
  loadPhase setup dir path application .solved
  return true

/-- Loads applications one after the other. -/
def loadApplications (setup : Store.LoadSetup) (repositories dir : String) :
    List String → Action Intake Unit
  | [] => return
  | application :: rest => do
    if ← loadApplication setup repositories dir application then
      loadApplications setup repositories dir rest

/-- Loads a directory of reports (`load_reports_from_directory`); one that is missing or empty holds
nothing. -/
def loadDirectory (setup : Store.LoadSetup) (repositories dir : String) : Action Intake Unit := do
  if ← onHost (hasEntries dir) then
    loadApplications setup repositories dir (← onHost (Host.list dir))

end Intake
end Remedy
