import Remedy.CommandLine
import Remedy.Installation
import Remedy.Service.Assembly
import Remedy.Store.Directory
import Remedy.Text.LetterCase

/-!
# The command that fills the store

Sets the store up from a configuration, clears it and loads a directory of reports.
-/

namespace Remedy.Command

/-- The state of the command. -/
structure LoadStoreState where
  intake : Intake := {}
  /-- The level from which the command itself logs. -/
  level : Level := .notSet
  /-- The store has been set up. -/
  ready : Bool := false

/-- What the command works with. -/
structure LoadStoreSetup where
  around : Surroundings
  installation : Installation
  /-- The directory of the local repositories. -/
  repositories : String
  repository : String → Repository
  source : Detection.SourceKnowledge

namespace LoadStore

/-- What the command takes. -/
def spec : CommandSpec where
  options :=
    [{ names := ["--config_filepath"], key := "config" },
     { names := ["--drop_tables"], key := "drop" },
     { names := ["--analysis_dir_path"], key := "reports" }]

/-- An action on the host. -/
def onHost {α : Type} (a : Action Host α) : Action LoadStoreState α :=
  Action.onPart LoadStoreState.intake (fun s intake => { s with intake }) (Intake.onHost a)

/-- The log file of the command. -/
def logFile : String := "kai_psql.log"

/-- The configuration of a file, if one is given. -/
def configOf (path : Option String) : Action Host Config :=
  match path with
  | some p => if p.isEmpty then Config.ofParts [] else Config.ofFile p
  | none => Config.ofParts []

/-- The command (`cmd`); a database may be demanded. -/
def run (setup : LoadStoreSetup) (demanded : Option String) (words : List String) :
    Action LoadStoreState Unit := do
  let args ← Action.ofOutcome (CommandLine.parse spec words)
  let config ← onHost (configOf (args.text? "config"))
  onHost (Host.logToBoth (Text.upper config.logLevel) (Text.upper config.fileLogLevel)
    config.logDir logFile)
  let level ← Action.ofOutcome (Level.ofName (Text.upper config.logLevel))
  modify fun s => { s with level }
  match demanded with
  | some provider =>
    if config.store.args.provider.word != provider then
      throw (.told ("This script only works with " ++ provider ++ " incident store."))
  | none => pure ()
  let assembly ← Action.ofOutcome (Assembly.ofConfig setup.around config)
  modify fun s => { s with ready := true }
  if (args.text? "drop").getD "False" != "" then
    modify fun s => { s with intake.store := s.intake.store.emptied }
  let dir := Path.join (Path.join setup.installation.home "service")
    ((args.text? "reports").getD
      (Path.join setup.installation.root "samples/analysis_reports/"))
  Action.onPart LoadStoreState.intake (fun s intake => { s with intake })
    (Intake.loadDirectory
      { detector := assembly.detector, producer := assembly.producer
        repository := setup.repository, source := setup.source }
      setup.repositories dir)

end LoadStore
end Remedy.Command
