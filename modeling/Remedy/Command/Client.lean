import Remedy.Client.Solve
import Remedy.CommandLine
import Remedy.Text.LetterCase

/-!
# The client command

Fixes the files of an application that a report names.
-/

namespace Remedy.Command

/-- What the client command was given. -/
structure ClientOptions where
  path : String
  logLevel : String
  demoMode : Bool
  application : String
  config : String
  report : Option String
deriving DecidableEq, Repr

namespace ClientOptions

/-- As a value. -/
def encode (o : ClientOptions) : Json :=
  .obj
    [("path", .str o.path), ("loglevel", .str o.logLevel), ("demo_mode", .bool o.demoMode),
     ("application_name", .str o.application), ("config", .str o.config),
     ("report_path", Json.ofText? o.report)]

/-- What the command takes. -/
def spec : CommandSpec where
  places := ["path"]
  options :=
    [{ names := ["-log", "--loglevel"], key := "level", kind := .value (some logLevels) },
     { names := ["-d", "--demo-mode", "--no-demo-mode"], key := "demo", kind := .toggle },
     { names := ["-a", "--application-name"], key := "application" },
     { names := ["-c", "--config"], key := "config" },
     { names := ["-r", "--report-path"], key := "report" }]

/-- Reads the command line (`get_cli_args`). What is not given is taken from the environment, the
working directory and the installation. -/
def ofWords (words : List String) : Action Host ClientOptions := do
  let args ← Action.ofOutcome (CommandLine.parse spec words)
  let h ← get
  let level := (← Host.setting? "LOG_LEVEL").getD "info"
  let demo := Text.lower ((← Host.setting? "DEMO_MODE").getD "false") == "true"
  return {
    path := (args.text? "path").getD ""
    logLevel := (args.text? "level").getD level
    demoMode := (args.flag? "demo").getD demo
    application := (args.text? "application").getD (Path.baseName h.workingDirectory)
    config := (args.text? "config").getD h.settingsFile
    report := args.text? "report" }

end ClientOptions

namespace Client

/-- The log file of the client. -/
def logFile : String := "kai_client.log"

/-- The command. -/
def run (around : Surroundings) (words : List String) : Action Service Unit := do
  let options ← Service.onHost (ClientOptions.ofWords words)
  let c ← Service.onHost (Config.ofExistingFile options.config)
  Service.onHost
    (Host.logToBoth (Text.upper c.logLevel) (Text.upper c.fileLogLevel) c.logDir logFile)
  let setup ← Action.ofOutcome (Remedy.Client.setupOf around c)
  modify fun s => { s with session.dialogue := around.talk setup.model }
  let some report := options.report | throw .wrongKind
  let files ← Service.onHost (Remedy.Client.impactedFiles around.reader report)
  Service.onHost (Host.printLine ("Model configured: " ++ setup.model.id.display))
  Remedy.Client.processAll setup options.application options.path files

end Client
end Remedy.Command
