import Remedy.CommandLine
import Remedy.Config.Load
import Remedy.Hub.Import
import Remedy.Text.LetterCase

/-!
# The command that imports from a hub

Loads a configuration and plans how a hub is asked again and again for new analyses. The level of
logging on the command line goes before the one in the configuration.
-/

namespace Remedy.Command

/-- How a hub is asked. What stands on the command line is kept as it was written. -/
structure PollPlan where
  url : String
  interval : Json := .int 60
  timeout : Json := .int 60
  verify : Bool := true
deriving DecidableEq

/-- As a value: the address with the name of the store, and the rest by name. -/
def PollPlan.encode (store : String) (p : PollPlan) : Json :=
  .arr [Json.texts [p.url, store],
    .obj [("interval", p.interval), ("timeout", p.timeout), ("verify", .bool p.verify)]]

/-- The state of the command. -/
structure ImportHubState where
  host : Host := {}
  /-- The level from which the command itself logs. -/
  level : Level := .notSet
  /-- The configuration with which the store was set up. -/
  config : Option Config := none
  /-- Warnings about unverified servers are switched off. -/
  muted : Bool := false

namespace ImportHub

/-- What the command takes. -/
def spec : CommandSpec where
  options :=
    [{ names := ["-log", "--loglevel"], key := "level", kind := .value (some logLevels) },
     { names := ["--config_filepath"], key := "config" },
     { names := ["-i", "--interval"], key := "interval" },
     { names := ["-k", "--skip-verify"], key := "skip", kind := .flag },
     { names := ["-t", "--timeout"], key := "timeout" }]
  places := ["url"]

/-- An action on the host. -/
def onHost {α : Type} (a : Action Host α) : Action ImportHubState α :=
  Action.onPart ImportHubState.host (fun s host => { s with host }) a

/-- The level of logging if none is given on the command line. -/
def standardLevel : Action Host String := do
  return ((← get).environment.lookup "KAI__LOG_LEVEL").getD "info"

/-- The configuration at a path, which must be given; if nothing is there, the standard one. -/
def configAt (path : Option String) : Action Host Config := do
  let some p := path | throw .wrongKind
  if ← Host.pathExists p then Config.ofFile p else Config.ofParts []

/-- The plan of a command line. -/
def plan (args : Arguments) : PollPlan :=
  let part := fun key default => ((args.text? key).map Json.str).getD default
  let url := (args.text? "url").getD ""
  let standard : PollPlan := { url }
  { url
    interval := part "interval" standard.interval
    timeout := part "timeout" standard.timeout
    verify := !(args.flag? "skip").getD false }

/-- Sets the import up. Words that fit nowhere are passed over. -/
def run (words : List String) : Action ImportHubState PollPlan := do
  let args ← Action.ofOutcome (CommandLine.parseKnown spec words)
  let logLevel ← match args.text? "level" with
    | some l => pure l
    | none => onHost standardLevel
  let level ← Action.ofOutcome (Level.ofName (Text.upper logLevel))
  modify fun s => { s with level }
  let config ← onHost (configAt (args.text? "config"))
  modify fun s => { s with config := some { config with logLevel } }
  let p := plan args
  if !p.verify then modify fun s => { s with muted := true }
  return p

end ImportHub
end Remedy.Command
