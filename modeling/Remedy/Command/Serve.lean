import Remedy.CommandLine
import Remedy.Config.Load
import Remedy.Service.Assembly
import Remedy.Text.LetterCase
import Remedy.Web.Routes

/-!
# The server command

Loads a configuration, sets up logging and the service, and hands the service to the workers that
answer requests.
-/

namespace Remedy.Command

/-- How workers are started (`StandaloneApplication`): the service they serve and their settings. -/
structure WorkerPlan where
  uri : String
  settings : Fields
deriving DecidableEq

namespace WorkerPlan

/-- The settings that are applied: those that are known and given, under their names in small
letters. -/
def applied (known : List String) (p : WorkerPlan) : List (String × Json) :=
  p.settings.filterMap fun (name, value) =>
    if known.contains name && value ≠ .null then some (Text.lower name, value) else none

end WorkerPlan

namespace Serve

/-- What the command takes. -/
def spec : CommandSpec where
  options := [{ names := ["--config_filepath"], key := "config" }]

/-- The configuration that a command line asks for. -/
def config (words : List String) : Action Host Config := do
  let args ← Action.ofOutcome (CommandLine.parse spec words)
  match args.text? "config" with
  | some path => if path.isEmpty then Config.ofParts [] else Config.ofFile path
  | none => Config.ofParts []

/-- Sets the service up for serving. -/
def service (around : Surroundings) (words : List String) : Action Host Assembly := do
  let c ← config words
  Host.logToBoth (Text.upper c.logLevel) (Text.upper c.fileLogLevel) c.logDir Host.serverLog
  Action.ofOutcome (Assembly.ofConfig around c)

/-- The routes that are served, as methods and addresses in their order. -/
def routes : List (String × String) :=
  (Web.Route.all.map fun r => (Text.upper r.method, r.path)).mergeSort fun a b =>
    Text.precedes (a.1 ++ a.2) (b.1 ++ b.2)

/-- The name under which workers find the service. -/
def serviceUri : String := "kai.server:app()"

/-- How workers are started for a configuration. -/
def plan (c : Config) : WorkerPlan where
  uri := serviceUri
  settings :=
    [("timeout", .int c.timeout), ("workers", .int c.workers), ("bind", .str c.bind),
     ("worker_class", .str "aiohttp.GunicornWebWorker")]

/-- The plan of a command line. -/
def run (words : List String) : Action Host WorkerPlan := do
  return plan (← config words)

end Serve
end Remedy.Command
