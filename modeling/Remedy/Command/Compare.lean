import Remedy.Benchmark.Basic
import Remedy.CommandLine
import Remedy.Json.Reader
import Remedy.Json.Writer

/-!
# The command that compares configurations

Runs the benchmark under the given configurations, prints a table and writes the results to a file for
each configuration.
-/

namespace Remedy.Command.Compare

/-- What the command takes. -/
def spec : CommandSpec where
  options :=
    [{ names := ["--configs"], key := "configs", kind := .values },
     { names := ["--config_directories"], key := "directories", kind := .values },
     { names := ["--output"], key := "output" }]

/-- Where results are written if nothing is said. -/
def standardOutput : String := "results/"

/-- Makes sure that the directory for results is there and empty. -/
def prepareOutput (dir : String) : Action Host Unit := do
  if !(← Host.pathExists dir) then Host.makeDirs dir
  else if !(← Host.list dir).isEmpty then throw (.badValue "Output directory is not empty.")

/-- Adds a configuration under its path. One that was there before is replaced. -/
def addConfig (configs : List (String × ModelConfig)) (path : String) :
    Action Host (List (String × ModelConfig)) := do
  let c ← Config.ofFile path
  if (configs.lookup path).isSome then
    return configs.map fun (p, m) => if p == path then (p, c.models) else (p, m)
  else return configs ++ [(path, c.models)]

/-- The paths of the configurations in a directory. -/
def pathsIn (dir : String) : Action Host (List String) := do
  return (← Host.list dir).map (Path.join dir)

/-- The configurations of files and of directories of files. -/
def configsOf (files directories : List String) : Action Host (List (String × ModelConfig)) := do
  let configs ← files.foldlM addConfig []
  directories.foldlM (fun cs dir => do (← pathsIn dir).foldlM addConfig cs) configs

/-- A name without the marks that would make a path of it. -/
def flat (name : String) : String := Text.replace name "/" "_"

/-- A result as it is written: one item of a list. -/
def itemText (e : Benchmark.Entry) : String :=
  "- " ++ Json.render Json.compact (.obj
    [("example_name", .str (flat e.exampleName)), ("llm_result", .str e.result.answer),
     ("prompt", .str e.result.prompt), ("similarity", .real e.result.similarity)]) ++ "\n\n"

/-- The results in the text of a file. -/
def resultsOf (content : String) : List Json :=
  (Text.split content "\n").filterMap fun line => (Text.dropFront? line "- ").bind Json.parse?

/-- Appends a result to the file of its configuration. -/
def record (output : String) (e : Benchmark.Entry) : Action Host Unit := do
  let path := Path.join output (flat e.config ++ ".yaml")
  let before ← if ← Host.fileExists path then Host.read path else pure ""
  Host.write path (before ++ itemText e)

/-- The command (`compare_from_cli`). -/
def run (setup : Benchmark.Setup) (words : List String) : Action Benchmark.State Unit := do
  let args ← Action.ofOutcome (CommandLine.parse spec words)
  let output := (args.text? "output").getD standardOutput
  let (files, directories) := (args.texts? "configs", args.texts? "directories")
  Benchmark.onHost (prepareOutput output)
  if files.isNone && directories.isNone then
    throw (.badValue "Must provide at least one config or config directory")
  let configs ← Benchmark.onHost (configsOf (files.getD []) (directories.getD []))
  let entries ← Benchmark.run setup configs
  entries.forM fun e => Benchmark.onHost (record output e)

end Remedy.Command.Compare
