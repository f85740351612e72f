import Remedy.Command.Dispatch
import Remedy.Prompt.Installed
import Remedy.Recorded.Surroundings

/-!
# The program

The first word names a command and the others are its command line. The files below the working
directory are read, the command runs on them, and then what it printed is shown and the files that it
made or changed are written. No repository, hub or other program is reached from here.
-/

namespace Remedy.Program

/-- The variables of the environment that commands look at. -/
def consulted : List String :=
  ["KAI__LOG_LEVEL", "KAI__DEMO_MODE", "LOG_LEVEL", "DEMO_MODE", "GENAI_KEY", "GENAI_API",
   "GOOGLE_API_KEY"]

/-- The environment. -/
def environment : IO Model.Environment :=
  consulted.filterMapM fun name => do
    return (← IO.getEnv name).map fun value => (name, value)

/-- The files below an entry of a directory that can be read as text. -/
partial def filesOf (entry : IO.FS.DirEntry) : IO (List (String × String)) := do
  if ← entry.path.isDir then
    if entry.fileName == ".git" then return []
    return (← (← entry.path.readDir).toList.mapM filesOf).flatten
  try
    return [(entry.path.toString, ← IO.FS.readFile entry.path)]
  catch _ => return []

/-- The files at the beginning, with the directory of each. -/
def plant (t : FileTree) (file : String × String) : FileTree :=
  let made := do (← t.makeDirs (Path.parent file.1)).write file.1 file.2
  made.toOption.getD t

/-- All bytes of the input. -/
partial def inputOf (stream : IO.FS.Stream) : IO Rpc.Bytes := do
  let block ← stream.read 65536
  if block.isEmpty then return []
  return block.toList ++ (← inputOf stream)

/-- A hub that is not reached. -/
def noHub : Hub.Server where
  answer := fun _ _ => .error (.unreachable "no connection")

/-- The world of a program that reaches nothing but files. -/
def world (i : Installation) (cwd : String) (environment : Model.Environment) : Command.World :=
  let around := fun benchmarks =>
    { environment, guesser := .common, templates := i.search benchmarks cwd : Surroundings }
  { around := around false
    benchmarkAround := around true
    installation := i
    repositories := i.sampleRepositories
    repository := fun directory => { directory }
    source := Detection.SourceKnowledge.none
    hub := noHub
    samples := Samples.installed
    programs := { clone := fun _ => (1, false) }
    samplesDirectory := Path.join i.root "samples" }

/-- The answers to requests, as messages. -/
def replies (events : List Rpc.Event) : List Json :=
  events.filterMap fun e =>
    match e with
    | .responded id (.ok v) => some (.obj [("jsonrpc", .str "2.0"), ("id", id), ("result", v)])
    | .responded id (.error f) => some (.obj [("jsonrpc", .str "2.0"), ("id", id),
        ("error", .obj [("code", .str f.code.name), ("message", .str f.text)])])
    | _ => none

/-- Writes the files that were made or changed. -/
def store (before after : FileTree) : IO Unit := do
  for (names, content) in (after.changedSince before).files do
    let path := "/" ++ Text.join "/" names
    IO.FS.createDirAll (Path.parent path)
    IO.FS.writeFile path content

/-- Ends the program as a command ended. -/
def exitOf (result : Outcome Unit) : IO UInt32 :=
  match result with
  | .ok _ => return 0
  | .error (.exit (.code n)) => return n.toNat.toUInt32
  | .error (.exit (.text t)) => do
    IO.eprintln t
    return 1
  | .error e => do
    IO.eprintln e.text
    return 1

/-- Runs a command. -/
def perform (command : Command) (words : List String) : IO UInt32 := do
  let here ← IO.currentDir
  let installation : Installation := ⟨(← IO.appDir).toString⟩
  let environment ← environment
  let found := (← (← here.readDir).toList.mapM filesOf).flatten.foldl plant {}
  let files := (Benchmark.Installed.install installation found).toOption.getD found
  let host : Host := {
    files := (files.makeDirs here.toString).toOption.getD files
    workingDirectory := here.toString
    environment
    settingsFile := installation.settings
    standardLogDir := Path.join installation.home "logs" }
  let input ← if command = .rpc then inputOf (← IO.getStdin) else pure []
  let ending := command.run (world installation here.toString environment) host input words
  IO.print ending.host.printed
  IO.print (((replies ending.events).map Rpc.frame).foldl (· ++ ·) "")
  store files ending.host.files
  exitOf ending.result

end Remedy.Program

/-- Runs the command that the first word names. -/
def main (words : List String) : IO UInt32 :=
  match words with
  | word :: rest =>
    match Remedy.Command.ofWord? word with
    | some command => Remedy.Program.perform command rest
    | none => do
      IO.eprintln ("unknown command: " ++ word)
      return 2
  | [] => do
    IO.eprintln ("commands: " ++ Remedy.Text.join ", " (Remedy.Command.table.map Prod.fst))
    return 2
