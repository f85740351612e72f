import Remedy.Benchmark.Installed
import Remedy.Command.Client
import Remedy.Command.Compare
import Remedy.Command.FillHub
import Remedy.Command.ImportHub
import Remedy.Command.LoadStore
import Remedy.Command.Serve
import Remedy.Samples.Analyze
import Remedy.Samples.Fetch

/-!
# All commands

One way to run every command: with the same surroundings, from the words of a command line and the
bytes of an input, to an outcome, a host and the events that happened.
-/

namespace Remedy

/-- A command. -/
inductive Command where
  /-- Fixes the files of an application. -/
  | client
  /-- Answers requests on a stream. -/
  | rpc
  /-- Plans the workers of a server. -/
  | serve
  /-- Fills the store. -/
  | loadStore
  /-- Imports from a hub. -/
  | importHub
  /-- Fills a hub. -/
  | fillHub
  /-- Compares configurations. -/
  | compare
  /-- Fetches the samples. -/
  | fetch
  /-- Analyses the samples. -/
  | analyze
deriving DecidableEq, Repr

namespace Command

/-- The commands by their words. -/
def table : List (String × Command) :=
  [("client", .client), ("rpc", .rpc), ("serve", .serve), ("load-store", .loadStore),
   ("import-hub", .importHub), ("fill-hub", .fillHub), ("compare", .compare), ("fetch", .fetch),
   ("analyze", .analyze)]

/-- The command of a word. -/
def ofWord? (word : String) : Option Command := table.lookup word

/-- The world in which commands run. -/
structure World where
  around : Surroundings
  /-- The surroundings of a benchmark. -/
  benchmarkAround : Surroundings
  installation : Installation
  /-- The directory of the local repositories. -/
  repositories : String
  repository : String → Repository
  source : Detection.SourceKnowledge
  hub : Hub.Server
  samples : Samples.Catalog
  programs : Samples.Programs
  /-- The directory of the samples. -/
  samplesDirectory : String

namespace World

/-- How the store is filled. -/
def loadSetup (w : World) : LoadStoreSetup where
  around := w.around
  installation := w.installation
  repositories := w.repositories
  repository := w.repository
  source := w.source

/-- How configurations are compared. An example that is no repository has no content and no commit. -/
def compareSetup (w : World) : Benchmark.Setup where
  around := w.benchmarkAround
  examples := Benchmark.Installed.directory w.installation
  repository := fun isRepository place => if isRepository then w.repository place else {}
  source := w.source
  talk := w.benchmarkAround.talk

/-- How a hub is filled. -/
def uploadSetup (w : World) : Hub.UploadSetup where
  server := w.hub
  samples := w.samples
  directory := w.samplesDirectory
  head := fun place => .ok fun branch =>
    match (branch.text?).bind (w.repository place).head? with
    | some commit => .ok commit
    | none => .error .outOfRange

end World

/-- How a command ended. -/
structure Ending where
  result : Outcome Unit
  host : Host
  /-- The answers to requests. -/
  events : List Rpc.Event := []
  /-- The programs that were started. -/
  launches : List Samples.Launch := []

/-- The ending of a command on a state that has a host. -/
def ended {σ α : Type} (host : σ → Host) (r : Outcome α × σ) : Ending where
  result := r.1.map fun _ => ()
  host := host r.2

/-- The ending of an errand with samples. -/
def errandEnded (r : Outcome Unit × Samples.Errand) : Ending :=
  { ended Samples.Errand.host r with launches := r.2.launches }

/-- Runs a command. -/
def run (command : Command) (w : World) (host : Host) (input : Rpc.Bytes) (words : List String) :
    Ending :=
  match command with
  | .client => ended Service.host ((Client.run w.around words).exec { host })
  | .rpc =>
    let r := (Remedy.Client.serveQuietly w.around).exec { input, work := { host } }
    { ended (fun c => c.work.host) r with events := r.2.events }
  | .serve => ended id ((Serve.run words).exec host)
  | .loadStore =>
    ended (fun s => s.intake.host) ((LoadStore.run w.loadSetup none words).exec { intake := { host } })
  | .importHub => ended ImportHubState.host ((ImportHub.run words).exec { host })
  | .fillHub => ended Hub.Uploader.host ((FillHub.run w.uploadSetup words).exec { host })
  | .compare => ended Benchmark.State.host ((Compare.run w.compareSetup words).exec { host })
  | .fetch => errandEnded ((Samples.fetchAll w.programs w.samples).exec { host })
  | .analyze => errandEnded ((Samples.analyzeAll w.samplesDirectory w.samples).exec { host })

end Command
end Remedy
