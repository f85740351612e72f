import Remedy.Command.Dispatch
import Remedy.Recorded.Network
import Remedy.Recorded.Service

/-!
# A recorded world

The world of commands, with recorded surroundings and repositories. No hub is reached in it, and all
programs succeed.
-/

namespace Remedy

/-- A recorded benchmark of an installation, with the examples in a directory. -/
def Benchmark.Setup.ofJson (i : Installation) (cwd examples : String) (v : Json) : Setup where
  around := Surroundings.ofJson i true cwd v
  examples
  repository := fun _ _ => Repository.ofJson (v.valueAt "repo")
  source := Detection.SourceKnowledge.none
  talk := Model.recorded
  store := .recorded

/-- A recorded world of an installation. -/
def Command.World.ofJson (i : Installation) (cwd repositories samples : String) (v : Json) :
    World where
  around := Surroundings.ofJson i false cwd v
  benchmarkAround := Surroundings.ofJson i true cwd v
  installation := i
  repositories
  repository := fun _ => Repository.ofJson (v.valueAt "repo")
  source := Detection.SourceKnowledge.none
  hub := Hub.Server.ofTable []
  samples := Samples.installed
  programs := Samples.Programs.ofJson .null
  samplesDirectory := samples

end Remedy
