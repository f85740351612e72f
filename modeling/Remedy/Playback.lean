import Remedy.Action
import Remedy.Files.Tree

/-!
# Recorded answers of models

For demonstrations, the exchanges with a model are recorded on a tape and played back. A tape belongs
to an application, a model and a file. Outside demonstrations every exchange is made and the tape is
replaced.
-/

namespace Remedy

/-- What is done with a tape. -/
inductive RecordMode where
  /-- Exchanges are recorded once and played back afterwards. -/
  | once
  /-- Every exchange is recorded; what was on the tape is dropped. -/
  | all
deriving DecidableEq, Repr

/-- The word for what is done with a tape. -/
def RecordMode.word : RecordMode → String
  | .once => "once"
  | .all => "all"

/-- The tape for a file (`PlaybackDemo`). -/
structure Playback where
  library : String
  tape : String
  mode : RecordMode
deriving DecidableEq, Repr

namespace Playback

/-- The tape for a file, in the directory of data files (`playback_if_demo_mode`). -/
def ofFile (data : String) (demoMode : Bool) (modelId application file : String) : Playback where
  library := Path.join data ("vcr/" ++ application ++ "/" ++ modelId ++ "/")
  tape := file ++ ".yaml"
  mode := if demoMode then .once else .all

/-- The parts of an exchange that must be the same for it to be played back. -/
def matchedParts : List String :=
  ["uri", "method", "scheme", "host", "port", "path", "query", "headers"]

/-- Headers that are left out of the comparison. -/
def ignoredHeaders : List String :=
  ["authorization", "cookie", "content-length", "x-stainless-lang", "x-stainless-async",
   "x-stainless-runtime", "x-stainless-arch", "x-stainless-os", "x-stainless-package-version",
   "x-stainless-runtime-version", "user-agent"]

/-- Exchanges that failed are not recorded. -/
def recordsFailures : Bool := false

/-- What was on the tape is dropped. -/
def startsEmpty (p : Playback) : Bool :=
  p.mode == .all

end Playback

/-- A deck for tapes, which lie among the data files of the installation. How exchanges get on a
tape and from it is left open. Either step may fail. -/
structure Deck where
  /-- The directory of data files. -/
  data : String := ""
  /-- Puts a tape in (`use_cassette` is entered). -/
  load : Playback → Action FileTree Unit := fun _ => return
  /-- Takes a tape out and saves what is on it (`use_cassette` is left). -/
  save : Playback → Action FileTree Unit := fun _ => return

end Remedy
