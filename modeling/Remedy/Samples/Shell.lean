import Remedy.Host.Basic
import Remedy.Json.Display
import Remedy.Samples.Basic

/-!
# Commands on samples

Work on samples runs other programs in the directory it has gone to. What is run is kept in order.
-/

namespace Remedy.Samples

/-- How a program is started. -/
inductive Start where
  /-- By the shell, in passing. -/
  | system
  /-- And waited for. -/
  | run
deriving DecidableEq, Repr

/-- A program that was started: in which directory and with what. -/
structure Launch where
  start : Start
  directory : String
  command : Json
deriving DecidableEq

/-- The state of work on samples. -/
structure Errand where
  host : Host := {}
  launches : List Launch := []

/-- What the programs do that are waited for. -/
structure Programs where
  /-- Copies a repository to a place: the exit code, and the directories that are there afterwards. -/
  clone : (place : String) → Int × Bool

namespace Errand

/-- An action on the host. -/
def onHost {α : Type} (a : Action Host α) : Action Errand α :=
  Action.onPart Errand.host (fun s host => { s with host }) a

/-- Prints a line. -/
def tell (line : String) : Action Errand Unit := onHost (Host.printLine line)

/-- Starts a program. -/
def launch (start : Start) (command : Json) : Action Errand Unit :=
  modify fun s => { s with launches := s.launches ++ [⟨start, s.host.workingDirectory, command⟩] }

/-- Switches a repository to a branch. -/
def checkout (branch : Json) : Action Errand Unit :=
  launch .system (.str ("git checkout " ++ branch.display))

/-- Goes to a directory. -/
def enter (path : String) : Action Errand Unit :=
  onHost (Host.changeDir path)

/-- The place of the repository of a sample. -/
def repoPlace (name : String) : String := "sample_repos/" ++ name

/-- Goes back from the repository of a sample. -/
def leaveRepo : Action Errand Unit := enter "../../"

end Errand
end Remedy.Samples
