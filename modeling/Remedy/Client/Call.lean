import Remedy.Client.Solve
import Remedy.Json.Display

/-!
# Calling a server

A small client starts the server of this library as a program of its own, calls it once with what
stands on the command line and prints the answer. Whatever came of the call, the server is stopped.
-/

namespace Remedy.Client

/-- What a caller does with the server. -/
inductive CallEvent where
  | launched (command : List String)
  | started
  | called (method : String) (args : Fields)
  | inputClosed
  | outputClosed
  | terminated
  | waited
  | stopped
deriving DecidableEq

/-- The state of a caller. -/
structure Caller where
  host : Host := {}
  events : List CallEvent := []

namespace Caller

/-- An action on the host. -/
def onHost {α : Type} (a : Action Host α) : Action Caller α :=
  Action.onPart Caller.host (fun s host => { s with host }) a

/-- Notes what is done with the server. -/
def note (e : CallEvent) : Action Caller Unit :=
  modify fun s => { s with events := s.events ++ [e] }

/-- The program that is started as the server. -/
def program : String := "./dist/cli"

/-- The log file of the caller. -/
def logFile : String := "client.log"

/-- How the caller is used. -/
def usage : String :=
  "All arguments are required\nUsage: node rpc-client.js <kai_toml_config> <app_name> " ++
    "<report_path> <input_file_path>"

/-- Calls the server and prints what it answers. -/
def call (answer : String → Fields → Outcome Json) (args : Fields) : Action Caller Unit := do
  onHost (Host.printLine ("running " ++ solveMethod ++ "() with params " ++ Json.shown (.obj args)))
  note (.called solveMethod args)
  match answer solveMethod args with
  | .ok result =>
    onHost (Host.printLine result.display)
    onHost (Host.printLine "\nReceived response successfully!")
  | .error e =>
    onHost (Host.printLine e.text)
    onHost (Host.printLine "\nFailed to generate fix")

/-- Starts the server, calls it and stops it. -/
def run (answer : String → Fields → Outcome Json) (words : List String) : Action Caller Unit := do
  onHost (Host.openLog logFile)
  match words with
  | config :: application :: report :: input :: _ =>
    note (.launched [program])
    note .started
    call answer [("config_path", .str config), ("app_name", .str application),
      ("report_path", .str report), ("input_file_path", .str input)]
    [CallEvent.inputClosed, .outputClosed, .terminated, .waited, .stopped].forM note
  | _ =>
    onHost (Host.printLine usage)
    throw (.exit (.code 1))

end Caller
end Remedy.Client
