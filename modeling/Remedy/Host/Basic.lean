import Remedy.Action
import Remedy.Host.Logging
import Remedy.Files.Tree
import Remedy.Number.Binary64

/-!
# The host of a command

All that a command finds around it and changes: files, the working directory, the environment, what
it prints, the clock, and the logging that is set up. A command is an action on its host.
-/

namespace Remedy

/-- What a command finds around it and changes. -/
structure Host where
  files : FileTree := {}
  workingDirectory : String := "/"
  environment : List (String × String) := []
  printed : String := ""
  /-- Readings of the clock still to come; after them it stands at zero. -/
  clock : List Binary64 := []
  /-- How long the command slept each time, the last first. -/
  slept : List Binary64 := []
  logging : Logging := {}
  /-- The settings file of the installation. -/
  settingsFile : String := "/config.toml"
  /-- The log directory if none is configured. -/
  standardLogDir : String := "/logs"

namespace Host

/-- The path from the root that a path given to the command stands for. The empty path stands for
nothing. -/
def locate (path : String) : Action Host String := do
  if path.isEmpty then throw (.noSuchFile none)
  return Path.join (← get).workingDirectory path

/-- Sets the files if changing them succeeded. -/
def updateFiles (change : FileTree → Outcome FileTree) : Action Host Unit := do
  let files ← Action.ofOutcome (change (← get).files)
  modify fun h => { h with files }

/-- The content of a file. -/
def read (path : String) : Action Host String := do
  let full ← locate path
  Action.ofOutcome ((← get).files.read full)

/-- All ends of lines as single line feeds. -/
def singleBreaks : List Char → List Char
  | [] => []
  | '\r' :: '\n' :: rest => '\n' :: singleBreaks rest
  | c :: rest => (if c = '\r' then '\n' else c) :: singleBreaks rest

/-- The text of a file: every end of a line is read as a line feed. -/
def readText (path : String) : Action Host String := do
  return String.ofList (singleBreaks (← read path).toList)

/-- Writes a file. -/
def write (path content : String) : Action Host Unit := do
  let full ← locate path
  updateFiles (·.write full content)

/-- Makes a directory with those above it. -/
def makeDirs (path : String) : Action Host Unit := do
  let full ← locate path
  updateFiles (·.makeDirs full)

/-- Removes a directory with all that is in it. -/
def removeDir (path : String) : Action Host Unit := do
  let full ← locate path
  updateFiles (·.removeDir full)

/-- Makes the directory of a file, then writes the file. -/
def writeWithDirs (path content : String) : Action Host Unit := do
  makeDirs (Path.parent path)
  write path content

/-- Something stands at the path. -/
def pathExists (path : String) : Action Host Bool := do
  let h ← get
  return !path.isEmpty && h.files.pathExists (Path.join h.workingDirectory path)

/-- A directory stands at the path. -/
def dirExists (path : String) : Action Host Bool := do
  let h ← get
  return !path.isEmpty && h.files.dirExists (Path.join h.workingDirectory path)

/-- A file stands at the path. -/
def fileExists (path : String) : Action Host Bool := do
  let h ← get
  return !path.isEmpty && h.files.fileExists (Path.join h.workingDirectory path)

/-- The names in a directory, sorted. -/
def list (path : String) : Action Host (List String) := do
  let full ← locate path
  Action.ofOutcome ((← get).files.list full)

/-- Goes to a directory. -/
def changeDir (path : String) : Action Host Unit := do
  let full ← locate path
  let files := (← get).files
  let place ← Action.ofOutcome (files.place full)
  if files.isDir place then
    modify fun h => { h with workingDirectory := "/" ++ Text.join "/" place }
  else if (files.file? place).isSome then throw .notDirectory
  else throw (.noSuchFile none)

/-- The path from the root, without detours. -/
def absolute (path : String) : Action Host String := do
  return Path.absolute (← get).workingDirectory path

/-- A variable of the environment. -/
def setting? (name : String) : Action Host (Option String) := do
  return (← get).environment.lookup name

/-- Prints a text. -/
def print (text : String) : Action Host Unit :=
  modify fun h => { h with printed := h.printed ++ text }

/-- Prints a line. -/
def printLine (line : String) : Action Host Unit :=
  print (line ++ "\n")

/-- Reads the clock. -/
def now : Action Host Binary64 := do
  let h ← get
  match h.clock with
  | [] => return Binary64.zero
  | t :: rest =>
    set { h with clock := rest }
    return t

/-- The bound of a time that is counted in nanoseconds, in either direction. -/
def nanosecondsBound : Int := Nat.pow 2 63

/-- Why a command cannot wait so long: the time is no number, cannot be counted in nanoseconds, or is
negative. -/
def refusedDelay? (seconds : Binary64) : Option Failure :=
  let nanoseconds := seconds.times (Nat.pow 10 9)
  if seconds = .notANumber then some (.badValue "Invalid value NaN (not a number)")
  else if nanoseconds.lt (.ofInt (-nanosecondsBound)) || !nanoseconds.lt (.ofInt nanosecondsBound) then
    some .tooLarge
  else if seconds.lt .zero then some (.badValue "sleep length must be non-negative")
  else none

/-- Waits (`time.sleep`). -/
def sleep (seconds : Binary64) : Action Host Unit := do
  match refusedDelay? seconds with
  | some e => throw e
  | none => modify fun h => { h with slept := seconds :: h.slept }

/-! ## Setting up logging -/

/-- Adds a handler. -/
def addHandler (handler : Handler) : Action Host Unit :=
  modify fun h => { h with logging.handlers := h.logging.handlers ++ [handler] }

/-- Records from a level on go to the console (`setup_console_handler`). -/
def logToConsole (level : String) : Action Host Unit := do
  let l ← Action.ofOutcome (Level.ofName level)
  addHandler ⟨.console, l⟩
  printLine ("Console logging for '" ++ Logging.name ++ "' is set to level '" ++ level ++ "'")

/-- Opens a log file: an absent one is made empty. -/
def openLog (path : String) : Action Host Unit := do
  let full ← absolute path
  let files := (← get).files
  if files.fileExists full then return
  updateFiles (·.write full "")

/-- Records from a level on go to a file (`setup_file_handler`). The file is made even if the level
turns out to be unknown. -/
def logToFile (fileName dir level : String) (silent : Bool) : Action Host Unit := do
  let path := Path.join (Logging.directory (← get).workingDirectory dir) fileName
  makeDirs (Path.parent path)
  openLog path
  let l ← Action.ofOutcome (Level.ofName level)
  addHandler ⟨.file (← absolute path), l⟩
  if silent then return
  printLine ("File logging for '" ++ Logging.name ++ "' is set to level '" ++ level ++
    "' writing to file: '" ++ path ++ "'")

/-- The log file of the server. -/
def serverLog : String := "kai_server.log"

/-- Logs to the console and to a file (`initLogging`); the handlers alone decide what is dropped. -/
def logToBoth (consoleLevel fileLevel dir fileName : String) : Action Host Unit := do
  logToConsole consoleLevel
  logToFile fileName dir fileLevel false
  modify fun h => { h with logging.level := .debug }

end Host
end Remedy
