import Remedy.Text.Quoted
import Remedy.Text.Search
import Remedy.Number.Decimal
import Remedy.Path
import Remedy.Failure

/-!
# Logging

Where records go and how they are written. A handler takes records from a level on, to the console or
to a file.
-/

namespace Remedy

/-- How grave a record is. -/
inductive Level where
  | notSet
  | debug
  | info
  | warning
  | error
  | critical
deriving DecidableEq, Repr

namespace Level

/-- The name under which a level is shown. -/
def name : Level → String
  | .notSet => "NOTSET"
  | .debug => "DEBUG"
  | .info => "INFO"
  | .warning => "WARNING"
  | .error => "ERROR"
  | .critical => "CRITICAL"

/-- The level of a name. Two levels have a second name. -/
def ofName? : String → Option Level
  | "NOTSET" => some .notSet
  | "DEBUG" => some .debug
  | "INFO" => some .info
  | "WARNING" => some .warning
  | "WARN" => some .warning
  | "ERROR" => some .error
  | "CRITICAL" => some .critical
  | "FATAL" => some .critical
  | _ => none

/-- Reads a level; names are in capitals. -/
def ofName (word : String) : Outcome Level :=
  match ofName? word with
  | some level => .ok level
  | none => .error (.badValue ("Unknown level: " ++ Text.quoted word))

end Level

/-- Where a handler writes. -/
inductive Sink where
  | console
  | file (path : String)
deriving DecidableEq, Repr

/-- Records from a level on go to a sink. -/
structure Handler where
  sink : Sink
  level : Level
deriving DecidableEq, Repr

/-- The handlers in use and the level of the whole. -/
structure Logging where
  handlers : List Handler := []
  level : Level := .notSet
deriving DecidableEq, Repr

namespace Logging

/-- The name of the logger that everything is logged under. -/
def name : String := "kai"

/-- What stands for the working directory at the beginning of a log directory. -/
def workingDirectoryMark : String := "$pwd"

/-- The log directory that a setting names (`process_log_dir_replacements`): the mark in front gives
way to the working directory. -/
def directory (workingDirectory setting : String) : String :=
  match Text.dropFront? setting workingDirectoryMark with
  | some rest => Path.normalize (Path.absolute workingDirectory workingDirectory ++ rest)
  | none => setting

/-- A text with blanks in front up to a width. -/
def padFront (width : Nat) (s : String) : String :=
  String.ofList (List.replicate (width - s.length) ' ') ++ s

/-- A text with blanks behind it up to a width. -/
def padBack (width : Nat) (s : String) : String :=
  s ++ String.ofList (List.replicate (width - s.length) ' ')

/-- What is known of a record besides its time. -/
structure Record where
  level : Level
  logger : String
  file : String
  line : Int
  function : String
  message : String

/-- A record as it is written, with the time in words. -/
def format (time : String) (r : Record) : String :=
  r.level.name ++ " - " ++ time ++ " - " ++ r.logger ++ " - [" ++ padFront 20 r.file ++ ":" ++
    padBack 4 (Decimal.int r.line) ++ " - " ++ padFront 20 r.function ++ "()] - " ++ r.message

end Logging
end Remedy
