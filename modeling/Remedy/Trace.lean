import Remedy.Host.Basic
import Remedy.Json.Writer
import Remedy.Text.Quoted
import Remedy.Time

/-!
# Traces

What happens while a file is worked on can be written to files for later study: the request, each
prompt with its values, each answer, each failure and the time that all took. The files of a request
lie in a directory of their own, in numbered directories for the batches and for the attempts of a
batch. A trace that is switched off writes nothing.
-/

namespace Remedy

/-- The text by which a failure is told to a person. -/
def Failure.text : Failure → String
  | .badValue t => t
  | .noItems kind => "'" ++ kind ++ "' object is not iterable"
  | .lacksMember kind member => "'" ++ kind ++ "' object has no attribute '" ++ member ++ "'"
  | .missingKey (some key) => Text.quoted key
  | .invalidData (some t) => t
  | .undefinedInTemplate t => t
  | .templateMissing name => name
  | .told t => t
  | .response _ t => t
  | .migrationFailed => "Migration failed"
  | .unreachable t => t
  | .noSuchFile (some t) => t
  | .exit (.code n) => Decimal.int n
  | .exit (.text t) => t
  | _ => ""

/-- A trace of one request (`KaiTrace`). -/
structure Trace where
  enabled : Bool
  directory : String
  /-- When the request began. -/
  started : Option Binary64 := none
  /-- When the request ended. -/
  ended : Option Binary64 := none
deriving DecidableEq

namespace Trace

/-- The trace of a request for a file, below the log directory. -/
def ofRequest (enabled : Bool) (workingDirectory logDir modelId application file mode : String) :
    Trace where
  enabled
  directory := Path.joinAll (Logging.directory workingDirectory logDir)
    ["trace", modelId, application, file, mode]

/-- The request begins (`start`): its directory is named after the time. -/
def start (t : Trace) (time : Binary64) : Trace :=
  if t.enabled then
    { t with
      started := some time
      directory := Path.join t.directory (Decimal.binary64 Decimal.plain time) }
  else t

/-- The request ends (`end`). -/
def stop (t : Trace) (time : Binary64) : Trace :=
  if t.enabled then { t with ended := some time } else t

/-- What is taken as a time that is not known. -/
def unknownTime : Int := -1

/-- A time that may be unknown. -/
def moment (time : Option Binary64) : Binary64 :=
  time.getD (Binary64.ofInt unknownTime)

/-- A time in words. -/
def shownTime (time : Option Binary64) : String :=
  (DateTime.ofSeconds (DateTime.wholeSeconds (moment time))).text " "

/-- When the request began and ended, and how long it took. -/
def timing (t : Trace) : String :=
  "start: " ++ shownTime t.started ++ "\nend: " ++ shownTime t.ended ++ "\nduration: " ++
    Decimal.binary64 Decimal.plain ((moment t.ended).sub (moment t.started)) ++ " seconds"

/-- Writes a file of the trace. -/
def record (t : Trace) (parts : List String) (content : String) : Action Host Unit := do
  if t.enabled then Host.writeWithDirs (Path.joinAll t.directory parts) content

/-- Writes a file of the trace whose content may be impossible to make; then it is left empty. -/
def recordOutcome (t : Trace) (parts : List String) (content : Outcome String) :
    Action Host Unit := do
  if t.enabled then
    record t parts ""
    record t parts (← Action.ofOutcome content)

/-- Writes the timing. -/
def recordTiming (t : Trace) : Action Host Unit :=
  t.record ["timing"] t.timing

/-- Writes the request (`params`). -/
def recordRequest (t : Trace) (content : Outcome String) : Action Host Unit :=
  t.recordOutcome ["params.json"] content

/-- The name of the value that is not written because it stands for a model. -/
def modelValue : String := "model_provider"

/-- The values of a prompt, as they are written. -/
def valuesText (values : Fields) : Outcome String :=
  if values.has modelValue then .ok (Json.render Json.indented (.obj (values.erase modelValue)))
  else .error (.missingKey (some modelValue))

/-- Writes a prompt and its values (`prompt`). -/
def recordPrompt (t : Trace) (batch : Int) (prompt : String) (values : Fields) :
    Action Host Unit := do
  t.record [Decimal.int batch, "prompt"] prompt
  t.recordOutcome [Decimal.int batch, "prompt_vars.json"] (valuesText values)

/-- Writes an answer as it is shown (`llm_result`). -/
def recordAnswer (t : Trace) (batch attempt : Int) (shown : String) : Action Host Unit :=
  t.record [Decimal.int batch, Decimal.int attempt, "llm_result"] shown

/-- The number of a directory; a negative number stands for none. -/
def numberPart (n : Int) : List String :=
  if 0 ≤ n then [Decimal.int n] else []

/-- Writes a failure and where it arose (`exception`). -/
def recordFailure (t : Trace) (batch attempt : Int) (failure origin : String) :
    Action Host Unit := do
  let parts := numberPart batch ++ numberPart attempt
  t.record (parts ++ ["exception"]) failure
  t.record (parts ++ ["traceback"]) origin

end Trace
end Remedy
