import Remedy.Report.Impacted
import Remedy.Service.Assembly
import Remedy.Service.File

/-!
# Fixing files in place

The client asks the model itself, once for each file and without solved examples, and writes what it
gives over the file. A file that cannot be fixed is left as it is.
-/

namespace Remedy.Client

/-- The language in which files are taken to be written. -/
def language : String := "java"

/-- The word for the way in which the incidents of a file are put together: all at once. -/
def modeWord : String := "single"

/-- Nothing is looked up. -/
def noExamples : Finder where
  find := fun _ => return []
  kept := id

/-- What the client works with for a configuration. -/
def setupOf (around : Surroundings) (c : Config) : Outcome ServiceSetup := do
  return {
    model := ← Model.ofConfig around.environment c.models
    guesser := around.guesser
    templates := around.templates
    consumer := .one .diffOnly
    finder := noExamples
    logDir := c.logDir
    traceEnabled := c.traceEnabled
    demoMode := c.demoMode
    runtime := around.runtime }

/-- The trace of a file (`get_trace`). -/
def traceOf (setup : ServiceSetup) (application file : String) : Action Service Trace := do
  let id ← Action.ofOutcome (Service.modelId setup)
  return Trace.ofRequest setup.traceEnabled (← get).host.workingDirectory setup.logDir id
    application file modeWord

/-- The prompt for a file with its incidents (`render_prompt`). -/
def promptFor (setup : ServiceSetup) (trace : Trace) (file contents : String)
    (incidents : List Json) : Action Service String := do
  let values := Service.batchValues setup.model file language contents incidents
  let text ← Action.ofOutcome (Service.prompt setup values)
  Service.onHost (trace.recordPrompt 0 text values)
  return text

/-- Asks the model for the file that a prompt is about. -/
def askFor (setup : ServiceSetup) (trace : Trace) (file prompt : String) :
    Action Service UpdatedFile := do
  let got ← Service.askOnce setup trace file language prompt 0 0
  return {
    contents := got.file.updatedFile
    reasoning := [got.file.reasoning]
    prompts := [prompt]
    modelId := ← Action.ofOutcome (Service.modelId setup)
    additional := [got.file.additional]
    answers := some [got.answer] }

/-- Asks the model with the tape of the file in the deck (`generate_fix`). -/
def fix (setup : ServiceSetup) (trace : Trace) (application file prompt : String) :
    Action Service UpdatedFile := do
  let played ← Service.playing setup.runtime.deck (Service.tapeOf setup application file)
    (askFor setup trace file prompt)
  Action.ofOutcome played.2
  return played.1

/-- Writes over a file (`write_to_disk`); if that cannot be done, the command ends. -/
def overwrite (path contents : String) : Action Host Unit := do
  match ← (Host.write path contents).attempt with
  | .ok _ => return
  | .error _ => throw (.exit (.code 1))

/-- The end of the work on a file. -/
def finish (trace : Trace) : Action Service Unit := do
  let trace := trace.stop (← Service.onHost Host.now)
  Service.onHost trace.recordTiming

/-- Writes down a failure that belongs to no batch. -/
def recordFailure (setup : ServiceSetup) (trace : Trace) (e : Failure) : Action Service Unit :=
  Service.onHost (trace.recordFailure (-1) (-1) e.text (setup.runtime.origin e))

/-- Fixes a file of an application (`__process_file`). A failure of the model is written down and
passed over. -/
def processFile (setup : ServiceSetup) (application root : String)
    (impacted : String × List ExtendedIncident) : Action Service Unit := do
  let (file, incidents) := impacted
  Service.onHost (Host.printLine ("Processing file: " ++ file))
  let trace ← traceOf setup application file
  let trace := trace.start (← Service.onHost Host.now)
  let path := Path.join root file
  let contents ← Service.onHost (Host.readText path)
  let prompt ← promptFor setup trace file contents (incidents.map ExtendedIncident.encode)
  let attempt : Action Service Unit := do
    let fixed ← fix setup trace application file prompt
    Service.onHost (overwrite path fixed.contents)
  Action.andAlways
    (do match ← attempt.attempt with
        | .ok _ => return
        | .error (.exit status) => throw (.exit status)
        | .error e => recordFailure setup trace e)
    (finish trace)

/-- At most so many files are fixed one after the other. -/
def trialSize : Nat := 2

/-- Fixes the first files one after the other, up to the first failure (`process_files_seq`). -/
def processFirst (setup : ServiceSetup) (application root : String) (files : ImpactedFiles) :
    Action Service Unit :=
  (files.take trialSize).forM (processFile setup application root)

/-- Fixes all files, whatever becomes of each (`process_files_parallel`); if one failed, the command
ends. -/
def processAll (setup : ServiceSetup) (application root : String) (files : ImpactedFiles) :
    Action Service Unit := do
  let outcomes ← files.mapM fun f => (processFile setup application root f).attempt
  if outcomes.any fun o => o.toBool == false then throw (.exit (.code 1))

end Remedy.Client
