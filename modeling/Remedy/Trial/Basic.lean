import Remedy.History
import Remedy.Json.Access
import Remedy.Json.Display
import Remedy.Service.Basic
import Remedy.Trace

/-!
# Trials

A trial measures how well a model solves the violations of an application that has been migrated
already. For each violation it asks about the first incident; if there is a second one, the patch that
solved it stands as an example. Question, answer and the patch in the answer are written to files.
-/

namespace Remedy.Trial

/-- What a trial works with (`LLMResult`). -/
structure Setup where
  history : History
  /-- The branch before the migration. -/
  initial : String
  /-- The branch after the migration. -/
  solved : String
  /-- The directory for results. -/
  output : String
  /-- The name of the model. -/
  model : String
  /-- The rulesets to which the trial is limited. -/
  rulesets : Json := .null
  /-- The violations to which the trial is limited. -/
  violations : Json := .null

/-- Whether a limit allows a name. No limit and an empty list allow all. -/
def allows (limit : Json) (name : String) : Outcome Bool :=
  match limit with
  | .null => .ok true
  | .arr items => .ok (items.isEmpty || items.contains (.str name))
  | .str s => .ok (Text.contains s name)
  | .obj fields => .ok (Fields.has fields name)
  | _ => .error .wrongKind

/-- The file that the address of an incident names (`_update_uri`); files that were built are left
out. -/
def sourceFile (uri : String) : Option String :=
  let path := Text.replace uri "file:///tmp/source-code/" ""
  if Text.startsWith path "target/" then none else some path

/-- What stands for a patch that is not found. -/
def noPatch : String := "Error: Unable to extract diff"

/-- The patch in an answer (`_extract_diff`): what the only block of that kind holds. -/
def patchIn (answer : String) : String :=
  match Text.split answer "```diff" with
  | [_, after] => ((Text.split after "```").head?).getD ""
  | _ => noPatch

/-- Why no patch is found in an answer. -/
def patchComplaint (answer : String) : Option String :=
  match (Text.split answer "```diff").length with
  | 2 => none
  | 1 => some "Error: not enough values to unpack (expected 2, got 1)"
  | _ => some "Error: too many values to unpack (expected 2)"

/-- Takes the patch out of an answer; if there is none, that is said. -/
def takePatch (answer : String) : Action Host String := do
  match patchComplaint answer with
  | some complaint => Host.printLine complaint
  | none => pure ()
  return patchIn answer

/-- The parts of a question: what is said, and the value that follows. -/
def questionParts : List (String × String) :=
  [("Issue: ", "description"), ("\nFile: ", "current_issue_filename"),
   ("\nMsg: ", "current_issue_message"), ("\nCode: ", "current_issue_original_code"),
   ("\nSolved: ", "solved_example_filename"), ("\nDiff: ", "solved_example_diff")]

/-- The question before its values are filled in. -/
def questionForm : String :=
  String.join (questionParts.map fun (said, name) => said ++ "\x7b" ++ name ++ "\x7d") ++ "\n"

/-- The question with its values (`create_prompt`). -/
def question (values : Fields) : String :=
  String.join (questionParts.map fun (said, name) =>
    said ++ ((values.get? name).getD .null).display) ++ "\n"

/-- Makes a directory for results (`_ensure_output_dir_exists`). -/
def makeOutput (dir : String) : Action Host Unit := do
  match ← (Host.makeDirs dir).attempt with
  | .ok _ => return
  | .error e =>
    Host.printLine ("Error creating directory " ++ dir ++ ": " ++ e.text)
    throw e

/-- An incident, which must be an object. -/
def incidentAt (v : Json) : Outcome Fields :=
  match v with
  | .obj fields => .ok fields
  | _ => .error .missingMember

/-- The file of an incident. -/
def fileOf (incident : Fields) : Outcome (Option String) :=
  match incident.get? "uri" with
  | none => .error (.missingKey (some "uri"))
  | some (.str uri) => .ok (sourceFile uri)
  | some _ => .error .missingMember

/-- The patch that solved the example, or nothing if it cannot be told. -/
def examplePatch (setup : Setup) (file : String) : Json :=
  let found : Outcome (Option String) := do
    setup.history.patchOf (← setup.history.head setup.initial) (← setup.history.head setup.solved) file
  match found with
  | .ok patch => Json.ofText? patch
  | .error _ => .str ""

/-- Prints a line. -/
def tell (line : String) : Action Service Unit :=
  Service.onHost (Host.printLine line)

/-- The values of the question about the incidents of a violation; there are none if a file was
built. -/
def valuesOf (setup : Setup) (description : Json) (incidents : List Json) :
    Action Service (Option Fields) := do
  let first :: others := incidents | return none
  let incident ← Action.ofOutcome (incidentAt first)
  let some file ← Action.ofOutcome (fileOf incident) | return none
  tell ("Fetching original code for " ++ file ++ " in branch " ++ setup.initial)
  let code ← Action.ofOutcome (setup.history.file file setup.initial)
  let values : Fields :=
    [("description", description), ("current_issue_filename", .str file),
     ("current_issue_message", (incident.get? "message").getD .null),
     ("current_issue_original_code", .str code)]
  match others with
  | [] =>
    return some
      (values ++ [("solved_example_filename", .str ""), ("solved_example_diff", .str "")])
  | second :: _ =>
    let some solved ← Action.ofOutcome (do fileOf (← incidentAt second)) | return none
    return some (values ++ [("solved_example_filename", .str solved),
      ("solved_example_diff", examplePatch setup solved)])

/-- Writes the results of a question (`_write_output`). -/
def record (setup : Setup) (name asked answer : String) : Action Host Unit := do
  let dir := Path.join setup.output setup.model
  makeOutput dir
  Host.write (Path.join dir (name ++ "_full_run.md"))
    ("## Prompt:\n" ++ asked ++ "\n\n\n## Result:\n" ++ answer ++ "\n\n")
  Host.write (Path.join dir (name ++ ".diff")) (← takePatch answer)

/-- The name of a ruleset in file names. -/
def fileName (ruleset : String) : String := Text.replace ruleset "/" "_"

/-- Tries one violation, numbered within its ruleset. -/
def tryViolation (setup : Setup) (ruleset : String) (violation : (String × Json) × Nat) :
    Action Service Unit := do
  let ((key, data), number) := violation
  if !(← Action.ofOutcome (allows setup.violations key)) then
    tell ("Skipping " ++ key ++ " as it is not in " ++ setup.violations.display)
    return
  let incidents ← Action.ofOutcome (do Json.listOf (← data.part "incidents"))
  if incidents.isEmpty then return
  let description ← Action.ofOutcome (data.part "description")
  let some values ← valuesOf setup description incidents | return
  tell ("Processing " ++ ruleset ++ " " ++ key ++ " " ++ Decimal.natural number)
  let asked := question values
  let answer ← Service.ask asked
  Service.onHost
    (record setup (fileName ruleset ++ "_" ++ key ++ "_" ++ Decimal.natural number) asked answer)

/-- Tries the violations of a ruleset. -/
def tryRuleset (setup : Setup) (entry : String × Json) : Action Service Unit := do
  let (ruleset, data) := entry
  if !(← Action.ofOutcome (allows setup.rulesets ruleset)) then
    tell ("Skipping " ++ ruleset ++ " as it is not in " ++ setup.rulesets.display)
    return
  tell ("Processing " ++ ruleset ++ " " ++ fileName ruleset)
  let violations ← Action.ofOutcome (do Json.entriesOf (← data.part "violations"))
  violations.zipIdx.forM (tryViolation setup ruleset)

/-- A trial of all rulesets of a report (`process`). -/
def run (setup : Setup) (report : Option Json) : Action Service Unit := do
  let some data := report | throw (.told "No report to process.  Please parse a report first")
  Service.onHost (makeOutput setup.output)
  match data with
  | .obj rulesets =>
    rulesets.forM (tryRuleset setup)
    tell "Process complete"
  | _ => throw .missingMember

/-- Says how many incidents a description stands for, and shows the form of the question. -/
def announce (description incidents : Json) : Action Host Unit := do
  let count ← Action.ofOutcome incidents.size
  Host.printLine (Decimal.natural count ++ " incidents: " ++ description.display ++ "\n")
  Host.printLine ("template: " ++ (Json.str questionForm).shown)

end Remedy.Trial
