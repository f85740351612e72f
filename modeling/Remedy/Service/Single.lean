import Remedy.Service.Basic
import Remedy.Json.Display

/-!
# Solving one incident

A single incident is given to the model with a template that may use only a few values. The answer is
given as it is, or character by character.
-/

namespace Remedy

/-- A request to solve one incident. -/
structure SingleRequest where
  application : String
  ruleset : String
  violation : String
  snippet : Option String
  vars : Fields
  fileName : String
  contents : String
  line : Int
  message : Option String
deriving DecidableEq

namespace SingleRequest

open Decode

/-- The names of the parts of a request. -/
def parts : List String :=
  ["application_name", "ruleset_name", "violation_name", "incident_snip", "incident_variables",
   "file_name", "file_contents", "line_number", "analysis_message"]

/-- Reads a request. -/
def decode (v : Json) : Outcome SingleRequest := do
  let fields ← object v
  return {
    application := ← required fields ["application_name"] text
    ruleset := ← required fields ["ruleset_name"] text
    violation := ← required fields ["violation_name"] text
    snippet := ← withDefault fields ["incident_snip"] (nullable text) (some "")
    vars := ← required fields ["incident_variables"] object
    fileName := ← required fields ["file_name"] text
    contents := ← required fields ["file_contents"] text
    line := ← required fields ["line_number"] int
    message := ← withDefault fields ["analysis_message"] (nullable text) (some "") }

/-- Reads a request that has all its parts and no other. -/
def ofFields (fields : Fields) : Outcome SingleRequest := do
  if fields.any fun (k, _) => !parts.contains k then throw .wrongKind
  if parts.any fun k => !fields.has k then throw .wrongKind
  decode (.obj fields)

end SingleRequest

namespace Service

/-- The values of the prompt for one incident. -/
def singleValues (r : SingleRequest) : Fields :=
  [("src_file_name", .str r.fileName), ("src_file_contents", .str r.contents),
   ("line_number", .str (Decimal.int r.line)), ("analysis_message", Json.ofText? r.message)]

/-- The values with a solved example, if there is one. -/
def withExample (setup : ServiceSetup) (values : Fields) : List Solution → Outcome Fields
  | [] => .ok values
  | first :: _ => do
    return Fields.set values "solution_str" (.str (← ConsumerChoice.consume first setup.consumer))

/-- The prompt for one incident. -/
def singlePrompt (setup : ServiceSetup) (r : SingleRequest) : Action Service String := do
  let found ← lookUp setup.finder ⟨r.ruleset, r.violation, r.vars, r.snippet⟩
  let values ← Action.ofOutcome (withExample setup (singleValues r) found)
  Action.ofOutcome (prompt setup values)

/-- Solves one incident (`get_incident_solution`); the answer is that of the model. -/
def solveOne (setup : ServiceSetup) (r : SingleRequest) : Action Service String := do
  ask (← singlePrompt setup r)

/-- Solves one incident; the answer comes in pieces of one character. -/
def solveStreaming (setup : ServiceSetup) (r : SingleRequest) : Action Service (List String) := do
  return (← solveOne setup r).toList.map Char.toString

end Service
end Remedy
