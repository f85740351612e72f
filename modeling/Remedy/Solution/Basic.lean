import Remedy.Json.Decode
import Remedy.Json.Reader
import Remedy.Json.Writer

/-!
# Solutions

How an incident was solved: the file before and after, the difference, and perhaps a summary.
-/

namespace Remedy

/-- How an incident was solved. -/
structure Solution where
  uri : String
  /-- When the solution was made, as text; unknown if it has not been stored as text. -/
  generatedAt : Option String := none
  fileDiff : String
  repoDiff : Option String := none
  codeBefore : String
  codeAfter : String
  /-- Whether the summary has been made; absent if none is wanted. -/
  summaryGenerated : Option Bool := none
  summary : Option String := none
deriving DecidableEq

namespace Solution

open Decode

/-- Reads a solution. -/
def decode (v : Json) : Outcome Solution := do
  let fields ← object v
  return {
    uri := ← required fields ["uri"] text
    generatedAt := ← withDefault fields ["generated_at"] (fun v => (text v).map some) none
    fileDiff := ← required fields ["file_diff"] text
    repoDiff := ← withDefault fields ["repo_diff"] (nullable text) none
    codeBefore := ← required fields ["original_code"] text
    codeAfter := ← required fields ["updated_code"] text
    summaryGenerated := ← withDefault fields ["llm_summary_generated"] (nullable bool) none
    summary := ← withDefault fields ["llm_summary"] (nullable text) none }

/-- The truth value that may be absent. -/
def encodeFlag : Option Bool → Json
  | some b => .bool b
  | none => .null

/-- The entries after the time. -/
def laterFields (s : Solution) : Fields :=
  [("file_diff", .str s.fileDiff), ("repo_diff", Json.ofText? s.repoDiff),
   ("original_code", .str s.codeBefore), ("updated_code", .str s.codeAfter),
   ("llm_summary_generated", encodeFlag s.summaryGenerated),
   ("llm_summary", Json.ofText? s.summary)]

/-- The entries of a solution. -/
def fields (s : Solution) : Fields :=
  [("uri", .str s.uri), ("generated_at", Json.ofText? s.generatedAt)] ++ s.laterFields

/-- A solution as a value. -/
def encode (s : Solution) : Json :=
  .obj s.fields

/-- A solution as a value without the time at which it was made. -/
def encodeTimeless (s : Solution) : Json :=
  .obj (("uri", .str s.uri) :: s.laterFields)

/-- The text under which a solution is stored. -/
def stored (s : Solution) : String :=
  Json.render Json.compactText s.encode

/-- Reads a stored solution. -/
def ofStored (content : String) : Outcome Solution :=
  match Json.parse? content with
  | some v => decode v
  | none => invalid

end Solution
end Remedy
