import Remedy.Report.Basic
import Remedy.Json.Decode
import Remedy.Json.Reader
import Remedy.Json.Writer
import Remedy.Digest
import Remedy.Files.Tree

/-!
# Reading reports

A report comes as one rule set or a list of them. A rule set without a name is given one by counting
such rule sets. A report that is read from a file is identified by the digest of its canonical text,
so that neither the order of entries nor the layout of the file matters.
-/

namespace Remedy

open Decode

namespace Category

/-- The category of a word. -/
def decode : Json → Outcome Category
  | .str "potential" => .ok .potential
  | .str "optional" => .ok .optional
  | .str "mandatory" => .ok .mandatory
  | _ => invalid

end Category

/-- Reads an incident from its entries. -/
def Incident.ofFields (fields : Fields) : Outcome Incident := do
  return {
    uri := ← required fields ["uri"] text
    message := ← required fields ["message", "analysis_message"] text
    snippet := ← withDefault fields ["code_snip", "codeSnip", "incident_snip"] text ""
    line := ← withDefault fields ["line_number", "lineNumber"] int (-1)
    vars := ← withDefault fields ["variables", "incident_variables"] object [] }

/-- Reads an incident. -/
def Incident.decode (v : Json) : Outcome Incident := do
  Incident.ofFields (← object v)

/-- Reads an incident that says where it belongs. -/
def ExtendedIncident.decode (v : Json) : Outcome ExtendedIncident := do
  let fields ← object v
  let incident ← Incident.ofFields fields
  return {
    toIncident := incident
    ruleset := ← required fields ["ruleset_name"] text
    rulesetDescription := ← withDefault fields ["ruleset_description"] (nullable text) none
    violation := ← required fields ["violation_name"] text
    violationDescription := ← withDefault fields ["violation_description"] (nullable text) none }

/-- Reads a link. -/
def Link.decode (v : Json) : Outcome Link := do
  let fields ← object v
  return {
    url := ← required fields ["url"] text
    title := ← withDefault fields ["title"] text "" }

/-- Reads a violation. -/
def Violation.decode (v : Json) : Outcome Violation := do
  let fields ← object v
  return {
    description := ← withDefault fields ["description"] text ""
    category := ← withDefault fields ["category"] Category.decode .potential
    labels := ← withDefault fields ["labels"] (listOf text) []
    incidents := ← withDefault fields ["incidents"] (listOf Incident.decode) []
    links := ← withDefault fields ["links"] (listOf Link.decode) []
    extras := ← withDefault fields ["extras"] (nullable text) none
    effort := ← withDefault fields ["effort"] (nullable int) none }

/-- Reads a rule set. -/
def RuleSet.decode (v : Json) : Outcome RuleSet := do
  let fields ← object v
  return {
    name := ← withDefault fields ["name"] (nullable text) none
    description := ← withDefault fields ["description"] text ""
    tags := ← withDefault fields ["tags"] (nullable (listOf text)) none
    violations := ← withDefault fields ["violations"] (mapOf Violation.decode) []
    errors := ← withDefault fields ["errors"] (nullable (mapOf text)) none
    unmatched := ← withDefault fields ["unmatched"] (nullable (listOf text)) none
    skipped := ← withDefault fields ["skipped"] (nullable (listOf text)) none }

namespace Report

/-- The name of the `n`-th rule set that comes without one. -/
def unnamed (n : Nat) : String :=
  "Unnamed ruleset " ++ Decimal.natural n

/-- Gives a name to the data of a rule set that has none. Only an object can be given one; a list or a
text that happens to hold the word counts as named and is refused when it is read. -/
def nameData (unnamedSoFar : Nat) : Json → Outcome (Json × Nat)
  | .obj fields =>
    if Fields.has fields "name" then .ok (.obj fields, unnamedSoFar)
    else .ok (.obj (Fields.set fields "name" (.str (unnamed unnamedSoFar))), unnamedSoFar + 1)
  | .arr items =>
    if items.contains (.str "name") then .ok (.arr items, unnamedSoFar) else .error .wrongKind
  | .str s => if Text.contains s "name" then .ok (.str s, unnamedSoFar) else .error .wrongKind
  | _ => .error .wrongKind

/-- Adds rule sets one after the other (`add_ruleset`). -/
def addAll (rulesets : List RuleSet) (unnamedSoFar : Nat) : List Json → Outcome (List RuleSet)
  | [] => .ok rulesets
  | data :: rest => do
    let (named, count) ← nameData unnamedSoFar data
    let ruleset ← RuleSet.decode named
    addAll (put rulesets ruleset) count rest

/-- Reads a report from one rule set or a list of them (`load_report_from_object`). -/
def ofJson (id : String) (data : Json) : Outcome Report := do
  match data with
  | .obj _ => return ⟨id, ← addAll [] 0 [data]⟩
  | .arr items => return ⟨id, ← addAll [] 0 items⟩
  | .str s => return ⟨id, ← addAll [] 0 (s.toList.map fun c => Json.str c.toString)⟩
  | _ => throw .wrongKind

/-- The identifier of the data of a report. -/
def digest (data : Json) : String :=
  Digest.ofText data.canonicalText

/-- Reads a report from the text of a file (`load_report_from_file`), given what a text is read as
(`safe_load`). -/
def ofText (read : String → Option Json) (content : String) : Outcome Report :=
  match read content with
  | some data => ofJson (digest data) data
  | none => .error .malformedJson

/-- Reads a report from a file. -/
def ofFile (read : String → Option Json) (files : FileTree) (path : String) : Outcome Report := do
  ofText read (← files.read path)

end Report
end Remedy
