import Remedy.Json.Access
import Remedy.Store.Find
import Remedy.Store.Load

/-!
# The store as a value

The tables of the store, row by row.
-/

namespace Remedy

/-- A stored incident from its columns; columns that are absent are empty. -/
def IncidentRow.ofColumns (id : Nat) (v : Json) : IncidentRow where
  id
  violation := v.textAt? "violation_name"
  ruleset := v.textAt? "ruleset_name"
  application := v.textAt "application_name"
  uri := v.textAt "incident_uri"
  message := v.textAt "incident_message"
  snippet := v.textAt "incident_snip"
  line := v.intOr "incident_line" 0
  vars := v.fieldsAt "incident_variables"

/-- Incidents from their columns, numbered by their places. -/
def IncidentRow.listOf (vs : List Json) : List IncidentRow :=
  vs.zipIdx.map fun (v, i) => IncidentRow.ofColumns i v

/-- A stored incident as a value. The number of its solution is a text. -/
def IncidentRow.encode (r : IncidentRow) : Json :=
  .arr [.int r.id, Json.ofText? r.violation, Json.ofText? r.ruleset, .str r.application, .str r.uri,
    .str r.message, .str r.snippet, .int r.line, .obj r.vars,
    Json.ofText? (r.solutionId.map Decimal.natural)]

/-- An application from its columns. -/
def Application.ofColumns (v : Json) : Application where
  name := v.textAt "application_name"
  origin := v.textAt? "repo_uri_origin"
  localUri := v.textAt "repo_uri_local"
  branch := v.textAt? "current_branch"
  commit := v.textAt? "current_commit"
  generatedAt := (v.textAt? "generated_at").bind Timestamp.ofText?

/-- An application as a value, without the time of its analysis. -/
def Application.encode (a : Application) : Json :=
  .arr [.str a.name, Json.ofText? a.origin, .str a.localUri, Json.ofText? a.branch,
    Json.ofText? a.commit]

/-- Counts as a value. -/
def LoadCounts.encode (c : LoadCounts) : Json :=
  .arr [.int c.fresh, .int c.unsolved, .int c.solved]

namespace Store

/-- A query as a value. -/
def Query.encode (q : Query) : Json :=
  .arr [.str q.ruleset, .str q.violation, .obj q.vars, Json.ofText? q.snippet]

/-- The tables of a store. -/
def encode (s : Store) : Json :=
  .obj [
    ("applications", .arr (s.applications.map Application.encode)),
    ("rulesets", .arr (s.rulesets.map fun r =>
      .arr [Json.ofText? r.name, encodeOption Json.texts r.tags])),
    ("violations", .arr (s.violations.map fun v =>
      .arr [.str v.name, Json.ofText? v.ruleset, .str v.category.word, Json.texts v.labels])),
    ("incidents", .arr (s.incidents.map IncidentRow.encode)),
    ("solutions", .arr (s.solutions.map fun r => .arr [.int r.id, r.solution.encodeTimeless])),
    ("reports", .arr (s.reports.map fun r =>
      .arr [.str r.application, .str r.reportId, .obj r.content]))]

end Store
end Remedy
