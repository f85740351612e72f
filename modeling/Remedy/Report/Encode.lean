import Remedy.Report.Basic

/-!
# Writing reports

The parts of a report as JSON values, with their entries in a fixed order.
-/

namespace Remedy

/-- An absent value is null. -/
def encodeOption {α : Type} (f : α → Json) : Option α → Json
  | some x => f x
  | none => .null

/-- The entries of an incident. -/
def Incident.fields (i : Incident) : Fields :=
  [("uri", .str i.uri), ("message", .str i.message), ("code_snip", .str i.snippet),
   ("line_number", .int i.line), ("variables", .obj i.vars)]

/-- An incident as a value. -/
def Incident.encode (i : Incident) : Json :=
  .obj i.fields

/-- The entries of an incident with the names of its rule set and violation. -/
def ExtendedIncident.fields (i : ExtendedIncident) : Fields :=
  i.toIncident.fields ++
    [("ruleset_name", .str i.ruleset), ("ruleset_description", Json.ofText? i.rulesetDescription),
     ("violation_name", .str i.violation),
     ("violation_description", Json.ofText? i.violationDescription)]

/-- An incident with the names of its rule set and violation, as a value. -/
def ExtendedIncident.encode (i : ExtendedIncident) : Json :=
  .obj i.fields

/-- A link as a value. -/
def Link.encode (l : Link) : Json :=
  .obj [("url", .str l.url), ("title", .str l.title)]

/-- A violation as a value. -/
def Violation.encode (v : Violation) : Json :=
  .obj
    [("description", .str v.description), ("category", .str v.category.word),
     ("labels", Json.texts v.labels), ("incidents", .arr (v.incidents.map Incident.encode)),
     ("links", .arr (v.links.map Link.encode)), ("extras", Json.ofText? v.extras),
     ("effort", encodeOption Json.int v.effort)]

/-- A rule set as a value. -/
def RuleSet.encode (r : RuleSet) : Json :=
  .obj
    [("name", Json.ofText? r.name), ("description", .str r.description),
     ("tags", encodeOption Json.texts r.tags),
     ("violations", .obj (r.violations.map fun (k, v) => (k, v.encode))),
     ("errors", encodeOption (fun es => .obj (es.map fun (k, s) => (k, .str s))) r.errors),
     ("unmatched", encodeOption Json.texts r.unmatched),
     ("skipped", encodeOption Json.texts r.skipped)]

/-- The rule sets of a report by name; a rule set without a name stands under `None`. -/
def Report.encode (report : Report) : Fields :=
  report.rulesets.map fun r => (r.name.getD "None", r.encode)

end Remedy
