import Remedy.Report.Basic

/-!
# Impacted files

The incidents of a report by the file they are in, in the order in which files first occur. Build
results, images and downloaded dependencies are left out.
-/

namespace Remedy

/-- Files with their incidents, in order of first occurrence. -/
abbrev ImpactedFiles := List (String × List ExtendedIncident)

/-- Adds an incident to the file it is in. -/
def ImpactedFiles.add : ImpactedFiles → String → ExtendedIncident → ImpactedFiles
  | [], path, i => [(path, [i])]
  | (p, is) :: rest, path, i =>
    if p = path then (p, is ++ [i]) :: rest else (p, is) :: ImpactedFiles.add rest path i

namespace Report

/-- An incident with the names and descriptions it is reported under. Only a rule set with a name can
be referred to. -/
def extend (ruleset : RuleSet) (violation : String × Violation) (i : Incident) :
    Outcome ExtendedIncident :=
  match ruleset.name with
  | some name =>
    .ok { toIncident := i, ruleset := name, rulesetDescription := some ruleset.description,
          violation := violation.1, violationDescription := some violation.2.description }
  | none => .error (.invalidData none)

/-- Every incident of a report with the rule set and the violation it belongs to, in order. -/
def occurrences (report : Report) : List (RuleSet × (String × Violation) × Incident) :=
  report.rulesets.flatMap fun r =>
    r.violations.flatMap fun v =>
      v.2.incidents.map fun i => (r, v, i)

/-- The incident is in a file for which none is reported (`should_we_skip_incident`). -/
def skips (uri : String) : Outcome Bool :=
  (Location.ofUri uri).map Location.isIgnored

/-- Adds one incident to the files gathered so far, unless its file is left out. -/
def gather (files : ImpactedFiles) (occurrence : RuleSet × (String × Violation) × Incident) :
    Outcome ImpactedFiles := do
  let (ruleset, violation, incident) := occurrence
  let path ← Location.ofUri incident.uri
  if Location.isIgnored path || Location.isDependency path then return files
  return files.add path (← extend ruleset violation incident)

/-- The incidents of a report by file (`get_impacted_files`). -/
def impactedFiles (report : Report) : Outcome ImpactedFiles :=
  report.occurrences.foldlM gather []

end Report
end Remedy
