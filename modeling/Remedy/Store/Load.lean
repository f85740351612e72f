import Remedy.Store.Basic
import Remedy.Detection.LineMatch
import Remedy.Solution.Producer

/-!
# Loading a report

The report of an analysis is compared with what is stored for the application. New incidents are
added, and those that are gone are solved: the solution is made from the repository. What loading has
settled stays when it fails later: applications, rule sets and violations are settled one by one, the
incidents together, and the solutions together after them.
-/

namespace Remedy

/-- What `load_report` gives: how many incidents of a report are new, are still there and have been
solved. -/
structure LoadCounts where
  fresh : Nat
  unsolved : Nat
  solved : Nat
deriving DecidableEq, Repr

namespace Store

/-- What reports are loaded with. -/
structure LoadSetup where
  /-- The store's `solution_detector`. -/
  detector : DetectorKind := .naive
  /-- The store's `solution_producer`. -/
  producer : ProducerKind := .textOnly
  /-- The repository in a directory. -/
  repository : String → Repository
  source : Detection.SourceKnowledge
  /-- Which old incident of a set the detector takes. -/
  choose : List IncidentRow → Nat := fun _ => 0
  /-- What the text of a report is read as. -/
  reader : String → Option Json := Json.parse?

/-- The directory of the local repository of an application: the path of its `repo_uri_local`. -/
def repositoryPath (app : Application) : Outcome String :=
  (Url.path app.localUri).map Url.unescape

/-- Adds an application if it is not stored; gives the `current_commit` that is stored for it, which
is the old commit of the load. -/
def enterApplication (app : Application) : Action Store (Option String) := do
  let s ← get
  match s.application? app.name with
  | some stored => return stored.commit
  | none =>
    if !s.admits app then throw .refusedRow
    modify fun s => { s with applications := s.applications ++ [app] }
    return app.commit

/-- Sets all columns of a stored application but its name to those of the load. -/
def renewApplication (app : Application) : Action Store Unit := do
  if !(← get).admits app then throw .refusedRow
  modify fun s => s.setApplication app

/-- Adds a rule set if it is not stored. A checked store has none without a name. -/
def enterRuleset (r : RuleSet) : Action Store Unit := do
  let s ← get
  if !s.admitsRuleset r.name then throw .refusedRow
  if s.hasRuleset r.name then return
  modify fun s => { s with rulesets := s.rulesets ++ [⟨r.name, r.tags⟩] }

/-- Adds a violation if it is not stored. -/
def enterViolation (ruleset : RuleSet) (name : String) (v : Violation) : Action Store Unit := do
  if (← get).hasViolation name ruleset.name then return
  modify fun s =>
    { s with violations := s.violations ++ [⟨name, ruleset.name, v.category, v.labels⟩] }

/-- An incident of a report as a row. Its `incident_variables` are filtered and sorted. -/
def rowOf (application : String) (ruleset : RuleSet) (violation : String) (i : Incident) :
    Outcome IncidentRow := do
  return {
    violation := some violation
    ruleset := ruleset.name
    application
    uri := i.uri
    message := i.message
    snippet := i.snippet
    line := i.line
    vars := ← comparedVars i.vars }

/-- Enters a violation; gives the rows of its incidents. -/
def gatherViolation (application : String) (ruleset : RuleSet) (violation : String × Violation) :
    Action Store (List IncidentRow) := do
  enterViolation ruleset violation.1 violation.2
  Action.ofOutcome (violation.2.incidents.mapM (rowOf application ruleset violation.1))

/-- Enters a rule set with its violations; gives the rows of their incidents. -/
def gatherRuleset (application : String) (ruleset : RuleSet) : Action Store (List IncidentRow) := do
  enterRuleset ruleset
  return (← ruleset.violations.mapM (gatherViolation application ruleset)).flatten

/-- Enters what a report names; gives the rows of its incidents. -/
def gather (application : String) (report : Report) : Action Store (List IncidentRow) := do
  return (← report.rulesets.mapM (gatherRuleset application)).flatten

/-- An action that asks a repository, in an action on a store. -/
def asking {α : Type} (a : GitAction α) : Action Store α :=
  Action.ofOutcome (a.exec []).1

/-- The incident of a report as `filter_incident_vars` leaves it: without the variables that say
where it is. -/
def placeless (i : Incident) : Incident :=
  { i with vars := Location.withoutPlace i.vars }

/-- The rule set with incidents that do not say where they are. -/
def placelessRuleset (r : RuleSet) : RuleSet :=
  { r with violations := r.violations.map fun (k, v) =>
      (k, { v with incidents := v.incidents.map placeless }) }

/-- The content under which a report is stored: the dumps of its rule sets, after their incidents were
filtered. -/
def storedContent (report : Report) : Fields :=
  Report.encode { report with rulesets := report.rulesets.map placelessRuleset }

/-- Merges the `SQLUnmodifiedReport` of an application and a report, with the time of the analysis. -/
def keepReport (s : Store) (app : Application) (report : Report) : Store :=
  { s with
    reports := putReport s.reports ⟨app.name, report.id, app.generatedAt, storedContent report⟩ }

/-- Loads a report of an application (`load_report`). -/
def load (setup : LoadSetup) (app : Application) (report : Report) : Action Store LoadCounts := do
  let repo := setup.repository (← Action.ofOutcome (repositoryPath app))
  let oldCommit ← enterApplication app
  let rows ← gather app.name report
  let old := (← get).incidentsOf app.name
  let found ← asking (Detection.detect setup.detector
    { repo, oldCommit, newCommit := app.commit, source := setup.source, choose := setup.choose }
    old rows)
  modify fun s => (s.setLines found.unsolved).addIncidents found.fresh
  let solutions ← asking
    (Producer.produceAll setup.producer repo oldCommit app.commit found.solved)
  modify fun s => (found.solved.zip solutions).foldl (fun s (r, made) => s.accept r.id made) s
  renewApplication app
  modify fun s => s.keepReport app report
  return ⟨found.fresh.length, found.unsolved.length, found.solved.length⟩

end Store
end Remedy
