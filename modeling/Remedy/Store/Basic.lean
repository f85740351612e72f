import Remedy.Json.Order
import Remedy.Report.Encode
import Remedy.Solution.Basic
import Remedy.Store.Row
import Remedy.Timestamp

/-!
# The store of incidents

What is remembered of the analyses of applications: applications, rule sets, violations, incidents,
accepted solutions and the reports as they came. Rows are kept in the order in which they were added.
Incidents and solutions are numbered, each with one more than the largest number in use. A database
refuses a row that lacks a column which has to be set.
-/

namespace Remedy

/-- An application as it stood at an analysis, with the time of the analysis (`SQLApplication`).
Nothing checks that what an analysis tells of a repository is there. -/
structure Application where
  name : String
  /-- The address that the repository was cloned from, `repo_uri_origin`. -/
  origin : Option String
  /-- The address of the local repository, `repo_uri_local`. -/
  localUri : String
  branch : Option String
  commit : Option String
  generatedAt : Option Timestamp
deriving DecidableEq

/-- All columns of an application are set. -/
def Application.complete (a : Application) : Bool :=
  a.origin.isSome && a.branch.isSome && a.commit.isSome && a.generatedAt.isSome

/-- A stored rule set (`SQLRuleset`). -/
structure RuleSetRow where
  name : Option String
  tags : Option (List String)
deriving DecidableEq

/-- A stored violation (`SQLViolation`). -/
structure ViolationRow where
  name : String
  ruleset : Option String
  category : Category
  labels : List String
deriving DecidableEq

/-- An accepted solution (`SQLAcceptedSolution`). -/
structure SolutionRow where
  id : Nat
  solution : Solution
deriving DecidableEq

/-- A stored report (`SQLUnmodifiedReport`): the rule sets as values. -/
structure ReportRow where
  application : String
  reportId : String
  generatedAt : Option Timestamp
  content : Fields
deriving DecidableEq

/-- All that is stored (`IncidentStore`). -/
structure Store where
  applications : List Application := []
  rulesets : List RuleSetRow := []
  violations : List ViolationRow := []
  incidents : List IncidentRow := []
  solutions : List SolutionRow := []
  reports : List ReportRow := []
  /-- Rows that lack a column are refused. -/
  checked : Bool := true
deriving DecidableEq

namespace Store

/-- The store without its rows, as `delete_store` leaves it. -/
def emptied (s : Store) : Store where
  checked := s.checked

/-- The row of an application is taken. -/
def admits (s : Store) (app : Application) : Bool :=
  !s.checked || app.complete

/-- The row of a rule set is taken: its name is the primary key. -/
def admitsRuleset (s : Store) (name : Option String) : Bool :=
  !s.checked || name.isSome

/-- The number after the largest of a list. -/
def nextId (ids : List Nat) : Nat :=
  ids.foldl max 0 + 1

/-- The application of a name. -/
def application? (s : Store) (name : String) : Option Application :=
  s.applications.find? fun a => a.name == name

/-- The incidents of an application. -/
def incidentsOf (s : Store) (application : String) : List IncidentRow :=
  s.incidents.filter fun r => r.application == application

/-- The solution with a number. -/
def solution? (s : Store) (id : Nat) : Option Solution :=
  (s.solutions.find? fun r => r.id == id).map SolutionRow.solution

/-- The rule set is stored. -/
def hasRuleset (s : Store) (name : Option String) : Bool :=
  s.rulesets.any fun r => r.name == name

/-- The violation is stored. -/
def hasViolation (s : Store) (name : String) (ruleset : Option String) : Bool :=
  s.violations.any fun v => v.name == name && v.ruleset == ruleset

/-- Replaces the application of the same name. -/
def setApplication (s : Store) (app : Application) : Store :=
  { s with applications := s.applications.map fun a => if a.name == app.name then app else a }

/-- Gives each row its number, counted from the given one. -/
def numbered : Nat → List IncidentRow → List IncidentRow
  | _, [] => []
  | n, r :: rs => { r with id := n } :: numbered (n + 1) rs

/-- Adds incidents. -/
def addIncidents (s : Store) (rows : List IncidentRow) : Store :=
  { s with incidents := s.incidents ++ numbered (nextId (s.incidents.map IncidentRow.id)) rows }

/-- The row with the line of the row of the same number, if there is one. -/
def relined (rows : List IncidentRow) (r : IncidentRow) : IncidentRow :=
  match rows.find? fun u => u.id == r.id with
  | some u => { r with line := u.line }
  | none => r

/-- Takes over the lines of incidents that have moved. -/
def setLines (s : Store) (rows : List IncidentRow) : Store :=
  { s with incidents := s.incidents.map (relined rows) }

/-- Accepts a solution for the incident with a number. -/
def accept (s : Store) (incident : Nat) (solution : Solution) : Store :=
  let id := nextId (s.solutions.map SolutionRow.id)
  { s with
    solutions := s.solutions ++ [⟨id, solution⟩]
    incidents := s.incidents.map fun r =>
      if r.id == incident then { r with solutionId := some id } else r }

/-- Replaces the solution with a number. -/
def setSolution (s : Store) (id : Nat) (solution : Solution) : Store :=
  { s with solutions := s.solutions.map fun r => if r.id == id then { r with solution } else r }

/-- Puts a report in the place of the one with the same application and identifier, or at the end. -/
def putReport : List ReportRow → ReportRow → List ReportRow
  | [], r => [r]
  | old :: rest, r =>
    if old.application == r.application && old.reportId == r.reportId then r :: rest
    else old :: putReport rest r

/-- Variables as they are stored and compared: without those that say where an incident is, and
sorted throughout. -/
def comparedVars (vars : Fields) : Outcome Fields :=
  (Json.deepSortFields (Location.withoutPlace vars)).map Json.sortFields

end Store
end Remedy
