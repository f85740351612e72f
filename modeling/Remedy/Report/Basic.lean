import Remedy.Report.Location

/-!
# Analysis reports

A report is a list of rule sets. A rule set has violations, each a rule that the application breaks,
and a violation has incidents, the places where it does. Rule sets of a report have different names;
one that is added under a name that is there takes the place of the other.
-/

namespace Remedy

/-- How pressing a violation is. -/
inductive Category where
  | potential
  | optional
  | mandatory
deriving DecidableEq, Repr

/-- The word for a category. -/
def Category.word : Category → String
  | .potential => "potential"
  | .optional => "optional"
  | .mandatory => "mandatory"

/-- One place where a rule is broken. Lines are counted from zero, and a negative line is unknown. -/
structure Incident where
  uri : String
  message : String
  /-- The code around the place, `code_snip`. -/
  snippet : String := ""
  line : Int := -1
  /-- What the rule captured at the place, `variables`. -/
  vars : Fields := []
deriving DecidableEq

/-- An incident with the rule set and the violation it belongs to. -/
structure ExtendedIncident extends Incident where
  ruleset : String
  rulesetDescription : Option String := none
  violation : String
  violationDescription : Option String := none
deriving DecidableEq

/-- A link to more about a violation. -/
structure Link where
  url : String
  title : String := ""
deriving DecidableEq

/-- A rule that is broken, with the places. -/
structure Violation where
  description : String := ""
  category : Category := .potential
  labels : List String := []
  incidents : List Incident := []
  links : List Link := []
  extras : Option String := none
  effort : Option Int := none
deriving DecidableEq

/-- Rules that are evaluated together. -/
structure RuleSet where
  name : Option String := none
  description : String := ""
  tags : Option (List String) := none
  violations : List (String × Violation) := []
  errors : Option (List (String × String)) := none
  unmatched : Option (List String) := none
  skipped : Option (List String) := none
deriving DecidableEq

/-- A report: an identifier and the rule sets by name. -/
structure Report where
  id : String
  rulesets : List RuleSet := []
deriving DecidableEq

namespace Report

/-- Puts a rule set in the place of one with the same name, or at the end. -/
def put : List RuleSet → RuleSet → List RuleSet
  | [], r => [r]
  | s :: rest, r => if s.name = r.name then r :: rest else s :: put rest r

/-- The rule set of a name. -/
def ruleset? (report : Report) (name : Option String) : Option RuleSet :=
  report.rulesets.find? fun r => r.name = name

/-- The names of the rule sets, in order. -/
def names (report : Report) : List (Option String) :=
  report.rulesets.map RuleSet.name

end Report
end Remedy
