import Remedy.Json.Decode
import Remedy.Json.Display
import Remedy.Json.Writer
import Remedy.Text.Search

/-!
# Stored incidents

An incident as it is stored for an application. Two analyses found the same incident if its key is
the same: where it is, what it violates and its variables. The message and the snippet do not count.
-/

namespace Remedy

/-- A stored incident (`SQLIncident`). -/
structure IncidentRow where
  /-- The number of the row, zero as long as it has none. -/
  id : Nat := 0
  violation : Option String
  ruleset : Option String
  application : String
  uri : String
  message : String
  /-- The code around the incident, `incident_snip`. -/
  snippet : String
  line : Int
  /-- What the rule captured, `incident_variables`. -/
  vars : Fields
  solutionId : Option Nat := none
deriving DecidableEq

/-- The prime `2 ^ 61 - 1`. -/
def lineModulus : Int := 2305843009213693951

/-- What tells lines apart in a key, the hash of `incident_line`: the line modulo a prime, with its
sign; the first two negative numbers are the same. -/
def lineMark (line : Int) : Int :=
  let m := line.tmod lineModulus
  if m == -1 then -2 else m

/-- What tells incidents apart apart from their lines. The variables enter as text with sorted
keys. -/
structure PlaceKey where
  violation : Option String
  ruleset : Option String
  application : String
  uri : String
  vars : String
deriving DecidableEq

/-- What tells incidents apart. -/
structure IncidentKey where
  place : PlaceKey
  line : Int
deriving DecidableEq

namespace IncidentRow

/-- The key without the line (`line_match_hash`). -/
def placeKey (r : IncidentRow) : PlaceKey where
  violation := r.violation
  ruleset := r.ruleset
  application := r.application
  uri := r.uri
  vars := Json.canonicalText (.obj r.vars)

/-- The key of an incident (`naive_hash`). -/
def key (r : IncidentRow) : IncidentKey where
  place := r.placeKey
  line := lineMark r.line

/-- A name as it is shown; an absent one has a word of its own. -/
def shownName (name : Option String) : String :=
  name.getD Json.nullWord

/-- An incident in one line (`__repr__`). -/
def describe (r : IncidentRow) : String :=
  "SQLIncident(violation_name=" ++ shownName r.violation ++ ", ruleset_name=" ++
    shownName r.ruleset ++ ", application_name=" ++ r.application ++ ", incident_uri=" ++ r.uri ++
    ", incident_snip=" ++ Text.slice r.snippet 0 10 ++ ", incident_line=" ++ Decimal.int r.line ++
    ", incident_variables=" ++ Json.shown (.obj r.vars) ++ ", solution_id=" ++
    shownName (r.solutionId.map Decimal.natural) ++ ")"

end IncidentRow
end Remedy
