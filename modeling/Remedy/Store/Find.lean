import Remedy.Store.Basic
import Remedy.Store.Matching
import Remedy.Solution.Producer

/-!
# Finding solutions

Solutions of incidents that violated the same rule with the same variables. A solution whose summary
is still wanted is completed when it is found, and the summary is kept.
-/

namespace Remedy.Store

/-- A store together with the model that completes its solutions. -/
structure Session where
  store : Store := {}
  dialogue : Dialogue := Dialogue.silent

/-- What an incident is looked up by. -/
structure Query where
  ruleset : String
  violation : String
  vars : Fields
  snippet : Option String := none
deriving DecidableEq

/-- Solved incidents of a rule whose variables are found equal to those asked for. -/
def solvedLike (s : Store) (q : Query) (asked : Fields) : List IncidentRow :=
  if s.hasViolation q.violation (some q.ruleset) then
    s.incidents.filter fun r =>
      r.violation == some q.violation && r.ruleset == some q.ruleset && r.solutionId.isSome &&
        embeddedMatch r.vars asked
  else []

/-- Completes the solution of a solved incident and keeps it. -/
def useSolution (kind : ProducerKind) (style : Producer.SummaryStyle) (row : IncidentRow) :
    Action Session Solution := do
  let some id := row.solutionId | throw .missingMember
  let some solution := (← get).store.solution? id | throw .missingMember
  let done ← Action.onPart Session.dialogue (fun s d => { s with dialogue := d })
    (Producer.finish kind style row solution)
  modify fun s => { s with store := s.store.setSolution id done }
  return done

/-- The solutions for an incident (`find_solutions`). -/
def find (kind : ProducerKind) (style : Producer.SummaryStyle) (q : Query) :
    Action Session (List Solution) := do
  let asked ← Action.ofOutcome (comparedVars q.vars)
  ((← get).store.solvedLike q asked).mapM (useSolution kind style)

end Remedy.Store
