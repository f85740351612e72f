import Remedy.Benchmark.Basic
import Remedy.Proofs.Action
import Remedy.Proofs.Json.DeepSort

/-!
# Examples that were solved before

Loading a report and looking up an incident drop the variables that say where an incident is, and they
drop them from the report and the incidents that they were given. What is dropped is not used later: a
report or an incident without these variables is stored, compared and shown like the one that had them.

Main results:

* `Store.load_placeless`: loading a report is the same after it was loaded once.
* `promptOf_placeless`: so is the prompt for an example that was solved once.
-/

namespace Remedy

/-! ## Loading a report -/

namespace Store

theorem withoutPlace_withoutPlace (vars : Fields) :
    Location.withoutPlace (Location.withoutPlace vars) = Location.withoutPlace vars := by
  rw [withoutPlace_eq (Location.withoutPlace vars), withoutPlace_eq vars, List.filter_filter]
  simp only [Bool.and_self]

theorem comparedVars_withoutPlace (vars : Fields) :
    comparedVars (Location.withoutPlace vars) = comparedVars vars := by
  rw [comparedVars, comparedVars, withoutPlace_withoutPlace]

/-- The rows of a rule set do not tell where its incidents are. -/
theorem gatherRuleset_placeless (application : String) (r : RuleSet) :
    gatherRuleset application (placelessRuleset r) = gatherRuleset application r := by
  -- of the variables of an incident, a row has those that are compared
  have hrow : ∀ violation i, rowOf application (placelessRuleset r) violation (placeless i) =
      rowOf application r violation i := by
    intro violation i
    rw [rowOf, rowOf, placeless, comparedVars_withoutPlace]
    rfl
  have hviolation : ∀ v : String × Violation, gatherViolation application (placelessRuleset r)
      (v.1, { v.2 with incidents := v.2.incidents.map placeless }) =
      gatherViolation application r v := by
    intro v
    rw [gatherViolation, gatherViolation, List.mapM_map]
    simp only [Function.comp_def, hrow]
    rfl
  have hviolations : (placelessRuleset r).violations.mapM
      (gatherViolation application (placelessRuleset r)) =
      r.violations.mapM (gatherViolation application r) := by
    rw [placelessRuleset, List.mapM_map]
    exact congrArg (List.mapM · r.violations) (funext hviolation)
  rw [gatherRuleset, gatherRuleset, hviolations]
  rfl

theorem gather_placeless (application : String) (report : Report) :
    gather application { report with rulesets := report.rulesets.map placelessRuleset } =
      gather application report := by
  rw [gather, gather, List.mapM_map]
  simp only [Function.comp_def, gatherRuleset_placeless]

theorem storedContent_placeless (report : Report) :
    storedContent { report with rulesets := report.rulesets.map placelessRuleset } =
      storedContent report := by
  have hincident : ∀ i, placeless (placeless i) = placeless i := by
    intro i
    rw [placeless, placeless, withoutPlace_withoutPlace]
  have hruleset : ∀ r, placelessRuleset (placelessRuleset r) = placelessRuleset r := by
    intro r
    rw [placelessRuleset, placelessRuleset, List.map_map]
    simp only [Function.comp_def, List.map_map, hincident]
  rw [storedContent, storedContent, List.map_map]
  simp only [Function.comp_def, hruleset]

/-- Loading a report a second time finds in it what the first load has left, which is all it uses. -/
theorem load_placeless (setup : LoadSetup) (app : Application) (report : Report) :
    load setup app { report with rulesets := report.rulesets.map placelessRuleset } =
      load setup app report := by
  unfold load keepReport
  rw [gather_placeless, storedContent_placeless]

end Store

/-! ## Prompting for an example -/

namespace Benchmark

theorem storeOf_placeless (setup : Setup) (isRepository : Bool) (e : Example) :
    storeOf setup isRepository e.placeless = storeOf setup isRepository e := by
  rw [storeOf, storeOf, Example.placeless]
  dsimp only
  cases e.application with
  | none => rfl
  | some columns =>
    cases e.report with
    | none => rfl
    | some report =>
      dsimp only [Option.map_some]
      rw [Store.load_placeless]

/-- An incident is looked up and shown by the variables that do not say where it is. -/
theorem describeIncident_placeless (setup : Setup) (store : Store) (i : ExtendedIncident)
    (number : Nat) :
    describeIncident setup store ({ i with vars := Location.withoutPlace i.vars }, number) =
      describeIncident setup store (i, number) := by
  rw [describeIncident, describeIncident]
  dsimp only
  rw [Store.find, Store.find, Store.comparedVars_withoutPlace, Store.withoutPlace_withoutPlace]
  rfl

/-- The prompt for an example does not tell whether it was solved before. -/
theorem promptOf_placeless (setup : Setup) (isRepository : Bool) (model : Model) (e : Example) :
    promptOf setup isRepository model e.placeless = promptOf setup isRepository model e := by
  rw [promptOf, promptOf, storeOf_placeless]
  refine congrArg (storeOf setup isRepository e >>= ·) (funext fun store => ?_)
  rw [Example.placeless]
  dsimp only
  cases e.incidents with
  | none => rfl
  | some incidents =>
    dsimp only [Option.map_some]
    have hdescribed : ((incidents.map fun i =>
        { i with vars := Location.withoutPlace i.vars }).zipIdx 1).mapM
          (describeIncident setup store) =
        (incidents.zipIdx 1).mapM (describeIncident setup store) := by
      rw [List.zipIdx_map, List.mapM_map]
      refine congrArg (List.mapM · (incidents.zipIdx 1)) (funext fun incident => ?_)
      exact describeIncident_placeless setup store incident.1 incident.2
    rw [hdescribed, List.head?_map]
    cases incidents.head? with
    | none => rfl
    | some first => rfl

end Benchmark
end Remedy
