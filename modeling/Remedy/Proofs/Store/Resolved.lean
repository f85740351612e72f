import Remedy.Proofs.Store.Calls
import Remedy.Proofs.Store.History

/-!
# Incidents that are solved again

Detection looks at all stored incidents of an application, also at those that have a solution. A
solved incident that a later report lacks as well is found solved again, and its solution is replaced
by one between the last two commits, which need not have anything to do with it.

Main results:

* `solution_kept_iff`: a solved incident that a report lacks keeps its solution exactly when
  detection does not find it solved again; by keys, exactly when a later incident has its key.
* `solution_replaced_by_later_load`: a solution that is lost.
-/

namespace Remedy.Store

/-- **Which solutions last.** A report is loaded that lacks the key of a solved incident of its
application. The incident keeps the number and the content of its solution if and only if detection
does not find it solved again. If detection finds it, it has a solution with a new number, made from
the commit that was stored to the commit of the load. Detection by keys finds it unless a later
incident of the application has the same key. -/
theorem solution_kept_iff {s t : Store} (hs : Reachable s) {c : LoadCall} {counts : LoadCounts}
    (hload : c.run.exec s = (.ok counts, t)) {r : IncidentRow} (hr : r ∈ s.incidentsOf c.app.name)
    {i : Nat} (hi : r.solutionId = some i) (habsent : r.key ∉ c.keys) :
    ∃ path found, repositoryPath c.app = .ok path ∧
      ((Detection.detect c.setup.detector (settingOf c.setup c.app path s)
        (s.incidentsOf c.app.name) c.rows).exec []).1 = .ok found ∧
      (∃ row ∈ t.incidents, row.id = r.id ∧
        ((row.solutionId = some i ∧ t.solutionOf row = s.solutionOf r) ↔ r ∉ found.solved) ∧
        (r ∈ found.solved → ∃ j made, row.solutionId = some j ∧ s.nextSolution ≤ j ∧
          t.solutionOf row = some made ∧
          ((Producer.produce c.setup.producer (c.setup.repository path)
            (s.applicationAt c.app).commit c.app.commit r).exec []).1 = .ok made)) ∧
      (c.setup.detector = .naive →
        (r ∈ found.solved ↔ Detection.LastOfKey (s.incidentsOf c.app.name) r)) := by
  have hnum := hs.consistent.toNumbered
  have hmem := (mem_incidentsOf.mp hr).1
  obtain ⟨path, found, made, h⟩ := loaded_of_run hload
  have hold : i < s.nextSolution := hnum.lt_nextSolution hmem hi
  have hagain : r ∈ found.solved → ∃ j made', (settled s found made r).solutionId = some j ∧
      s.nextSolution ≤ j ∧ t.solutionOf (settled s found made r) = some made' ∧
      ((Producer.produce c.setup.producer (c.setup.repository path)
        (s.applicationAt c.app).commit c.app.commit r).exec []).1 = .ok made' := by
    intro hsolved
    obtain ⟨j, made', hj, hle, hmade, hfor⟩ := h.settled_solved hnum hsolved
    refine ⟨j, made', hj, hle, by rw [solutionOf, hj]; exact hmade, ?_⟩
    rw [Producer.produce_fst]
    exact hfor
  refine ⟨path, found, h.located, h.detected, ?_, fun hkind => ?_⟩
  · refine ⟨settled s found made r, h.settled_mem hmem, settled_id s found made r, ⟨?_, ?_⟩, hagain⟩
    · rintro ⟨hkept, -⟩ hsolved
      -- a new solution has a number above those in use
      obtain ⟨j, made', hj, hle, -⟩ := hagain hsolved
      rw [hkept] at hj
      cases hj
      omega
    · intro hnot
      obtain ⟨hid, hof⟩ := h.settled_unsolved hnum hmem hnot
      exact ⟨hid.trans hi, hof⟩
  · rw [h.found_eq hkind, Detection.mem_naive_solved]
    exact ⟨fun h => h.1, fun h => ⟨h, habsent⟩⟩

/-! ## An example -/

/-- The store after an incident with some variables came and went. It is only ever evaluated as a
whole. -/
@[irreducible]
def cameAndWent (vars : Fields) : Store :=
  ((plainCall "a" "c2" []).run.exec ((plainCall "a" "c1" [plainIncident 3 vars]).run.exec {}).2).2

theorem reachable_cameAndWent {vars : Fields} (h : (Json.obj vars).proper = true) :
    Reachable (cameAndWent vars) := by
  have hfirst : (plainCall "a" "c1" [plainIncident 3 vars]).report.ProperVars := by
    simpa [plainCall, plainIncident, Report.ProperVars] using h
  have hsecond : (plainCall "a" "c2" []).report.ProperVars := by decide
  delta cameAndWent
  exact (Reachable.empty.run hfirst).run hsecond

/-- The incident that came and went, as it is stored when it has no variables. -/
def goneIncident : IncidentRow where
  id := 1
  violation := some "rule"
  ruleset := some "rules"
  application := "a"
  uri := "file:///work/A.java"
  message := "found"
  snippet := ""
  line := 3
  vars := []
  solutionId := some 1

theorem solution_kept_iff_at_gone_incident :
    let s := cameAndWent []
    let c := plainCall "a" "c3" []
    Reachable s ∧ goneIncident ∈ s.incidentsOf "a" ∧ goneIncident.key ∉ c.keys ∧
    ∃ row ∈ (c.run.exec s).2.incidents, row.id = goneIncident.id ∧
      ∃ j made, row.solutionId = some j ∧ s.nextSolution ≤ j ∧
        (c.run.exec s).2.solutionOf row = some made := by
  have hreach : Reachable (cameAndWent []) := reachable_cameAndWent rfl
  have hok : ((plainCall "a" "c3" []).run.exec (cameAndWent [])).1 = .ok ⟨0, 0, 1⟩ := by
    decide +kernel
  have hr : goneIncident ∈ (cameAndWent []).incidentsOf "a" := by decide +kernel
  have habsent : goneIncident.key ∉ (plainCall "a" "c3" []).keys := by decide +kernel
  obtain ⟨path, found, -, -, ⟨row, hrow, hid, -, hagain⟩, hnaive⟩ :=
    solution_kept_iff hreach (Action.exec_eq_of_fst hok) hr rfl habsent
  have hlast : Detection.LastOfKey ((cameAndWent []).incidentsOf "a") goneIncident :=
    ⟨[], [], by decide +kernel, by simp⟩
  obtain ⟨j, made, hj, hle, hmade, -⟩ := hagain ((hnaive rfl).mpr hlast)
  exact ⟨hreach, hr, habsent, row, hrow, hid, j, made, hj, hle, hmade⟩

/-- A solved incident that two reports lack loses the solution that fixed it: after the second its
solution has another number and holds the differences between two later commits. -/
theorem solution_replaced_by_later_load :
    let s := cameAndWent []
    let c := plainCall "a" "c3" []
    Reachable s ∧ (c.run.exec s).1 = .ok ⟨0, 0, 1⟩ ∧
    ∃ r ∈ s.incidentsOf "a", r.solutionId = some 1 ∧
      (s.solutionOf r).map Solution.fileDiff = some "c1..c2" ∧ r.key ∉ c.keys ∧
      ∀ row ∈ (c.run.exec s).2.incidents, row.id = r.id → row.solutionId = some 2 ∧
        ((c.run.exec s).2.solutionOf row).map Solution.fileDiff = some "c2..c3" :=
  ⟨reachable_cameAndWent rfl, by decide +kernel, by decide +kernel⟩

end Remedy.Store
