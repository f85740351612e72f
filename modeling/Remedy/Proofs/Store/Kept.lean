import Remedy.Proofs.Store.History

/-!
# The reports that are kept

A load keeps the report that it was given, under the name of the application and the identifier of
the report. What it keeps is not what it was given: while the rows of the incidents are made, the
variables that say where an incident is are taken out of the report itself, and the report is kept
after that.

Main results:

* `report?_load`: the reports that are kept after a load that comes to its end.
* `encode_mapVars_eq_iff`: two reports that differ in the variables of incidents only are written
  alike exactly when no variable differs.
* `kept_without_place`: a report is kept as it was given exactly when no incident says where it is.
* `kept_report_lacks_file`: a report that has lost a variable.
-/

namespace Remedy

/-! ## Reports with other variables -/

namespace Report

/-- The incidents of a report. -/
def incidents (report : Report) : List Incident :=
  report.rulesets.flatMap fun r => r.violations.flatMap fun v => v.2.incidents

/-- The report with the variables of each incident changed. -/
def mapVars (f : Fields → Fields) (report : Report) : Report :=
  { report with rulesets := report.rulesets.map fun r =>
      { r with violations := r.violations.map fun v =>
          (v.1, { v.2 with incidents := v.2.incidents.map fun i => { i with vars := f i.vars } }) } }

theorem mem_incidents {report : Report} {i : Incident} :
    i ∈ report.incidents ↔
      ∃ r ∈ report.rulesets, ∃ v ∈ r.violations, i ∈ v.2.incidents := by
  simp only [incidents, List.mem_flatMap]

theorem encode_vars_eq_iff {f : Fields → Fields} {i : Incident} :
    Incident.encode { i with vars := f i.vars } = i.encode ↔ f i.vars = i.vars := by
  simp [Incident.encode, Incident.fields]

theorem encode_violation_eq_iff {f : Fields → Fields} {v : Violation} :
    Violation.encode { v with incidents := v.incidents.map fun i => { i with vars := f i.vars } } =
      v.encode ↔ ∀ i ∈ v.incidents, f i.vars = i.vars := by
  have hincidents : (v.incidents.map fun i => Incident.encode { i with vars := f i.vars }) =
      v.incidents.map Incident.encode ↔ ∀ i ∈ v.incidents, f i.vars = i.vars := by
    rw [List.map_inj_left]
    exact forall₂_congr fun i _ => encode_vars_eq_iff
  rw [← hincidents]
  simp [Violation.encode, Function.comp_def]

/-- The text of a report shows every variable of every incident. -/
theorem encode_mapVars_eq_iff {f : Fields → Fields} {report : Report} :
    (report.mapVars f).encode = report.encode ↔ ∀ i ∈ report.incidents, f i.vars = i.vars := by
  -- rule sets and violations keep their names and places, so entries are compared one by one
  have hrulesets : (report.mapVars f).encode = report.encode ↔ ∀ r ∈ report.rulesets,
      ∀ v ∈ r.violations, ∀ i ∈ v.2.incidents, f i.vars = i.vars := by
    rw [encode, encode, mapVars, List.map_map, List.map_inj_left]
    refine forall₂_congr fun r _ => ?_
    have hviolations : (r.violations.map fun v => (v.1, Violation.encode
          { v.2 with incidents := v.2.incidents.map fun i => { i with vars := f i.vars } })) =
        (r.violations.map fun v => (v.1, v.2.encode)) ↔
          ∀ v ∈ r.violations, ∀ i ∈ v.2.incidents, f i.vars = i.vars := by
      rw [List.map_inj_left]
      refine forall₂_congr fun v _ => ?_
      rw [Prod.mk.injEq, encode_violation_eq_iff]
      simp
    rw [← hviolations]
    simp [RuleSet.encode, Function.comp_def]
  rw [hrulesets]
  constructor
  · intro h i hi
    obtain ⟨r, hr, v, hv, hmem⟩ := mem_incidents.mp hi
    exact h r hr v hv i hmem
  · intro h r hr v hv i hmem
    exact h i (mem_incidents.mpr ⟨r, hr, v, hv, hmem⟩)

end Report

namespace Store

/-! ## The table of reports -/

/-- What is kept of a report of an application. -/
def report? (s : Store) (application id : String) : Option Fields :=
  (s.reports.find? fun r => r.application == application && r.reportId == id).map ReportRow.content

theorem find?_putReport (rows : List ReportRow) (row : ReportRow) (application id : String) :
    (putReport rows row).find? (fun r => r.application == application && r.reportId == id) =
      if row.application = application ∧ row.reportId = id then some row
      else rows.find? fun r => r.application == application && r.reportId == id := by
  induction rows with
  | nil =>
    rw [putReport, List.find?_singleton]
    simp only [Bool.and_eq_true, beq_iff_eq, List.find?_nil]
  | cons old rest ih =>
    rw [putReport]
    by_cases hsame : (old.application == row.application && old.reportId == row.reportId) = true
    · -- the new row stands where the old one stood, and both have one key
      rw [if_pos hsame, List.find?_cons, List.find?_cons]
      rw [Bool.and_eq_true, beq_iff_eq, beq_iff_eq] at hsame
      rw [hsame.1, hsame.2]
      by_cases hkey : row.application = application ∧ row.reportId = id
      · simp [hkey.1, hkey.2]
      · have hno : (row.application == application && row.reportId == id) = false := by
          rw [Bool.eq_false_iff, ne_eq, Bool.and_eq_true, beq_iff_eq, beq_iff_eq]
          exact hkey
        rw [if_neg hkey, hno]
    · rw [if_neg hsame, List.find?_cons, List.find?_cons, ih]
      by_cases hold : (old.application == application && old.reportId == id) = true
      · -- the old row is the one that is looked for, so the new one has another key
        have hkey : ¬(row.application = application ∧ row.reportId = id) := by
          rintro ⟨rfl, rfl⟩
          exact hsame hold
        simp only [hold, if_neg hkey]
      · rw [Bool.not_eq_true] at hold
        simp only [hold]

theorem report?_keepReport (s : Store) (app : Application) (report : Report)
    (application id : String) : (s.keepReport app report).report? application id =
      if app.name = application ∧ report.id = id then some (storedContent report)
      else s.report? application id := by
  unfold report? keepReport
  rw [find?_putReport]
  split <;> rfl

theorem storedContent_eq (report : Report) :
    storedContent report =
      (report.mapVars fun vars => vars.filter fun e => e.1 ∉ Location.placeVars).encode := by
  simp only [← withoutPlace_eq]
  rfl

/-! ## Loads -/

/-- A load that comes to its end puts the report in its place among those that are kept. -/
theorem report?_load {setup : LoadSetup} {app : Application} {report : Report} {s t : Store}
    {counts : LoadCounts} (h : (load setup app report).exec s = (.ok counts, t))
    (application id : String) :
    t.report? application id =
      if app.name = application ∧ report.id = id then some (storedContent report)
      else s.report? application id := by
  have hresult := load_result setup app report s
  rw [h] at hresult
  cases hresult with
  | @done path rows entered found made hproduced hadmits =>
    -- nothing before the last step touches the table of reports
    have hgathered := gather_grows app.name report (s.withApplication app)
    rw [hproduced.gathered] at hgathered
    have hentered : entered.reports = s.reports := by
      rw [hgathered.reports, withApplication]
      split <;> rfl
    have haccepted : ((entered.arrive found).acceptAll (found.solved.zip made)).reports =
        s.reports := by
      rw [(acceptAll_others _ _).2.2.2, ← hentered]
      rfl
    show ((((entered.arrive found).acceptAll (found.solved.zip made)).setApplication
      app).keepReport app report).report? application id = _
    rw [report?_keepReport]
    unfold report? setApplication
    rw [haccepted]

/-- **What is kept of a report.** After a load that comes to its end, the report is kept under the
application and its identifier with each incident as it came, but without the variables that say
where it is; all other reports are kept as they were. So what is kept is what was given if and only
if no incident of the report has such a variable. -/
theorem kept_without_place {setup : LoadSetup} {app : Application} {report : Report} {s t : Store}
    {counts : LoadCounts} (h : (load setup app report).exec s = (.ok counts, t)) :
    t.report? app.name report.id = some
      (report.mapVars fun vars => vars.filter fun e => e.1 ∉ Location.placeVars).encode ∧
    (t.report? app.name report.id = some report.encode ↔
      ∀ i ∈ report.incidents, ∀ e ∈ i.vars, e.1 ∉ Location.placeVars) ∧
    ∀ application id, ¬(app.name = application ∧ report.id = id) →
      t.report? application id = s.report? application id := by
  have hown : t.report? app.name report.id = some (storedContent report) := by
    rw [report?_load h, if_pos ⟨rfl, rfl⟩]
  refine ⟨?_, ?_, ?_⟩
  · rw [hown, storedContent_eq]
  · rw [hown, storedContent_eq, Option.some_inj, Report.encode_mapVars_eq_iff]
    refine forall₂_congr fun i _ => ?_
    rw [List.filter_eq_self]
    simp only [decide_eq_true_eq]
  · intro application id hother
    rw [report?_load h, if_neg hother]

/-! ## An example -/

/-- A load of a report with one incident, which names its file in a variable. -/
def namingCall : LoadCall :=
  plainCall "a" "c1" [plainIncident 3 [("file", .str "A.java"), ("kind", .str "call")]]

theorem kept_without_place_at_named_file :
    (namingCall.run.exec {}).1 = .ok ⟨1, 0, 0⟩ ∧
    (namingCall.run.exec {}).2.report? "a" "c1" = some
      (namingCall.report.mapVars fun vars =>
        vars.filter fun e => e.1 ∉ Location.placeVars).encode := by
  have hok : (namingCall.run.exec {}).1 = .ok ⟨1, 0, 0⟩ := by decide +kernel
  exact ⟨hok, (kept_without_place (Action.exec_eq_of_fst hok)).1⟩

/-- A report loses the name of a file that it was given: what is kept is not what was loaded. -/
theorem kept_report_lacks_file :
    (namingCall.run.exec {}).1 = .ok ⟨1, 0, 0⟩ ∧
    (namingCall.run.exec {}).2.report? namingCall.app.name namingCall.report.id ≠
      some namingCall.report.encode := by
  decide +kernel

end Store
end Remedy
