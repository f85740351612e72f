import Remedy.Proofs.Action
import Remedy.Proofs.Solution.Producer
import Remedy.Proofs.Store.Tables

/-!
# What loading a report does

A load finds the repository, enters the application and what the report names, compares the incidents
with the stored ones, adds the new ones, makes the solutions of those that are gone and takes over what
has become of the application. It can fail at each of these, and what it has written before stays.

Main results:

* `gather_fst`: the rows of a report depend on what is stored only in whether rows are checked.
* `gather_grows`: entering a report only makes the tables of rule sets and violations longer.
* `load_result`: how far a load comes, with the store that it leaves, in every case.
* `load_eq_ok`: the tables that a load leaves that comes to its end.
-/

namespace Remedy.Store

open Remedy.Action

/-! ## The rows of a report -/

/-- The rows of the incidents of a rule set. -/
def rulesetRows (application : String) (ruleset : RuleSet) : Outcome (List IncidentRow) := do
  let rows ← ruleset.violations.mapM fun v => v.2.incidents.mapM (rowOf application ruleset v.1)
  return rows.flatten

/-- The rows of the incidents of a report. -/
def reportRows (application : String) (report : Report) : Outcome (List IncidentRow) := do
  let rows ← report.rulesets.mapM (rulesetRows application)
  return rows.flatten

theorem rowOf_eq_ok {application violation : String} {ruleset : RuleSet} {i : Incident}
    {r : IncidentRow} : rowOf application ruleset violation i = .ok r ↔
      ∃ vars, comparedVars i.vars = .ok vars ∧
        r = { violation := some violation, ruleset := ruleset.name, application, uri := i.uri,
              message := i.message, snippet := i.snippet, line := i.line, vars } := by
  rw [rowOf, Outcome.bind_eq_ok]
  constructor
  · rintro ⟨vars, hvars, hr⟩
    cases hr
    exact ⟨vars, hvars, rfl⟩
  · rintro ⟨vars, hvars, rfl⟩
    exact ⟨vars, hvars, rfl⟩

theorem mem_rulesetRows {application : String} {ruleset : RuleSet} {rows : List IncidentRow}
    (h : rulesetRows application ruleset = .ok rows) {r : IncidentRow} :
    r ∈ rows ↔ ∃ v ∈ ruleset.violations, ∃ i ∈ v.2.incidents,
      rowOf application ruleset v.1 i = .ok r := by
  obtain ⟨lists, hlists, hrows⟩ := Outcome.bind_eq_ok.mp h
  cases hrows
  rw [List.mem_flatten]
  constructor
  · rintro ⟨l, hl, hr⟩
    obtain ⟨v, hv, hread⟩ := (Outcome.mem_of_mapM_eq_ok hlists).mp hl
    obtain ⟨i, hi, hrow⟩ := (Outcome.mem_of_mapM_eq_ok hread).mp hr
    exact ⟨v, hv, i, hi, hrow⟩
  · rintro ⟨v, hv, i, hi, hrow⟩
    obtain ⟨l, hl, hread⟩ := Outcome.exists_of_mapM_eq_ok hlists hv
    exact ⟨l, hl, (Outcome.mem_of_mapM_eq_ok hread).mpr ⟨i, hi, hrow⟩⟩

/-- The rows of a report are those of its incidents. -/
theorem mem_reportRows {application : String} {report : Report} {rows : List IncidentRow}
    (h : reportRows application report = .ok rows) {r : IncidentRow} :
    r ∈ rows ↔ ∃ ruleset ∈ report.rulesets, ∃ v ∈ ruleset.violations, ∃ i ∈ v.2.incidents,
      rowOf application ruleset v.1 i = .ok r := by
  obtain ⟨lists, hlists, hrows⟩ := Outcome.bind_eq_ok.mp h
  cases hrows
  rw [List.mem_flatten]
  constructor
  · rintro ⟨l, hl, hr⟩
    obtain ⟨ruleset, hruleset, hread⟩ := (Outcome.mem_of_mapM_eq_ok hlists).mp hl
    exact ⟨ruleset, hruleset, (mem_rulesetRows hread).mp hr⟩
  · rintro ⟨ruleset, hruleset, hr⟩
    obtain ⟨l, hl, hread⟩ := Outcome.exists_of_mapM_eq_ok hlists hruleset
    exact ⟨l, hl, (mem_rulesetRows hread).mpr hr⟩

/-! ## Entering a report -/

/-- Only the tables of rule sets and violations have become longer. -/
structure Grows (s t : Store) : Prop where
  applications : t.applications = s.applications
  rulesets : s.rulesets <+: t.rulesets
  violations : s.violations <+: t.violations
  incidents : t.incidents = s.incidents
  solutions : t.solutions = s.solutions
  reports : t.reports = s.reports
  checked : t.checked = s.checked

theorem Grows.refl (s : Store) : Grows s s :=
  ⟨rfl, List.prefix_rfl, List.prefix_rfl, rfl, rfl, rfl, rfl⟩

theorem Grows.trans {s t u : Store} (h₁ : Grows s t) (h₂ : Grows t u) : Grows s u where
  applications := h₂.applications.trans h₁.applications
  rulesets := h₁.rulesets.trans h₂.rulesets
  violations := h₁.violations.trans h₂.violations
  incidents := h₂.incidents.trans h₁.incidents
  solutions := h₂.solutions.trans h₁.solutions
  reports := h₂.reports.trans h₁.reports
  checked := h₂.checked.trans h₁.checked

theorem Grows.hasRuleset {s t : Store} (h : Grows s t) {name : Option String}
    (hs : s.hasRuleset name) : t.hasRuleset name := by
  rw [Store.hasRuleset, List.any_eq_true] at hs ⊢
  obtain ⟨r, hr, hname⟩ := hs
  exact ⟨r, h.rulesets.subset hr, hname⟩

theorem Grows.hasViolation {s t : Store} (h : Grows s t) {name : String} {ruleset : Option String}
    (hs : s.hasViolation name ruleset) : t.hasViolation name ruleset := by
  rw [Store.hasViolation, List.any_eq_true] at hs ⊢
  obtain ⟨v, hv, hname⟩ := hs
  exact ⟨v, h.violations.subset hv, hname⟩

/-- What is admitted depends only on whether rows are checked. -/
theorem admits_congr {s t : Store} (h : t.checked = s.checked) (app : Application) :
    t.admits app = s.admits app := by
  rw [admits, admits, h]

theorem admitsRuleset_congr {s t : Store} (h : t.checked = s.checked) (name : Option String) :
    t.admitsRuleset name = s.admitsRuleset name := by
  rw [admitsRuleset, admitsRuleset, h]

/-- The store with a rule set in it. -/
def withRuleset (s : Store) (r : RuleSet) : Store :=
  if s.hasRuleset r.name then s else { s with rulesets := s.rulesets ++ [⟨r.name, r.tags⟩] }

/-- The store with a violation in it. -/
def withViolation (s : Store) (ruleset : RuleSet) (name : String) (v : Violation) : Store :=
  if s.hasViolation name ruleset.name then s
  else { s with violations := s.violations ++ [⟨name, ruleset.name, v.category, v.labels⟩] }

theorem enterRuleset_exec (r : RuleSet) (s : Store) :
    (enterRuleset r).exec s =
      if s.admitsRuleset r.name then (.ok (), s.withRuleset r) else (.error .refusedRow, s) := by
  rw [enterRuleset, exec_bind_of_ok (exec_get s), withRuleset]
  cases s.admitsRuleset r.name with
  | true => cases s.hasRuleset r.name <;> rfl
  | false => rfl

theorem enterViolation_exec (ruleset : RuleSet) (name : String) (v : Violation) (s : Store) :
    (enterViolation ruleset name v).exec s = (.ok (), s.withViolation ruleset name v) := by
  rw [enterViolation, exec_bind_of_ok (exec_get s), withViolation]
  split <;> rfl

theorem withRuleset_grows (r : RuleSet) (s : Store) : Grows s (s.withRuleset r) := by
  rw [withRuleset]
  split
  · exact Grows.refl s
  · exact ⟨rfl, List.prefix_append .., List.prefix_rfl, rfl, rfl, rfl, rfl⟩

theorem withViolation_grows (ruleset : RuleSet) (name : String) (v : Violation) (s : Store) :
    Grows s (s.withViolation ruleset name v) := by
  rw [withViolation]
  split
  · exact Grows.refl s
  · exact ⟨rfl, List.prefix_rfl, List.prefix_append .., rfl, rfl, rfl, rfl⟩

theorem hasRuleset_withRuleset (r : RuleSet) (s : Store) :
    (s.withRuleset r).hasRuleset r.name := by
  rw [withRuleset]
  split
  · next h => exact h
  · simp [hasRuleset]

theorem hasViolation_withViolation (ruleset : RuleSet) (name : String) (v : Violation)
    (s : Store) : (s.withViolation ruleset name v).hasViolation name ruleset.name := by
  rw [withViolation]
  split
  · next h => exact h
  · simp [hasViolation]

theorem gatherViolation_exec (application : String) (ruleset : RuleSet)
    (v : String × Violation) (s : Store) :
    (gatherViolation application ruleset v).exec s =
      (v.2.incidents.mapM (rowOf application ruleset v.1), s.withViolation ruleset v.1 v.2) := by
  rw [gatherViolation, exec_bind, enterViolation_exec]
  rfl

/-- Entering the violations of a rule set gives the rows of its incidents. -/
theorem gatherViolations_exec (application : String) (ruleset : RuleSet) (s : Store) :
    (do return (← ruleset.violations.mapM (gatherViolation application ruleset)).flatten :
      Action Store (List IncidentRow)).exec s =
      (rulesetRows application ruleset,
        ((ruleset.violations.mapM (gatherViolation application ruleset)).exec s).2) := by
  have hrows := exec_mapM_fst (f := gatherViolation application ruleset)
    (g := fun v => v.2.incidents.mapM (rowOf application ruleset v.1))
    (fun v s => by rw [gatherViolation_exec]) ruleset.violations s
  rw [bind_pure_comp, exec_map, hrows, rulesetRows]
  rfl

theorem gatherRuleset_exec (application : String) (ruleset : RuleSet) (s : Store) :
    (gatherRuleset application ruleset).exec s =
      if s.admitsRuleset ruleset.name then
        (rulesetRows application ruleset,
          ((ruleset.violations.mapM (gatherViolation application ruleset)).exec
            (s.withRuleset ruleset)).2)
      else (.error .refusedRow, s) := by
  rw [gatherRuleset, exec_bind, enterRuleset_exec]
  cases s.admitsRuleset ruleset.name with
  | false => rfl
  | true => exact gatherViolations_exec application ruleset (s.withRuleset ruleset)

theorem gatherViolations_grows (application : String) (ruleset : RuleSet) (s : Store) :
    Grows s ((ruleset.violations.mapM (gatherViolation application ruleset)).exec s).2 := by
  refine exec_mapM_rel Grows.refl Grows.trans (fun v s => ?_) _ _
  rw [gatherViolation_exec]
  exact withViolation_grows ..

theorem gatherRuleset_grows (application : String) (ruleset : RuleSet) (s : Store) :
    Grows s ((gatherRuleset application ruleset).exec s).2 := by
  rw [gatherRuleset_exec]
  split
  · exact (withRuleset_grows ruleset s).trans (gatherViolations_grows ..)
  · exact Grows.refl s

/-- The rows of the incidents of a rule set that is admitted. -/
def admittedRows (s : Store) (application : String) (ruleset : RuleSet) :
    Outcome (List IncidentRow) :=
  if s.admitsRuleset ruleset.name then rulesetRows application ruleset else .error .refusedRow

/-- The rows of the incidents of a report whose rule sets are admitted. -/
def gatheredRows (s : Store) (application : String) (report : Report) :
    Outcome (List IncidentRow) := do
  let rows ← report.rulesets.mapM (admittedRows s application)
  return rows.flatten

theorem gather_exec (application : String) (report : Report) (s : Store) :
    (gather application report).exec s =
      (gatheredRows s application report,
        ((report.rulesets.mapM (gatherRuleset application)).exec s).2) := by
  have hchecked : ∀ r, Keeps Store.checked (gatherRuleset application r) :=
    fun r t => (gatherRuleset_grows application r t).checked
  have hrows := Keeps.mapM_fst (g := fun checked => admittedRows { s with checked } application)
    hchecked (fun r t => by
      rw [gatherRuleset_exec, admittedRows,
        admitsRuleset_congr (s := t) (t := { s with checked := t.checked }) rfl]
      split <;> rfl) report.rulesets s
  show (((report.rulesets.mapM (gatherRuleset application)) >>=
    fun rows => pure rows.flatten).exec s) = _
  rw [bind_pure_comp, exec_map, hrows, gatheredRows]
  rfl

/-- The rows of a report depend on what is stored only in whether rule sets are admitted. -/
theorem gather_fst (application : String) (report : Report) (s : Store) :
    ((gather application report).exec s).1 = gatheredRows s application report := by
  rw [gather_exec]

theorem gatheredRows_congr {s t : Store} (h : t.checked = s.checked) (application : String)
    (report : Report) : gatheredRows t application report = gatheredRows s application report := by
  have hrows : admittedRows t application = admittedRows s application := by
    funext r
    rw [admittedRows, admittedRows, admitsRuleset_congr h]
  rw [gatheredRows, gatheredRows, hrows]

/-- A report has its rows if all its rule sets are admitted. -/
theorem gatheredRows_eq_ok {s : Store} {application : String} {report : Report}
    {rows : List IncidentRow} : gatheredRows s application report = .ok rows ↔
      (∀ r ∈ report.rulesets, s.admitsRuleset r.name) ∧
        reportRows application report = .ok rows := by
  have hall : (∀ r ∈ report.rulesets, s.admitsRuleset r.name) →
      gatheredRows s application report = reportRows application report := by
    intro hadmits
    have hrows : report.rulesets.mapM (admittedRows s application) =
        report.rulesets.mapM (rulesetRows application) :=
      Outcome.mapM_congr fun r hr => if_pos (hadmits r hr)
    rw [gatheredRows, reportRows, hrows]
  constructor
  · intro h
    have hadmits : ∀ r ∈ report.rulesets, s.admitsRuleset r.name := by
      intro r hr
      obtain ⟨lists, hlists, -⟩ := Outcome.bind_eq_ok.mp h
      obtain ⟨l, -, hl⟩ := Outcome.exists_of_mapM_eq_ok hlists hr
      by_contra hrefused
      rw [admittedRows, if_neg hrefused] at hl
      cases hl
    exact ⟨hadmits, hall hadmits ▸ h⟩
  · rintro ⟨hadmits, h⟩
    rw [hall hadmits, h]

/-- Entering a report makes the tables of rule sets and violations longer and changes nothing else,
also when a rule set is refused or a row cannot be made. -/
theorem gather_grows (application : String) (report : Report) (s : Store) :
    Grows s ((gather application report).exec s).2 := by
  rw [gather_exec]
  exact exec_mapM_rel Grows.refl Grows.trans (gatherRuleset_grows application) _ _

theorem gatherRuleset_enters {application : String} {ruleset : RuleSet} {s t : Store}
    {rows : List IncidentRow} (h : (gatherRuleset application ruleset).exec s = (.ok rows, t)) :
    t.hasRuleset ruleset.name ∧ ∀ v ∈ ruleset.violations, t.hasViolation v.1 ruleset.name := by
  have hrows := exec_mapM_fst (f := gatherViolation application ruleset)
    (g := fun v => v.2.incidents.mapM (rowOf application ruleset v.1))
    (fun v s => by rw [gatherViolation_exec]) ruleset.violations (s.withRuleset ruleset)
  rw [gatherRuleset_exec] at h
  split at h
  · obtain ⟨hread, rfl⟩ := Prod.mk.inj h
    obtain ⟨lists, hlists, -⟩ := Outcome.bind_eq_ok.mp hread
    refine ⟨(gatherViolations_grows ..).hasRuleset (hasRuleset_withRuleset ruleset s), ?_⟩
    have hexec : (ruleset.violations.mapM (gatherViolation application ruleset)).exec
        (s.withRuleset ruleset) = (.ok lists, _) := Prod.ext (hrows.trans hlists) rfl
    refine exec_mapM_forall (P := fun v t => t.hasViolation v.1 ruleset.name) ?_ ?_ hexec
    · intro v s₁ y s₂ hstep
      rw [gatherViolation_exec, Prod.mk.injEq] at hstep
      rw [← hstep.2]
      exact hasViolation_withViolation ..
    · intro v v' s₁ hv
      rw [gatherViolation_exec]
      exact (withViolation_grows ..).hasViolation hv
  · cases (Prod.mk.inj h).1

/-- Once a report has been entered, its rule sets and violations are stored. -/
theorem gather_enters {application : String} {report : Report} {s t : Store}
    {rows : List IncidentRow} (h : (gather application report).exec s = (.ok rows, t)) :
    ∀ ruleset ∈ report.rulesets, t.hasRuleset ruleset.name ∧
      ∀ v ∈ ruleset.violations, t.hasViolation v.1 ruleset.name := by
  have hbind : ((report.rulesets.mapM (gatherRuleset application)) >>=
    fun rows => pure rows.flatten).exec s = (.ok rows, t) := h
  obtain ⟨lists, t', hexec, hlast⟩ := exec_bind_eq_ok.mp hbind
  cases hlast
  refine exec_mapM_forall
    (P := fun r t => t.hasRuleset r.name ∧ ∀ v ∈ r.violations, t.hasViolation v.1 r.name)
    (fun _ _ _ _ hstep => gatherRuleset_enters hstep) ?_ hexec
  intro r r' s₁ hr
  have hgrows := gatherRuleset_grows application r' s₁
  exact ⟨hgrows.hasRuleset hr.1, fun v hv => hgrows.hasViolation (hr.2 v hv)⟩

/-! ## The stages of a load -/

/-- The application as it is stored, or as it comes if it is not stored. -/
def applicationAt (s : Store) (app : Application) : Application :=
  (s.application? app.name).getD app

/-- The store with an application in it. -/
def withApplication (s : Store) (app : Application) : Store :=
  match s.application? app.name with
  | some _ => s
  | none => { s with applications := s.applications ++ [app] }

/-- The application is stored, or its row is admitted. -/
def canEnter (s : Store) (app : Application) : Bool :=
  (s.application? app.name).isSome || s.admits app

theorem canEnter_of_admits {s : Store} {app : Application} (h : s.admits app) :
    s.canEnter app := by
  rw [canEnter, h, Bool.or_true]

/-- What detection works on when a report of an application is loaded. -/
def settingOf (setup : LoadSetup) (app : Application) (path : String) (s : Store) :
    Detection.Setting where
  repo := setup.repository path
  oldCommit := (s.applicationAt app).commit
  newCommit := app.commit
  source := setup.source
  choose := setup.choose

/-- The store after detection: lines that have moved are taken over and new incidents added. -/
def arrive (s : Store) (found : Detection) : Store :=
  (s.setLines found.unsolved).addIncidents found.fresh

theorem enterApplication_exec (app : Application) (s : Store) :
    (enterApplication app).exec s =
      if s.canEnter app then (.ok (s.applicationAt app).commit, s.withApplication app)
      else (.error .refusedRow, s) := by
  rw [enterApplication, exec_bind_of_ok (exec_get s), applicationAt, withApplication, canEnter]
  cases s.application? app.name with
  | some stored => rfl
  | none => cases s.admits app <;> rfl

theorem renewApplication_exec (app : Application) (s : Store) :
    (renewApplication app).exec s =
      if s.admits app then (.ok (), s.setApplication app) else (.error .refusedRow, s) := by
  rw [renewApplication, exec_bind_of_ok (exec_get s)]
  cases s.admits app <;> rfl

theorem asking_exec {α : Type} (a : GitAction α) (s : Store) :
    (asking a).exec s = ((a.exec []).1, s) := rfl

/-- The first stages of a load: its repository is found, and its report entered. -/
structure Entered (app : Application) (report : Report) (s : Store) (path : String)
    (rows : List IncidentRow) (entered : Store) : Prop where
  located : repositoryPath app = .ok path
  taken : s.canEnter app
  gathered : (gather app.name report).exec (s.withApplication app) = (.ok rows, entered)

/-- The stages up to detection. -/
structure Detected (setup : LoadSetup) (app : Application) (report : Report) (s : Store)
    (path : String) (rows : List IncidentRow) (entered : Store) (found : Detection) : Prop extends
    Entered app report s path rows entered where
  detected : ((Detection.detect setup.detector (settingOf setup app path s)
    (entered.incidentsOf app.name) rows).exec []).1 = .ok found

/-- The stages of a load up to its solutions. -/
structure Produced (setup : LoadSetup) (app : Application) (report : Report) (s : Store)
    (path : String) (rows : List IncidentRow) (entered : Store) (found : Detection)
    (made : List Solution) : Prop extends
    Detected setup app report s path rows entered found where
  produced : ((Producer.produceAll setup.producer (setup.repository path)
    (s.applicationAt app).commit app.commit found.solved).exec []).1 = .ok made

/-- How far a load comes, what it answers and what it leaves. -/
inductive LoadResult (setup : LoadSetup) (app : Application) (report : Report) (s : Store) :
    Outcome LoadCounts → Store → Prop
  /-- The repository of the application cannot be found. -/
  | noRepository {e : Failure} (hpath : repositoryPath app = .error e) :
    LoadResult setup app report s (.error e) s
  /-- The application is new, and its row is refused. -/
  | notTaken {path : String} (hpath : repositoryPath app = .ok path)
    (hrefused : s.canEnter app = false) : LoadResult setup app report s (.error .refusedRow) s
  /-- A rule set of the report is refused, or an incident has variables that cannot be sorted. -/
  | notEntered {path : String} {e : Failure} {entered : Store} (hpath : repositoryPath app = .ok path)
    (htaken : s.canEnter app)
    (hrows : (gather app.name report).exec (s.withApplication app) = (.error e, entered)) :
    LoadResult setup app report s (.error e) entered
  | notDetected {path : String} {rows : List IncidentRow} {entered : Store} {e : Failure}
    (hentered : Entered app report s path rows entered)
    (hfound : ((Detection.detect setup.detector (settingOf setup app path s)
      (entered.incidentsOf app.name) rows).exec []).1 = .error e) :
    LoadResult setup app report s (.error e) entered
  | notProduced {path : String} {rows : List IncidentRow} {entered : Store} {found : Detection}
    {e : Failure} (hdetected : Detected setup app report s path rows entered found)
    (hmade : ((Producer.produceAll setup.producer (setup.repository path)
      (s.applicationAt app).commit app.commit found.solved).exec []).1 = .error e) :
    LoadResult setup app report s (.error e) (entered.arrive found)
  /-- The application is stored, and what has become of it is refused. The solutions are there. -/
  | notRenewed {path : String} {rows : List IncidentRow} {entered : Store} {found : Detection}
    {made : List Solution} (hproduced : Produced setup app report s path rows entered found made)
    (hrefused : s.admits app = false) :
    LoadResult setup app report s (.error .refusedRow)
      ((entered.arrive found).acceptAll (found.solved.zip made))
  | done {path : String} {rows : List IncidentRow} {entered : Store} {found : Detection}
    {made : List Solution} (hproduced : Produced setup app report s path rows entered found made)
    (hadmits : s.admits app) :
    LoadResult setup app report s
      (.ok ⟨found.fresh.length, found.unsolved.length, found.solved.length⟩)
      ((((entered.arrive found).acceptAll (found.solved.zip made)).setApplication app).keepReport
        app report)

theorem withApplication_checked (s : Store) (app : Application) :
    (s.withApplication app).checked = s.checked := by
  rw [withApplication]
  split <;> rfl

/-- Until the application is renewed, a load leaves it open or closed whether rows are checked. -/
theorem Detected.admits_accepted {setup : LoadSetup} {app : Application} {report : Report}
    {s entered : Store} {path : String} {rows : List IncidentRow} {found : Detection}
    (h : Detected setup app report s path rows entered found)
    (made : List (IncidentRow × Solution)) :
    ((entered.arrive found).acceptAll made).admits app = s.admits app := by
  have hgrows := gather_grows app.name report (s.withApplication app)
  rw [h.gathered] at hgrows
  refine admits_congr ?_ app
  rw [acceptAll_checked]
  exact hgrows.checked.trans (withApplication_checked s app)

/-- Every load ends in one of these ways. -/
theorem load_result (setup : LoadSetup) (app : Application) (report : Report) (s : Store) :
    LoadResult setup app report s ((load setup app report).exec s).1
      ((load setup app report).exec s).2 := by
  -- the cases follow the stages of a load: each fails, or the next one begins where it has ended
  cases hpath : repositoryPath app with
  | error e =>
    have hload : (load setup app report).exec s = (.error e, s) := by
      rw [load, exec_bind, hpath]
      rfl
    rw [hload]
    exact .noRepository hpath
  | ok path =>
    rw [load, hpath, exec_bind_of_ok (exec_ofOutcome _ s)]
    dsimp only
    have henter := enterApplication_exec app s
    cases htaken : s.canEnter app with
    | false =>
      rw [htaken, if_neg Bool.false_ne_true] at henter
      rw [exec_bind_of_error henter]
      exact .notTaken hpath htaken
    | true =>
      rw [if_pos htaken] at henter
      rw [exec_bind_of_ok henter]
      rcases hrows : (gather app.name report).exec (s.withApplication app) with ⟨o, entered⟩
      cases o with
      | error e =>
        rw [exec_bind_of_error hrows]
        exact .notEntered hpath htaken hrows
      | ok rows =>
        have hentered : Entered app report s path rows entered := ⟨hpath, htaken, hrows⟩
        rw [exec_bind_of_ok hrows, exec_bind_of_ok (exec_get entered)]
        have hask := asking_exec (Detection.detect setup.detector (settingOf setup app path s)
          (entered.incidentsOf app.name) rows) entered
        cases hfound : ((Detection.detect setup.detector (settingOf setup app path s)
          (entered.incidentsOf app.name) rows).exec []).1 with
        | error e =>
          rw [hfound, settingOf] at hask
          rw [exec_bind_of_error hask]
          exact .notDetected hentered hfound
        | ok found =>
          have hdetected : Detected setup app report s path rows entered found := ⟨hentered, hfound⟩
          rw [hfound, settingOf] at hask
          rw [exec_bind_of_ok hask, exec_bind_of_ok (exec_modify _ entered)]
          have hmake := asking_exec (Producer.produceAll setup.producer (setup.repository path)
            (s.applicationAt app).commit app.commit found.solved) (entered.arrive found)
          cases hmade : ((Producer.produceAll setup.producer (setup.repository path)
            (s.applicationAt app).commit app.commit found.solved).exec []).1 with
          | error e =>
            rw [hmade, arrive] at hmake
            rw [exec_bind_of_error hmake]
            exact .notProduced hdetected hmade
          | ok made =>
            rw [hmade, arrive] at hmake
            rw [exec_bind_of_ok hmake, exec_bind_of_ok (exec_modify _ _)]
            have hrenew := renewApplication_exec app
              ((entered.arrive found).acceptAll (found.solved.zip made))
            rw [hdetected.admits_accepted, acceptAll, arrive] at hrenew
            cases hadmits : s.admits app with
            | false =>
              rw [hadmits, if_neg Bool.false_ne_true] at hrenew
              rw [exec_bind_of_error hrenew]
              exact .notRenewed ⟨hdetected, hmade⟩ hadmits
            | true =>
              rw [if_pos hadmits] at hrenew
              rw [exec_bind_of_ok hrenew]
              exact .done ⟨hdetected, hmade⟩ hadmits

/-! ## Loads that come to their end -/

theorem withApplication_others (s : Store) (app : Application) :
    (s.withApplication app).incidents = s.incidents ∧
    (s.withApplication app).solutions = s.solutions ∧
    (s.withApplication app).violations = s.violations := by
  rw [withApplication]
  split <;> exact ⟨rfl, rfl, rfl⟩

/-- Entering a report leaves incidents and solutions as they are. -/
theorem gather_rows {app : Application} {report : Report} {s entered : Store}
    {o : Outcome (List IncidentRow)}
    (h : (gather app.name report).exec (s.withApplication app) = (o, entered)) :
    entered.incidents = s.incidents ∧ entered.solutions = s.solutions ∧
      s.violations ⊆ entered.violations := by
  have hgrows := gather_grows app.name report (s.withApplication app)
  rw [h] at hgrows
  obtain ⟨hincidents, hsolutions, hviolations⟩ := withApplication_others s app
  exact ⟨hgrows.incidents.trans hincidents, hgrows.solutions.trans hsolutions,
    hviolations ▸ hgrows.violations.subset⟩

theorem Entered.gatheredRows_eq {app : Application} {report : Report} {s entered : Store}
    {path : String} {rows : List IncidentRow} (h : Entered app report s path rows entered) :
    gatheredRows s app.name report = .ok rows := by
  rw [← gatheredRows_congr (withApplication_checked s app), ← gather_fst, h.gathered]

theorem Entered.gathered_rows {app : Application} {report : Report} {s entered : Store}
    {path : String} {rows : List IncidentRow} (h : Entered app report s path rows entered) :
    reportRows app.name report = .ok rows :=
  (gatheredRows_eq_ok.mp h.gatheredRows_eq).2

theorem map_relined_id (rows table : List IncidentRow) :
    (table.map (relined rows)).map IncidentRow.id = table.map IncidentRow.id := by
  rw [List.map_map]
  refine List.map_congr_left fun r _ => ?_
  obtain ⟨line, hline⟩ := relined_eq rows r
  rw [Function.comp_apply, hline]

theorem arrive_incidents (s : Store) (found : Detection) :
    (s.arrive found).incidents = s.incidents.map (relined found.unsolved) ++
      numbered (nextId (s.incidents.map IncidentRow.id)) found.fresh := by
  rw [arrive, addIncidents, setLines]
  dsimp only
  rw [map_relined_id]

/-- What a load has found and made, and the tables that it leaves. -/
structure Loaded (setup : LoadSetup) (app : Application) (report : Report) (s : Store)
    (path : String) (rows : List IncidentRow) (found : Detection) (made : List Solution)
    (t : Store) : Prop where
  located : repositoryPath app = .ok path
  admitted : s.admits app
  named : ∀ r ∈ report.rulesets, s.admitsRuleset r.name
  gathered : reportRows app.name report = .ok rows
  detected : ((Detection.detect setup.detector (settingOf setup app path s)
    (s.incidentsOf app.name) rows).exec []).1 = .ok found
  produced : (found.solved.mapM fun r => Producer.solutionFor setup.producer
    (setup.repository path) (s.applicationAt app).commit app.commit r.uri) = .ok made
  incidents : t.incidents = (s.incidents.map (relined found.unsolved) ++
    numbered (nextId (s.incidents.map IncidentRow.id)) found.fresh).map
      (assigned s.nextSolution (found.solved.zip made))
  solutions : t.solutions = s.solutions ++ acceptedRows s.nextSolution (found.solved.zip made)
  applications : t.applications = (s.withApplication app).applications.map fun a =>
    if a.name == app.name then app else a
  checked : t.checked = s.checked

theorem load_eq_ok {setup : LoadSetup} {app : Application} {report : Report} {s t : Store}
    {counts : LoadCounts} (h : (load setup app report).exec s = (.ok counts, t)) :
    ∃ path rows found made, Loaded setup app report s path rows found made t := by
  have hresult := load_result setup app report s
  rw [h] at hresult
  cases hresult with
  | @done path rows entered found made hdone hadmits =>
    obtain ⟨hincidents, hsolutions, -⟩ := gather_rows hdone.gathered
    obtain ⟨hnamed, hrows⟩ := gatheredRows_eq_ok.mp hdone.gatheredRows_eq
    have hgrows := gather_grows app.name report (s.withApplication app)
    rw [hdone.gathered] at hgrows
    have hnext : (entered.arrive found).nextSolution = s.nextSolution := by
      rw [nextSolution, nextSolution, ← hsolutions]
      rfl
    refine ⟨path, rows, found, made, hdone.located, hadmits, hnamed, hrows, ?_, ?_, ?_, ?_, ?_, ?_⟩
    · have hold : entered.incidentsOf app.name = s.incidentsOf app.name := by
        rw [incidentsOf, incidentsOf, hincidents]
      rw [← hold]
      exact hdone.detected
    · rw [← Producer.produceAll_fst _ _ _ _ _ []]
      exact hdone.produced
    · show ((entered.arrive found).acceptAll (found.solved.zip made)).incidents = _
      rw [acceptAll_incidents, hnext, arrive_incidents, hincidents]
    · show ((entered.arrive found).acceptAll (found.solved.zip made)).solutions = _
      rw [acceptAll_solutions, hnext, ← hsolutions]
      rfl
    · show List.map _ ((entered.arrive found).acceptAll (found.solved.zip made)).applications = _
      rw [(acceptAll_others _ _).1, ← hgrows.applications]
      rfl
    · show ((entered.arrive found).acceptAll (found.solved.zip made)).checked = _
      rw [acceptAll_checked]
      exact hgrows.checked.trans (withApplication_checked s app)

/-! ## Loads as values -/

/-- One load: how, of which application, which report. -/
structure LoadCall where
  setup : LoadSetup
  app : Application
  report : Report

namespace LoadCall

/-- Does the load. -/
def run (c : LoadCall) : Action Store LoadCounts :=
  load c.setup c.app c.report

/-- The rows of the report; none if they cannot be made. -/
def rows (c : LoadCall) : List IncidentRow :=
  match reportRows c.app.name c.report with
  | .ok rows => rows
  | .error _ => []

/-- The keys that occur in the report. -/
def keys (c : LoadCall) : List IncidentKey :=
  c.rows.map IncidentRow.key

end LoadCall

end Remedy.Store
