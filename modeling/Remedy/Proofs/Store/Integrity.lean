import Remedy.Proofs.Store.Commits
import Remedy.Proofs.Store.Resolved

/-!
# The integrity of the tables

Rows of the store name rows of other tables: a violation its rule set, an incident its application,
its violation and perhaps its solution. A load writes these tables one after the other and may be cut
short between any two writes. It writes what is named before what names it, so every name leads to a
row at each point, names are given once, and no two incidents share a solution.

Main results:

* `Integrity.enter`, `Integrity.arrive`, `Integrity.acceptAll`, `Integrity.keepReport`: each write
  keeps the integrity of the tables.
* `Integrity.committed`: so does a load that is cut short at any point.
* `integrity_at_every_commit`: the tables have their integrity in every store that loads, lookups and
  deletions lead to, and a lookup finds the solution of every incident that it comes to.
-/

namespace Remedy.Store

open Remedy.Action

/-- Names and numbers are given once, and everything that is named is there. -/
structure Integrity (s : Store) : Prop extends Numbered s where
  applicationNames : (s.applications.map Application.name).Nodup
  rulesetNames : (s.rulesets.map RuleSetRow.name).Nodup
  violationNames : (s.violations.map fun v => (v.name, v.ruleset)).Nodup
  reportNames : (s.reports.map fun r => (r.application, r.reportId)).Nodup
  violationRuleset : ∀ v ∈ s.violations, v.ruleset ∈ s.rulesets.map RuleSetRow.name
  incidentApplication : ∀ r ∈ s.incidents, r.application ∈ s.applications.map Application.name
  incidentViolation : ∀ r ∈ s.incidents, ∃ v ∈ s.violations,
    r.violation = some v.name ∧ r.ruleset = v.ruleset

theorem Integrity.empty (checked : Bool) : Integrity { checked } where
  toNumbered := Numbered.empty checked
  applicationNames := List.nodup_nil
  rulesetNames := List.nodup_nil
  violationNames := List.nodup_nil
  reportNames := List.nodup_nil
  violationRuleset := by simp
  incidentApplication := by simp
  incidentViolation := by simp

/-! ## Entering -/

theorem hasRuleset_iff {s : Store} {name : Option String} :
    s.hasRuleset name = true ↔ name ∈ s.rulesets.map RuleSetRow.name := by
  rw [hasRuleset, List.any_eq_true, List.mem_map]
  simp only [beq_iff_eq]

theorem hasViolation_iff {s : Store} {name : String} {ruleset : Option String} :
    s.hasViolation name ruleset = true ↔
      ∃ v ∈ s.violations, v.name = name ∧ v.ruleset = ruleset := by
  rw [hasViolation, List.any_eq_true]
  simp only [Bool.and_eq_true, beq_iff_eq]

/-- An application is entered if it is not there yet. -/
theorem Integrity.withApplication {s : Store} (h : Integrity s) (app : Application) :
    Integrity (s.withApplication app) ∧
      app.name ∈ (s.withApplication app).applications.map Application.name := by
  rw [Store.withApplication]
  cases hfind : s.application? app.name with
  | some a =>
    have hname : a.name = app.name := by simpa using List.find?_some hfind
    exact ⟨h, List.mem_map.mpr ⟨a, List.mem_of_find?_eq_some hfind, hname⟩⟩
  | none =>
    have hnew : app.name ∉ s.applications.map Application.name := by
      intro hin
      obtain ⟨a, ha, hname⟩ := List.mem_map.mp hin
      exact List.find?_eq_none.mp hfind a ha (beq_iff_eq.mpr hname)
    constructor
    · refine ⟨h.toNumbered.of_eq rfl rfl, ?_, h.rulesetNames, h.violationNames, h.reportNames,
        h.violationRuleset, fun r hr => ?_, h.incidentViolation⟩
      · rw [List.map_append, List.map_singleton, ← List.concat_eq_append]
        exact h.applicationNames.concat hnew
      · rw [List.map_append]
        exact List.mem_append_left _ (h.incidentApplication r hr)
    · simp

theorem Integrity.withRuleset {s : Store} (h : Integrity s) (r : RuleSet) :
    Integrity (s.withRuleset r) := by
  rw [Store.withRuleset]
  split
  · exact h
  · next hnew =>
    rw [hasRuleset_iff] at hnew
    refine ⟨h.toNumbered.of_eq rfl rfl, h.applicationNames, ?_, h.violationNames, h.reportNames,
      fun v hv => ?_, h.incidentApplication, h.incidentViolation⟩
    · rw [List.map_append, List.map_singleton, ← List.concat_eq_append]
      exact h.rulesetNames.concat hnew
    · rw [List.map_append]
      exact List.mem_append_left _ (h.violationRuleset v hv)

/-- A violation is entered after its rule set. -/
theorem Integrity.withViolation {s : Store} (h : Integrity s) {r : RuleSet}
    (hr : s.hasRuleset r.name = true) (name : String) (v : Violation) :
    Integrity (s.withViolation r name v) := by
  rw [Store.withViolation]
  split
  · exact h
  · next hnew =>
    refine ⟨h.toNumbered.of_eq rfl rfl, h.applicationNames, h.rulesetNames, ?_, h.reportNames,
      fun w hw => ?_, h.incidentApplication, fun i hi => ?_⟩
    · rw [List.map_append, List.map_singleton, ← List.concat_eq_append]
      refine h.violationNames.concat fun hin => hnew ?_
      obtain ⟨w, hw, heq⟩ := List.mem_map.mp hin
      obtain ⟨hname, hruleset⟩ := Prod.mk.inj heq
      exact hasViolation_iff.mpr ⟨w, hw, hname, hruleset⟩
    · rcases List.mem_append.mp hw with hw | hw
      · exact h.violationRuleset w hw
      · rw [List.mem_singleton] at hw
        rw [hw]
        exact hasRuleset_iff.mp hr
    · obtain ⟨w, hw, hnames⟩ := h.incidentViolation i hi
      exact ⟨w, List.mem_append_left _ hw, hnames⟩

/-- Each violation comes after its rule set; `seen` are the rule sets that came before. -/
def FollowsRulesets : List RuleSet → List Entry → Prop
  | _, [] => True
  | seen, .ruleset r :: rest => FollowsRulesets (r :: seen) rest
  | seen, .violation r _ _ :: rest => r ∈ seen ∧ FollowsRulesets seen rest

theorem FollowsRulesets.initial {seen : List RuleSet} {done all : List Entry}
    (h : FollowsRulesets seen all) (hdone : done <+: all) : FollowsRulesets seen done := by
  induction done generalizing seen all with
  | nil => trivial
  | cons e done ih =>
    obtain ⟨rest, rfl⟩ := hdone
    cases e with
    | ruleset r => exact ih h (List.prefix_append done rest)
    | violation r name v => exact ⟨h.1, ih h.2 (List.prefix_append done rest)⟩

theorem followsRulesets_violations {seen : List RuleSet} {r : RuleSet} (hr : r ∈ seen)
    {rest : List Entry} (h : FollowsRulesets seen rest) (violations : List (String × Violation)) :
    FollowsRulesets seen (violations.map (fun v => Entry.violation r v.1 v.2) ++ rest) := by
  induction violations with
  | nil => exact h
  | cons v violations ih => exact ⟨hr, ih⟩

/-- What a report names comes in such an order. -/
theorem followsRulesets_entries (rulesets : List RuleSet) (seen : List RuleSet) :
    FollowsRulesets seen (rulesets.flatMap rulesetEntries) := by
  induction rulesets generalizing seen with
  | nil => trivial
  | cons r rest ih =>
    show FollowsRulesets (r :: seen) (_ ++ rest.flatMap rulesetEntries)
    exact followsRulesets_violations List.mem_cons_self (ih (r :: seen)) r.violations

/-- Entering what a report names, in its order and up to any point, keeps the integrity. -/
theorem Integrity.enter {s : Store} (h : Integrity s) {seen : List RuleSet} {done : List Entry}
    (hdone : FollowsRulesets seen done) (hseen : ∀ r ∈ seen, s.hasRuleset r.name = true) :
    Integrity (done.foldl Entry.enter s) := by
  -- the invariant of the run is that the rule sets in `seen` are stored
  induction done generalizing s seen with
  | nil => exact h
  | cons e rest ih =>
    have hkept : ∀ r ∈ seen, (Entry.enter s e).hasRuleset r.name = true :=
      fun r hr => (Entry.enter_grows s e).hasRuleset (hseen r hr)
    rw [List.foldl_cons]
    cases e with
    | ruleset r =>
      refine ih (h.withRuleset r) hdone fun t ht => ?_
      rcases List.mem_cons.mp ht with rfl | ht
      · exact hasRuleset_withRuleset t s
      · exact hkept t ht
    | violation r name v =>
      exact ih (h.withViolation (hseen r hdone.1) name v) hdone.2 hkept

/-! ## Incidents and solutions -/

/-- New incidents that name what is there can be added. -/
theorem Integrity.arrive {s : Store} (h : Integrity s) {found : Detection}
    (hfresh : ∀ r ∈ found.fresh, r.solutionId = none ∧
      r.application ∈ s.applications.map Application.name ∧
      ∃ v ∈ s.violations, r.violation = some v.name ∧ r.ruleset = v.ruleset) :
    Integrity (s.arrive found) where
  toNumbered := h.toNumbered.arrive fun r hr => (hfresh r hr).1
  applicationNames := h.applicationNames
  rulesetNames := h.rulesetNames
  violationNames := h.violationNames
  reportNames := h.reportNames
  violationRuleset := h.violationRuleset
  incidentApplication := by
    intro r hr
    rcases mem_arrive hr with ⟨t, ht, line, rfl⟩ | ⟨t, ht, i, -, rfl⟩
    · exact h.incidentApplication t ht
    · exact (hfresh t ht).2.1
  incidentViolation := by
    intro r hr
    rcases mem_arrive hr with ⟨t, ht, line, rfl⟩ | ⟨t, ht, i, -, rfl⟩
    · exact h.incidentViolation t ht
    · exact (hfresh t ht).2.2

theorem Integrity.acceptAll {s : Store} (h : Integrity s)
    (made : List (IncidentRow × Solution)) : Integrity (s.acceptAll made) := by
  obtain ⟨happlications, hrulesets, hviolations, hreports⟩ := acceptAll_others s made
  -- an incident names what it named before, its solution apart
  have hold : ∀ r ∈ (s.acceptAll made).incidents, ∃ t ∈ s.incidents,
      r.application = t.application ∧ r.violation = t.violation ∧ r.ruleset = t.ruleset := by
    intro r hr
    rcases mem_acceptAll hr with ⟨hr, -⟩ | ⟨t, ht, i, p, -, -, rfl⟩
    · exact ⟨r, hr, rfl, rfl, rfl⟩
    · exact ⟨t, ht, rfl, rfl, rfl⟩
  refine ⟨h.toNumbered.acceptAll made, ?_, ?_, ?_, ?_, ?_, fun r hr => ?_, fun r hr => ?_⟩
  · rw [happlications]
    exact h.applicationNames
  · rw [hrulesets]
    exact h.rulesetNames
  · rw [hviolations]
    exact h.violationNames
  · rw [hreports]
    exact h.reportNames
  · rw [hviolations, hrulesets]
    exact h.violationRuleset
  · obtain ⟨t, ht, happ, -⟩ := hold r hr
    rw [happlications, happ]
    exact h.incidentApplication t ht
  · obtain ⟨t, ht, -, hviolation, hruleset⟩ := hold r hr
    rw [hviolations, hviolation, hruleset]
    exact h.incidentViolation t ht

/-! ## Applications and reports -/

theorem Integrity.setApplication {s : Store} (h : Integrity s) (app : Application) :
    Integrity (s.setApplication app) := by
  have hnames : (s.setApplication app).applications.map Application.name =
      s.applications.map Application.name := by
    rw [Store.setApplication, List.map_map]
    refine List.map_congr_left fun a _ => ?_
    rw [Function.comp_apply]
    split
    · next ha => exact (beq_iff_eq.mp ha).symm
    · rfl
  refine ⟨h.toNumbered.of_eq rfl rfl, ?_, h.rulesetNames, h.violationNames, h.reportNames,
    h.violationRuleset, ?_, h.incidentViolation⟩
  · rw [hnames]
    exact h.applicationNames
  · rw [hnames]
    exact h.incidentApplication

theorem mem_putReport_names {rows : List ReportRow} {r : ReportRow} {k : String × String} :
    k ∈ (putReport rows r).map (fun r => (r.application, r.reportId)) ↔
      k ∈ rows.map (fun r => (r.application, r.reportId)) ∨ k = (r.application, r.reportId) := by
  induction rows with
  | nil => simp [putReport]
  | cons old rest ih =>
    rw [putReport]
    split
    · next hsame =>
      rw [Bool.and_eq_true, beq_iff_eq, beq_iff_eq] at hsame
      simp only [List.map_cons, List.mem_cons, hsame.1, hsame.2]
      tauto
    · simp only [List.map_cons, List.mem_cons, ih]
      tauto

theorem nodup_putReport {rows : List ReportRow} {r : ReportRow}
    (h : (rows.map fun r => (r.application, r.reportId)).Nodup) :
    ((putReport rows r).map fun r => (r.application, r.reportId)).Nodup := by
  induction rows with
  | nil => simp [putReport]
  | cons old rest ih =>
    rw [List.map_cons, List.nodup_cons] at h
    rw [putReport]
    split
    · next hsame =>
      rw [Bool.and_eq_true, beq_iff_eq, beq_iff_eq] at hsame
      rw [List.map_cons, List.nodup_cons, ← hsame.1, ← hsame.2]
      exact h
    · next hother =>
      rw [List.map_cons, List.nodup_cons, mem_putReport_names]
      refine ⟨?_, ih h.2⟩
      rintro (hin | heq)
      · exact h.1 hin
      · obtain ⟨happ, hid⟩ := Prod.mk.inj heq
        exact hother (by rw [Bool.and_eq_true, beq_iff_eq, beq_iff_eq]; exact ⟨happ, hid⟩)

theorem Integrity.keepReport {s : Store} (h : Integrity s) (app : Application)
    (report : Report) : Integrity (s.keepReport app report) :=
  ⟨h.toNumbered.of_eq rfl rfl, h.applicationNames, h.rulesetNames, h.violationNames,
    nodup_putReport h.reportNames, h.violationRuleset, h.incidentApplication, h.incidentViolation⟩

/-! ## Loads, lookups and deletions -/

/-- The rows of a report that has been entered name what is there. -/
theorem Entered.names {app : Application} {report : Report} {s entered : Store} {path : String}
    {rows : List IncidentRow} (h : Entered app report s path rows entered) {r : IncidentRow}
    (hr : r ∈ rows) : r.application = app.name ∧
      ∃ v ∈ entered.violations, r.violation = some v.name ∧ r.ruleset = v.ruleset := by
  obtain ⟨ruleset, hruleset, v, hv, i, -, hrow⟩ := (mem_reportRows h.gathered_rows).mp hr
  obtain ⟨vars, -, rfl⟩ := rowOf_eq_ok.mp hrow
  obtain ⟨w, hw, hname, hof⟩ :=
    hasViolation_iff.mp ((gather_enters h.gathered ruleset hruleset).2 v hv)
  exact ⟨rfl, w, hw, congrArg some hname.symm, hof.symm⟩

/-- A load keeps the integrity of the tables at each point. -/
theorem Integrity.committed {setup : LoadSetup} {app : Application} {report : Report} {s t : Store}
    (h : Integrity s) (hcommit : Committed setup app report s t) : Integrity t := by
  obtain ⟨hstart, hstored⟩ := h.withApplication app
  have hentering : ∀ {done}, done <+: entries report →
      Integrity (done.foldl Entry.enter (s.withApplication app)) := fun hdone =>
    hstart.enter ((followsRulesets_entries report.rulesets []).initial hdone) (by simp)
  have harrived : ∀ {path rows entered found},
      Detected setup app report s path rows entered found → Integrity (entered.arrive found) := by
    intro path rows entered found hdetected
    obtain ⟨done, hdone, -, hstate, -⟩ :=
      gather_exec_entries app.name report (s.withApplication app)
    have hgrows := gather_grows app.name report (s.withApplication app)
    rw [hdetected.gathered] at hstate hgrows
    have hentered : Integrity entered := by
      rw [show entered = done.foldl Entry.enter (s.withApplication app) from hstate]
      exact hentering hdone
    -- a fresh incident is a row of the report, and all that the report names has been entered
    refine hentered.arrive fun r hr => ?_
    have hrow : r ∈ rows := Detection.fresh_subset_of_detect hdetected.detected r hr
    obtain ⟨happ, hviolation⟩ := hdetected.toEntered.names hrow
    refine ⟨solutionId_of_mem_reportRows hdetected.gathered_rows hrow, ?_, hviolation⟩
    rw [hgrows.applications, happ]
    exact hstored
  cases hcommit with
  | unchanged => exact h
  | entering _ _ hdone _ => exact hentering hdone
  | arrived hd => exact harrived hd
  | accepted hp => exact (harrived hp.toDetected).acceptAll _
  | renewed hp _ => exact ((harrived hp.toDetected).acceptAll _).setApplication app
  | kept hp _ =>
    exact (((harrived hp.toDetected).acceptAll _).setApplication app).keepReport app report

theorem Integrity.onlySolutions {s t : Store} (h : Integrity s) (hst : OnlySolutions s t) :
    Integrity t where
  toNumbered := h.toNumbered.onlySolutions hst
  applicationNames := hst.applications ▸ h.applicationNames
  rulesetNames := hst.rulesets ▸ h.rulesetNames
  violationNames := hst.violations ▸ h.violationNames
  reportNames := hst.reports ▸ h.reportNames
  violationRuleset := by
    rw [hst.violations, hst.rulesets]
    exact h.violationRuleset
  incidentApplication := by
    rw [hst.incidents, hst.applications]
    exact h.incidentApplication
  incidentViolation := by
    rw [hst.incidents, hst.violations]
    exact h.incidentViolation

theorem Persisted.integrity {s : Store} (h : Persisted s) : Integrity s := by
  obtain ⟨calls, hrun⟩ := h
  refine hrun.keeps Integrity.empty fun _ hu hstep => ?_
  cases hstep with
  | load c hcommit => exact hu.committed hcommit
  | find s kind style q => exact hu.onlySolutions (find_onlySolutions kind style q s)
  | delete => exact Integrity.empty _

/-- **The tables have their integrity at every commit.** In every store that loads, lookups and
deletions lead to, with any method and producer and with loads cut short at any point, names and
numbers are given once, everything that is named is there and no solution belongs to two incidents.
So a lookup that goes through the solved incidents of a rule, completing their solutions, finds a
solution for each incident when its turn comes. -/
theorem integrity_at_every_commit {s : Store} (h : Persisted s) :
    Integrity s ∧
    ∀ (kind : ProducerKind) (style : Producer.SummaryStyle) (dialogue : Dialogue) (q : Query)
      (asked : Fields) (before : List IncidentRow) (r : IncidentRow) (after : List IncidentRow),
      s.solvedLike q asked = before ++ r :: after →
      ∃ x, ((before.mapM (useSolution kind style)).exec ⟨s, dialogue⟩).2.store.solutionOf r =
        some x := by
  refine ⟨h.integrity, fun kind style dialogue q asked before r after hlike => ?_⟩
  -- completing a solution rewrites it in place, so no incident loses the one it refers to
  have honly : OnlySolutions s
      ((before.mapM (useSolution kind style)).exec ⟨s, dialogue⟩).2.store :=
    exec_mapM_rel (R := fun s t : Session => OnlySolutions s.store t.store)
      (fun s => OnlySolutions.refl s.store) OnlySolutions.trans
      (useSolution_onlySolutions kind style) before ⟨s, dialogue⟩
  have hr : r ∈ s.solvedLike q asked := by
    rw [hlike]
    simp
  refine (h.integrity.onlySolutions honly).toNumbered.exists_solutionOf ?_
    (isSome_of_mem_solvedLike hr)
  rw [honly.incidents]
  exact (solvedLike_sublist s q asked).subset hr

/-! ### An example -/

theorem persisted_cameAndWent (vars : Fields) : Persisted (cameAndWent vars) := by
  delta cameAndWent
  exact (Persisted.empty.run _).run _

/-- A load of a second application that is cut short after its first rule set. -/
def cutShort (c : LoadCall) (s : Store) : Store :=
  ((entries c.report).take 1).foldl Entry.enter (s.withApplication c.app)

theorem integrity_after_load_cut_short :
    let s := cutShort (plainCall "b" "d1" [plainIncident 3 []]) (cameAndWent [("x", .int 1)])
    Persisted s ∧ Integrity s ∧ s.applications.map Application.name = ["a", "b"] ∧
    ∃ r, s.solvedLike ⟨"rules", "rule", [], none⟩ [("x", .int 1)] = [r] ∧
      ∃ x, s.solutionOf r = some x := by
  intro s
  have hpath : repositoryPath (plainCall "b" "d1" [plainIncident 3 []]).app = .ok "/work" := by
    decide +kernel
  have hcommit : Committed plainSetup _ _ (cameAndWent [("x", .int 1)]) s :=
    .entering hpath (by decide +kernel) (List.take_prefix ..) (by decide +kernel)
  have hs : Persisted s := (persisted_cameAndWent _).step
    (.load (plainCall "b" "d1" [plainIncident 3 []]) hcommit)
  obtain ⟨hintegrity, hlookup⟩ := integrity_at_every_commit hs
  have hone : ((s.solvedLike ⟨"rules", "rule", [], none⟩ [("x", .int 1)]).length == 1) = true := by
    decide +kernel
  obtain ⟨r, hr⟩ := List.length_eq_one_iff.mp (beq_iff_eq.mp hone)
  refine ⟨hs, hintegrity, by decide +kernel, r, hr, ?_⟩
  exact hlookup .textOnly ⟨default, false⟩ Dialogue.silent _ _ [] r [] hr

end Remedy.Store
