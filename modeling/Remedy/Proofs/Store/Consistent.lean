import Remedy.Proofs.Detection.Moved
import Remedy.Proofs.Json.DeepSort
import Remedy.Proofs.Store.Commits

/-!
# Consistent stores

The tables of a store refer to each other: an incident names its violation, and its solution by
number. A store is consistent when incidents and solutions have different numbers, every solution
that an incident names is there and named by no other incident, every violation that an incident
names is there, and variables are kept in their compared form. Each change that a load makes keeps a
store consistent, so a load does, also when it fails half way.

Main results:

* `Consistent.arrive`: taking in what detection has found keeps a store consistent.
* `Consistent.acceptAll`: accepting solutions does.
* `Consistent.committed`: loading a report does, also when it is cut short.
-/

namespace Remedy

/-- No variable of an incident of the report has an object with a key twice. -/
def Report.ProperVars (report : Report) : Prop :=
  ∀ ruleset ∈ report.rulesets, ∀ v ∈ ruleset.violations, ∀ i ∈ v.2.incidents,
    (Json.obj i.vars).proper = true

instance (report : Report) : Decidable report.ProperVars :=
  inferInstanceAs (Decidable (∀ ruleset ∈ report.rulesets, ∀ v ∈ ruleset.violations,
    ∀ i ∈ v.2.incidents, (Json.obj i.vars).proper = true))

namespace Store

/-- The incident names a stored violation, and its variables are in their compared form. -/
structure Sound (s : Store) (r : IncidentRow) : Prop where
  rule : ∃ v, r.violation = some v ∧ s.hasViolation v r.ruleset = true
  proper : (Json.obj r.vars).proper = true
  compared : comparedVars r.vars = .ok r.vars

/-- Incidents and solutions have different numbers, and the solution that an incident names is
there and named by no other incident. -/
structure Numbered (s : Store) : Prop where
  incidentIds : (s.incidents.map IncidentRow.id).Nodup
  solutionIds : (s.solutions.map SolutionRow.id).Nodup
  referred : ∀ r ∈ s.incidents, ∀ i, r.solutionId = some i → i ∈ s.solutions.map SolutionRow.id
  owned : ∀ r ∈ s.incidents, ∀ t ∈ s.incidents, ∀ i, r.solutionId = some i →
    t.solutionId = some i → r.id = t.id

/-- The tables of a store fit together. -/
structure Consistent (s : Store) : Prop extends Numbered s where
  sound : ∀ r ∈ s.incidents, Sound s r

theorem Numbered.empty (checked : Bool) : Numbered { checked } where
  incidentIds := List.nodup_nil
  solutionIds := List.nodup_nil
  referred := by simp
  owned := by simp

theorem Consistent.empty (checked : Bool) : Consistent { checked } :=
  ⟨Numbered.empty checked, by simp⟩

/-- Rows of one number are one row. -/
theorem Numbered.eq_of_id {s : Store} (h : Numbered s) {r t : IncidentRow}
    (hr : r ∈ s.incidents) (ht : t ∈ s.incidents) (hid : r.id = t.id) : r = t :=
  List.inj_on_of_nodup_map h.incidentIds hr ht hid

theorem Sound.mono {s t : Store} {r : IncidentRow} (h : Sound s r)
    (hsub : s.violations ⊆ t.violations) : Sound t r where
  rule := by
    obtain ⟨v, hv, hstored⟩ := h.rule
    refine ⟨v, hv, ?_⟩
    rw [hasViolation, List.any_eq_true] at hstored ⊢
    obtain ⟨w, hw, hname⟩ := hstored
    exact ⟨w, hsub hw, hname⟩
  proper := h.proper
  compared := h.compared

theorem exists_solution? {s : Store} {i : Nat} (h : i ∈ s.solutions.map SolutionRow.id) :
    ∃ x, s.solution? i = some x := by
  obtain ⟨row, hrow, hid⟩ := List.mem_map.mp h
  have hsome : (s.solutions.find? fun r => r.id == i).isSome := by
    rw [List.find?_isSome]
    exact ⟨row, hrow, by simp [hid]⟩
  obtain ⟨found, hfound⟩ := Option.isSome_iff_exists.mp hsome
  exact ⟨found.solution, by rw [solution?, hfound]; rfl⟩

theorem Numbered.exists_solutionOf {s : Store} (h : Numbered s) {r : IncidentRow}
    (hr : r ∈ s.incidents) (hsolved : r.solutionId.isSome = true) :
    ∃ x, s.solutionOf r = some x := by
  obtain ⟨i, hi⟩ := Option.isSome_iff_exists.mp hsolved
  obtain ⟨x, hx⟩ := exists_solution? (h.referred r hr i hi)
  exact ⟨x, by rw [solutionOf, hi]; exact hx⟩

/-- Only the tables of incidents and solutions count for the numbers. -/
theorem Numbered.of_eq {s t : Store} (h : Numbered s) (hincidents : t.incidents = s.incidents)
    (hsolutions : t.solutions = s.solutions) : Numbered t where
  incidentIds := hincidents ▸ h.incidentIds
  solutionIds := hsolutions ▸ h.solutionIds
  referred := by
    rw [hincidents, hsolutions]
    exact h.referred
  owned := hincidents ▸ h.owned

theorem Consistent.mono {s t : Store} (h : Consistent s) (hincidents : t.incidents = s.incidents)
    (hsolutions : t.solutions = s.solutions) (hviolations : s.violations ⊆ t.violations) :
    Consistent t where
  toNumbered := h.toNumbered.of_eq hincidents hsolutions
  sound := by
    rw [hincidents]
    exact fun r hr => (h.sound r hr).mono hviolations

/-! ## Taking in what detection has found -/

/-- Each incident is one that was there, at most on another line, or one that is new. -/
theorem mem_arrive {s : Store} {found : Detection} {r : IncidentRow} :
    r ∈ (s.arrive found).incidents →
      (∃ t ∈ s.incidents, ∃ line, r = { t with line }) ∨
      (∃ t ∈ found.fresh, ∃ i, nextId (s.incidents.map IncidentRow.id) ≤ i ∧
        r = { t with id := i }) := by
  rw [arrive_incidents, List.mem_append]
  rintro (h | h)
  · obtain ⟨t, ht, rfl⟩ := List.mem_map.mp h
    obtain ⟨line, hline⟩ := relined_eq found.unsolved t
    exact .inl ⟨t, ht, line, hline⟩
  · exact .inr (exists_of_mem_numbered h)

theorem nodup_arrive_ids {s : Store} {found : Detection}
    (h : (s.incidents.map IncidentRow.id).Nodup) :
    ((s.arrive found).incidents.map IncidentRow.id).Nodup := by
  have hids : (s.arrive found).incidents.map IncidentRow.id = s.incidents.map IncidentRow.id ++
      List.range' (nextId (s.incidents.map IncidentRow.id)) found.fresh.length := by
    rw [arrive_incidents, List.map_append, numbered_map_id, map_relined_id]
  rw [hids, List.nodup_append]
  refine ⟨h, List.nodup_range', fun a ha b hb => ?_⟩
  have hlt := lt_nextId ha
  have hle := (List.mem_range'_1.mp hb).1
  omega

theorem Numbered.arrive {s : Store} (h : Numbered s) {found : Detection}
    (hfresh : ∀ r ∈ found.fresh, r.solutionId = none) : Numbered (s.arrive found) where
  incidentIds := nodup_arrive_ids h.incidentIds
  solutionIds := h.solutionIds
  referred := by
    intro r hr i hi
    rcases mem_arrive hr with ⟨t, ht, line, rfl⟩ | ⟨t, ht, j, -, rfl⟩
    · exact h.referred t ht i hi
    · rw [hfresh t ht] at hi
      cases hi
  owned := by
    intro r hr u hu i hi hi'
    -- A new incident has no solution, and of the others only the line may have changed.
    rcases mem_arrive hr with ⟨t, ht, line, rfl⟩ | ⟨t, ht, j, -, rfl⟩
    · rcases mem_arrive hu with ⟨t', ht', line', rfl⟩ | ⟨t', ht', j', -, rfl⟩
      · exact h.owned t ht t' ht' i hi hi'
      · rw [hfresh t' ht'] at hi'
        cases hi'
    · rw [hfresh t ht] at hi
      cases hi

/-- Taking in what detection has found keeps a store consistent. -/
theorem Consistent.arrive {s : Store} (h : Consistent s) {found : Detection}
    (hfresh : ∀ r ∈ found.fresh, r.solutionId = none ∧ Sound s r) :
    Consistent (s.arrive found) where
  toNumbered := h.toNumbered.arrive fun r hr => (hfresh r hr).1
  sound := by
    intro r hr
    rcases mem_arrive hr with ⟨t, ht, line, rfl⟩ | ⟨t, ht, j, -, rfl⟩
    · exact ⟨(h.sound t ht).rule, (h.sound t ht).proper, (h.sound t ht).compared⟩
    · obtain ⟨-, hsound⟩ := hfresh t ht
      exact ⟨hsound.rule, hsound.proper, hsound.compared⟩

/-! ## Accepting solutions -/

/-- Each incident is one that was there, with the solution that it had or with a new one. -/
theorem mem_acceptAll {s : Store} {made : List (IncidentRow × Solution)} {r : IncidentRow}
    (hr : r ∈ (s.acceptAll made).incidents) :
    (r ∈ s.incidents ∧ r.id ∉ made.map fun p => p.1.id) ∨
    ∃ t ∈ s.incidents, ∃ i p, made[i]? = some p ∧ p.1.id = t.id ∧
      r = { t with solutionId := some (s.nextSolution + i) } := by
  rw [acceptAll_incidents] at hr
  obtain ⟨t, ht, rfl⟩ := List.mem_map.mp hr
  by_cases hmade : t.id ∈ made.map fun p => p.1.id
  · obtain ⟨i, p, hp, hid, heq⟩ := assigned_of_mem (n := s.nextSolution) hmade
    exact .inr ⟨t, ht, i, p, hp, hid, heq⟩
  · rw [assigned_of_notMem hmade]
    exact .inl ⟨ht, hmade⟩

theorem acceptAll_ids (s : Store) (made : List (IncidentRow × Solution)) :
    (s.acceptAll made).incidents.map IncidentRow.id = s.incidents.map IncidentRow.id := by
  rw [acceptAll_incidents, List.map_map]
  refine List.map_congr_left fun r _ => ?_
  obtain ⟨solutionId, heq⟩ := assigned_eq s.nextSolution made r
  rw [Function.comp_apply, heq]

theorem acceptAll_solutionIds (s : Store) (made : List (IncidentRow × Solution)) :
    (s.acceptAll made).solutions.map SolutionRow.id =
      s.solutions.map SolutionRow.id ++ List.range' s.nextSolution made.length := by
  rw [acceptAll_solutions, List.map_append, acceptedRows_map_id]

theorem Numbered.lt_nextSolution {s : Store} (h : Numbered s) {r : IncidentRow}
    (hr : r ∈ s.incidents) {i : Nat} (hi : r.solutionId = some i) : i < s.nextSolution :=
  lt_nextId (h.referred r hr i hi)

theorem Numbered.acceptAll {s : Store} (h : Numbered s)
    (made : List (IncidentRow × Solution)) : Numbered (s.acceptAll made) where
  incidentIds := by
    rw [acceptAll_ids]
    exact h.incidentIds
  solutionIds := by
    rw [acceptAll_solutionIds, List.nodup_append]
    refine ⟨h.solutionIds, List.nodup_range', fun a ha b hb => ?_⟩
    have hlt : a < s.nextSolution := lt_nextId ha
    have hle := (List.mem_range'_1.mp hb).1
    omega
  referred := by
    intro r hr i hi
    rw [acceptAll_solutionIds, List.mem_append]
    rcases mem_acceptAll hr with ⟨hold, -⟩ | ⟨t, ht, j, p, hp, -, rfl⟩
    · exact .inl (h.referred r hold i hi)
    · right
      obtain ⟨hj, -⟩ := List.getElem?_eq_some_iff.mp hp
      cases hi
      rw [List.mem_range'_1]
      omega
  owned := by
    intro r hr u hu i hi hi'
    rcases mem_acceptAll hr with ⟨hold, -⟩ | ⟨t, ht, j, p, hp, hid, rfl⟩
    · rcases mem_acceptAll hu with ⟨hold', -⟩ | ⟨t', ht', j', p', hp', hid', rfl⟩
      · exact h.owned r hold u hold' i hi hi'
      · -- numbers of new solutions are above those that are in use
        have hlt := h.lt_nextSolution hold hi
        cases hi'
        omega
    · cases hi
      rcases mem_acceptAll hu with ⟨hold', -⟩ | ⟨t', ht', j', p', hp', hid', rfl⟩
      · have hlt := h.lt_nextSolution hold' hi'
        omega
      · have hj : j' = j := Nat.add_left_cancel (Option.some.inj hi')
        subst hj
        rw [hp] at hp'
        cases hp'
        exact hid.symm.trans hid'

/-- Accepting solutions keeps a store consistent. -/
theorem Consistent.acceptAll {s : Store} (h : Consistent s)
    (made : List (IncidentRow × Solution)) : Consistent (s.acceptAll made) where
  toNumbered := h.toNumbered.acceptAll made
  sound := by
    intro r hr
    have hviolations : s.violations ⊆ (s.acceptAll made).violations := by
      rw [(acceptAll_others s made).2.2.1]
      exact List.Subset.refl _
    rcases mem_acceptAll hr with ⟨hold, -⟩ | ⟨t, ht, j, p, -, -, rfl⟩
    · exact (h.sound r hold).mono hviolations
    · have hsound := (h.sound t ht).mono hviolations
      exact ⟨hsound.rule, hsound.proper, hsound.compared⟩

/-! ## Loading -/

/-- The rows of a report that has been entered are new and fit the store. -/
theorem Entered.sound {app : Application} {report : Report} {s entered : Store} {path : String}
    {rows : List IncidentRow} (h : Entered app report s path rows entered)
    (hproper : report.ProperVars) {r : IncidentRow} (hr : r ∈ rows) :
    r.solutionId = none ∧ Sound entered r := by
  obtain ⟨ruleset, hruleset, v, hv, i, hi, hrow⟩ := (mem_reportRows h.gathered_rows).mp hr
  obtain ⟨vars, hvars, rfl⟩ := rowOf_eq_ok.mp hrow
  have hstored := (gather_enters h.gathered ruleset hruleset).2 v hv
  have hp := hproper ruleset hruleset v hv i hi
  exact ⟨rfl, ⟨v.1, rfl, hstored⟩, proper_comparedVars hp hvars, comparedVars_idem hp hvars⟩

/-- The rows of a report have no solutions. -/
theorem solutionId_of_mem_reportRows {application : String} {report : Report}
    {rows : List IncidentRow} (h : reportRows application report = .ok rows) {r : IncidentRow}
    (hr : r ∈ rows) : r.solutionId = none := by
  obtain ⟨ruleset, -, v, -, i, -, hrow⟩ := (mem_reportRows h).mp hr
  obtain ⟨vars, -, rfl⟩ := rowOf_eq_ok.mp hrow
  rfl

/-- What each stage of a load keeps, a load keeps, also when it is cut short. -/
theorem Committed.keeps {P : Store → Prop} {setup : LoadSetup} {app : Application} {report : Report}
    {s t : Store} (h : Committed setup app report s t) (hstart : P s)
    (henter : ∀ {u}, Grows (s.withApplication app) u → P u)
    (harrive : ∀ {path rows entered found}, Entered app report s path rows entered →
      (∀ r ∈ found.fresh, r ∈ rows) → P entered → P (entered.arrive found))
    (haccept : ∀ {u} made, P u → P (u.acceptAll made))
    (hrenew : ∀ {u}, P u → P (u.setApplication app))
    (hkeep : ∀ {u}, P u → P (u.keepReport app report)) : P t := by
  have hdetect : ∀ {path rows entered found}, Detected setup app report s path rows entered found →
      P (entered.arrive found) := by
    intro path rows entered found h
    have hgrows := gather_grows app.name report (s.withApplication app)
    rw [h.gathered] at hgrows
    exact harrive h.toEntered (Detection.fresh_subset_of_detect h.detected) (henter hgrows)
  cases h with
  | unchanged => exact hstart
  | entering => exact henter (foldl_enter_grows _ _)
  | arrived h => exact hdetect h
  | accepted h => exact haccept _ (hdetect h.toDetected)
  | renewed h _ => exact hrenew (haccept _ (hdetect h.toDetected))
  | kept h _ => exact hkeep (hrenew (haccept _ (hdetect h.toDetected)))

/-- No load changes whether rows are checked. -/
theorem Committed.checked {setup : LoadSetup} {app : Application} {report : Report} {s t : Store}
    (h : Committed setup app report s t) : t.checked = s.checked :=
  h.keeps (P := fun u => u.checked = s.checked) rfl
    (fun hgrows => hgrows.checked.trans (withApplication_checked s app)) (fun _ _ hu => hu)
    (fun made hu => (acceptAll_checked _ made).trans hu) (fun hu => hu) fun hu => hu

/-- Loading a report keeps the numbers of a store in order, also when it is cut short. -/
theorem Numbered.committed {setup : LoadSetup} {app : Application} {report : Report} {s t : Store}
    (h : Numbered s) (hcommit : Committed setup app report s t) : Numbered t := by
  refine hcommit.keeps h (fun hgrows => ?_) (fun hentered hfresh hnum => ?_)
    (fun made hnum => hnum.acceptAll made) (fun hnum => hnum.of_eq rfl rfl)
    fun hnum => hnum.of_eq rfl rfl
  · obtain ⟨hincidents, hsolutions, -⟩ := withApplication_others s app
    exact h.of_eq (hgrows.incidents.trans hincidents) (hgrows.solutions.trans hsolutions)
  · exact hnum.arrive fun r hr =>
      solutionId_of_mem_reportRows hentered.gathered_rows (hfresh r hr)

theorem Numbered.load {s : Store} (h : Numbered s) (setup : LoadSetup) (app : Application)
    (report : Report) : Numbered ((load setup app report).exec s).2 :=
  h.committed (load_committed setup app report s)

/-- Loading a report keeps a store consistent, also when it is cut short. -/
theorem Consistent.committed {setup : LoadSetup} {app : Application} {report : Report}
    {s t : Store} (h : Consistent s) (hcommit : Committed setup app report s t)
    (hproper : report.ProperVars) : Consistent t := by
  refine hcommit.keeps h (fun hgrows => ?_) (fun hentered hfresh hcons => ?_)
    (fun made hcons => hcons.acceptAll made)
    (fun hcons => hcons.mono rfl rfl (List.Subset.refl _))
    fun hcons => hcons.mono rfl rfl (List.Subset.refl _)
  · obtain ⟨hincidents, hsolutions, hviolations⟩ := withApplication_others s app
    exact h.mono (hgrows.incidents.trans hincidents) (hgrows.solutions.trans hsolutions)
      (hviolations ▸ hgrows.violations.subset)
  · exact hcons.arrive fun r hr => hentered.sound hproper (hfresh r hr)

end Store
end Remedy
