import Remedy.Proofs.Store.Consistent

/-!
# What a load does to each incident

A load that comes to its end treats each stored incident by itself. One that detection found solved
gets a new solution, made between the commit that was stored for the application and the commit of
the load; every other keeps its solution, number and content. Incidents that were not stored follow
after the old ones and have no solution.

Main results:

* `Loaded.incidents_eq`: the table of incidents, old and new.
* `Loaded.settled_unsolved`: an incident that was not found solved keeps its solution.
* `Loaded.settled_solved`: an incident that was found solved gets a new one, and which.
-/

namespace Remedy.Store

variable {setup : LoadSetup} {app : Application} {report : Report} {s t : Store} {path : String}
  {rows : List IncidentRow} {found : Detection} {made : List Solution}

/-- A stored incident after a load. -/
def settled (s : Store) (found : Detection) (made : List Solution) (r : IncidentRow) :
    IncidentRow :=
  assigned s.nextSolution (found.solved.zip made) (relined found.unsolved r)

/-- A load changes the line and the solution of a stored incident and nothing else. -/
theorem settled_eq (s : Store) (found : Detection) (made : List Solution) (r : IncidentRow) :
    ∃ line solutionId, settled s found made r = { r with line, solutionId } := by
  obtain ⟨line, hline⟩ := relined_eq found.unsolved r
  obtain ⟨solutionId, hsolution⟩ :=
    assigned_eq s.nextSolution (found.solved.zip made) (relined found.unsolved r)
  refine ⟨line, solutionId, ?_⟩
  rw [settled, hsolution, hline]

theorem settled_id (s : Store) (found : Detection) (made : List Solution) (r : IncidentRow) :
    (settled s found made r).id = r.id := by
  obtain ⟨line, solutionId, heq⟩ := settled_eq s found made r
  rw [heq]

theorem mem_incidentsOf {s : Store} {name : String} {r : IncidentRow} :
    r ∈ s.incidentsOf name ↔ r ∈ s.incidents ∧ r.application = name := by
  rw [incidentsOf, List.mem_filter, beq_iff_eq]

/-! ## The table of incidents -/

theorem Loaded.solved_subset (h : Loaded setup app report s path rows found made t) :
    ∀ r ∈ found.solved, r ∈ s.incidentsOf app.name :=
  Detection.solved_subset_of_detect h.detected

theorem Loaded.solved_mem (h : Loaded setup app report s path rows found made t) {r : IncidentRow}
    (hr : r ∈ found.solved) : r ∈ s.incidents :=
  (mem_incidentsOf.mp (h.solved_subset r hr)).1

theorem Loaded.zip_ids (h : Loaded setup app report s path rows found made t) :
    ((found.solved.zip made).map fun p => p.1.id) = found.solved.map IncidentRow.id := by
  have hlen : found.solved.length ≤ made.length :=
    (Outcome.mapM_eq_ok.mp h.produced).length_eq.le
  rw [← List.map_fst_zip hlen, List.map_map, List.map_fst_zip hlen]
  rfl

/-- A number among those of the solved incidents is that of a solved incident. -/
theorem Loaded.mem_solved_iff (h : Loaded setup app report s path rows found made t)
    (hs : Numbered s) {r : IncidentRow} (hr : r ∈ s.incidents) :
    r.id ∈ ((found.solved.zip made).map fun p => p.1.id) ↔ r ∈ found.solved := by
  rw [h.zip_ids]
  constructor
  · intro hid
    obtain ⟨u, hu, huid⟩ := List.mem_map.mp hid
    rwa [← hs.eq_of_id (h.solved_mem hu) hr huid]
  · exact fun hmem => List.mem_map_of_mem hmem

/-- Old incidents stay in their places, and new ones follow. -/
theorem Loaded.incidents_eq (h : Loaded setup app report s path rows found made t) :
    t.incidents = s.incidents.map (settled s found made) ++
      numbered (nextId (s.incidents.map IncidentRow.id)) found.fresh := by
  have hfresh : ∀ r ∈ numbered (nextId (s.incidents.map IncidentRow.id)) found.fresh,
      assigned s.nextSolution (found.solved.zip made) r = r := by
    intro r hr
    refine assigned_of_notMem ?_
    rw [h.zip_ids]
    intro hid
    -- new incidents are numbered above all old ones
    obtain ⟨u, hu, huid⟩ := List.mem_map.mp hid
    obtain ⟨r₀, -, i, hi, rfl⟩ := exists_of_mem_numbered hr
    have hlt := lt_nextId (List.mem_map_of_mem (f := IncidentRow.id) (h.solved_mem hu))
    rw [huid] at hlt
    exact absurd hi (Nat.not_le.mpr hlt)
  rw [h.incidents, List.map_append, List.map_map, List.map_congr_left hfresh, List.map_id']
  rfl

theorem Loaded.settled_mem (h : Loaded setup app report s path rows found made t)
    {r : IncidentRow} (hr : r ∈ s.incidents) : settled s found made r ∈ t.incidents := by
  rw [h.incidents_eq]
  exact List.mem_append_left _ (List.mem_map_of_mem hr)

/-! ## Solutions -/

/-- An incident that was not found solved keeps its solution. -/
theorem Loaded.settled_unsolved (h : Loaded setup app report s path rows found made t)
    (hs : Numbered s) {r : IncidentRow} (hr : r ∈ s.incidents) (hnot : r ∉ found.solved) :
    (settled s found made r).solutionId = r.solutionId ∧
      t.solutionOf (settled s found made r) = s.solutionOf r := by
  obtain ⟨line, hline⟩ := relined_eq found.unsolved r
  have hkept : settled s found made r = { r with line } := by
    rw [settled, hline]
    refine assigned_of_notMem (r := { r with line }) ?_
    exact fun hid => hnot ((h.mem_solved_iff hs hr).mp hid)
  rw [hkept]
  refine ⟨rfl, ?_⟩
  rw [solutionOf, solutionOf]
  cases hi : r.solutionId with
  | none => rfl
  | some i => exact solution?_of_append h.solutions (hs.referred r hr i hi)

theorem solution?_accepted {more : List SolutionRow} (hsolutions : t.solutions = s.solutions ++ more)
    {j : Nat} (hj : s.nextSolution ≤ j) :
    t.solution? j = (more.find? fun r => r.id == j).map SolutionRow.solution := by
  have hnone : (s.solutions.find? fun r => r.id == j) = none := by
    rw [List.find?_eq_none]
    intro r hr
    have hlt : r.id < s.nextSolution := lt_nextId (List.mem_map_of_mem hr)
    simp only [beq_iff_eq]
    omega
  rw [solution?, hsolutions, List.find?_append, hnone, Option.none_or]

/-- An incident that was found solved gets a new solution, made between the stored commit and that of
the load. -/
theorem Loaded.settled_solved (h : Loaded setup app report s path rows found made t)
    (hs : Numbered s) {r : IncidentRow} (hr : r ∈ found.solved) :
    ∃ j made', (settled s found made r).solutionId = some j ∧ s.nextSolution ≤ j ∧
      t.solution? j = some made' ∧
      Producer.solutionFor setup.producer (setup.repository path) (s.applicationAt app).commit
        app.commit r.uri = .ok made' := by
  obtain ⟨line, hline⟩ := relined_eq found.unsolved r
  have hid : ({ r with line } : IncidentRow).id ∈
      ((found.solved.zip made).map fun p => p.1.id) :=
    (h.mem_solved_iff hs (h.solved_mem hr)).mpr hr
  obtain ⟨i, p, hp, hpid, heq⟩ := assigned_of_mem (n := s.nextSolution) hid
  obtain ⟨hu, hmade⟩ := List.getElem?_zip_eq_some.mp hp
  -- the pair at that place is the incident with its own solution
  have hpr : p.1 = r :=
    hs.eq_of_id (h.solved_mem (List.mem_of_getElem? hu)) (h.solved_mem hr) hpid
  refine ⟨s.nextSolution + i, p.2, ?_, Nat.le_add_right .., ?_, ?_⟩
  · rw [settled, hline, heq]
  · rw [solution?_accepted h.solutions (Nat.le_add_right ..), find?_acceptedRows hp]
    rfl
  · obtain ⟨hi, hui⟩ := List.getElem?_eq_some_iff.mp hu
    obtain ⟨hi', hmi⟩ := List.getElem?_eq_some_iff.mp hmade
    have hat := (Outcome.mapM_eq_ok.mp h.produced).get hi hi'
    rw [List.get_eq_getElem, List.get_eq_getElem, hui, hmi, hpr] at hat
    exact hat

/-! ## Applications -/

theorem find?_setApplication (apps : List Application) (app : Application) (name : String) :
    (apps.map fun a => if a.name == app.name then app else a).find? (fun a => a.name == name) =
      (apps.find? fun a => a.name == name).map fun a => if a.name == app.name then app else a := by
  rw [List.find?_map]
  congr 2
  funext a
  rw [Function.comp_apply]
  split
  · next ha => rw [beq_iff_eq.mp ha]
  · rfl

/-- After a load the application is stored with the commit of the load. -/
theorem Loaded.application?_self (h : Loaded setup app report s path rows found made t) :
    t.application? app.name = some app := by
  have hstored : ∃ a, (s.withApplication app).applications.find? (fun a => a.name == app.name) =
      some a ∧ a.name = app.name := by
    rw [withApplication]
    cases hfind : s.application? app.name with
    | some a => exact ⟨a, hfind, by simpa using List.find?_some hfind⟩
    | none =>
      refine ⟨app, ?_, rfl⟩
      rw [application?] at hfind
      rw [List.find?_append, hfind]
      simp
  obtain ⟨a, hfind, hname⟩ := hstored
  rw [application?, h.applications, find?_setApplication, hfind, Option.map_some,
    if_pos (beq_iff_eq.mpr hname)]

/-- A load leaves the other applications as they are. -/
theorem Loaded.application?_other (h : Loaded setup app report s path rows found made t)
    {name : String} (hne : name ≠ app.name) : t.application? name = s.application? name := by
  have hfind : (s.withApplication app).applications.find? (fun a => a.name == name) =
      s.application? name := by
    rw [withApplication]
    split
    · rfl
    · rw [List.find?_append, List.find?_cons_of_neg (by simpa using hne.symm), List.find?_nil,
        Option.or_none]
      rfl
  rw [application?, h.applications, find?_setApplication, hfind]
  cases ha : s.application? name with
  | none => rfl
  | some a =>
    have hname : a.name = name := by simpa using List.find?_some ha
    rw [Option.map_some, if_neg (by simpa [hname] using hne)]

end Remedy.Store
