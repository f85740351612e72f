import Remedy.Proofs.Store.Settle

/-!
# The part of the store that belongs to an application

What is stored of an application: its own row, its incidents in their order with the content of their
solutions, and its reports. Numbers are left out, since all applications share them. Each change to
the store acts on the part of an application by itself.

Main results:

* `part_withApplication`, `part_arrive`, `part_accept`, `part_setApplication`, `part_keepReport`: what
  each change makes of the part of any application.
-/

namespace Remedy.Store

/-- What is stored of an application. -/
@[ext]
structure Part where
  application : Option Application
  /-- The incidents, without numbers, with their solutions. -/
  incidents : List (IncidentRow × Option Solution)
  reports : List ReportRow
deriving DecidableEq

/-- An incident without its number and that of its solution. -/
def unnumbered (r : IncidentRow) : IncidentRow :=
  { r with id := 0, solutionId := none }

/-- The part of the store that belongs to an application. -/
def part (s : Store) (name : String) : Part where
  application := s.application? name
  incidents := (s.incidentsOf name).map fun r => (unnumbered r, s.solutionOf r)
  reports := s.reports.filter fun r => r.application == name

theorem key_eq_of_unnumbered {r u : IncidentRow} (h : unnumbered r = unnumbered u) :
    r.key = u.key := by
  have hkey := congrArg IncidentRow.key h
  exact hkey

theorem uri_eq_of_unnumbered {r u : IncidentRow} (h : unnumbered r = unnumbered u) :
    r.uri = u.uri := by
  have huri := congrArg IncidentRow.uri h
  exact huri

section Changes

variable {s t : Store} {app : Application} {name : String}

theorem Grows.part_eq (h : Grows s t) (name : String) : t.part name = s.part name := by
  have hsolutions : t.solutionOf = s.solutionOf := by
    funext r
    unfold solutionOf solution?
    rw [h.solutions]
  rw [part, part, application?, application?, incidentsOf, incidentsOf, h.applications, h.incidents,
    h.reports, hsolutions]

theorem withApplication_application? (s : Store) (app : Application) (name : String) :
    (s.withApplication app).application? name =
      if app.name = name then some (s.applicationAt app) else s.application? name := by
  rw [withApplication, applicationAt]
  cases hfind : s.application? app.name with
  | some a =>
    dsimp only
    split
    · next hname => rw [← hname, hfind]; rfl
    · rfl
  | none =>
    rw [application?] at hfind
    rw [application?, application?]
    dsimp only
    rw [List.find?_append]
    split
    · next hname => simp [← hname, hfind]
    · next hname => simp [hname]

theorem part_withApplication (s : Store) (app : Application) (name : String) :
    (s.withApplication app).part name =
      { s.part name with
        application := if app.name = name then some (s.applicationAt app)
          else s.application? name } := by
  have hothers : ∀ r, (s.withApplication app).solutionOf r = s.solutionOf r := by
    intro r
    unfold solutionOf solution?
    rw [(withApplication_others s app).2.1]
  have hreports : (s.withApplication app).reports = s.reports := by
    rw [withApplication]
    split <;> rfl
  rw [part, withApplication_application?, incidentsOf, (withApplication_others s app).1, hreports]
  simp only [hothers]
  rfl

theorem numbered_filter_map {α : Type} {f : IncidentRow → α} {p : IncidentRow → Bool}
    (hf : ∀ (r : IncidentRow) (i : Nat), f { r with id := i } = f r)
    (hp : ∀ (r : IncidentRow) (i : Nat), p { r with id := i } = p r) (n : Nat)
    (rows : List IncidentRow) : ((numbered n rows).filter p).map f = (rows.filter p).map f := by
  induction rows generalizing n with
  | nil => rfl
  | cons r rest ih =>
    rw [numbered, List.filter_cons, List.filter_cons, hp]
    split
    · rw [List.map_cons, List.map_cons, hf, ih]
    · exact ih (n + 1)

theorem incidentsOf_arrive (s : Store) (found : Detection) (name : String) :
    (s.arrive found).incidentsOf name = (s.incidentsOf name).map (relined found.unsolved) ++
      (numbered (nextId (s.incidents.map IncidentRow.id)) found.fresh).filter
        fun r => r.application == name := by
  have hsame : ((fun r : IncidentRow => r.application == name) ∘ relined found.unsolved) =
      fun r => r.application == name := by
    funext r
    obtain ⟨line, hline⟩ := relined_eq found.unsolved r
    rw [Function.comp_apply, hline]
  rw [incidentsOf, arrive_incidents, List.filter_append, List.filter_map, hsame, incidentsOf]

/-- Incidents of the application whose lines are kept stay as they are, and new ones follow. -/
theorem part_arrive {found : Detection}
    (hkept : ∀ r ∈ s.incidentsOf name, relined found.unsolved r = r)
    (hfresh : ∀ r ∈ found.fresh, r.solutionId = none) :
    (s.arrive found).part name =
      { s.part name with
        incidents := (s.part name).incidents ++
          (found.fresh.filter fun r => r.application == name).map fun r => (unnumbered r, none) } := by
  -- new incidents have no solution yet
  have hnew : ∀ n, ((numbered n found.fresh).filter fun r => r.application == name).map
      (fun r => (unnumbered r, s.solutionOf r)) =
        (found.fresh.filter fun r => r.application == name).map fun r => (unnumbered r, none) := by
    intro n
    rw [numbered_filter_map (fun _ _ => rfl) (fun _ _ => rfl)]
    refine List.map_congr_left fun r hr => ?_
    rw [solutionOf, hfresh r (List.mem_of_mem_filter hr)]
    rfl
  rw [part, incidentsOf_arrive, List.map_congr_left hkept, List.map_id', List.map_append]
  exact Part.ext rfl (congrArg ((s.part name).incidents ++ ·) (hnew _)) rfl

theorem incidentsOf_accept (s : Store) (i : Nat) (x : Solution) (name : String) :
    (s.accept i x).incidentsOf name = (s.incidentsOf name).map fun r =>
      if r.id == i then { r with solutionId := some s.nextSolution } else r := by
  rw [incidentsOf, accept, List.filter_map]
  congr 2
  funext r
  rw [Function.comp_apply]
  split <;> rfl

/-- A solution is accepted for one incident, and no other incident changes. -/
theorem part_accept (hs : Numbered s) (i : Nat) (x : Solution) (name : String) :
    (s.accept i x).part name =
      { s.part name with
        incidents := (s.incidentsOf name).map fun r =>
          (unnumbered r, if r.id = i then some x else s.solutionOf r) } := by
  have hsolutions : (s.accept i x).solutions = s.solutions ++ [⟨s.nextSolution, x⟩] := rfl
  rw [part, incidentsOf_accept, List.map_map]
  refine Part.ext rfl (List.map_congr_left fun r hr => ?_) rfl
  rw [Function.comp_apply]
  by_cases hid : r.id = i
  · rw [if_pos (beq_iff_eq.mpr hid), if_pos hid, solutionOf]
    show (unnumbered r, (s.accept i x).solution? s.nextSolution) = _
    rw [solution?_accepted hsolutions (Nat.le_refl _)]
    simp
  · rw [if_neg (by simpa using hid), if_neg hid, solutionOf, solutionOf]
    cases hsolution : r.solutionId with
    | none => rfl
    | some j =>
      have hmem := (mem_incidentsOf.mp hr).1
      exact congrArg _ (solution?_of_append hsolutions (hs.referred r hmem j hsolution))

theorem part_setApplication (s : Store) (app : Application) (name : String) :
    (s.setApplication app).part name =
      { s.part name with
        application := if app.name = name then (s.application? name).map fun _ => app
          else s.application? name } := by
  refine Part.ext ?_ rfl rfl
  show (s.setApplication app).application? name = if app.name = name then _ else _
  rw [application?, setApplication, find?_setApplication]
  show (s.application? name).map _ = _
  cases hfind : s.application? name with
  | none => simp
  | some a =>
    have hname : a.name = name := by simpa using List.find?_some hfind
    rw [Option.map_some, Option.map_some, hname]
    by_cases happ : app.name = name
    · rw [if_pos happ, if_pos (by simpa using happ.symm)]
    · rw [if_neg happ, if_neg (by simpa using Ne.symm happ)]

theorem filter_putReport (rows : List ReportRow) (r : ReportRow) (name : String) :
    (putReport rows r).filter (fun r => r.application == name) =
      if r.application = name then putReport (rows.filter fun r => r.application == name) r
      else rows.filter fun r => r.application == name := by
  induction rows with
  | nil =>
    rw [putReport, List.filter_cons]
    simp [putReport]
  | cons old rest ih =>
    rw [putReport]
    by_cases hsame : (old.application == r.application && old.reportId == r.reportId) = true
    · have happ : old.application = r.application := by
        rw [Bool.and_eq_true, beq_iff_eq] at hsame
        exact hsame.1
      rw [if_pos hsame, List.filter_cons, List.filter_cons, happ]
      by_cases hname : r.application = name
      · rw [if_pos hname, if_pos (beq_iff_eq.mpr hname), if_pos (beq_iff_eq.mpr hname), putReport,
          if_pos hsame]
      · rw [if_neg hname, if_neg (by simpa using hname), if_neg (by simpa using hname)]
    · rw [if_neg hsame, List.filter_cons, List.filter_cons, ih]
      by_cases hold : (old.application == name) = true
      · rw [if_pos hold, if_pos hold]
        split
        · rw [putReport, if_neg hsame]
        · rfl
      · rw [if_neg hold, if_neg hold]

theorem part_keepReport (s : Store) (app : Application) (report : Report) (name : String) :
    (s.keepReport app report).part name =
      { s.part name with
        reports := if app.name = name then
            putReport (s.part name).reports
              ⟨app.name, report.id, app.generatedAt, storedContent report⟩
          else (s.part name).reports } :=
  Part.ext rfl rfl (filter_putReport ..)

end Changes

end Remedy.Store
