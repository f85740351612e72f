import Remedy.Proofs.Store.Consistent
import Remedy.Store.Find

/-!
# What finding solutions does

Finding goes through the solved incidents that match, completes the solution of each and keeps it.
Nothing but the contents of solutions changes, so a store stays consistent; and as no two incidents
share a solution, each solution that is returned is the one that its incident has in the end. A
producer that wants no summaries leaves the store as it is and always returns.

Main results:

* `find_onlySolutions`: finding changes the contents of solutions and nothing else.
* `find_eq_ok`: what is returned are the solutions of the matching incidents, one for each.
* `find_textOnly`: without summaries, finding returns and changes nothing.
-/

namespace Remedy.Store

open Remedy.Action

/-! ## Contents of solutions -/

/-- The stores differ in the contents of solutions at most. -/
structure OnlySolutions (s t : Store) : Prop where
  applications : t.applications = s.applications
  rulesets : t.rulesets = s.rulesets
  violations : t.violations = s.violations
  incidents : t.incidents = s.incidents
  solutionIds : t.solutions.map SolutionRow.id = s.solutions.map SolutionRow.id
  reports : t.reports = s.reports
  checked : t.checked = s.checked

theorem OnlySolutions.refl (s : Store) : OnlySolutions s s :=
  ⟨rfl, rfl, rfl, rfl, rfl, rfl, rfl⟩

theorem OnlySolutions.trans {s t u : Store} (h₁ : OnlySolutions s t) (h₂ : OnlySolutions t u) :
    OnlySolutions s u where
  applications := h₂.applications.trans h₁.applications
  rulesets := h₂.rulesets.trans h₁.rulesets
  violations := h₂.violations.trans h₁.violations
  incidents := h₂.incidents.trans h₁.incidents
  solutionIds := h₂.solutionIds.trans h₁.solutionIds
  reports := h₂.reports.trans h₁.reports
  checked := h₂.checked.trans h₁.checked

theorem Numbered.onlySolutions {s t : Store} (h : Numbered s) (hst : OnlySolutions s t) :
    Numbered t where
  incidentIds := hst.incidents ▸ h.incidentIds
  solutionIds := hst.solutionIds ▸ h.solutionIds
  referred := by
    rw [hst.incidents, hst.solutionIds]
    exact h.referred
  owned := hst.incidents ▸ h.owned

theorem Consistent.onlySolutions {s t : Store} (h : Consistent s) (hst : OnlySolutions s t) :
    Consistent t where
  toNumbered := h.toNumbered.onlySolutions hst
  sound := by
    rw [hst.incidents]
    intro r hr
    exact (h.sound r hr).mono (hst.violations ▸ List.Subset.refl _)

theorem setSolution_onlySolutions (s : Store) (id : Nat) (x : Solution) :
    OnlySolutions s (s.setSolution id x) := by
  refine ⟨rfl, rfl, rfl, rfl, ?_, rfl, rfl⟩
  rw [setSolution, List.map_map]
  refine List.map_congr_left fun r _ => ?_
  rw [Function.comp_apply]
  split <;> rfl

theorem find?_map_solution {rows : List SolutionRow} {i j : Nat} {x : Solution} :
    (rows.map fun r => if r.id == i then { r with solution := x } else r).find?
        (fun r => r.id == j) =
      (rows.find? fun r => r.id == j).map
        fun r => if r.id == i then { r with solution := x } else r := by
  rw [List.find?_map]
  congr 2
  funext r
  rw [Function.comp_apply]
  split <;> rfl

theorem solution?_setSolution (s : Store) (i j : Nat) (x : Solution) :
    (s.setSolution i x).solution? j =
      if j = i then (s.solution? j).map fun _ => x else s.solution? j := by
  rw [solution?, solution?, setSolution, find?_map_solution]
  cases hfound : s.solutions.find? fun r => r.id == j with
  | none => simp
  | some row =>
    have hid : row.id = j := by simpa using List.find?_some hfound
    by_cases hji : j = i
    · simp [hji, hid]
    · simp [hji, hid]

/-- Writing the content that is there changes nothing. -/
theorem Numbered.setSolution_self {s : Store} (h : Numbered s) {i : Nat} {x : Solution}
    (hx : s.solution? i = some x) : s.setSolution i x = s := by
  obtain ⟨row, hrow, rfl⟩ := Option.map_eq_some_iff.mp hx
  have hid : row.id = i := by simpa using List.find?_some hrow
  have hsame : ∀ r ∈ s.solutions,
      (if r.id == i then { r with solution := row.solution } else r) = r := by
    intro r hr
    split
    · next hri =>
      -- only one solution has the number
      have heq : r = row := List.inj_on_of_nodup_map h.solutionIds hr
        (List.mem_of_find?_eq_some hrow) ((beq_iff_eq.mp hri).trans hid.symm)
      rw [heq]
    · rfl
  have hrows : (s.solutions.map fun r =>
      if r.id == i then { r with solution := row.solution } else r) = s.solutions := by
    rw [List.map_congr_left hsame, List.map_id']
  rw [setSolution, hrows]

/-! ## Using a solution -/

theorem useSolution_exec (kind : ProducerKind) (style : Producer.SummaryStyle) {row : IncidentRow}
    {s : Session} {i : Nat} {x : Solution} (hi : row.solutionId = some i)
    (hx : s.store.solution? i = some x) :
    (useSolution kind style row).exec s =
      match (Producer.finish kind style row x).exec s.dialogue with
      | (.ok done, d) => (.ok done, ⟨s.store.setSolution i done, d⟩)
      | (.error e, d) => (.error e, ⟨s.store, d⟩) := by
  have hpart : ∀ {o d}, (Producer.finish kind style row x).exec s.dialogue = (o, d) →
      (onPart Session.dialogue (fun s d => { s with dialogue := d })
        (Producer.finish kind style row x)).exec s = (o, { s with dialogue := d }) := by
    intro o d hfinish
    rw [onPart, exec_ofExec, hfinish]
  rw [useSolution, hi]
  dsimp only
  rw [exec_bind_of_ok (exec_get s), hx]
  dsimp only
  rcases hfinish : (Producer.finish kind style row x).exec s.dialogue with ⟨o, d⟩
  cases o with
  | error e => rw [exec_bind_of_error (hpart hfinish)]
  | ok done =>
    rw [exec_bind_of_ok (hpart hfinish)]
    rfl

/-- An incident whose solution is missing cannot be used, and nothing changes. -/
theorem useSolution_missing (kind : ProducerKind) (style : Producer.SummaryStyle)
    {row : IncidentRow} {s : Session} (h : s.store.solutionOf row = none) :
    (useSolution kind style row).exec s = (.error .missingMember, s) := by
  rw [solutionOf] at h
  rw [useSolution]
  cases hi : row.solutionId with
  | none => rfl
  | some i =>
    rw [hi] at h
    have hx : s.store.solution? i = none := h
    dsimp only
    rw [exec_bind_of_ok (exec_get s), hx]
    rfl

theorem useSolution_onlySolutions (kind : ProducerKind) (style : Producer.SummaryStyle)
    (row : IncidentRow) (s : Session) :
    OnlySolutions s.store ((useSolution kind style row).exec s).2.store := by
  cases h : s.store.solutionOf row with
  | none =>
    rw [useSolution_missing kind style h]
    exact OnlySolutions.refl _
  | some x =>
    obtain ⟨i, hi, hx⟩ := Option.bind_eq_some_iff.mp h
    rw [useSolution_exec kind style hi hx]
    split
    · exact setSolution_onlySolutions ..
    · exact OnlySolutions.refl _

theorem useSolutions_onlySolutions (kind : ProducerKind) (style : Producer.SummaryStyle)
    (rows : List IncidentRow) (s : Session) :
    OnlySolutions s.store ((rows.mapM (useSolution kind style)).exec s).2.store :=
  exec_mapM_rel (R := fun s t => OnlySolutions s.store t.store)
    (fun s => OnlySolutions.refl s.store) OnlySolutions.trans
    (useSolution_onlySolutions kind style) rows s

/-- An incident that is used has the solution that is returned. -/
theorem useSolution_eq_ok {kind : ProducerKind} {style : Producer.SummaryStyle} {row : IncidentRow}
    {s s' : Session} {y : Solution} (h : (useSolution kind style row).exec s = (.ok y, s')) :
    s'.store.solutionOf row = some y := by
  cases hof : s.store.solutionOf row with
  | none =>
    rw [useSolution_missing kind style hof] at h
    cases h
  | some x =>
    obtain ⟨i, hi, hx⟩ := Option.bind_eq_some_iff.mp hof
    rw [useSolution_exec kind style hi hx] at h
    split at h
    · cases h
      rw [solutionOf, hi, Option.bind_some, solution?_setSolution, if_pos rfl, hx]
      rfl
    · cases h

/-- Using an incident leaves the solutions of the others as they are. -/
theorem solutionOf_useSolution_of_ne (kind : ProducerKind) (style : Producer.SummaryStyle)
    {row other : IncidentRow} (s : Session)
    (hne : other.solutionId.isSome = true → row.solutionId ≠ other.solutionId) :
    ((useSolution kind style row).exec s).2.store.solutionOf other = s.store.solutionOf other := by
  cases hof : s.store.solutionOf row with
  | none => rw [useSolution_missing kind style hof]
  | some x =>
    obtain ⟨i, hi, hx⟩ := Option.bind_eq_some_iff.mp hof
    rw [useSolution_exec kind style hi hx]
    split
    · rw [solutionOf, solutionOf]
      cases hj : other.solutionId with
      | none => rfl
      | some j =>
        have hji : j ≠ i := by
          rintro rfl
          exact hne (by rw [hj]; rfl) (hi.trans hj.symm)
        rw [Option.bind_some, Option.bind_some, solution?_setSolution, if_neg hji]
    · rfl

/-- Using incidents leaves the solution of an incident that shares none with them. -/
theorem solutionOf_useSolutions_of_ne (kind : ProducerKind) (style : Producer.SummaryStyle)
    {row : IncidentRow} {rows : List IncidentRow}
    (hne : ∀ t ∈ rows, row.solutionId ≠ t.solutionId) (s : Session) :
    ((rows.mapM (useSolution kind style)).exec s).2.store.solutionOf row =
      s.store.solutionOf row := by
  induction rows generalizing s with
  | nil => rfl
  | cons t rows ih =>
    have hstep : ((useSolution kind style t).exec s).2.store.solutionOf row =
        s.store.solutionOf row :=
      solutionOf_useSolution_of_ne kind style s fun _ => (hne t List.mem_cons_self).symm
    rw [exec_mapM_cons]
    rcases huse : (useSolution kind style t).exec s with ⟨o, s'⟩
    rw [huse] at hstep
    cases o with
    | error e => exact hstep
    | ok z => exact (ih (fun u hu => hne u (List.mem_cons_of_mem _ hu)) s').trans hstep

/-- Using several incidents that share no solution gives each the solution that is returned. -/
theorem useSolutions_eq_ok {kind : ProducerKind} {style : Producer.SummaryStyle}
    {rows : List IncidentRow} (hrows : rows.Pairwise fun r t => r.solutionId ≠ t.solutionId)
    {s s' : Session} {ys : List Solution}
    (h : (rows.mapM (useSolution kind style)).exec s = (.ok ys, s')) :
    List.Forall₂ (fun r y => s'.store.solutionOf r = some y) rows ys := by
  induction rows generalizing s ys with
  | nil =>
    cases h
    exact .nil
  | cons row rows ih =>
    obtain ⟨hne, hrest⟩ := List.pairwise_cons.mp hrows
    rw [List.mapM_cons] at h
    obtain ⟨y, s₁, hy, h₁⟩ := exec_bind_eq_ok.mp h
    obtain ⟨ys', s₂, hys, h₂⟩ := exec_bind_eq_ok.mp h₁
    cases h₂
    refine .cons ?_ (ih hrest hys)
    -- The incidents that follow do not touch the solution of the first.
    have hsame := solutionOf_useSolutions_of_ne kind style hne s₁
    rw [hys] at hsame
    exact hsame.trans (useSolution_eq_ok hy)

/-- Without summaries, using a solution gives it as it is. -/
theorem useSolution_textOnly (style : Producer.SummaryStyle) {row : IncidentRow} {s : Session}
    (hs : Numbered s.store) {x : Solution} (hx : s.store.solutionOf row = some x) :
    (useSolution .textOnly style row).exec s = (.ok x, s) := by
  obtain ⟨i, hi, hx⟩ := Option.bind_eq_some_iff.mp hx
  rw [useSolution_exec .textOnly style hi hx]
  show (Except.ok x, (⟨s.store.setSolution i x, s.dialogue⟩ : Session)) = _
  rw [hs.setSolution_self hx]

theorem useSolutions_textOnly (style : Producer.SummaryStyle) {rows : List IncidentRow}
    {s : Session} (hs : Numbered s.store) {ys : List Solution}
    (h : List.Forall₂ (fun r y => s.store.solutionOf r = some y) rows ys) :
    (rows.mapM (useSolution .textOnly style)).exec s = (.ok ys, s) := by
  induction h with
  | nil => rfl
  | cons hy _ ih =>
    rw [exec_mapM_cons, useSolution_textOnly style hs hy]
    dsimp only
    rw [ih]
    rfl

/-! ## Finding -/

theorem solvedLike_sublist (s : Store) (q : Query) (asked : Fields) :
    (s.solvedLike q asked).Sublist s.incidents := by
  rw [solvedLike]
  split
  · exact List.filter_sublist
  · exact List.nil_sublist _

theorem isSome_of_mem_solvedLike {s : Store} {q : Query} {asked : Fields} {r : IncidentRow}
    (hr : r ∈ s.solvedLike q asked) : r.solutionId.isSome = true := by
  rw [solvedLike] at hr
  split at hr
  · simp only [List.mem_filter, Bool.and_eq_true] at hr
    exact hr.2.1.2
  · cases hr

/-- No two of the incidents that are found share a solution. -/
theorem Numbered.pairwise_solvedLike {s : Store} (h : Numbered s) (q : Query)
    (asked : Fields) :
    (s.solvedLike q asked).Pairwise fun r t => r.solutionId ≠ t.solutionId := by
  have hids : (s.solvedLike q asked).Pairwise fun r t => r.id ≠ t.id :=
    (List.pairwise_map.mp h.incidentIds).sublist (solvedLike_sublist s q asked)
  refine hids.imp_of_mem fun {r t} hr ht hne heq => hne ?_
  obtain ⟨i, hi⟩ := Option.isSome_iff_exists.mp (isSome_of_mem_solvedLike hr)
  have hsub := (solvedLike_sublist s q asked).subset
  exact h.owned r (hsub hr) t (hsub ht) i hi (heq ▸ hi)

/-- An incident that is found has a solution, also after those before it have been used. -/
theorem Numbered.exists_solutionOf_found {s : Session} (h : Numbered s.store) {q : Query}
    {asked : Fields} {before after : List IncidentRow} {row : IncidentRow}
    (hrows : s.store.solvedLike q asked = before ++ row :: after) (kind : ProducerKind)
    (style : Producer.SummaryStyle) :
    ∃ x, ((before.mapM (useSolution kind style)).exec s).2.store.solutionOf row = some x := by
  have honly := useSolutions_onlySolutions kind style before s
  have hrow : row ∈ s.store.solvedLike q asked := by simp [hrows]
  refine (h.onlySolutions honly).exists_solutionOf ?_ (isSome_of_mem_solvedLike hrow)
  rw [honly.incidents]
  exact (solvedLike_sublist s.store q asked).subset hrow

theorem find_exec_of_ok (kind : ProducerKind) (style : Producer.SummaryStyle) {q : Query}
    {asked : Fields} (hasked : comparedVars q.vars = .ok asked) (s : Session) :
    (find kind style q).exec s =
      ((s.store.solvedLike q asked).mapM (useSolution kind style)).exec s := by
  rw [find, hasked, exec_bind_of_ok (exec_ofOutcome _ s), exec_bind_of_ok (exec_get s)]

theorem find_exec_of_error (kind : ProducerKind) (style : Producer.SummaryStyle) {q : Query}
    {e : Failure} (hasked : comparedVars q.vars = .error e) (s : Session) :
    (find kind style q).exec s = (.error e, s) := by
  rw [find, hasked, exec_bind_of_error (exec_ofOutcome _ s)]

/-- Finding changes the contents of solutions and nothing else. -/
theorem find_onlySolutions (kind : ProducerKind) (style : Producer.SummaryStyle) (q : Query)
    (s : Session) : OnlySolutions s.store ((find kind style q).exec s).2.store := by
  cases hasked : comparedVars q.vars with
  | error e =>
    rw [find_exec_of_error kind style hasked]
    exact OnlySolutions.refl _
  | ok asked =>
    rw [find_exec_of_ok kind style hasked]
    exact useSolutions_onlySolutions kind style _ s

/-- What is returned are the solutions of the matching incidents, one for each, as they are then. -/
theorem find_eq_ok {kind : ProducerKind} {style : Producer.SummaryStyle} {q : Query}
    {s s' : Session} (hs : Numbered s.store) {found : List Solution}
    (h : (find kind style q).exec s = (.ok found, s')) :
    ∃ asked, comparedVars q.vars = .ok asked ∧
      List.Forall₂ (fun r y => s'.store.solutionOf r = some y) (s.store.solvedLike q asked)
        found := by
  cases hasked : comparedVars q.vars with
  | error e =>
    rw [find_exec_of_error kind style hasked] at h
    cases h
  | ok asked =>
    rw [find_exec_of_ok kind style hasked] at h
    exact ⟨asked, rfl, useSolutions_eq_ok (hs.pairwise_solvedLike q asked) h⟩

/-- Without summaries, finding returns whenever the variables can be compared, and changes
nothing. -/
theorem find_textOnly (style : Producer.SummaryStyle) {q : Query} {s : Session}
    (hs : Numbered s.store) {asked : Fields} (hasked : comparedVars q.vars = .ok asked) :
    ∃ found, (find .textOnly style q).exec s = (.ok found, s) ∧
      List.Forall₂ (fun r y => s.store.solutionOf r = some y) (s.store.solvedLike q asked)
        found := by
  have hall : ∀ r ∈ s.store.solvedLike q asked, ∃ y, s.store.solutionOf r = some y :=
    fun r hr => hs.exists_solutionOf ((solvedLike_sublist s.store q asked).subset hr)
      (isSome_of_mem_solvedLike hr)
  obtain ⟨found, hfound⟩ : ∃ found, List.Forall₂ (fun r y => s.store.solutionOf r = some y)
      (s.store.solvedLike q asked) found := by
    generalize s.store.solvedLike q asked = rows at hall
    induction rows with
    | nil => exact ⟨[], .nil⟩
    | cons r rows ih =>
      obtain ⟨y, hy⟩ := hall r List.mem_cons_self
      obtain ⟨ys, hys⟩ := ih fun t ht => hall t (List.mem_cons_of_mem _ ht)
      exact ⟨y :: ys, .cons hy hys⟩
  refine ⟨found, ?_, hfound⟩
  rw [find_exec_of_ok .textOnly style hasked]
  exact useSolutions_textOnly style hs hfound

end Remedy.Store
