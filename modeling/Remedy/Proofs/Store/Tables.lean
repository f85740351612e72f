import Remedy.Store.Load
import Mathlib.Data.List.Nodup

/-!
# Changes to the tables of a store

What each change to a store does to its tables, row by row. New rows are numbered after the largest
number in use, so numbers stay different; accepting solutions changes nothing of an incident but the
number of its solution.

Main results:

* `lt_nextId`: the next number is above all that are in use.
* `acceptAll_incidents`, `acceptAll_solutions`: the tables after several solutions were accepted.
* `assigned_of_mem`: the solution that an incident has then is the last that was accepted for it.
-/

namespace Remedy.Store

/-! ## Numbers -/

theorem le_foldl_max (ids : List Nat) (n : Nat) :
    n ≤ ids.foldl max n ∧ ∀ i ∈ ids, i ≤ ids.foldl max n := by
  induction ids generalizing n with
  | nil => simp
  | cons j rest ih =>
    obtain ⟨hn, hall⟩ := ih (max n j)
    rw [List.foldl_cons]
    refine ⟨by omega, ?_⟩
    intro i hi
    rcases List.mem_cons.mp hi with rfl | hi
    · omega
    · exact hall i hi

theorem lt_nextId {ids : List Nat} {i : Nat} (h : i ∈ ids) : i < nextId ids := by
  have := (le_foldl_max ids 0).2 i h
  rw [nextId]
  omega

theorem nextId_append_nextId (ids : List Nat) : nextId (ids ++ [nextId ids]) = nextId ids + 1 := by
  rw [nextId, List.foldl_append, nextId]
  simp

theorem numbered_map_id (n : Nat) (rows : List IncidentRow) :
    (numbered n rows).map IncidentRow.id = List.range' n rows.length := by
  induction rows generalizing n with
  | nil => rfl
  | cons r rest ih => simp [numbered, ih, List.range'_succ]

theorem numbered_length (n : Nat) (rows : List IncidentRow) :
    (numbered n rows).length = rows.length := by
  simpa using congrArg List.length (numbered_map_id n rows)

/-- Numbering changes nothing that does not depend on the number. -/
theorem numbered_map_of_eq {α : Type} {f : IncidentRow → α}
    (hf : ∀ (r : IncidentRow) (i : Nat), f { r with id := i } = f r) (n : Nat)
    (rows : List IncidentRow) : (numbered n rows).map f = rows.map f := by
  induction rows generalizing n with
  | nil => rfl
  | cons r rest ih => simp [numbered, ih, hf]

theorem exists_of_mem_numbered {n : Nat} {rows : List IncidentRow} {r : IncidentRow}
    (h : r ∈ numbered n rows) : ∃ r₀ ∈ rows, ∃ i, n ≤ i ∧ r = { r₀ with id := i } := by
  induction rows generalizing n with
  | nil => simp [numbered] at h
  | cons r₀ rest ih =>
    rw [numbered] at h
    rcases List.mem_cons.mp h with rfl | h
    · exact ⟨r₀, List.mem_cons_self .., n, Nat.le_refl n, rfl⟩
    · obtain ⟨r₁, hr₁, i, hi, heq⟩ := ih h
      exact ⟨r₁, List.mem_cons_of_mem _ hr₁, i, by omega, heq⟩

/-! ## Lines -/

/-- Taking over lines changes the line and nothing else. -/
theorem relined_eq (rows : List IncidentRow) (r : IncidentRow) :
    ∃ line, relined rows r = { r with line } := by
  rw [relined]
  split
  · next u _ => exact ⟨u.line, rfl⟩
  · exact ⟨r.line, rfl⟩

/-- Lines stay as they are when those that are taken over are the lines of the rows themselves. -/
theorem relined_eq_self {rows table : List IncidentRow} (hids : (table.map IncidentRow.id).Nodup)
    (hrows : ∀ u ∈ rows, u ∈ table) {r : IncidentRow} (hr : r ∈ table) : relined rows r = r := by
  rw [relined]
  split
  · next u hu =>
    have hid : u.id = r.id := by simpa using List.find?_some hu
    have hur : u = r := List.inj_on_of_nodup_map hids (hrows u (List.mem_of_find?_eq_some hu)) hr hid
    rw [hur]
  · rfl

/-! ## Accepted solutions -/

/-- Accepts a solution for each of several incidents. -/
def acceptAll (s : Store) (made : List (IncidentRow × Solution)) : Store :=
  made.foldl (fun s p => s.accept p.1.id p.2) s

/-- The rows of accepted solutions, numbered from the given number. -/
def acceptedRows (n : Nat) : List (IncidentRow × Solution) → List SolutionRow
  | [] => []
  | p :: rest => ⟨n, p.2⟩ :: acceptedRows (n + 1) rest

/-- The incident with the number of the last solution that is accepted for it, numbered from the
given number. -/
def assigned (n : Nat) : List (IncidentRow × Solution) → IncidentRow → IncidentRow
  | [], r => r
  | p :: rest, r =>
    assigned (n + 1) rest (if r.id == p.1.id then { r with solutionId := some n } else r)

/-- The number that the next accepted solution gets. -/
def nextSolution (s : Store) : Nat :=
  nextId (s.solutions.map SolutionRow.id)

theorem nextSolution_accept (s : Store) (incident : Nat) (solution : Solution) :
    (s.accept incident solution).nextSolution = s.nextSolution + 1 := by
  rw [nextSolution, nextSolution, ← nextId_append_nextId, accept]
  simp

theorem acceptAll_cons (s : Store) (p : IncidentRow × Solution)
    (made : List (IncidentRow × Solution)) :
    s.acceptAll (p :: made) = (s.accept p.1.id p.2).acceptAll made := rfl

theorem acceptAll_incidents (s : Store) (made : List (IncidentRow × Solution)) :
    (s.acceptAll made).incidents = s.incidents.map (assigned s.nextSolution made) := by
  induction made generalizing s with
  | nil =>
    show s.incidents = s.incidents.map fun r => r
    rw [List.map_id']
  | cons p rest ih =>
    rw [acceptAll_cons, ih, nextSolution_accept, accept, List.map_map]
    rfl

theorem acceptAll_solutions (s : Store) (made : List (IncidentRow × Solution)) :
    (s.acceptAll made).solutions = s.solutions ++ acceptedRows s.nextSolution made := by
  induction made generalizing s with
  | nil => simp [acceptAll, acceptedRows]
  | cons p rest ih =>
    rw [acceptAll_cons, ih, nextSolution_accept, accept, acceptedRows, List.append_assoc]
    rfl

/-- Accepting solutions leaves the other tables as they are. -/
theorem acceptAll_others (s : Store) (made : List (IncidentRow × Solution)) :
    (s.acceptAll made).applications = s.applications ∧
    (s.acceptAll made).rulesets = s.rulesets ∧
    (s.acceptAll made).violations = s.violations ∧ (s.acceptAll made).reports = s.reports := by
  induction made generalizing s with
  | nil => exact ⟨rfl, rfl, rfl, rfl⟩
  | cons p rest ih => exact ih (s.accept p.1.id p.2)

@[simp]
theorem acceptAll_checked (s : Store) (made : List (IncidentRow × Solution)) :
    (s.acceptAll made).checked = s.checked := by
  induction made generalizing s with
  | nil => rfl
  | cons p rest ih => exact ih (s.accept p.1.id p.2)

/-- Accepting solutions changes the number of the solution and nothing else. -/
theorem assigned_eq (n : Nat) (made : List (IncidentRow × Solution)) (r : IncidentRow) :
    ∃ solutionId, assigned n made r = { r with solutionId } := by
  induction made generalizing n r with
  | nil => exact ⟨r.solutionId, rfl⟩
  | cons p rest ih =>
    rw [assigned]
    split
    · obtain ⟨solutionId, heq⟩ := ih (n + 1) { r with solutionId := some n }
      exact ⟨solutionId, heq⟩
    · exact ih (n + 1) r

theorem assigned_of_notMem {n : Nat} {made : List (IncidentRow × Solution)} {r : IncidentRow}
    (h : r.id ∉ made.map fun p => p.1.id) : assigned n made r = r := by
  induction made generalizing n with
  | nil => rfl
  | cons p rest ih =>
    rw [List.map_cons, List.mem_cons, not_or] at h
    rw [assigned, if_neg (by simpa using h.1), ih h.2]

/-- An incident for which solutions are accepted has the last of them in the end. -/
theorem assigned_of_mem {n : Nat} {made : List (IncidentRow × Solution)} {r : IncidentRow}
    (h : r.id ∈ made.map fun p => p.1.id) :
    ∃ i p, made[i]? = some p ∧ p.1.id = r.id ∧
      assigned n made r = { r with solutionId := some (n + i) } := by
  induction made generalizing n r with
  | nil => simp at h
  | cons p rest ih =>
    by_cases hrest : r.id ∈ rest.map fun p => p.1.id
    · -- a later solution replaces the one that is accepted first
      rw [assigned]
      split
      · obtain ⟨i, q, hq, hid, heq⟩ := ih (n := n + 1) (r := { r with solutionId := some n }) hrest
        exact ⟨i + 1, q, by simpa using hq, hid, by rw [heq, Nat.add_right_comm]; rfl⟩
      · obtain ⟨i, q, hq, hid, heq⟩ := ih (n := n + 1) hrest
        exact ⟨i + 1, q, by simpa using hq, hid, by rw [heq, Nat.add_right_comm]; rfl⟩
    · have hid : r.id = p.1.id := by
        rw [List.map_cons, List.mem_cons] at h
        exact h.resolve_right hrest
      refine ⟨0, p, rfl, hid.symm, ?_⟩
      rw [assigned, if_pos (by simpa using hid)]
      exact assigned_of_notMem (r := { r with solutionId := some n }) hrest

theorem acceptedRows_map_id (n : Nat) (made : List (IncidentRow × Solution)) :
    (acceptedRows n made).map SolutionRow.id = List.range' n made.length := by
  induction made generalizing n with
  | nil => rfl
  | cons p rest ih => simp [acceptedRows, ih, List.range'_succ]

theorem find?_acceptedRows {n i : Nat} {made : List (IncidentRow × Solution)}
    {p : IncidentRow × Solution} (h : made[i]? = some p) :
    (acceptedRows n made).find? (fun r => r.id == n + i) = some ⟨n + i, p.2⟩ := by
  induction made generalizing n i with
  | nil => simp at h
  | cons q rest ih =>
    rw [acceptedRows]
    cases i with
    | zero =>
      simp only [List.getElem?_cons_zero, Option.some.injEq] at h
      simp [h]
    | succ i =>
      rw [List.find?_cons_of_neg (by simp), show n + (i + 1) = n + 1 + i by omega]
      exact ih (by simpa using h)

/-! ## Solutions of incidents -/

/-- The solution of an incident. -/
def solutionOf (s : Store) (r : IncidentRow) : Option Solution :=
  r.solutionId.bind s.solution?

/-- Further solutions leave those that are there as they are. -/
theorem solution?_of_append {s t : Store} {more : List SolutionRow}
    (h : t.solutions = s.solutions ++ more) {i : Nat} (hi : i ∈ s.solutions.map SolutionRow.id) :
    t.solution? i = s.solution? i := by
  obtain ⟨row, hrow, hid⟩ := List.mem_map.mp hi
  have hsome : (s.solutions.find? fun r => r.id == i).isSome := by
    rw [List.find?_isSome]
    exact ⟨row, hrow, by simp [hid]⟩
  rw [solution?, solution?, h, List.find?_append, Option.or_of_isSome hsome]

end Remedy.Store
