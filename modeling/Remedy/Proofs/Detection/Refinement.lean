import Remedy.Proofs.Detection.Conservation

/-!
# Following moved lines refines matching by keys

Both methods match by keys first. What this finds unsolved stays so, in its order. Following moved
lines then takes incidents that are fresh by keys and gives their lines to incidents that are solved
by keys, one to one: each such move makes one incident less fresh, one less solved and one more
unsolved.

Main results:

* `matchMoved_extends`, `foldlM_matchMoved_extends`: what is unsolved so far stays in front.
* `solved_subset_naive`: whatever the method, what is solved is solved by keys.
* `detect_counts`: where the new incidents and the old keys end, by number.
* `lineMatch_refines_naive`: the results of the two methods compared.
-/

namespace Remedy.Detection

open Remedy.Action

/-- Following one incident adds at most one unsolved incident, at the end. -/
theorem matchMoved_extends {s : Setting} {p q : Progress} {row : IncidentRow}
    {calls calls' : List GitCall} (h : (matchMoved s p row).exec calls = (.ok q, calls')) :
    p.unsolved <+: q.unsolved := by
  rcases matchMoved_ok h with rfl | ⟨-, rfl⟩ | ⟨rows, old, others, -, -, rfl⟩
  · exact List.prefix_rfl
  · exact List.prefix_rfl
  · exact List.prefix_append ..

theorem foldlM_matchMoved_extends {s : Setting} {new : List IncidentRow} {p q : Progress}
    {calls calls' : List GitCall}
    (h : (new.foldlM (matchMoved s) p).exec calls = (.ok q, calls')) :
    p.unsolved <+: q.unsolved := by
  induction new generalizing p calls with
  | nil =>
    cases h
    exact List.prefix_rfl
  | cons row rest ih =>
    rw [List.foldlM_cons] at h
    obtain ⟨p₁, calls₁, hstep, hrest⟩ := exec_bind_eq_ok.mp h
    exact (matchMoved_extends hstep).trans (ih hrest)

/-- Whatever the method, what is solved is solved by keys: only what keys leave over is followed. -/
theorem solved_subset_naive {kind : DetectorKind} {s : Setting} {old new : List IncidentRow}
    {found : Detection} (h : ((detect kind s old new).exec []).1 = .ok found) :
    found.solved ⊆ (naive old new).solved := by
  cases kind with
  | naive =>
    cases h
    exact List.Subset.refl _
  | lineMatch =>
    obtain ⟨q, calls, hfold, rfl⟩ := lineMatch_ok h
    intro r hr
    exact (grouped_run _).2.subset ((foldlM_matchMoved_subset hfold).2 r hr)

/-- Whatever the method, a new incident ends as an unsolved or a fresh one, and an old key with an
unsolved or a solved one. -/
theorem detect_counts {kind : DetectorKind} {s : Setting} {old new : List IncidentRow}
    {found : Detection} (h : ((detect kind s old new).exec []).1 = .ok found) :
    found.unsolved.length + found.fresh.length = new.length ∧
      found.unsolved.length + found.solved.length = (byKey old).length := by
  obtain ⟨hnew, -, kept, hkept, hold⟩ :=
    @conserved Unit (fun _ => ()) _ _ _ _ _ h (fun _ _ _ _ _ => rfl) fun _ _ _ => rfl
  have hnew := hnew.length_eq
  have hold := hold.length_eq
  simp only [List.length_map, List.length_append, hkept.length_eq] at hnew hold
  exact ⟨hnew, hold⟩

/-- **Following moved lines refines matching by keys.** When it comes to its end:

* the incidents that are unsolved by keys come first among the unsolved ones;
* the fresh incidents are some of those that are fresh by keys, in their order;
* the solved incidents are among those that are solved by keys;
* as many incidents are no longer fresh as are now unsolved and no longer solved. -/
theorem lineMatch_refines_naive {s : Setting} {old new : List IncidentRow} {found : Detection}
    (h : ((lineMatch s old new).exec []).1 = .ok found) :
    (naive old new).unsolved <+: found.unsolved ∧
    found.fresh.Sublist (naive old new).fresh ∧
    found.solved ⊆ (naive old new).solved ∧
    ∃ moved, (naive old new).fresh.length = found.fresh.length + moved ∧
      found.unsolved.length = (naive old new).unsolved.length + moved ∧
      (naive old new).solved.length = found.solved.length + moved := by
  have hlines : ((detect .lineMatch s old new).exec []).1 = .ok found := h
  have hkeys : ((detect .naive s old new).exec []).1 = .ok (naive old new) := rfl
  obtain ⟨hnew, hold⟩ := detect_counts hlines
  obtain ⟨hnew', hold'⟩ := detect_counts hkeys
  have hsolved := solved_subset_naive hlines
  -- the second pass starts from the result by keys
  obtain ⟨q, calls, hfold, hfound⟩ := lineMatch_ok h
  have hextends : (naive old new).unsolved <+: found.unsolved := by
    rw [hfound]
    exact foldlM_matchMoved_extends hfold
  have hfresh : found.fresh.Sublist (naive old new).fresh := by
    have hfollowed := @followed_run Unit (fun _ => ()) _ _ _ _ _ _ (grouped_run _).1 rfl
      (fun _ _ _ => rfl) hfold
    rw [hfound]
    exact hfollowed.fresh
  have hle := hextends.length_le
  exact ⟨hextends, hfresh, hsolved, found.unsolved.length - (naive old new).unsolved.length,
    by omega, by omega, by omega⟩

/-- Of two old incidents with one key the second is found again. Of the new ones at other lines the
first takes the place of an incident that is solved by keys, and the second is fresh by both. -/
theorem lineMatch_refines_naive_at_moved_incident :
    let old := [plainRow 1 "A.java" 3, plainRow 2 "A.java" 3, plainRow 3 "A.java" 7,
      plainRow 4 "B.java" 5]
    let new := [plainRow 0 "A.java" 9, plainRow 0 "A.java" 3, plainRow 0 "A.java" 11]
    let found : Detection :=
      { fresh := [plainRow 0 "A.java" 11]
        unsolved := [plainRow 2 "A.java" 3, plainRow 3 "A.java" 9]
        solved := [plainRow 4 "B.java" 5] }
    ((lineMatch keptCode old new).exec []).1 = .ok found ∧
    (naive old new).unsolved = [plainRow 2 "A.java" 3] ∧
    (naive old new).unsolved <+: found.unsolved ∧
    found.fresh.Sublist (naive old new).fresh ∧
    found.solved ⊆ (naive old new).solved ∧
    (naive old new).fresh.length = 2 ∧ (naive old new).solved.length = 2 := by
  intro old new found
  have hmatch : ((lineMatch keptCode old new).exec []).1 = .ok found := by decide +kernel
  have hunsolved : (naive old new).unsolved = [plainRow 2 "A.java" 3] := by decide +kernel
  obtain ⟨hextends, hfresh, hsolved, moved, hnew, hmoved, hold⟩ := lineMatch_refines_naive hmatch
  have hone : moved = 1 := by
    rw [hunsolved] at hmoved
    exact (Nat.add_left_cancel hmoved).symm
  subst hone
  exact ⟨hmatch, hunsolved, hextends, hfresh, hsolved, hnew, hold⟩

end Remedy.Detection
