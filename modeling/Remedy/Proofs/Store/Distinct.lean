import Remedy.Proofs.Detection.Refinement
import Remedy.Proofs.Store.Integrity
import Remedy.Proofs.Store.Separation

/-!
# Keys stay different

Following moved lines rewrites the lines of stored incidents, and with them their keys. As long as
no report has a key twice, no two stored incidents ever have the same key: a load leaves an
application with the keys of its report and those of the incidents that it found solved, and these
have no key of the report. This holds for each store that a load writes, so also after loads that
were cut short.

Main results:

* `detect_perm`: when no two old incidents share a key, each ends as unsolved or solved.
* `keys_perm`: the keys that are stored after old and new incidents were compared.
* `Committed.nodup_keys`: what one load keeps, also when it is cut short.
* `keys_differ_in_every_run`: no two incidents share a key, whatever reports were loaded.
-/

namespace Remedy

/-- Rows with different keys also differ in their keys with lines as they are. -/
theorem nodup_exactKeys {rows : List IncidentRow} (h : (rows.map IncidentRow.key).Nodup) :
    (rows.map IncidentRow.exactKey).Nodup := by
  refine List.Nodup.of_map (fun k => (⟨k.place, lineMark k.line⟩ : IncidentKey)) ?_
  rw [List.map_map]
  exact h

namespace Detection

variable {kind : DetectorKind} {s : Setting} {old new kept unsolved : List IncidentRow}
  {found : Detection}

/-- When no two old incidents share a key, the unsolved and the solved ones are the old ones; an
unsolved one may be on another line. -/
theorem detect_perm (h : ((detect kind s old new).exec []).1 = .ok found)
    (hold : (old.map IncidentRow.key).Nodup) :
    ∃ kept, List.Forall₂ Relocated kept found.unsolved ∧ (kept ++ found.solved).Perm old := by
  obtain ⟨-, -, kept, hkept, hperm⟩ :=
    @conserved Unit (fun _ => ()) _ _ _ _ _ h (fun _ _ _ _ _ => rfl) fun _ _ _ => rfl
  refine ⟨kept, hkept, ?_⟩
  rw [byKey_of_nodup hold, List.map_map] at hperm
  simpa [Function.comp_def] using hperm

theorem relocated_ids (h : List.Forall₂ Relocated kept unsolved) :
    unsolved.map IncidentRow.id = kept.map IncidentRow.id := by
  induction h with
  | nil => rfl
  | cons hru _ ih =>
    obtain ⟨line, rfl⟩ := hru
    rw [List.map_cons, List.map_cons, ih]

/-- Taking over the lines of unsolved incidents makes of the old ones what they are now. -/
theorem map_relined_kept (h : List.Forall₂ Relocated kept unsolved)
    (hids : (kept.map IncidentRow.id).Nodup) :
    kept.map (Store.relined unsolved) = unsolved := by
  rw [← relocated_ids h] at hids
  obtain ⟨hlength, hpairs⟩ := List.forall₂_iff_zip.mp h
  rw [← List.forall₂_eq_eq_eq, List.forall₂_map_left_iff]
  refine List.forall₂_iff_zip.mpr ⟨hlength, fun {r u} hru => ?_⟩
  have hu : u ∈ unsolved := (List.of_mem_zip hru).2
  obtain ⟨line, rfl⟩ := hpairs hru
  rw [Store.relined]
  split
  · next v hv =>
    -- only one unsolved incident has the number
    have hid : v.id = r.id := by simpa using List.find?_some hv
    have hsame : v = { r with line } :=
      List.inj_on_of_nodup_map hids (List.mem_of_find?_eq_some hv) hu hid
    rw [hsame]
  · next hnone =>
    have hnot := List.find?_eq_none.mp hnone _ hu
    exact absurd (beq_self_eq_true r.id) hnot

/-- Once lines are taken over, the old incidents are the unsolved and the solved ones. -/
theorem relined_perm (hids : (old.map IncidentRow.id).Nodup)
    (hkept : List.Forall₂ Relocated kept found.unsolved) (hperm : (kept ++ found.solved).Perm old) :
    (old.map (Store.relined found.unsolved)).Perm (found.unsolved ++ found.solved) := by
  have hnodup := (hperm.map IncidentRow.id).nodup_iff.mpr hids
  rw [List.map_append, List.nodup_append] at hnodup
  obtain ⟨hkeptIds, -, hapart⟩ := hnodup
  have hsolved : ∀ r ∈ found.solved, Store.relined found.unsolved r = r := by
    intro r hr
    refine Store.relined_of_ids fun v hv => hapart v.id ?_ r.id (List.mem_map_of_mem hr)
    rw [← relocated_ids hkept]
    exact List.mem_map_of_mem hv
  have hrows : (kept ++ found.solved).map (Store.relined found.unsolved) =
      found.unsolved ++ found.solved := by
    rw [List.map_append, map_relined_kept hkept hkeptIds, List.map_congr_left hsolved, List.map_id']
  rw [← hrows]
  exact (hperm.map _).symm

/-- When no two old incidents share a key, what is stored has afterwards the keys of the new
incidents, and besides them those of the solved ones. -/
theorem keys_perm (h : ((detect kind s old new).exec []).1 = .ok found)
    (hold : (old.map IncidentRow.key).Nodup) (hids : (old.map IncidentRow.id).Nodup) :
    ((old.map (Store.relined found.unsolved) ++ found.fresh).map IncidentRow.key).Perm
      (new.map IncidentRow.key ++ found.solved.map IncidentRow.key) := by
  obtain ⟨kept, hkept, hperm⟩ := detect_perm h hold
  obtain ⟨hkeys, -⟩ := @conserved _ IncidentRow.key _ _ _ _ _ h (fun _ _ _ _ hk => hk)
    fun r u hplace => congrArg (IncidentKey.mk · (lineMark u.line)) hplace
  have hrows : (old.map (Store.relined found.unsolved) ++ found.fresh).Perm
      (found.unsolved ++ found.fresh ++ found.solved) := by
    refine ((relined_perm hids hkept hperm).append_right found.fresh).trans ?_
    rw [List.append_assoc, List.append_assoc]
    exact List.perm_append_comm.append_left found.unsolved
  refine (hrows.map IncidentRow.key).trans ?_
  rw [List.map_append]
  exact hkeys.append_right _

/-- A solved incident has no key of a new one. -/
theorem solved_key_notMem (h : ((detect kind s old new).exec []).1 = .ok found) {r : IncidentRow}
    (hr : r ∈ found.solved) : r.key ∉ new.map IncidentRow.key :=
  (mem_naive_solved.mp (solved_subset_naive h hr)).2

/-- When no two old incidents share a key and no two new ones, no two do that are stored
afterwards. -/
theorem nodup_keys_detected (h : ((detect kind s old new).exec []).1 = .ok found)
    (hold : (old.map IncidentRow.key).Nodup) (hids : (old.map IncidentRow.id).Nodup)
    (hnew : (new.map IncidentRow.key).Nodup) :
    ((old.map (Store.relined found.unsolved) ++ found.fresh).map IncidentRow.key).Nodup := by
  obtain ⟨kept, -, hperm⟩ := detect_perm h hold
  have hsolved : (found.solved.map IncidentRow.key).Nodup := by
    have hall := (hperm.map IncidentRow.key).nodup_iff.mpr hold
    rw [List.map_append, List.nodup_append] at hall
    exact hall.2.1
  rw [(keys_perm h hold hids).nodup_iff, List.nodup_append]
  refine ⟨hnew, hsolved, fun a ha b hb hab => ?_⟩
  obtain ⟨r, hr, rfl⟩ := List.mem_map.mp hb
  exact solved_key_notMem h hr (hab ▸ ha)

end Detection

namespace Store

open Remedy.Action

variable {setup : LoadSetup} {app : Application} {report : Report} {s t : Store}

/-- No two incidents of one application share a key. -/
def KeysDiffer (s : Store) : Prop :=
  ∀ name, ((s.incidentsOf name).map IncidentRow.key).Nodup

/-- Incidents of different applications have different keys anyway. -/
theorem KeysDiffer.nodup (h : KeysDiffer s) : (s.incidents.map IncidentRow.key).Nodup := by
  rw [List.Nodup, List.pairwise_map, List.pairwise_iff_forall_sublist]
  intro r u hsub heq
  have happ : u.application = r.application :=
    (congrArg (fun k : IncidentKey => k.place.application) heq).symm
  have hboth : [r, u].Sublist (s.incidentsOf r.application) := by
    simpa [incidentsOf, happ] using hsub.filter fun x => x.application == r.application
  have hdiffer := h r.application
  rw [List.Nodup, List.pairwise_map, List.pairwise_iff_forall_sublist] at hdiffer
  exact hdiffer hboth heq

theorem part_keys (s : Store) (name : String) :
    (s.incidentsOf name).map IncidentRow.key =
      (s.part name).incidents.map fun p => p.1.key := by
  rw [part, List.map_map]
  rfl

/-- Accepting solutions changes nothing that does not depend on the solution. -/
theorem acceptAll_filter_map {α : Type} {f : IncidentRow → α} {p : IncidentRow → Bool}
    (hf : ∀ (r : IncidentRow) i, f { r with solutionId := i } = f r)
    (hp : ∀ (r : IncidentRow) i, p { r with solutionId := i } = p r) (s : Store)
    (made : List (IncidentRow × Solution)) :
    ((s.acceptAll made).incidents.filter p).map f = (s.incidents.filter p).map f := by
  have hsame : p ∘ assigned s.nextSolution made = p := by
    funext r
    obtain ⟨solutionId, heq⟩ := assigned_eq s.nextSolution made r
    rw [Function.comp_apply, heq, hp]
  rw [acceptAll_incidents, List.filter_map, hsame, List.map_map]
  refine List.map_congr_left fun r _ => ?_
  obtain ⟨solutionId, heq⟩ := assigned_eq s.nextSolution made r
  rw [Function.comp_apply, heq, hf]

/-! ## What one load keeps -/

/-- Comparing a report keeps the keys of its application different. -/
theorem Detected.nodup_keys {path : String} {rows : List IncidentRow} {entered : Store}
    {found : Detection} (h : Detected setup app report s path rows entered found) (hs : Numbered s)
    (hold : ((s.incidentsOf app.name).map IncidentRow.key).Nodup)
    (hnew : (rows.map IncidentRow.key).Nodup) :
    (((entered.arrive found).incidentsOf app.name).map IncidentRow.key).Nodup := by
  obtain ⟨hincidents, hsolutions, -⟩ := gather_rows h.gathered
  have hentered : Numbered entered := hs.of_eq hincidents hsolutions
  have hsame : entered.incidentsOf app.name = s.incidentsOf app.name := by
    rw [incidentsOf, hincidents, incidentsOf]
  have hfresh : found.fresh.filter (fun r => r.application == app.name) = found.fresh := by
    rw [List.filter_eq_self]
    intro r hr
    rw [beq_iff_eq]
    exact application_of_mem_reportRows h.gathered_rows
      (Detection.fresh_subset_of_detect h.detected r hr)
  rw [incidentsOf_arrive, List.map_append, numbered_filter_map (fun _ _ => rfl) (fun _ _ => rfl),
    hfresh, ← List.map_append]
  refine Detection.nodup_keys_detected h.detected ?_ (hentered.nodup_ids_of app.name) hnew
  rw [hsame]
  exact hold

/-- A load keeps keys different at each point, if its report has no key twice. -/
theorem Committed.nodup_keys (h : Committed setup app report s t) (hs : Numbered s)
    (hold : KeysDiffer s)
    (hnew : ∀ rows, reportRows app.name report = .ok rows → (rows.map IncidentRow.key).Nodup) :
    KeysDiffer t := by
  intro name
  by_cases hname : app.name = name
  · subst hname
    have harrived : ∀ {path rows entered found},
        Detected setup app report s path rows entered found →
        (((entered.arrive found).incidentsOf app.name).map IncidentRow.key).Nodup := fun hd =>
      hd.nodup_keys hs (hold app.name) (hnew _ hd.gathered_rows)
    have haccepted : ∀ {path rows entered found made},
        Produced setup app report s path rows entered found made →
        ((((entered.arrive found).acceptAll (found.solved.zip made)).incidentsOf app.name).map
          IncidentRow.key).Nodup := by
      intro path rows entered found made hp
      rw [incidentsOf, acceptAll_filter_map (fun _ _ => rfl) (fun _ _ => rfl)]
      exact harrived hp.toDetected
    cases h with
    | unchanged => exact hold app.name
    | entering =>
      rw [incidentsOf, (foldl_enter_grows _ _).incidents, (withApplication_others s app).1]
      exact hold app.name
    | arrived hd => exact harrived hd
    | accepted hp => exact haccepted hp
    | renewed hp _ => exact haccepted hp
    | kept hp _ => exact haccepted hp
  · -- nothing of another application changes, its keys included
    rw [part_keys, h.part_other hs hname, ← part_keys]
    exact hold name

/-! ## Runs of calls -/

/-- A run of loads with what each of them leaves by itself. -/
theorem run_after (calls : List LoadCall) : Run (calls.map .load) (after {} calls) := by
  induction calls using List.reverseRecOn with
  | nil => exact .empty true
  | append_singleton calls c ih =>
    rw [after, List.foldl_append, List.map_append]
    exact ih.step (c.step _)

theorem KeysDiffer.of_eq (h : KeysDiffer s) (hincidents : t.incidents = s.incidents) :
    KeysDiffer t := by
  intro name
  rw [incidentsOf, hincidents]
  exact h name

theorem Run.keysDiffer {calls : List Call} (h : Run calls s)
    (hkeys : ∀ c, .load c ∈ calls → c.keys.Nodup) : Numbered s ∧ KeysDiffer s := by
  refine h.keeps (P := fun u => Numbered u ∧ KeysDiffer u)
    (fun checked => ⟨Numbered.empty checked, fun _ => List.nodup_nil⟩) ?_
  intro u call t hin hu hstep
  cases hstep with
  | load c hcommit =>
    refine ⟨hu.1.committed hcommit, hcommit.nodup_keys hu.1 hu.2 fun rows hrows => ?_⟩
    have hown := hkeys c hin
    rwa [LoadCall.keys, LoadCall.rows, hrows] at hown
  | find s kind style q =>
    have honly := find_onlySolutions kind style q s
    exact ⟨hu.1.onlySolutions honly, hu.2.of_eq honly.incidents⟩
  | delete => exact ⟨Numbered.empty _, fun _ => List.nodup_nil⟩

/-- **Keys stay different.** Reports are loaded by either method, with lookups and deletions
between, and each load comes to its end or is cut short at any point. If no report has a key twice,
no two stored incidents have the same key. So in a load that comes to its end, the unsolved and the
solved incidents together are the old ones of the application, each once: as they were, an unsolved
one on another line at most, and as they are once lines are taken over. -/
theorem keys_differ_in_every_run {calls : List Call} {s : Store} (hrun : Run calls s)
    (hkeys : ∀ c, .load c ∈ calls → c.keys.Nodup) :
    (s.incidents.map IncidentRow.key).Nodup ∧ (s.incidents.map IncidentRow.exactKey).Nodup ∧
    ∀ (c : LoadCall) (counts : LoadCounts) (t : Store), c.run.exec s = (.ok counts, t) →
      ∃ path found kept, repositoryPath c.app = .ok path ∧
        ((Detection.detect c.setup.detector (settingOf c.setup c.app path s)
          (s.incidentsOf c.app.name) c.rows).exec []).1 = .ok found ∧
        List.Forall₂ Detection.Relocated kept found.unsolved ∧
        (kept ++ found.solved).Perm (s.incidentsOf c.app.name) ∧
        (found.unsolved ++ found.solved).Perm
          ((s.incidentsOf c.app.name).map (relined found.unsolved)) := by
  obtain ⟨hnumbered, hdiffer⟩ := hrun.keysDiffer hkeys
  refine ⟨hdiffer.nodup, nodup_exactKeys hdiffer.nodup, fun c counts t hload => ?_⟩
  obtain ⟨path, found, made, h⟩ := loaded_of_run hload
  obtain ⟨kept, hkept, hperm⟩ := Detection.detect_perm h.detected (hdiffer c.app.name)
  have hnow := Detection.relined_perm (hnumbered.nodup_ids_of c.app.name) hkept hperm
  exact ⟨path, found, kept, h.located, h.detected, hkept, hperm, hnow.symm⟩

/-! ### An example -/

/-- An incident of a file. -/
def incidentIn (file : String) (line : Int) : Incident where
  uri := "file:///work/" ++ file
  message := "found"
  line := line

/-- A load that follows moved lines in files that keep all of their code, with what the repository
answers when it is asked for differences. -/
def followingCall (commit : String) (difference : Outcome String) (incidents : List Incident) :
    LoadCall :=
  { plainCall "a" commit incidents with
    setup := {
      detector := .lineMatch
      repository := fun _ => { Detection.keptCode.repo with difference := fun _ _ _ => difference }
      source := Detection.keptCode.source } }

/-- Three incidents come. Then one is found again, one has moved and one is gone, whose solution
cannot be made. -/
def movedAndFailed : List LoadCall :=
  [followingCall "c1" (.ok "")
    [incidentIn "A.java" 3, incidentIn "A.java" 7, incidentIn "B.java" 5],
   followingCall "c2" (.error .git) [incidentIn "A.java" 3, incidentIn "A.java" 9]]

/-- The line that has moved stays written although the load fails. The next load finds the incident
at its old place and moves it back. -/
theorem keys_differ_after_failed_load :
    let s := after {} movedAndFailed
    let c := followingCall "c3" (.ok "") [incidentIn "A.java" 7, incidentIn "A.java" 3]
    (answers {} movedAndFailed).map Prod.snd = [.ok ⟨3, 0, 0⟩, .error .git] ∧
    s.incidents.map IncidentRow.line = [3, 9, 5] ∧
    (∀ d ∈ movedAndFailed, d.keys.Nodup) ∧
    (s.incidents.map IncidentRow.key).Nodup ∧
    (c.run.exec s).1 = .ok ⟨0, 2, 1⟩ ∧
    ∃ path found, ((Detection.detect .lineMatch (settingOf c.setup c.app path s)
        (s.incidentsOf "a") c.rows).exec []).1 = .ok found ∧
      (found.unsolved ++ found.solved).Perm
        ((s.incidentsOf "a").map (relined found.unsolved)) := by
  intro s c
  have hkeys : ∀ d ∈ movedAndFailed, d.keys.Nodup := by decide +kernel
  have hok : (c.run.exec s).1 = .ok ⟨0, 2, 1⟩ := by decide +kernel
  obtain ⟨hdiffer, -, hperm⟩ :=
    keys_differ_in_every_run (run_after movedAndFailed) (by simpa using hkeys)
  obtain ⟨path, found, kept, -, hdetect, -, -, hnow⟩ := hperm c _ _ (Action.exec_eq_of_fst hok)
  exact ⟨by decide +kernel, by decide +kernel, hkeys, hdiffer, hok, path, found, hdetect, hnow⟩

end Store
end Remedy
