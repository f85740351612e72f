import Remedy.Proofs.Store.Settle

/-!
# The history of an application

Reports of applications are loaded one after the other, those of different applications in any
order. For one application the incidents that are stored in the end, and their solutions, can be
read off the list of its reports: an incident is stored when some report has it, it is solved when a
report that came after it lacks it, and its solution was made by the last load that lacked it, from
the commit of the load before to the commit of that load.

Main results:

* `Loaded.became`: what becomes of the incidents of the application whose report is loaded.
* `Tracks.step_other`, `Tracks.step_own`: what one load keeps.
* `tracks_run`: what a run of loads leads to.
* `incidents_follow_history`: the incidents of an application and their solutions in terms of its
  reports.
-/

namespace Remedy

/-! ## Lapses -/

section Lapse

variable {α : Type} (has : α → Prop)

/-- Some item without the property comes after an item with it. -/
def Lapse (xs : List α) : Prop :=
  ∃ before x after, xs = before ++ x :: after ∧ (∃ b ∈ before, has b) ∧ ¬ has x

/-- The last item without the property, with the item before it, some item with the property having
come before. -/
def LastLapse (xs : List α) (p x : α) : Prop :=
  ∃ before after, xs = before ++ p :: x :: after ∧ (∃ b ∈ before ++ [p], has b) ∧ ¬ has x ∧
    ∀ y ∈ after, has y

theorem lapse_append_of_has {xs : List α} {x : α} (hx : has x) :
    Lapse has (xs ++ [x]) ↔ Lapse has xs := by
  constructor
  · rintro ⟨before, y, after, heq, hb, hy⟩
    rcases List.eq_nil_or_concat after with rfl | ⟨after', z, rfl⟩
    · obtain ⟨-, hxy⟩ := List.append_inj' heq rfl
      cases hxy
      exact absurd hx hy
    · rw [List.concat_eq_append, ← List.cons_append, ← List.append_assoc] at heq
      obtain ⟨hxs, -⟩ := List.append_inj' heq rfl
      exact ⟨before, y, after', hxs, hb, hy⟩
  · rintro ⟨before, y, after, rfl, hb, hy⟩
    exact ⟨before, y, after ++ [x], by simp, hb, hy⟩

theorem lapse_append_of_not {xs : List α} {x : α} (hx : ¬ has x) :
    Lapse has (xs ++ [x]) ↔ ∃ b ∈ xs, has b := by
  constructor
  · rintro ⟨before, y, after, heq, ⟨b, hb, hhas⟩, -⟩
    have hmem : b ∈ xs ++ [x] := by
      rw [heq]
      exact List.mem_append_left _ hb
    rcases List.mem_append.mp hmem with hin | hin
    · exact ⟨b, hin, hhas⟩
    · rw [List.mem_singleton] at hin
      exact absurd (hin ▸ hhas) hx
  · rintro ⟨b, hb, hhas⟩
    exact ⟨xs, x, [], rfl, ⟨b, hb, hhas⟩, hx⟩

theorem lastLapse_append_of_has {xs : List α} {p x y : α} (hx : has x)
    (h : LastLapse has (xs ++ [x]) p y) : LastLapse has xs p y := by
  obtain ⟨before, after, heq, hb, hy, hafter⟩ := h
  rcases List.eq_nil_or_concat after with rfl | ⟨after', z, rfl⟩
  · have hlast : xs ++ [x] = (before ++ [p]) ++ [y] := by simpa using heq
    obtain ⟨-, hxy⟩ := List.append_inj' hlast rfl
    cases hxy
    exact absurd hx hy
  · have hlast : xs ++ [x] = (before ++ p :: y :: after') ++ [z] := by simpa using heq
    obtain ⟨hxs, -⟩ := List.append_inj' hlast rfl
    refine ⟨before, after', hxs, hb, hy, fun w hw => hafter w ?_⟩
    rw [List.concat_eq_append]
    exact List.mem_append_left _ hw

theorem lastLapse_append_of_not {xs : List α} {p x y : α} (hx : ¬ has x)
    (h : LastLapse has (xs ++ [x]) p y) : xs.getLast? = some p ∧ y = x := by
  obtain ⟨before, after, heq, -, -, hafter⟩ := h
  rcases List.eq_nil_or_concat after with rfl | ⟨after', z, rfl⟩
  · have hlast : xs ++ [x] = (before ++ [p]) ++ [y] := by simpa using heq
    obtain ⟨hxs, hxy⟩ := List.append_inj' hlast rfl
    cases hxy
    exact ⟨by rw [hxs, List.getLast?_concat], rfl⟩
  · -- the last item would have the property
    have hlast : xs ++ [x] = (before ++ p :: y :: after') ++ [z] := by simpa using heq
    obtain ⟨-, hxz⟩ := List.append_inj' hlast rfl
    cases hxz
    exact absurd (hafter x (by simp)) hx

variable {has}

/-- After a lapse there is a last one. -/
theorem Lapse.exists_last {xs : List α} (h : Lapse has xs) : ∃ p x, LastLapse has xs p x := by
  classical
  induction xs using List.reverseRecOn with
  | nil =>
    obtain ⟨before, x, after, heq, -⟩ := h
    simp at heq
  | append_singleton xs x ih =>
    by_cases hx : has x
    · obtain ⟨p, y, before, after, rfl, hb, hy, hafter⟩ := ih ((lapse_append_of_has has hx).mp h)
      refine ⟨p, y, before, after ++ [x], by simp, hb, hy, fun z hz => ?_⟩
      rcases List.mem_append.mp hz with hz | hz
      · exact hafter z hz
      · rw [List.mem_singleton] at hz
        exact hz ▸ hx
    · obtain ⟨b, hb, hhas⟩ := (lapse_append_of_not has hx).mp h
      rcases List.eq_nil_or_concat xs with rfl | ⟨before, p, rfl⟩
      · cases hb
      · rw [List.concat_eq_append] at hb ⊢
        exact ⟨p, x, before, [], by simp, ⟨b, hb, hhas⟩, hx, by simp⟩

theorem Lapse.congr {has' : α → Prop} {xs : List α} (hiff : ∀ x ∈ xs, has x ↔ has' x)
    (h : Lapse has xs) : Lapse has' xs := by
  obtain ⟨before, x, after, rfl, ⟨b, hb, hhas⟩, hx⟩ := h
  refine ⟨before, x, after, rfl, ⟨b, hb, (hiff b (by simp [hb])).mp hhas⟩, fun hx' => hx ?_⟩
  exact (hiff x (by simp)).mpr hx'

theorem LastLapse.congr {has' : α → Prop} {xs : List α} {p x : α}
    (hiff : ∀ x ∈ xs, has x ↔ has' x) (h : LastLapse has xs p x) : LastLapse has' xs p x := by
  obtain ⟨before, after, rfl, ⟨b, hb, hhas⟩, hx, hafter⟩ := h
  have hbmem : b ∈ before ++ p :: x :: after := by
    rcases List.mem_append.mp hb with hb | hb
    · exact List.mem_append_left _ hb
    · rw [List.mem_singleton] at hb
      simp [hb]
  refine ⟨before, after, rfl, ⟨b, hb, (hiff b hbmem).mp hhas⟩, fun hx' => hx ?_, fun y hy => ?_⟩
  · exact (hiff x (by simp)).mpr hx'
  · exact (hiff y (by simp [hy])).mp (hafter y hy)

end Lapse

/-! ## Loads -/

namespace Store

/-- The keys that occur in the report, with lines as they are. -/
def LoadCall.exactKeys (c : LoadCall) : List IncidentKey :=
  c.rows.map IncidentRow.exactKey

/-- The loads of an application. -/
def callsOf (name : String) (calls : List LoadCall) : List LoadCall :=
  calls.filter fun c => c.app.name == name

/-- The solution of the incident is the one made from the commit of the first load to that of the
second, in the repository of the second. -/
def SolvedBetween (s : Store) (r : IncidentRow) (p c : LoadCall) : Prop :=
  ∃ path made, repositoryPath c.app = .ok path ∧ s.solutionOf r = some made ∧
    ((Producer.produce .textOnly (c.setup.repository path) p.app.commit c.app.commit r).exec []).1 =
      .ok made

/-- The incidents of an application are those that its loads lead to. -/
structure Tracks (name : String) (calls : List LoadCall) (s : Store) : Prop where
  numbered : Numbered s
  commit : (s.application? name).map Application.commit =
    calls.getLast?.map fun c => c.app.commit
  distinct : ((s.incidentsOf name).map IncidentRow.key).Nodup
  reported : ∀ r ∈ s.incidentsOf name, ∃ c ∈ calls, ∃ u ∈ c.rows, u.exactKey = r.exactKey
  known : ∀ c ∈ calls, ∀ k ∈ c.keys, k ∈ (s.incidentsOf name).map IncidentRow.key
  solved : ∀ r ∈ s.incidentsOf name,
    (r.solutionId.isSome = true ↔ Lapse (fun c => r.key ∈ c.keys) calls)
  solution : ∀ r ∈ s.incidentsOf name, ∀ p c,
    LastLapse (fun c => r.key ∈ c.keys) calls p c → SolvedBetween s r p c

theorem Tracks.empty (name : String) (checked : Bool) : Tracks name [] { checked } where
  numbered := Numbered.empty checked
  commit := rfl
  distinct := List.nodup_nil
  reported := by simp [incidentsOf]
  known := by simp
  solved := by simp [incidentsOf]
  solution := by simp [incidentsOf]

/-! ## What one load keeps -/

section Step

variable {setup : LoadSetup} {app : Application} {report : Report} {s t : Store} {path : String}
  {rows : List IncidentRow} {found : Detection} {made : List Solution} {name : String}
  {calls : List LoadCall}

theorem application_of_mem_reportRows {application : String}
    (h : reportRows application report = .ok rows) {r : IncidentRow} (hr : r ∈ rows) :
    r.application = application := by
  obtain ⟨ruleset, -, v, -, i, -, hrow⟩ := (mem_reportRows h).mp hr
  obtain ⟨vars, -, rfl⟩ := rowOf_eq_ok.mp hrow
  rfl

theorem Loaded.found_eq (h : Loaded setup app report s path rows found made t)
    (hkind : setup.detector = .naive) :
    found = Detection.naive (s.incidentsOf app.name) rows := by
  have hdetected := h.detected
  rw [hkind] at hdetected
  cases hdetected
  rfl

/-- Detection by keys moves no line, so of an old incident only the solution can change. -/
theorem Loaded.settled_naive (h : Loaded setup app report s path rows found made t)
    (hkind : setup.detector = .naive) (hs : Numbered s) {r : IncidentRow} (hr : r ∈ s.incidents) :
    ∃ solutionId, settled s found made r = { r with solutionId } := by
  have hunsolved : ∀ u ∈ found.unsolved, u ∈ s.incidents := by
    intro u hu
    rw [h.found_eq hkind] at hu
    exact (mem_incidentsOf.mp (Detection.mem_of_mem_naive_unsolved hu)).1
  rw [settled, relined_eq_self hs.incidentIds hunsolved hr]
  exact assigned_eq _ _ _

/-- The incidents of each application after a load: its old ones, then the new ones if it is the
application that was loaded. -/
theorem Loaded.incidentsOf_eq (h : Loaded setup app report s path rows found made t)
    (name : String) :
    t.incidentsOf name = (s.incidentsOf name).map (settled s found made) ++
      if app.name = name then
        numbered (nextId (s.incidents.map IncidentRow.id)) found.fresh
      else [] := by
  have hold : (s.incidents.map (settled s found made)).filter (fun r => r.application == name) =
      (s.incidentsOf name).map (settled s found made) := by
    rw [incidentsOf, List.filter_map]
    congr 2
    funext r
    obtain ⟨line, solutionId, heq⟩ := settled_eq s found made r
    rw [Function.comp_apply, heq]
  have hnew : ∀ r ∈ numbered (nextId (s.incidents.map IncidentRow.id)) found.fresh,
      r.application = app.name := by
    intro r hr
    obtain ⟨r₀, hr₀, i, -, rfl⟩ := exists_of_mem_numbered hr
    exact application_of_mem_reportRows (r := r₀) h.gathered
      (Detection.fresh_subset_of_detect h.detected r₀ hr₀)
  rw [incidentsOf, h.incidents_eq, List.filter_append, hold]
  congr 1
  split
  · next hname =>
    rw [List.filter_eq_self]
    intro r hr
    rw [beq_iff_eq, hnew r hr, hname]
  · next hname =>
    rw [List.filter_eq_nil_iff]
    intro r hr
    rw [beq_iff_eq, hnew r hr]
    exact hname

/-- A load of another application changes nothing of an application. -/
theorem Tracks.step_other (htracks : Tracks name calls s)
    (h : Loaded setup app report s path rows found made t) (ht : Numbered t)
    (hkind : setup.detector = .naive) (hne : app.name ≠ name) : Tracks name calls t := by
  have hs := htracks.numbered
  have hnotSolved : ∀ r ∈ s.incidentsOf name, r ∉ found.solved := by
    intro r hr hsolved
    have happ := (mem_incidentsOf.mp (h.solved_subset r hsolved)).2
    exact hne (happ.symm.trans (mem_incidentsOf.mp hr).2)
  have hkept : ∀ r ∈ s.incidentsOf name, settled s found made r = r := by
    intro r hr
    have hmem := (mem_incidentsOf.mp hr).1
    obtain ⟨solutionId, heq⟩ := h.settled_naive hkind hs hmem
    have hsame := (h.settled_unsolved hs hmem (hnotSolved r hr)).1
    rw [heq] at hsame ⊢
    rw [show solutionId = r.solutionId from hsame]
  have hrows : t.incidentsOf name = s.incidentsOf name := by
    rw [h.incidentsOf_eq name, if_neg hne, List.append_nil, List.map_congr_left hkept, List.map_id']
  refine ⟨ht, ?_, ?_, ?_, ?_, ?_, ?_⟩
  · rw [h.application?_other hne.symm]
    exact htracks.commit
  · rw [hrows]
    exact htracks.distinct
  · rw [hrows]
    exact htracks.reported
  · rw [hrows]
    exact htracks.known
  · rw [hrows]
    exact htracks.solved
  · rw [hrows]
    intro r hr p c hlast
    obtain ⟨path', made', hpath, hmade, hproduce⟩ := htracks.solution r hr p c hlast
    have hsame := (h.settled_unsolved hs (mem_incidentsOf.mp hr).1 (hnotSolved r hr)).2
    rw [hkept r hr] at hsame
    exact ⟨path', made', hpath, hsame.trans hmade, hproduce⟩

/-- What has become of an incident of an application after one of its reports was loaded. -/
inductive Became (c : LoadCall) (s t : Store) (path : String) (x : IncidentRow) : Prop
  /-- An old one whose key is in the report keeps its solution, if it has one. -/
  | kept {r : IncidentRow} (hr : r ∈ s.incidentsOf c.app.name) (hkey : x.exactKey = r.exactKey)
    (hin : r.key ∈ c.keys) (hid : x.solutionId = r.solutionId)
    (hsame : t.solutionOf x = s.solutionOf r) : Became c s t path x
  /-- Any other old one gets the solution made from the stored commit. -/
  | resolved {r : IncidentRow} {made : Solution} (hr : r ∈ s.incidentsOf c.app.name)
    (hkey : x.exactKey = r.exactKey) (hout : r.key ∉ c.keys) (hmade : t.solutionOf x = some made)
    (hproduce : ((Producer.produce .textOnly (c.setup.repository path)
      (s.applicationAt c.app).commit c.app.commit x).exec []).1 = .ok made) : Became c s t path x
  /-- A new one has a key that was not stored, and no solution. -/
  | fresh {u : IncidentRow} (hu : u ∈ c.rows) (hkey : x.exactKey = u.exactKey)
    (hnot : u.key ∉ (s.incidentsOf c.app.name).map IncidentRow.key) (hnone : x.solutionId = none) :
    Became c s t path x

theorem Loaded.became {c : LoadCall} (h : Loaded c.setup c.app c.report s path c.rows found made t)
    (hdetector : c.setup.detector = .naive) (hproducer : c.setup.producer = .textOnly)
    (hs : Numbered s) (hold : ((s.incidentsOf c.app.name).map IncidentRow.key).Nodup)
    (hnew : c.keys.Nodup) {x : IncidentRow} (hx : x ∈ t.incidentsOf c.app.name) :
    Became c s t path x := by
  obtain ⟨hfresh, hsolved⟩ := Detection.naive_of_nodup hold hnew
  rw [← h.found_eq hdetector] at hfresh hsolved
  rw [h.incidentsOf_eq, if_pos rfl, List.mem_append] at hx
  rcases hx with hx | hx
  · obtain ⟨r, hr, rfl⟩ := List.mem_map.mp hx
    have hmem := (mem_incidentsOf.mp hr).1
    obtain ⟨solutionId, heq⟩ := h.settled_naive hdetector hs hmem
    have hexact : (settled s found made r).exactKey = r.exactKey := by
      rw [heq]
      rfl
    by_cases hkey : r.key ∈ c.keys
    · have hnot : r ∉ found.solved := by
        rw [hsolved, List.mem_filter]
        simp only [decide_eq_true_eq]
        exact fun hc => hc.2 hkey
      obtain ⟨hid, hsame⟩ := h.settled_unsolved hs hmem hnot
      exact .kept hr hexact hkey hid hsame
    · have hin : r ∈ found.solved := by
        rw [hsolved, List.mem_filter, decide_eq_true_eq]
        exact ⟨hr, hkey⟩
      obtain ⟨j, made', hid, -, hmade, hfor⟩ := h.settled_solved hs hin
      refine .resolved hr hexact hkey (by rw [solutionOf, hid]; exact hmade) ?_
      rw [Producer.produce_fst, heq, ← hproducer]
      exact hfor
  · obtain ⟨u, hu, i, -, rfl⟩ := exists_of_mem_numbered hx
    rw [hfresh, List.mem_filter, decide_eq_true_eq] at hu
    exact .fresh hu.1 rfl hu.2 (solutionId_of_mem_reportRows (r := u) h.gathered hu.1)

/-- The keys of an application after one of its reports was loaded: the old ones, then the new. -/
theorem Loaded.own_keys {c : LoadCall} (h : Loaded c.setup c.app c.report s path c.rows found made t)
    (hdetector : c.setup.detector = .naive) (hs : Numbered s)
    (hold : ((s.incidentsOf c.app.name).map IncidentRow.key).Nodup) (hnew : c.keys.Nodup) :
    (t.incidentsOf c.app.name).map IncidentRow.key =
      (s.incidentsOf c.app.name).map IncidentRow.key ++
        c.keys.filter fun k => k ∉ (s.incidentsOf c.app.name).map IncidentRow.key := by
  obtain ⟨hfresh, -⟩ := Detection.naive_of_nodup hold hnew
  rw [← h.found_eq hdetector] at hfresh
  rw [h.incidentsOf_eq, if_pos rfl, List.map_append, List.map_map, hfresh,
    numbered_map_of_eq (fun r i => rfl), LoadCall.keys, List.filter_map]
  congr 1
  refine List.map_congr_left fun r hr => ?_
  obtain ⟨solutionId, heq⟩ := h.settled_naive hdetector hs (mem_incidentsOf.mp hr).1
  rw [Function.comp_apply, heq]
  rfl

/-- A key that is not stored was in no report. -/
theorem Tracks.unknown (htracks : Tracks name calls s) {k : IncidentKey}
    (hnot : k ∉ (s.incidentsOf name).map IncidentRow.key) : ∀ b ∈ calls, k ∉ b.keys :=
  fun b hb hkey => hnot (htracks.known b hb k hkey)

section Became

variable {c : LoadCall} {x : IncidentRow}

theorem Became.reported (htracks : Tracks c.app.name calls s) (h : Became c s t path x) :
    ∃ d ∈ calls ++ [c], ∃ u ∈ d.rows, u.exactKey = x.exactKey := by
  have hold : ∀ r ∈ s.incidentsOf c.app.name, x.exactKey = r.exactKey →
      ∃ d ∈ calls ++ [c], ∃ u ∈ d.rows, u.exactKey = x.exactKey := by
    intro r hr hkey
    obtain ⟨d, hd, u, hu, heq⟩ := htracks.reported r hr
    exact ⟨d, List.mem_append_left _ hd, u, hu, heq.trans hkey.symm⟩
  cases h with
  | kept hr hkey => exact hold _ hr hkey
  | resolved hr hkey => exact hold _ hr hkey
  | fresh hu hkey => exact ⟨c, by simp, _, hu, hkey.symm⟩

/-- An incident has a solution if and only if its key has lapsed, by this load or before. -/
theorem Became.solved_iff (htracks : Tracks c.app.name calls s) (h : Became c s t path x) :
    x.solutionId.isSome = true ↔ Lapse (fun d : LoadCall => x.key ∈ d.keys) (calls ++ [c]) := by
  cases h with
  | @kept r hr hkey hin hid hsame =>
    rw [IncidentRow.key_eq_of_exactKey hkey, hid, htracks.solved r hr]
    exact (lapse_append_of_has (fun d : LoadCall => r.key ∈ d.keys) hin).symm
  | @resolved r made hr hkey hout hmade hproduce =>
    rw [IncidentRow.key_eq_of_exactKey hkey,
      lapse_append_of_not (fun d : LoadCall => r.key ∈ d.keys) hout]
    obtain ⟨i, hi, -⟩ := Option.bind_eq_some_iff.mp hmade
    obtain ⟨d, hd, u, hu, heq⟩ := htracks.reported r hr
    have hrec : r.key ∈ d.keys := IncidentRow.key_eq_of_exactKey heq ▸ List.mem_map_of_mem hu
    exact ⟨fun _ => ⟨d, hd, hrec⟩, fun _ => by rw [hi]; rfl⟩
  | @fresh u hu hkey hnot hnone =>
    rw [hnone, IncidentRow.key_eq_of_exactKey hkey,
      lapse_append_of_has (fun d : LoadCall => u.key ∈ d.keys) (List.mem_map_of_mem hu)]
    refine ⟨fun h => by simp at h, ?_⟩
    -- no report has had the key of a new incident, so it cannot have lapsed
    rintro ⟨before, d, after, rfl, ⟨b, hb, hin⟩, -⟩
    exact absurd hin (htracks.unknown hnot b (List.mem_append_left _ hb))

/-- The solution of an incident was made when its key lapsed last. -/
theorem Became.solution (htracks : Tracks c.app.name calls s) (hpath : repositoryPath c.app = .ok path)
    (h : Became c s t path x) {p d : LoadCall}
    (hlast : LastLapse (fun d : LoadCall => x.key ∈ d.keys) (calls ++ [c]) p d) :
    SolvedBetween t x p d := by
  cases h with
  | @kept r hr hkey hin hid hsame =>
    rw [IncidentRow.key_eq_of_exactKey hkey] at hlast
    have hbefore := lastLapse_append_of_has (fun d : LoadCall => r.key ∈ d.keys) hin hlast
    obtain ⟨path', made, hlocated, hmade, hproduce⟩ := htracks.solution r hr p d hbefore
    refine ⟨path', made, hlocated, hsame.trans hmade, ?_⟩
    rw [Producer.produce_fst] at hproduce ⊢
    rw [← hproduce, show x.uri = r.uri from congrArg (fun k => k.place.uri) hkey]
  | @resolved r made hr hkey hout hmade hproduce =>
    rw [IncidentRow.key_eq_of_exactKey hkey] at hlast
    -- the load itself is the last that lacks the key
    obtain ⟨hp, rfl⟩ := lastLapse_append_of_not (fun d : LoadCall => r.key ∈ d.keys) hout hlast
    have hcommit := htracks.commit
    rw [hp] at hcommit
    obtain ⟨a, ha, hac⟩ := Option.map_eq_some_iff.mp hcommit
    have hstored : (s.applicationAt d.app).commit = p.app.commit := by
      rw [applicationAt, ha]
      exact hac
    rw [hstored] at hproduce
    exact ⟨path, made, hpath, hmade, hproduce⟩
  | @fresh u hu hkey hnot hnone =>
    rw [IncidentRow.key_eq_of_exactKey hkey] at hlast
    have hin : u.key ∈ c.keys := List.mem_map_of_mem hu
    obtain ⟨before, after, rfl, ⟨b, hb, hbin⟩, -⟩ :=
      lastLapse_append_of_has (fun d : LoadCall => u.key ∈ d.keys) hin hlast
    refine absurd hbin (htracks.unknown hnot b ?_)
    rcases List.mem_append.mp hb with hb | hb
    · exact List.mem_append_left _ hb
    · rw [List.mem_singleton] at hb
      simp [hb]

end Became

/-- A load of an application carries its history on. -/
theorem Tracks.step_own {c : LoadCall} (htracks : Tracks c.app.name calls s)
    (h : Loaded c.setup c.app c.report s path c.rows found made t) (ht : Numbered t)
    (hdetector : c.setup.detector = .naive) (hproducer : c.setup.producer = .textOnly)
    (hnew : c.keys.Nodup) : Tracks c.app.name (calls ++ [c]) t := by
  have hs := htracks.numbered
  have hold := htracks.distinct
  have hkeys := h.own_keys hdetector hs hold hnew
  have hbecame := fun x hx => h.became (x := x) hdetector hproducer hs hold hnew hx
  refine ⟨ht, ?_, ?_, fun x hx => (hbecame x hx).reported htracks, ?_,
    fun x hx => (hbecame x hx).solved_iff htracks,
    fun x hx p d hlast => (hbecame x hx).solution htracks h.located hlast⟩
  · rw [h.application?_self, List.getLast?_concat]
    rfl
  · rw [hkeys, List.nodup_append]
    refine ⟨hold, hnew.filter _, fun a ha b hb hab => ?_⟩
    rw [List.mem_filter, decide_eq_true_eq] at hb
    exact hb.2 (hab ▸ ha)
  · intro d hd k hk
    rw [hkeys, List.mem_append, List.mem_filter, decide_eq_true_eq]
    by_cases hin : k ∈ (s.incidentsOf c.app.name).map IncidentRow.key
    · exact .inl hin
    · rcases List.mem_append.mp hd with hd | hd
      · exact .inl (htracks.known d hd k hk)
      · rw [List.mem_singleton] at hd
        exact .inr ⟨hd ▸ hk, hin⟩

end Step

/-! ## Runs of loads -/

theorem loaded_of_run {c : LoadCall} {s t : Store} {counts : LoadCounts}
    (h : c.run.exec s = (.ok counts, t)) :
    ∃ path found made, Loaded c.setup c.app c.report s path c.rows found made t := by
  obtain ⟨path, rows, found, made, hloaded⟩ := load_eq_ok h
  have hrows : c.rows = rows := by rw [LoadCall.rows, hloaded.gathered]
  exact ⟨path, found, made, hrows ▸ hloaded⟩

theorem callsOf_append (name : String) (calls : List LoadCall) (c : LoadCall) :
    callsOf name (calls ++ [c]) =
      if c.app.name = name then callsOf name calls ++ [c] else callsOf name calls := by
  rw [callsOf, List.filter_append]
  split
  · next h => simp [callsOf, h]
  · next h => simp [callsOf, h]

/-- A run of loads by keys leads to the incidents that the reports of each application determine. -/
theorem tracks_run {name : String} {calls : List LoadCall} {counts : List LoadCounts} {s : Store}
    {checked : Bool} (hrun : (calls.mapM LoadCall.run).exec { checked } = (.ok counts, s))
    (hkinds : ∀ c ∈ calls, c.setup.detector = .naive ∧ c.setup.producer = .textOnly)
    (hkeys : ∀ c ∈ callsOf name calls, c.keys.Nodup) : Tracks name (callsOf name calls) s := by
  induction calls using List.reverseRecOn generalizing counts s with
  | nil =>
    cases hrun
    exact Tracks.empty name checked
  | append_singleton calls c ih =>
    rw [List.mapM_append] at hrun
    obtain ⟨counts₁, s₁, hrun₁, hrest⟩ := Action.exec_bind_eq_ok.mp hrun
    obtain ⟨counts₂, s₂, hrun₂, hpure⟩ := Action.exec_bind_eq_ok.mp hrest
    cases hpure
    rw [List.mapM_cons] at hrun₂
    obtain ⟨n, s₃, hload, hnil⟩ := Action.exec_bind_eq_ok.mp hrun₂
    cases hnil
    obtain ⟨hdetector, hproducer⟩ := hkinds c (by simp)
    rw [callsOf_append] at hkeys ⊢
    have hkeysBefore : ∀ d ∈ callsOf name calls, d.keys.Nodup := by
      intro d hd
      apply hkeys d
      split
      · exact List.mem_append_left _ hd
      · exact hd
    have htracks := ih hrun₁ (fun d hd => hkinds d (List.mem_append_left _ hd)) hkeysBefore
    have hnumbered := htracks.numbered.load c.setup c.app c.report
    have hexec : (load c.setup c.app c.report).exec s₁ = (.ok n, s) := hload
    rw [hexec] at hnumbered
    obtain ⟨path, found, made, hloaded⟩ := loaded_of_run hload
    by_cases hname : c.app.name = name
    · subst hname
      rw [if_pos rfl] at hkeys ⊢
      exact htracks.step_own hloaded hnumbered hdetector hproducer (hkeys c (by simp))
    · rw [if_neg hname]
      exact htracks.step_other hloaded hnumbered hdetector hname

/-- Different keys with lines as they are give different keys, if keys tell the rows apart. -/
theorem LoadCall.nodup_keys {c : LoadCall}
    (hhash : ∀ r ∈ c.rows, ∀ u ∈ c.rows, r.key = u.key → r.exactKey = u.exactKey)
    (h : c.exactKeys.Nodup) : c.keys.Nodup := by
  rw [LoadCall.exactKeys, List.Nodup, List.pairwise_map] at h
  rw [LoadCall.keys, List.Nodup, List.pairwise_map]
  exact h.imp_of_mem fun {r u} hr hu hne heq => hne (hhash r hr u hu heq)

/-- **Incidents follow the history of their application.** After any run of loads that succeed, by
keys and without summaries, in which no report of the application has a key twice, the incidents of
the application carry exactly the keys of its reports, one each. An incident is solved if and only if
a report lacks its key after another had it, and then there is a last such report; its solution is
the one made by the load of that report, from the commit of the load before to its own. The keys
that are compared are taken to tell the rows of the reports apart. -/
theorem incidents_follow_history {name : String} {calls : List LoadCall} {counts : List LoadCounts}
    {s : Store} {checked : Bool}
    (hrun : (calls.mapM LoadCall.run).exec { checked } = (.ok counts, s))
    (hkinds : ∀ c ∈ calls, c.setup.detector = .naive ∧ c.setup.producer = .textOnly)
    (hdistinct : ∀ c ∈ callsOf name calls, c.exactKeys.Nodup)
    (hhash : ∀ c ∈ callsOf name calls, ∀ d ∈ callsOf name calls, ∀ r ∈ c.rows, ∀ u ∈ d.rows,
      r.key = u.key → r.exactKey = u.exactKey) :
    ((s.incidentsOf name).map IncidentRow.exactKey).Nodup ∧
    (∀ k, k ∈ (s.incidentsOf name).map IncidentRow.exactKey ↔
      ∃ c ∈ callsOf name calls, k ∈ c.exactKeys) ∧
    ∀ r ∈ s.incidentsOf name,
      (r.solutionId.isSome = true ↔
        Lapse (fun c : LoadCall => r.exactKey ∈ c.exactKeys) (callsOf name calls)) ∧
      (r.solutionId.isSome = true →
        ∃ p c, LastLapse (fun c : LoadCall => r.exactKey ∈ c.exactKeys) (callsOf name calls) p c) ∧
      ∀ p c, LastLapse (fun c : LoadCall => r.exactKey ∈ c.exactKeys) (callsOf name calls) p c →
        SolvedBetween s r p c := by
  have htracks := tracks_run hrun hkinds fun c hc =>
    LoadCall.nodup_keys (hhash c hc c hc) (hdistinct c hc)
  -- For a stored incident both kinds of key say the same about a report.
  have hreports : ∀ r ∈ s.incidentsOf name, ∀ c ∈ callsOf name calls,
      r.key ∈ c.keys ↔ r.exactKey ∈ c.exactKeys := by
    intro r hr c hc
    obtain ⟨d, hd, u, hu, heq⟩ := htracks.reported r hr
    constructor
    · intro hkey
      obtain ⟨v, hv, hvk⟩ := List.mem_map.mp hkey
      have hexact := hhash c hc d hd v hv u hu
        (hvk.trans (IncidentRow.key_eq_of_exactKey heq).symm)
      exact List.mem_map.mpr ⟨v, hv, hexact.trans heq⟩
    · intro hkey
      obtain ⟨v, hv, hvk⟩ := List.mem_map.mp hkey
      exact List.mem_map.mpr ⟨v, hv, IncidentRow.key_eq_of_exactKey hvk⟩
  have hsolved : ∀ r ∈ s.incidentsOf name, (r.solutionId.isSome = true ↔
      Lapse (fun c : LoadCall => r.exactKey ∈ c.exactKeys) (callsOf name calls)) := by
    intro r hr
    rw [htracks.solved r hr]
    exact ⟨fun h => h.congr (hreports r hr), fun h => h.congr fun c hc => (hreports r hr c hc).symm⟩
  refine ⟨?_, fun k => ⟨?_, ?_⟩, fun r hr => ⟨hsolved r hr, ?_, fun p c hlast => ?_⟩⟩
  · have hkeys := htracks.distinct
    rw [List.Nodup, List.pairwise_map] at hkeys ⊢
    exact hkeys.imp fun hne heq => hne (IncidentRow.key_eq_of_exactKey heq)
  · intro hk
    obtain ⟨r, hr, rfl⟩ := List.mem_map.mp hk
    obtain ⟨c, hc, u, hu, heq⟩ := htracks.reported r hr
    exact ⟨c, hc, heq ▸ List.mem_map_of_mem hu⟩
  · rintro ⟨c, hc, hk⟩
    obtain ⟨v, hv, rfl⟩ := List.mem_map.mp hk
    obtain ⟨r, hr, hrk⟩ := List.mem_map.mp (htracks.known c hc v.key (List.mem_map_of_mem hv))
    obtain ⟨d, hd, u, hu, heq⟩ := htracks.reported r hr
    have hexact := hhash d hd c hc u hu v hv ((IncidentRow.key_eq_of_exactKey heq).trans hrk)
    exact List.mem_map.mpr ⟨r, hr, heq.symm.trans hexact⟩
  · exact fun h => ((hsolved r hr).mp h).exists_last
  · exact htracks.solution r hr p c (hlast.congr fun d hd => (hreports r hr d hd).symm)

/-! ## An example -/

/-- Loading by keys and without summaries, from a repository whose differences name the commits. -/
def plainSetup : LoadSetup where
  repository := fun _ => {
    difference := fun old new _ => .ok (old.getD "" ++ ".." ++ new.getD "") }
  source := Detection.SourceKnowledge.none

/-- A plain load of a report that has incidents of one rule. -/
def plainCall (name commit : String) (incidents : List Incident) : LoadCall where
  setup := plainSetup
  app := {
    name, origin := "origin", localUri := "file:///work", branch := "main", commit
    generatedAt := some ⟨⟨2024, 1, 1, 0, 0, 0⟩, 0, none⟩ }
  report := { id := commit, rulesets := [
    { name := some "rules", violations := [("rule", { incidents })] }] }

/-- An incident on a line. -/
def plainIncident (line : Int) (vars : Fields) : Incident where
  uri := "file:///work/A.java"
  message := "found"
  line := line
  vars := vars

/-- Two applications. In the first one incident comes, goes, comes back together with another one,
and both go. -/
def twoApplications : List LoadCall :=
  [plainCall "a" "c1" [plainIncident 3 []],
   plainCall "b" "d1" [plainIncident 3 []],
   plainCall "a" "c2" [],
   plainCall "a" "c3" [plainIncident 3 [], plainIncident 5 []],
   plainCall "b" "d2" [],
   plainCall "a" "c4" []]

theorem history_of_two_applications :
    let run := (twoApplications.mapM LoadCall.run).exec {}
    run.1 = .ok [⟨1, 0, 0⟩, ⟨1, 0, 0⟩, ⟨0, 0, 1⟩, ⟨1, 1, 0⟩, ⟨0, 0, 1⟩, ⟨0, 0, 2⟩] ∧
    (run.2.incidentsOf "a").map (fun r => (r.line, (run.2.solutionOf r).map Solution.fileDiff)) =
      [(3, some "c3..c4"), (5, some "c3..c4")] ∧
    (∀ k, k ∈ (run.2.incidentsOf "a").map IncidentRow.exactKey ↔
      ∃ c ∈ callsOf "a" twoApplications, k ∈ c.exactKeys) ∧
    ∀ r ∈ run.2.incidentsOf "a", ∀ p c,
      LastLapse (fun c : LoadCall => r.exactKey ∈ c.exactKeys) (callsOf "a" twoApplications) p c →
        SolvedBetween run.2 r p c := by
  have hok : ((twoApplications.mapM LoadCall.run).exec {}).1 =
      .ok [⟨1, 0, 0⟩, ⟨1, 0, 0⟩, ⟨0, 0, 1⟩, ⟨1, 1, 0⟩, ⟨0, 0, 1⟩, ⟨0, 0, 2⟩] := by decide +kernel
  have hrun := Action.exec_eq_of_fst hok
  have hdistinct : ∀ c ∈ callsOf "a" twoApplications, c.exactKeys.Nodup := by decide +kernel
  have hhash : ∀ c ∈ callsOf "a" twoApplications, ∀ d ∈ callsOf "a" twoApplications,
      ∀ r ∈ c.rows, ∀ u ∈ d.rows, r.key = u.key → r.exactKey = u.exactKey := by decide +kernel
  obtain ⟨-, hkeys, hrows⟩ := incidents_follow_history hrun (by decide) hdistinct hhash
  exact ⟨hok, by decide +kernel, hkeys, fun r hr => (hrows r hr).2.2⟩

end Store
end Remedy
