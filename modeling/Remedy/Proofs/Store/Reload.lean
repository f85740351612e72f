import Remedy.Proofs.Store.Distinct

/-!
# Loading a report again

A report may be loaded again: because it comes twice, or because its load has failed. What it names
is there then, so entering it changes nothing, and each of its keys belongs to a stored incident.

If the first load came to its end, the second one finds each key of the report once. An incident
that repeats another one of the report is taken for a new one each time. If the first load failed
when it made the solutions, it has written all that comes before them. A load that is tried again
finds the same incidents solved, has the same commit to start from and leaves the store that it
would have left at once.

Main results:

* `withReport_of_stored`: entering what is there changes nothing.
* `naive_unsolved_keys`: when all new keys are old, each is found once.
* `reload_adds_repeats`: what loading a report twice adds.
* `load_compared`: loading a report whose incidents have been taken in already.
* `retries_converge`: a load that succeeds after it has failed.
-/

namespace Remedy

namespace Detection

variable {old new : List IncidentRow}

/-- Matching by keys hands on the keys of the new incidents. -/
theorem naive_keys_perm (old new : List IncidentRow) :
    (((naive old new).unsolved ++ (naive old new).fresh).map IncidentRow.key).Perm
      (new.map IncidentRow.key) :=
  (matched_run (keyed_byKey old) new fun _ _ _ _ hk => hk).marks

/-- Matching by keys hands on one old incident for each key. -/
theorem naive_rows_perm (old new : List IncidentRow) :
    ((naive old new).unsolved ++ (naive old new).solved).Perm ((byKey old).map Prod.snd) :=
  (@matched_run Unit (fun _ => ()) _ (keyed_byKey old) new fun _ _ _ _ _ => rfl).rows

/-- When all new keys are old, each of them is found once. -/
theorem naive_unsolved_keys (h : ∀ k ∈ new.map IncidentRow.key, k ∈ old.map IncidentRow.key) :
    ((naive old new).unsolved.map IncidentRow.key).Perm (new.map IncidentRow.key).dedup := by
  have hrows := naive_rows_perm old new
  -- each unsolved incident was taken from the table, which has each key once
  have hnodup : ((naive old new).unsolved.map IncidentRow.key).Nodup := by
    have hall := (hrows.map IncidentRow.key).nodup_iff.mpr (nodup_byKey_rows old)
    rw [List.map_append, List.nodup_append] at hall
    exact hall.1
  refine (List.perm_ext_iff_of_nodup hnodup (List.nodup_dedup _)).mpr fun k => ?_
  rw [List.mem_dedup]
  constructor
  · intro hk
    refine (naive_keys_perm old new).subset ?_
    rw [List.map_append]
    exact List.mem_append_left _ hk
  · intro hk
    have hin : k ∈ ((byKey old).map Prod.snd).map IncidentRow.key := by
      rw [(keyed_byKey old).map_key, mem_keys_byKey]
      exact h k hk
    obtain ⟨r, hr, rfl⟩ := List.mem_map.mp hin
    -- the incident of the table that has the key cannot be left over
    rcases List.mem_append.mp (hrows.symm.subset hr) with hr | hr
    · exact List.mem_map_of_mem hr
    · exact absurd hk (mem_naive_solved.mp hr).2

/-- When all new keys are old, the fresh incidents are those that repeat another new one. -/
theorem naive_fresh_keys (h : ∀ k ∈ new.map IncidentRow.key, k ∈ old.map IncidentRow.key) :
    ((naive old new).fresh.map IncidentRow.key ++ (new.map IncidentRow.key).dedup).Perm
      (new.map IncidentRow.key) := by
  have hall := naive_keys_perm old new
  rw [List.map_append] at hall
  exact (List.perm_append_comm.trans ((naive_unsolved_keys h).symm.append_right _)).trans hall

/-- When all new keys are old, nothing is fresh if and only if no two new incidents share a key. -/
theorem naive_fresh_eq_nil (h : ∀ k ∈ new.map IncidentRow.key, k ∈ old.map IncidentRow.key) :
    (naive old new).fresh = [] ↔ (new.map IncidentRow.key).Nodup := by
  have hkeys := naive_fresh_keys h
  constructor
  · intro hnone
    rw [hnone, List.map_nil, List.nil_append] at hkeys
    exact hkeys.nodup_iff.mp (List.nodup_dedup _)
  · intro hnodup
    have hlength := hkeys.length_eq
    rw [hnodup.dedup, List.length_append, List.length_map] at hlength
    exact List.eq_nil_of_length_eq_zero (by omega)

/-- An old key that is not new is that of a solved incident. -/
theorem exists_naive_solved {k : IncidentKey} (hold : k ∈ old.map IncidentRow.key)
    (hnew : k ∉ new.map IncidentRow.key) : ∃ r ∈ (naive old new).solved, r.key = k := by
  rw [← mem_keys_byKey] at hold
  obtain ⟨e, he, rfl⟩ := List.mem_map.mp hold
  obtain ⟨hown, hlast⟩ := mem_byKey.mp he
  exact ⟨e.2, mem_naive_solved.mpr ⟨hlast, hown ▸ hnew⟩, hown⟩

end Detection

/-- The counts of a load whose new incidents are there already. -/
def LoadCounts.known (n : LoadCounts) : LoadCounts :=
  ⟨0, n.fresh + n.unsolved, n.solved⟩

namespace Store

open Remedy.Action

variable {setup : LoadSetup} {app : Application} {report : Report} {s t : Store} {path : String}
  {rows : List IncidentRow}

/-! ## Entering again -/

/-- What the report names is there. -/
def Entry.Stored (s : Store) : Entry → Prop
  | .ruleset r => s.hasRuleset r.name = true
  | .violation r name _ => s.hasViolation name r.name = true

theorem Entry.Stored.congr {e : Entry} (h : e.Stored s) (hrulesets : t.rulesets = s.rulesets)
    (hviolations : t.violations = s.violations) : e.Stored t := by
  cases e with
  | ruleset r =>
    show t.rulesets.any _ = true
    rw [hrulesets]
    exact h
  | violation r name v =>
    show t.violations.any _ = true
    rw [hviolations]
    exact h

theorem Entry.enter_of_stored {e : Entry} (h : e.Stored s) : Entry.enter s e = s := by
  cases e with
  | ruleset r => exact if_pos h
  | violation r name v => exact if_pos h

/-- Entering what is there changes nothing. -/
theorem withReport_of_stored {a : Application} (happ : s.application? app.name = some a)
    (h : ∀ e ∈ entries report, e.Stored s) : s.withReport app report = s := by
  have hall : ∀ done : List Entry, (∀ e ∈ done, e.Stored s) → done.foldl Entry.enter s = s := by
    intro done hdone
    induction done with
    | nil => rfl
    | cons e rest ih =>
      rw [List.foldl_cons, Entry.enter_of_stored (hdone e List.mem_cons_self)]
      exact ih fun e' he' => hdone e' (List.mem_cons_of_mem _ he')
  obtain ⟨done, hinitial, -, hstate, -⟩ := gather_exec_entries app.name report s
  rw [withReport, withApplication, happ, hstate]
  exact hall done fun e he => h e (hinitial.subset he)

/-- Nothing keeps a load from comparing its report: the repository is found, the rows of the
application and its rule sets are admitted, and those of the incidents can be made. -/
structure Ready (app : Application) (report : Report) (path : String) (rows : List IncidentRow)
    (s : Store) : Prop where
  located : repositoryPath app = .ok path
  admitted : s.admits app
  named : ∀ r ∈ report.rulesets, s.admitsRuleset r.name
  gathered : reportRows app.name report = .ok rows

/-- Of the store it matters only whether rows are checked. -/
theorem Ready.congr (h : Ready app report path rows s) (hchecked : t.checked = s.checked) :
    Ready app report path rows t where
  located := h.located
  admitted := (admits_congr hchecked app).trans h.admitted
  named := fun r hr => (admitsRuleset_congr hchecked r.name).trans (h.named r hr)
  gathered := h.gathered

theorem Ready.gatheredRows_eq (h : Ready app report path rows s) :
    gatheredRows s app.name report = .ok rows :=
  gatheredRows_eq_ok.mpr ⟨h.named, h.gathered⟩

theorem Loaded.ready {found : Detection} {made : List Solution}
    (h : Loaded setup app report s path rows found made t) : Ready app report path rows s :=
  ⟨h.located, h.admitted, h.named, h.gathered⟩

/-- A report whose rows can be made has been entered as a whole. -/
theorem Ready.stored_withReport (h : Ready app report path rows s) :
    ∀ e ∈ entries report, e.Stored (s.withReport app report) := by
  have hrows : ((gather app.name report).exec (s.withApplication app)).1 = .ok rows := by
    rw [gather_fst, gatheredRows_congr (withApplication_checked s app), h.gatheredRows_eq]
  have hexec : (gather app.name report).exec (s.withApplication app) =
      (.ok rows, s.withReport app report) := Prod.ext hrows rfl
  have hstored := gather_enters hexec
  intro e he
  obtain ⟨r, hr, he⟩ := List.mem_flatMap.mp he
  rcases List.mem_cons.mp he with rfl | he
  · exact (hstored r hr).1
  · obtain ⟨v, hv, rfl⟩ := List.mem_map.mp he
    exact (hstored r hr).2 v hv

/-! ## Comparing again -/

/-- The store once the incidents of a report have been compared by keys and taken in. -/
def compared (s : Store) (app : Application) (report : Report) (rows : List IncidentRow) : Store :=
  (s.withReport app report).arrive (Detection.naive (s.incidentsOf app.name) rows)

theorem compared_checked (s : Store) (app : Application) (report : Report)
    (rows : List IncidentRow) : (s.compared app report rows).checked = s.checked :=
  withReport_checked s app report

theorem naive_unsolved_mem {name : String} {r : IncidentRow}
    (hr : r ∈ (Detection.naive (s.incidentsOf name) rows).unsolved) : r ∈ s.incidents :=
  (mem_incidentsOf.mp (Detection.mem_of_mem_naive_unsolved hr)).1

/-- New incidents follow after the old ones, which stay as they are. -/
theorem compared_incidents (hids : (s.incidents.map IncidentRow.id).Nodup) (app : Application)
    (report : Report) (rows : List IncidentRow) :
    (s.compared app report rows).incidents =
      s.incidents ++ numbered (nextId (s.incidents.map IncidentRow.id))
        (Detection.naive (s.incidentsOf app.name) rows).fresh := by
  have hkept : ∀ r ∈ s.incidents,
      relined (Detection.naive (s.incidentsOf app.name) rows).unsolved r = r := fun r hr =>
    relined_eq_self hids (fun u hu => naive_unsolved_mem hu) hr
  rw [compared, arrive_incidents, (withReport_incidents s app report).1, List.map_congr_left hkept,
    List.map_id']

theorem compared_ids (hids : (s.incidents.map IncidentRow.id).Nodup) (app : Application)
    (report : Report) (rows : List IncidentRow) :
    ((s.compared app report rows).incidents.map IncidentRow.id).Nodup := by
  refine nodup_arrive_ids ?_
  rw [(withReport_incidents s app report).1]
  exact hids

theorem compared_incidentsOf (hids : (s.incidents.map IncidentRow.id).Nodup)
    (hrows : reportRows app.name report = .ok rows) :
    (s.compared app report rows).incidentsOf app.name =
      s.incidentsOf app.name ++ numbered (nextId (s.incidents.map IncidentRow.id))
        (Detection.naive (s.incidentsOf app.name) rows).fresh := by
  rw [incidentsOf, compared_incidents hids, List.filter_append, incidentsOf]
  congr 1
  rw [List.filter_eq_self]
  intro r hr
  obtain ⟨u, hu, i, -, rfl⟩ := exists_of_mem_numbered hr
  rw [beq_iff_eq]
  exact application_of_mem_reportRows (r := u) hrows (Detection.unmatched_subset _ rows u hu)

theorem compared_keys (hids : (s.incidents.map IncidentRow.id).Nodup)
    (hrows : reportRows app.name report = .ok rows) :
    ((s.compared app report rows).incidentsOf app.name).map IncidentRow.key =
      (s.incidentsOf app.name).map IncidentRow.key ++
        (Detection.naive (s.incidentsOf app.name) rows).fresh.map IncidentRow.key := by
  rw [compared_incidentsOf hids hrows, List.map_append, numbered_map_of_eq fun _ _ => rfl]

/-- Once a report has been compared, each of its keys is stored. -/
theorem mem_compared_keys (hids : (s.incidents.map IncidentRow.id).Nodup)
    (hrows : reportRows app.name report = .ok rows) :
    ∀ k ∈ rows.map IncidentRow.key,
      k ∈ ((s.compared app report rows).incidentsOf app.name).map IncidentRow.key := by
  intro k hk
  rw [compared_keys hids hrows, List.mem_append]
  have hin := (Detection.naive_keys_perm (s.incidentsOf app.name) rows).symm.subset hk
  rw [List.map_append, List.mem_append] at hin
  refine hin.imp_left fun hunsolved => ?_
  obtain ⟨r, hr, rfl⟩ := List.mem_map.mp hunsolved
  exact List.mem_map_of_mem (Detection.mem_of_mem_naive_unsolved hr)

/-- The solutions of the incidents that are found solved by keys. -/
def solutionsOf (setup : LoadSetup) (app : Application) (path : String) (rows : List IncidentRow)
    (s : Store) : Outcome (List Solution) :=
  (Detection.naive (s.incidentsOf app.name) rows).solved.mapM fun r =>
    Producer.solutionFor setup.producer (setup.repository path) (s.applicationAt app).commit
      app.commit r.uri

/-- A load by keys whose rows can be made: it compares the report and makes the solutions. -/
theorem load_eq_compared (hkind : setup.detector = .naive) (h : Ready app report path rows s) :
    (load setup app report).exec s =
      let found := Detection.naive (s.incidentsOf app.name) rows
      match solutionsOf setup app path rows s with
      | .error e => (.error e, s.compared app report rows)
      | .ok made => (.ok ⟨found.fresh.length, found.unsolved.length, found.solved.length⟩,
          (((s.compared app report rows).acceptAll (found.solved.zip made)).setApplication
            app).keepReport app report) := by
  rw [load_of_naive hkind, h.located, h.gatheredRows_eq]
  dsimp only
  rw [if_pos (canEnter_of_admits h.admitted), solutionsOf]
  simp only [if_pos h.admitted]
  rfl

/-- What a load by keys leaves of the incidents does not depend on how far it comes with the
solutions, the numbers of the solutions apart. -/
theorem load_filter_map {α : Type} {f : IncidentRow → α} {p : IncidentRow → Bool}
    (hf : ∀ (r : IncidentRow) i, f { r with solutionId := i } = f r)
    (hp : ∀ (r : IncidentRow) i, p { r with solutionId := i } = p r)
    (hkind : setup.detector = .naive) (h : Ready app report path rows s) :
    (((load setup app report).exec s).2.incidents.filter p).map f =
      ((s.compared app report rows).incidents.filter p).map f := by
  rw [load_eq_compared hkind h]
  cases solutionsOf setup app path rows s with
  | error e => rfl
  | ok made => exact acceptAll_filter_map hf hp _ _

/-! ## The same report twice -/

/-- An incident without its solution. -/
def bare (r : IncidentRow) : IncidentRow :=
  { r with solutionId := none }

theorem load_bare (hkind : setup.detector = .naive) (h : Ready app report path rows s)
    (hids : (s.incidents.map IncidentRow.id).Nodup) :
    ((load setup app report).exec s).2.incidents.map bare =
      s.incidents.map bare ++ (numbered (nextId (s.incidents.map IncidentRow.id))
        (Detection.naive (s.incidentsOf app.name) rows).fresh).map bare := by
  have hall := load_filter_map (f := bare) (p := fun _ => true) (fun _ _ => rfl) (fun _ _ => rfl)
    hkind h
  rw [List.filter_true, List.filter_true] at hall
  rw [hall, compared_incidents hids, List.map_append]

theorem load_keys (hkind : setup.detector = .naive) (h : Ready app report path rows s) :
    (((load setup app report).exec s).2.incidentsOf app.name).map IncidentRow.key =
      ((s.compared app report rows).incidentsOf app.name).map IncidentRow.key :=
  load_filter_map (fun _ _ => rfl) (fun _ _ => rfl) hkind h

/-- The stored keys that a loaded report lacks were there before, so the load has made a solution at
the address. -/
theorem Loaded.address_of_lacking {found : Detection} {made : List Solution}
    (h : Loaded setup app report s path rows found made t) (hkind : setup.detector = .naive)
    {r : IncidentRow} (hold : r.key ∈ (s.incidentsOf app.name).map IncidentRow.key)
    (hlacks : r.key ∉ rows.map IncidentRow.key) :
    ∃ file, Location.ofEscapedUri r.uri = .ok file := by
  obtain ⟨u, hu, hkey⟩ := Detection.exists_naive_solved hold hlacks
  rw [← h.found_eq hkind] at hu
  obtain ⟨x, -, hx⟩ := Outcome.exists_of_mapM_eq_ok h.produced hu
  obtain ⟨file, hfile, -⟩ := Outcome.bind_eq_ok.mp hx
  have huri : u.uri = r.uri := congrArg (fun k : IncidentKey => k.place.uri) hkey
  exact ⟨file, huri ▸ hfile⟩

/-- The second load comes to its end as well, if the repository can tell the differences within a
commit. -/
theorem Loaded.load_again {found : Detection} {made : List Solution}
    (h : Loaded setup app report s path rows found made ((load setup app report).exec s).2)
    (hkind : setup.detector = .naive) (hids : (s.incidents.map IncidentRow.id).Nodup)
    (hrepo : ∀ file, ∃ text,
      (setup.repository path).difference app.commit app.commit file = .ok text) :
    ∃ n, ((load setup app report).exec ((load setup app report).exec s).2).1 = .ok n := by
  have hcommit : ((load setup app report).exec s).2.applicationAt app = app := by
    rw [applicationAt, h.application?_self]
    rfl
  have hkeys := load_keys hkind h.ready
  rw [compared_keys hids h.gathered] at hkeys
  generalize ((load setup app report).exec s).2 = t at h hcommit hkeys ⊢
  have hmade : ∃ again, solutionsOf setup app path rows t = .ok again := by
    rw [solutionsOf, hcommit]
    refine Outcome.exists_mapM_eq_ok fun r hr => ?_
    obtain ⟨hlast, hlacks⟩ := Detection.mem_naive_solved.mp hr
    have hstored := List.mem_map_of_mem (f := IncidentRow.key) hlast.mem
    rw [hkeys, List.mem_append] at hstored
    -- a key that came with the report is not lacking
    have hold := hstored.resolve_right fun hfresh => by
      obtain ⟨u, hu, hkey⟩ := List.mem_map.mp hfresh
      exact hlacks (hkey ▸ List.mem_map_of_mem (Detection.unmatched_subset _ rows u hu))
    obtain ⟨file, hfile⟩ := h.address_of_lacking hkind hold hlacks
    exact Producer.exists_solutionFor hrepo hfile
  obtain ⟨again, hagain⟩ := hmade
  rw [load_eq_compared hkind (h.ready.congr h.checked), hagain]
  exact ⟨_, rfl⟩

/-- What the counts of a load by keys are. -/
theorem load_counts (hkind : setup.detector = .naive) (hready : Ready app report path rows s)
    {n : LoadCounts} (h : ((load setup app report).exec s).1 = .ok n) :
    n = ⟨(Detection.naive (s.incidentsOf app.name) rows).fresh.length,
      (Detection.naive (s.incidentsOf app.name) rows).unsolved.length,
      (Detection.naive (s.incidentsOf app.name) rows).solved.length⟩ := by
  rw [load_eq_compared hkind hready] at h
  dsimp only at h
  split at h
  · cases h
  · cases h
    rfl

/-- **Loading a report again adds what it repeats.** A report is loaded by keys, and the load comes
to its end. If it is loaded again at once, then, whatever comes of that, the stored incidents stay
and those are added that have the key of another incident of the report: of each key all occurrences
but one. So nothing is added if and only if no key occurs twice in the report. The second load says
so in its counts, and it comes to its end if the repository can tell the differences within a
commit. -/
theorem reload_adds_repeats {s t : Store} {c : LoadCall} {counts : LoadCounts} (hs : Persisted s)
    (hkind : c.setup.detector = .naive) (hfirst : c.run.exec s = (.ok counts, t)) :
    ∃ more, (c.run.exec t).2.incidents.map bare = t.incidents.map bare ++ more ∧
      (more.map IncidentRow.key ++ c.keys.dedup).Perm c.keys ∧
      (more = [] ↔ c.keys.Nodup) ∧
      (∀ n, (c.run.exec t).1 = .ok n →
        n.fresh = more.length ∧ n.unsolved = c.keys.dedup.length) ∧
      ((∀ path file, ∃ text,
          (c.setup.repository path).difference c.app.commit c.app.commit file = .ok text) →
        ∃ n, (c.run.exec t).1 = .ok n) := by
  obtain ⟨path, found, made, h⟩ := loaded_of_run hfirst
  have hids := hs.integrity.incidentIds
  have ht : t = (c.run.exec s).2 := by rw [hfirst]
  have htids : (t.incidents.map IncidentRow.id).Nodup := by
    rw [ht]
    exact (hs.run c).integrity.incidentIds
  -- the first load has left each key of the report with an incident
  have hknown : ∀ k ∈ c.rows.map IncidentRow.key,
      k ∈ (t.incidentsOf c.app.name).map IncidentRow.key := by
    rw [ht, LoadCall.run, load_keys hkind h.ready]
    exact mem_compared_keys hids h.gathered
  have hmore := numbered_length (nextId (t.incidents.map IncidentRow.id))
    (Detection.naive (t.incidentsOf c.app.name) c.rows).fresh
  rw [LoadCall.run] at ht ⊢
  have hready := h.ready.congr h.checked
  refine ⟨_, load_bare hkind hready htids, ?_, ?_, fun n hn => ?_, fun hrepo => ?_⟩
  · rw [List.map_map, numbered_map_of_eq (fun _ _ => rfl)]
    exact Detection.naive_fresh_keys hknown
  · rw [LoadCall.keys, ← Detection.naive_fresh_eq_nil hknown, List.map_eq_nil_iff,
      ← List.length_eq_zero_iff, hmore, List.length_eq_zero_iff]
  · have hunsolved := (Detection.naive_unsolved_keys hknown).length_eq
    rw [List.length_map] at hunsolved
    rw [load_counts hkind hready hn, List.length_map, hmore]
    exact ⟨rfl, hunsolved⟩
  · rw [ht] at h ⊢
    exact h.load_again hkind hids (hrepo path)

/-- One incident is gone. Of the three that have come, two share a key. -/
def repeating : LoadCall :=
  plainCall "a" "c2" [plainIncident 3 [], plainIncident 3 [], plainIncident 5 []]

/-- The store after the report was loaded once. -/
def onceLoaded : Store :=
  after {} [plainCall "a" "c1" [plainIncident 7 []], repeating]

theorem reload_adds_repeats_after_change :
    (repeating.run.exec onceLoaded).1 = .ok ⟨1, 2, 1⟩ ∧
    ∃ more, (repeating.run.exec onceLoaded).2.incidents.map bare =
        onceLoaded.incidents.map bare ++ more ∧
      more.length = 1 ∧ (more.map IncidentRow.key ++ repeating.keys.dedup).Perm repeating.keys := by
  have hs : Persisted (after {} [plainCall "a" "c1" [plainIncident 7 []]]) :=
    ⟨_, run_after _⟩
  have hfirst : (repeating.run.exec (after {} [plainCall "a" "c1" [plainIncident 7 []]])).1 =
      .ok ⟨3, 0, 1⟩ := by
    decide +kernel
  have hagain : (repeating.run.exec onceLoaded).1 = .ok ⟨1, 2, 1⟩ := by decide +kernel
  obtain ⟨more, hmore, hkeys, -, hcounts, -⟩ :=
    reload_adds_repeats (t := onceLoaded) hs rfl (Action.exec_eq_of_fst hfirst)
  exact ⟨hagain, more, hmore, (hcounts _ hagain).1.symm, hkeys⟩

/-- A report that has an incident twice adds a third one when it is loaded again. -/
theorem reload_adds_third_incident :
    let c := plainCall "a" "c1" [plainIncident 3 [], plainIncident 3 []]
    let t := (c.run.exec {}).2
    c.setup.detector = .naive ∧ (c.run.exec {}).1 = .ok ⟨2, 0, 0⟩ ∧
    (c.run.exec t).1 = .ok ⟨1, 1, 0⟩ ∧
    t.incidents.map IncidentRow.id = [1, 2] ∧
    (c.run.exec t).2.incidents.map IncidentRow.id = [1, 2, 3] := by
  decide +kernel

/-! ## Trying again -/

/-- Taking in what is there changes nothing. -/
theorem arrive_eq_self {found : Detection} (hids : (s.incidents.map IncidentRow.id).Nodup)
    (hunsolved : ∀ r ∈ found.unsolved, r ∈ s.incidents) (hfresh : found.fresh = []) :
    s.arrive found = s := by
  have hkept : s.incidents.map (relined found.unsolved) = s.incidents := by
    rw [List.map_congr_left fun r hr => relined_eq_self hids hunsolved hr, List.map_id']
  rw [arrive, hfresh, setLines, hkept, addIncidents, numbered, List.append_nil]

theorem compared_application? (s : Store) (app : Application) (report : Report)
    (rows : List IncidentRow) :
    (s.compared app report rows).application? app.name = some (s.applicationAt app) := by
  have hgrows := gather_grows app.name report (s.withApplication app)
  have hstored := withApplication_application? s app app.name
  rw [if_pos rfl, application?, ← hgrows.applications] at hstored
  exact hstored

section Compared

variable (hids : (s.incidents.map IncidentRow.id).Nodup)
  (hold : ((s.incidentsOf app.name).map IncidentRow.key).Nodup)
  (h : Ready app report path rows s) (hnew : (rows.map IncidentRow.key).Nodup)
include hids h hnew

/-- Comparing a report again takes in nothing, if it has no key twice. -/
theorem compared_compared :
    (s.compared app report rows).compared app report rows = s.compared app report rows := by
  have hentered : (s.compared app report rows).withReport app report = s.compared app report rows :=
    withReport_of_stored (compared_application? s app report rows) fun e he =>
      (h.stored_withReport e he).congr rfl rfl
  rw [compared, hentered]
  exact arrive_eq_self (compared_ids hids app report rows) (fun r hr => naive_unsolved_mem hr)
    ((Detection.naive_fresh_eq_nil (mem_compared_keys hids h.gathered)).mpr hnew)

include hold

theorem nodup_compared_keys :
    (((s.compared app report rows).incidentsOf app.name).map IncidentRow.key).Nodup := by
  obtain ⟨hfresh, -⟩ := Detection.naive_of_nodup hold hnew
  rw [compared_keys hids h.gathered, hfresh, List.nodup_append]
  refine ⟨hold, hnew.sublist (List.filter_sublist.map IncidentRow.key), fun a ha b hb hab => ?_⟩
  obtain ⟨r, hr, rfl⟩ := List.mem_map.mp hb
  exact of_decide_eq_true (List.mem_filter.mp hr).2 (hab ▸ ha)

/-- Comparing a report again finds the same incidents solved: those that it has added have keys of
the report. -/
theorem compared_solved :
    (Detection.naive ((s.compared app report rows).incidentsOf app.name) rows).solved =
      (Detection.naive (s.incidentsOf app.name) rows).solved := by
  have hkeys := nodup_compared_keys hids hold h hnew
  rw [(Detection.naive_of_nodup hkeys hnew).2, (Detection.naive_of_nodup hold hnew).2,
    compared_incidentsOf hids h.gathered, List.filter_append, List.append_right_eq_self,
    List.filter_eq_nil_iff]
  intro r hr
  obtain ⟨u, hu, i, -, rfl⟩ := exists_of_mem_numbered hr
  have hreported : u.key ∈ rows.map IncidentRow.key :=
    List.mem_map_of_mem (Detection.unmatched_subset _ rows u hu)
  exact fun hlacks => of_decide_eq_true hlacks hreported

/-- A load of a report that has been compared already leaves the store that the load would have left
before; its new incidents are old ones now. -/
theorem load_compared (hkind : setup.detector = .naive) :
    (load setup app report).exec (s.compared app report rows) =
      (((load setup app report).exec s).1.map LoadCounts.known,
        ((load setup app report).exec s).2) := by
  have hsolved := compared_solved hids hold h hnew
  have hfresh := (Detection.naive_fresh_eq_nil (mem_compared_keys hids h.gathered)).mpr hnew
  -- the stored commit is the same, so the solutions are
  have hmade : solutionsOf setup app path rows (s.compared app report rows) =
      solutionsOf setup app path rows s := by
    rw [solutionsOf, solutionsOf, hsolved, applicationAt, compared_application?]
    rfl
  -- a reported incident is unsolved or fresh, and none is fresh now
  have hcounts : ∀ old, (Detection.naive old rows).unsolved.length +
      (Detection.naive old rows).fresh.length = rows.length := by
    intro old
    simpa using (Detection.naive_keys_perm old rows).length_eq
  have hold' := hcounts (s.incidentsOf app.name)
  have hnow := hcounts ((s.compared app report rows).incidentsOf app.name)
  rw [hfresh, List.length_nil] at hnow
  rw [load_eq_compared hkind h, load_eq_compared hkind (h.congr (compared_checked ..)), hmade,
    compared_compared hids h hnew]
  dsimp only
  rw [hsolved, hfresh]
  cases solutionsOf setup app path rows s with
  | error e => rfl
  | ok made =>
    have hunsolved :
        (Detection.naive ((s.compared app report rows).incidentsOf app.name) rows).unsolved.length =
          (Detection.naive (s.incidentsOf app.name) rows).fresh.length +
            (Detection.naive (s.incidentsOf app.name) rows).unsolved.length := by
      omega
    dsimp only
    rw [hunsolved]
    rfl

end Compared

/-- A load by keys that fails although its rows can be made has compared its report. -/
theorem load_failed (hkind : setup.detector = .naive) (hready : Ready app report path rows s)
    {e : Failure} (h : ((load setup app report).exec s).1 = .error e) :
    ((load setup app report).exec s).2 = s.compared app report rows := by
  rw [load_eq_compared hkind hready] at h ⊢
  dsimp only at h ⊢
  split at h
  · rfl
  · cases h

/-- The load with another setup. -/
def LoadCall.withSetup (c : LoadCall) (setup : LoadSetup) : LoadCall :=
  { c with setup }

theorem LoadCall.withSetup_run (c : LoadCall) (setup : LoadSetup) :
    (c.withSetup setup).run = load setup c.app c.report := rfl

theorem after_checked (s : Store) (calls : List LoadCall) :
    (s.after calls).checked = s.checked := by
  induction calls generalizing s with
  | nil => rfl
  | cons c rest ih =>
    rw [after_cons, ih, LoadCall.run]
    exact (load_committed c.setup c.app c.report s).checked

/-- Loads that fail after a report has been compared leave it so. -/
theorem after_failed {c : LoadCall} {tries : List LoadSetup}
    (hready : Ready c.app c.report path rows s) (hids : (s.incidents.map IncidentRow.id).Nodup)
    (hnew : (rows.map IncidentRow.key).Nodup) (hkind : ∀ x ∈ tries, x.detector = .naive)
    (hfailed : ∀ a ∈ answers (s.compared c.app c.report rows) (tries.map c.withSetup),
      ∃ e, a.2 = .error e) :
    (s.compared c.app c.report rows).after (tries.map c.withSetup) =
      s.compared c.app c.report rows := by
  -- each failing load compares the report again, so that the induction is at one store
  induction tries with
  | nil => rfl
  | cons x tries ih =>
    rw [List.map_cons, answers] at hfailed
    obtain ⟨e, he⟩ := hfailed _ List.mem_cons_self
    rw [LoadCall.withSetup_run] at he hfailed
    dsimp only at he
    have hstep := (load_failed (hkind x List.mem_cons_self) (hready.congr (compared_checked ..))
      he).trans (compared_compared hids hready hnew)
    rw [hstep] at hfailed
    rw [List.map_cons, after_cons, LoadCall.withSetup_run, hstep]
    exact ih (fun y hy => hkind y (List.mem_cons_of_mem _ hy))
      fun a ha => hfailed a (List.mem_cons_of_mem _ ha)

/-- **A load that is tried again converges.** Numbers are given once, no two incidents of the
application share a key, and no two of the report do. A load by keys fails any number of times,
perhaps in repositories that answer differently. If it then succeeds, it leaves the store that it
would have left, with success, had it been tried like this at once. It counts its new incidents
among the old ones then, since the first try has added them. -/
theorem retries_converge {s u : Store} {c : LoadCall} {tries : List LoadSetup} {counts : LoadCounts}
    (hids : (s.incidents.map IncidentRow.id).Nodup)
    (hold : ((s.incidentsOf c.app.name).map IncidentRow.key).Nodup) (hnew : c.keys.Nodup)
    (hkind : c.setup.detector = .naive) (htries : ∀ x ∈ tries, x.detector = .naive)
    (hfailed : ∀ a ∈ answers s (tries.map c.withSetup), ∃ e, a.2 = .error e)
    (hretry : c.run.exec (s.after (tries.map c.withSetup)) = (.ok counts, u)) :
    ∃ n, c.run.exec s = (.ok n, u) ∧ (tries ≠ [] → counts = n.known) := by
  cases tries with
  | nil => exact ⟨counts, hretry, fun hne => absurd rfl hne⟩
  | cons x tries =>
    -- what the last load needs before it compares the report all tries have, so what fails are the
    -- solutions
    obtain ⟨path, found, made, h⟩ := loaded_of_run hretry
    have hready := h.ready.congr (after_checked s ((x :: tries).map c.withSetup)).symm
    rw [List.map_cons, answers] at hfailed
    obtain ⟨e, he⟩ := hfailed _ List.mem_cons_self
    rw [LoadCall.withSetup_run] at he hfailed
    dsimp only at he
    have hfirst := load_failed (htries x List.mem_cons_self) hready he
    rw [hfirst] at hfailed
    have hrest := after_failed hready hids hnew
      (fun y hy => htries y (List.mem_cons_of_mem _ hy))
      fun a ha => hfailed a (List.mem_cons_of_mem _ ha)
    rw [List.map_cons, after_cons, LoadCall.withSetup_run, hfirst, hrest, LoadCall.run,
      load_compared hids hold hready hnew hkind] at hretry
    obtain ⟨hcounts, hstore⟩ := Prod.mk.inj hretry
    obtain ⟨n, hn, hknown⟩ := Outcome.map_eq_ok.mp hcounts
    exact ⟨n, Prod.ext hn hstore, fun _ => hknown.symm⟩

/-- A store with two incidents. -/
def twoStored : Store :=
  after {} [plainCall "a" "c1" [plainIncident 3 [], plainIncident 5 []]]

/-- A load that finds one of the two again, and a new one. -/
def oneChanged : LoadCall :=
  plainCall "a" "c2" [plainIncident 5 [], plainIncident 7 []]

/-- The load twice, where the solution of the other cannot be made. -/
def twoFailures : List LoadCall :=
  [oneChanged.broken.setup, oneChanged.broken.setup].map oneChanged.withSetup

theorem retries_converge_after_two_failures :
    (answers twoStored twoFailures).map Prod.snd = [.error .git, .error .git] ∧
    (twoStored.after twoFailures).incidents.map IncidentRow.line = [3, 5, 7] ∧
    (oneChanged.run.exec (twoStored.after twoFailures)).1 = .ok ⟨0, 2, 1⟩ ∧
    (oneChanged.run.exec twoStored).1 = .ok ⟨1, 1, 1⟩ ∧
    (oneChanged.run.exec twoStored).2 = (oneChanged.run.exec (twoStored.after twoFailures)).2 := by
  have hanswers : (answers twoStored twoFailures).map Prod.snd = [.error .git, .error .git] := by
    decide +kernel
  have hfailed : ∀ a ∈ answers twoStored twoFailures, ∃ e, a.2 = .error e := by
    intro a ha
    have hin := List.mem_map_of_mem (f := Prod.snd) ha
    rw [hanswers] at hin
    exact ⟨.git, by simpa using hin⟩
  have hretry : (oneChanged.run.exec (twoStored.after twoFailures)).1 = .ok ⟨0, 2, 1⟩ := by
    decide +kernel
  obtain ⟨n, hn, -⟩ := retries_converge (s := twoStored) (c := oneChanged) (by decide +kernel)
    (by decide +kernel) (by decide +kernel) rfl (by decide +kernel) hfailed
    (Action.exec_eq_of_fst hretry)
  have hstore := congrArg Prod.snd hn
  exact ⟨hanswers, by decide +kernel, hretry, by decide +kernel, hstore⟩

end Store
end Remedy
