import Remedy.Proofs.Detection.Conservation
import Remedy.Proofs.Store.Commits
import Remedy.Proofs.Store.History
import Remedy.Proofs.Store.Part

/-!
# Applications do not interfere

Applications share the tables of the store and the numbers that are given in them. A load of one
application changes nothing of the part of another. A load by keys does the same to two stores in
which the part of its application is the same. So the part of an application, and the answers to its
loads, are the same whether or not loads of other applications come in between.

Main results:

* `Committed.part_other`: a load leaves the parts of other applications, also when it is cut short.
* `SamePart.load`: a load answers alike on stores with the same part, and leaves them with the same.
* `applications_do_not_interfere`: an application in a run of loads of all applications.
-/

namespace Remedy.Store

open Remedy.Action

variable {setup : LoadSetup} {app : Application} {report : Report} {s t u : Store} {name : String}

/-! ## Loads of other applications -/

/-- Whatever the method, an unsolved incident is an old one, at most on another line. -/
theorem exists_of_mem_unsolved {kind : DetectorKind} {setting : Detection.Setting}
    {old new : List IncidentRow} {found : Detection}
    (h : ((Detection.detect kind setting old new).exec []).1 = .ok found) {r : IncidentRow}
    (hr : r ∈ found.unsolved) : ∃ o ∈ old, o.id = r.id := by
  obtain ⟨-, -, kept, hkept, hperm⟩ :=
    @Detection.conserved Unit (fun _ => ()) _ _ _ _ _ h (fun _ _ _ _ _ => rfl) fun _ _ _ => rfl
  obtain ⟨o, ho, line, rfl⟩ := Detection.exists_kept_of_mem hkept hr
  have hold : o ∈ (Detection.byKey old).map Prod.snd := hperm.subset (List.mem_append_left _ ho)
  obtain ⟨e, he, rfl⟩ := List.mem_map.mp hold
  exact ⟨e.2, (Detection.mem_byKey.mp he).2.mem, rfl⟩

/-- Incidents of different applications have different numbers. -/
theorem Numbered.id_ne (hs : Numbered s) (hne : app.name ≠ name) {r o : IncidentRow}
    (hr : r ∈ s.incidentsOf name) (ho : o ∈ s.incidentsOf app.name) : r.id ≠ o.id := by
  intro hid
  obtain ⟨hr, hname⟩ := mem_incidentsOf.mp hr
  obtain ⟨ho, happ⟩ := mem_incidentsOf.mp ho
  rw [hs.eq_of_id hr ho hid] at hname
  exact hne (happ.symm.trans hname)

theorem relined_of_ids {rows : List IncidentRow} {r : IncidentRow}
    (h : ∀ v ∈ rows, v.id ≠ r.id) : relined rows r = r := by
  rw [relined, List.find?_eq_none.mpr (by simpa using h)]

theorem part_acceptAll_other {made : List (IncidentRow × Solution)} (hs : Numbered s)
    (h : ∀ p ∈ made, ∀ r ∈ s.incidentsOf name, r.id ≠ p.1.id) :
    (s.acceptAll made).part name = s.part name := by
  induction made generalizing s with
  | nil => rfl
  | cons p rest ih =>
    have hfirst : (s.accept p.1.id p.2).part name = s.part name := by
      rw [part_accept hs]
      refine Part.ext rfl (List.map_congr_left fun r hr => ?_) rfl
      rw [if_neg (h p List.mem_cons_self r hr)]
    have haccepted : Numbered (s.accept p.1.id p.2) := hs.acceptAll [p]
    rw [acceptAll_cons, ih haccepted ?_, hfirst]
    -- the numbers of the incidents are as before
    intro q hq r hr
    obtain ⟨hmem, hname⟩ := mem_incidentsOf.mp hr
    obtain ⟨o, ho, rfl⟩ := List.mem_map.mp hmem
    have hold : o ∈ s.incidentsOf name := by
      refine mem_incidentsOf.mpr ⟨ho, ?_⟩
      rw [← hname]
      split <;> rfl
    have hid := h q (List.mem_cons_of_mem _ hq) o hold
    split
    · exact hid
    · exact hid

theorem part_withApplication_other (s : Store) (hne : app.name ≠ name) :
    (s.withApplication app).part name = s.part name := by
  rw [part_withApplication, if_neg hne]
  rfl

/-- What is found for an application concerns no incident of another. -/
theorem Detected.part_other {path : String} {rows : List IncidentRow} {entered : Store}
    {found : Detection} (h : Detected setup app report s path rows entered found) (hs : Numbered s)
    (hne : app.name ≠ name) :
    Numbered (entered.arrive found) ∧ (entered.arrive found).part name = s.part name ∧
      ∀ o ∈ found.solved, ∀ r ∈ (entered.arrive found).incidentsOf name, r.id ≠ o.id := by
  obtain ⟨hincidents, hsolutions, -⟩ := gather_rows h.gathered
  have hentered : Numbered entered := hs.of_eq hincidents hsolutions
  have hpart : entered.part name = s.part name := by
    have hgrows := gather_grows app.name report (s.withApplication app)
    rw [h.gathered] at hgrows
    rw [hgrows.part_eq, part_withApplication_other s hne]
  have hrows : ∀ r ∈ found.fresh, r.application = app.name ∧ r.solutionId = none := by
    intro r hr
    have hrow := Detection.fresh_subset_of_detect h.detected r hr
    exact ⟨application_of_mem_reportRows h.gathered_rows hrow,
      solutionId_of_mem_reportRows h.gathered_rows hrow⟩
  have hnone : found.fresh.filter (fun r => r.application == name) = [] := by
    rw [List.filter_eq_nil_iff]
    intro r hr
    rw [beq_iff_eq, (hrows r hr).1]
    exact hne
  -- lines are taken over by number, and the numbers are those of the loaded application
  have hkept : ∀ r ∈ entered.incidentsOf name, relined found.unsolved r = r := by
    intro r hr
    refine relined_of_ids fun v hv => ?_
    obtain ⟨o, ho, hid⟩ := exists_of_mem_unsolved h.detected hv
    rw [← hid]
    exact (hentered.id_ne hne hr ho).symm
  refine ⟨hentered.arrive fun r hr => (hrows r hr).2, ?_, fun o ho r hr => ?_⟩
  · rw [part_arrive hkept fun r hr => (hrows r hr).2, hnone, List.map_nil, List.append_nil]
    exact hpart
  · have hold := Detection.solved_subset_of_detect h.detected o ho
    obtain ⟨hmem, hname⟩ := mem_incidentsOf.mp hr
    rcases mem_arrive hmem with ⟨v, hv, line, rfl⟩ | ⟨v, hv, i, -, rfl⟩
    · exact hentered.id_ne hne (r := v) (mem_incidentsOf.mpr ⟨hv, hname⟩) hold
    · exact absurd ((hrows v hv).1.symm.trans hname) hne

/-- A load leaves the parts of other applications as they are, also when it is cut short. -/
theorem Committed.part_other (h : Committed setup app report s t) (hs : Numbered s)
    (hne : app.name ≠ name) : t.part name = s.part name := by
  have haccepted : ∀ {path rows entered found made},
      Produced setup app report s path rows entered found made →
      ((entered.arrive found).acceptAll (found.solved.zip made)).part name = s.part name := by
    intro path rows entered found made hp
    obtain ⟨hnumbered, hpart, hids⟩ := hp.toDetected.part_other hs hne
    rw [part_acceptAll_other hnumbered, hpart]
    exact fun p hp r hr => hids p.1 (List.of_mem_zip hp).1 r hr
  have hrenewed : ∀ v : Store, (v.setApplication app).part name = v.part name := by
    intro v
    rw [part_setApplication, if_neg hne]
    rfl
  cases h with
  | unchanged => rfl
  | entering => rw [(foldl_enter_grows _ _).part_eq, part_withApplication_other s hne]
  | arrived hd => exact (hd.part_other hs hne).2.1
  | accepted hp => exact haccepted hp
  | renewed hp _ => rw [hrenewed, haccepted hp]
  | kept hp _ => rw [part_keepReport, if_neg hne, hrenewed, haccepted hp]

/-! ## Loads of the application itself -/

/-- Two stores of a kind in which the part of an application is the same. -/
structure SamePart (name : String) (s u : Store) : Prop where
  left : Numbered s
  right : Numbered u
  checked : s.checked = u.checked
  part : s.part name = u.part name

/-- The incidents with these numbers stand at the same place in the part of an application. -/
def Counterparts (name : String) (s u : Store) (r v : IncidentRow) : Prop :=
  (r.id, v.id) ∈ ((s.incidentsOf name).map IncidentRow.id).zip
    ((u.incidentsOf name).map IncidentRow.id)

/-- The incidents go in pairs that differ in their numbers only. -/
theorem SamePart.pairs (h : SamePart name s u) :
    List.Forall₂ (fun r v => Counterparts name s u r v ∧ unnumbered r = unnumbered v ∧
      s.solutionOf r = u.solutionOf v) (s.incidentsOf name) (u.incidentsOf name) := by
  have heq := congrArg Part.incidents h.part
  rw [Store.part, Store.part] at heq
  dsimp only at heq
  rw [← List.forall₂_eq_eq_eq, List.forall₂_map_left_iff, List.forall₂_map_right_iff] at heq
  obtain ⟨hlength, hrows⟩ := List.forall₂_iff_zip.mp heq
  refine List.forall₂_iff_zip.mpr ⟨hlength, fun {a b} hab => ⟨?_, Prod.mk.inj (hrows hab)⟩⟩
  rw [Counterparts, List.zip_map]
  exact List.mem_map_of_mem (f := Prod.map IncidentRow.id IncidentRow.id) hab

theorem eq_iff_of_mem_zip {xs ys : List Nat} (hxs : xs.Nodup) (hys : ys.Nodup) {i j i' j' : Nat}
    (h : (i, j) ∈ xs.zip ys) (h' : (i', j') ∈ xs.zip ys) : i' = i ↔ j' = j := by
  obtain ⟨n, hn⟩ := List.mem_iff_getElem?.mp h
  obtain ⟨m, hm⟩ := List.mem_iff_getElem?.mp h'
  obtain ⟨hi, hj⟩ := List.getElem?_zip_eq_some.mp hn
  obtain ⟨hi', hj'⟩ := List.getElem?_zip_eq_some.mp hm
  -- in a list without repetition an entry has one place, so both sides say that the places agree
  have hplace : ∀ {zs : List Nat} {a b : Nat}, zs.Nodup → zs[n]? = some a → zs[m]? = some b →
      (b = a ↔ m = n) := by
    intro zs a b hzs ha hb
    constructor
    · rintro rfl
      obtain ⟨hlt, -⟩ := List.getElem?_eq_some_iff.mp hb
      exact (List.getElem?_inj hlt hzs).mp (hb.trans ha.symm)
    · rintro rfl
      exact Option.some.inj (hb.symm.trans ha)
  rw [hplace hxs hi hi', hplace hys hj hj']

theorem Numbered.nodup_ids_of (hs : Numbered s) (name : String) :
    ((s.incidentsOf name).map IncidentRow.id).Nodup :=
  hs.incidentIds.sublist (List.filter_sublist.map IncidentRow.id)

/-- Accepting a solution for counterparts leaves the part the same. -/
theorem SamePart.accept (h : SamePart name s u) {r v : IncidentRow}
    (hrv : Counterparts name s u r v) (x : Solution) :
    SamePart name (s.accept r.id x) (u.accept v.id x) := by
  refine ⟨h.left.acceptAll [(r, x)], h.right.acceptAll [(v, x)], h.checked, ?_⟩
  rw [part_accept h.left, part_accept h.right, h.part]
  refine Part.ext rfl ?_ rfl
  rw [← List.forall₂_eq_eq_eq, List.forall₂_map_left_iff, List.forall₂_map_right_iff]
  -- the two numbers differ, but they pick out the incidents at one place
  refine h.pairs.imp fun a b hab => ?_
  obtain ⟨hids, hsame, hsolution⟩ := hab
  have hboth : a.id = r.id ↔ b.id = v.id :=
    eq_iff_of_mem_zip (h.left.nodup_ids_of name) (h.right.nodup_ids_of name) hrv hids
  simp only [hsame, hsolution, hboth]

theorem incidentsOf_accept_ids (s : Store) (i : Nat) (x : Solution) (name : String) :
    ((s.accept i x).incidentsOf name).map IncidentRow.id =
      (s.incidentsOf name).map IncidentRow.id := by
  rw [incidentsOf_accept, List.map_map]
  refine List.map_congr_left fun r _ => ?_
  rw [Function.comp_apply]
  split <;> rfl

theorem SamePart.acceptAll (h : SamePart name s u) {solved solved' : List IncidentRow}
    (hsolved : List.Forall₂ (Counterparts name s u) solved solved') (made : List Solution) :
    SamePart name (s.acceptAll (solved.zip made)) (u.acceptAll (solved'.zip made)) := by
  -- on the list and not on the relation, which speaks of the stores that change on the way
  induction solved generalizing s u solved' made with
  | nil =>
    cases hsolved
    exact h
  | cons r solved ih =>
    cases hsolved with
    | @cons _ v _ solved' hrv hrest =>
      cases made with
      | nil => exact h
      | cons x made =>
        have hstill : List.Forall₂ (Counterparts name (s.accept r.id x) (u.accept v.id x))
            solved solved' := by
          refine hrest.imp fun a b hab => ?_
          rw [Counterparts, incidentsOf_accept_ids, incidentsOf_accept_ids]
          exact hab
        rw [List.zip_cons_cons, List.zip_cons_cons, acceptAll_cons, acceptAll_cons]
        exact ih (h.accept hrv x) hstill made

/-- The store after a report has been entered as far as its rows can be made. -/
def withReport (s : Store) (app : Application) (report : Report) : Store :=
  ((gather app.name report).exec (s.withApplication app)).2

theorem withReport_incidents (s : Store) (app : Application) (report : Report) :
    (s.withReport app report).incidents = s.incidents ∧
      (s.withReport app report).solutions = s.solutions := by
  obtain ⟨hincidents, hsolutions, -⟩ :=
    gather_rows (Prod.eta ((gather app.name report).exec (s.withApplication app))).symm
  exact ⟨hincidents, hsolutions⟩

theorem withReport_checked (s : Store) (app : Application) (report : Report) :
    (s.withReport app report).checked = s.checked :=
  (gather_grows app.name report _).checked.trans (withApplication_checked s app)

theorem withReport_incidentsOf (s : Store) (app : Application) (report : Report) (name : String) :
    (s.withReport app report).incidentsOf name = s.incidentsOf name := by
  rw [incidentsOf, (withReport_incidents s app report).1, incidentsOf]

theorem SamePart.withReport (h : SamePart app.name s u) (report : Report) :
    SamePart app.name (s.withReport app report) (u.withReport app report) := by
  have hnumbered : ∀ {v : Store}, Numbered v → Numbered (v.withReport app report) := by
    intro v hv
    obtain ⟨hincidents, hsolutions⟩ := withReport_incidents v app report
    exact hv.of_eq hincidents hsolutions
  have happ : s.application? app.name = u.application? app.name :=
    congrArg Part.application h.part
  have hpart : ∀ v : Store, (v.withReport app report).part app.name =
      { v.part app.name with application := some ((v.application? app.name).getD app) } := by
    intro v
    rw [Store.withReport, (gather_grows app.name report _).part_eq, part_withApplication,
      if_pos rfl, applicationAt]
  refine ⟨hnumbered h.left, hnumbered h.right, ?_, ?_⟩
  · rw [withReport_checked, withReport_checked, h.checked]
  rw [hpart, hpart, h.part, happ]

theorem withReport_of_gather {o : Outcome (List IncidentRow)} {entered : Store}
    (h : (gather app.name report).exec (s.withApplication app) = (o, entered)) :
    gatheredRows s app.name report = o ∧ s.withReport app report = entered := by
  have hrows := gather_fst app.name report (s.withApplication app)
  rw [h, gatheredRows_congr (withApplication_checked s app)] at hrows
  refine ⟨hrows.symm, ?_⟩
  rw [withReport, h]

theorem detect_of_naive (hkind : setup.detector = .naive) (setting : Detection.Setting)
    (old rows : List IncidentRow) :
    ((Detection.detect setup.detector setting old rows).exec []).1 =
      .ok (Detection.naive old rows) := by
  rw [hkind]
  rfl

/-- Matching by keys finds what it finds in the store before the load. -/
theorem Detected.found_eq {path : String} {rows : List IncidentRow} {entered : Store}
    {found : Detection} (h : Detected setup app report s path rows entered found)
    (hkind : setup.detector = .naive) :
    found = Detection.naive (s.incidentsOf app.name) rows := by
  have hnaive := (detect_of_naive hkind _ _ _).symm.trans h.detected
  rw [← (withReport_of_gather h.gathered).2, withReport_incidentsOf] at hnaive
  cases hnaive
  rfl

/-- A load by keys as a function of the store. -/
theorem load_of_naive (hkind : setup.detector = .naive) (app : Application) (report : Report)
    (s : Store) :
    (load setup app report).exec s =
      match repositoryPath app with
      | .error e => (.error e, s)
      | .ok path =>
        if s.canEnter app then
          match gatheredRows s app.name report with
          | .error e => (.error e, s.withReport app report)
          | .ok rows =>
            let found := Detection.naive (s.incidentsOf app.name) rows
            let arrived := (s.withReport app report).arrive found
            match found.solved.mapM fun r => Producer.solutionFor setup.producer
              (setup.repository path) (s.applicationAt app).commit app.commit r.uri with
            | .error e => (.error e, arrived)
            | .ok made =>
              let accepted := arrived.acceptAll (found.solved.zip made)
              if s.admits app then
                (.ok ⟨found.fresh.length, found.unsolved.length, found.solved.length⟩,
                  (accepted.setApplication app).keepReport app report)
              else (.error .refusedRow, accepted)
        else (.error .refusedRow, s) := by
  have hresult := load_result setup app report s
  rw [← Prod.eta ((load setup app report).exec s)]
  generalize ((load setup app report).exec s).1 = o at hresult ⊢
  generalize ((load setup app report).exec s).2 = t at hresult ⊢
  cases hresult with
  | noRepository hpath => rw [hpath]
  | notTaken hpath hrefused => simp only [hpath, hrefused, Bool.false_eq_true, if_false]
  | notEntered hpath htaken hrows =>
    obtain ⟨hread, hstore⟩ := withReport_of_gather hrows
    simp only [hpath, htaken, hread, hstore, if_true]
  | notDetected h hfails =>
    -- matching by keys does not fail
    rw [detect_of_naive hkind] at hfails
    cases hfails
  | notProduced h hmade =>
    obtain ⟨hread, hstore⟩ := withReport_of_gather h.gathered
    obtain rfl := h.found_eq hkind
    rw [Producer.produceAll_fst] at hmade
    simp only [h.located, h.taken, hread, hmade, hstore, if_true]
  | notRenewed h hrefused =>
    obtain ⟨hread, hstore⟩ := withReport_of_gather h.gathered
    obtain rfl := h.toDetected.found_eq hkind
    have hmade := h.produced
    rw [Producer.produceAll_fst] at hmade
    simp only [h.located, h.taken, hread, hmade, hstore, hrefused, if_true, Bool.false_eq_true,
      if_false]
  | done h hadmits =>
    obtain ⟨hread, hstore⟩ := withReport_of_gather h.gathered
    obtain rfl := h.toDetected.found_eq hkind
    have hmade := h.produced
    rw [Producer.produceAll_fst] at hmade
    simp only [h.located, h.taken, hread, hmade, hstore, hadmits, if_true]

/-- Taking in what was found by keys leaves the part the same, and counterparts stay. -/
theorem SamePart.arrive (h : SamePart name s u) {found found' : Detection}
    (hfresh : found.fresh = found'.fresh) (hnone : ∀ r ∈ found.fresh, r.solutionId = none)
    (hunsolved : ∀ r ∈ found.unsolved, r ∈ s.incidents)
    (hunsolved' : ∀ r ∈ found'.unsolved, r ∈ u.incidents) :
    SamePart name (s.arrive found) (u.arrive found') := by
  have hkept : ∀ r ∈ s.incidentsOf name, relined found.unsolved r = r := fun r hr =>
    relined_eq_self h.left.incidentIds hunsolved (mem_incidentsOf.mp hr).1
  have hkept' : ∀ r ∈ u.incidentsOf name, relined found'.unsolved r = r := fun r hr =>
    relined_eq_self h.right.incidentIds hunsolved' (mem_incidentsOf.mp hr).1
  have hnone' : ∀ r ∈ found'.fresh, r.solutionId = none := hfresh ▸ hnone
  refine ⟨h.left.arrive hnone, h.right.arrive hnone', h.checked, ?_⟩
  rw [part_arrive hkept hnone, part_arrive hkept' hnone', h.part, hfresh]

theorem Counterparts.arrive {r v : IncidentRow} (hrv : Counterparts name s u r v)
    (hlength : (s.incidentsOf name).length = (u.incidentsOf name).length)
    (found found' : Detection) :
    Counterparts name (s.arrive found) (u.arrive found') r v := by
  rw [Counterparts, incidentsOf_arrive, incidentsOf_arrive, List.map_append, List.map_append,
    map_relined_id, map_relined_id, List.zip_append (by simpa using hlength)]
  exact List.mem_append_left _ hrv

theorem mapM_uri_congr {solved solved' : List IncidentRow}
    (h : List.Forall₂ (fun r v => r.uri = v.uri) solved solved')
    (f : String → Outcome Solution) :
    solved.mapM (fun r => f r.uri) = solved'.mapM fun r => f r.uri := by
  induction h with
  | nil => rfl
  | cons hrv _ ih => rw [List.mapM_cons, List.mapM_cons, hrv, ih]

theorem Counterparts.withReport {r v : IncidentRow} (hrv : Counterparts name s u r v)
    (app : Application) (report : Report) :
    Counterparts name (s.withReport app report) (u.withReport app report) r v := by
  rw [Counterparts, withReport_incidentsOf, withReport_incidentsOf]
  exact hrv

/-- The last steps of a load leave the part the same. -/
theorem SamePart.finish (h : SamePart app.name s u) (report : Report) :
    SamePart app.name ((s.setApplication app).keepReport app report)
      ((u.setApplication app).keepReport app report) := by
  have hstored : s.application? app.name = u.application? app.name :=
    congrArg Part.application h.part
  refine ⟨h.left.of_eq rfl rfl, h.right.of_eq rfl rfl, h.checked, ?_⟩
  rw [part_keepReport, part_keepReport, part_setApplication, part_setApplication, h.part, hstored]

/-- A load by keys answers alike on stores with the same part, and leaves them with the same. -/
theorem SamePart.load (h : SamePart app.name s u) (hkind : setup.detector = .naive)
    (report : Report) :
    ((load setup app report).exec s).1 = ((load setup app report).exec u).1 ∧
      SamePart app.name ((load setup app report).exec s).2 ((load setup app report).exec u).2 := by
  have hentered := h.withReport report
  have hstored : s.application? app.name = u.application? app.name :=
    congrArg Part.application h.part
  have hcommit : s.applicationAt app = u.applicationAt app := by
    rw [applicationAt, applicationAt, hstored]
  have hadmits := admits_congr h.checked app
  have htaken : s.canEnter app = u.canEnter app := by
    rw [canEnter, canEnter, hstored, hadmits]
  rw [load_of_naive hkind, load_of_naive hkind, ← hcommit, ← htaken, ← hadmits,
    ← gatheredRows_congr h.checked]
  cases repositoryPath app with
  | error e => exact ⟨rfl, h⟩
  | ok path =>
    dsimp only
    cases s.canEnter app with
    | false => exact ⟨rfl, h⟩
    | true =>
      rw [if_pos rfl, if_pos rfl]
      cases hgathered : gatheredRows s app.name report with
      | error e => exact ⟨rfl, hentered⟩
      | ok rows =>
        dsimp only
        have hrows := (gatheredRows_eq_ok.mp hgathered).2
        obtain ⟨hfresh, hunsolved, hsolved⟩ :=
          Detection.naive_rel (fun hrv => key_eq_of_unnumbered hrv.2.1) h.pairs rows
        have hnew : ∀ r ∈ (Detection.naive (s.incidentsOf app.name) rows).fresh,
            r.solutionId = none := fun r hr =>
          solutionId_of_mem_reportRows hrows (Detection.unmatched_subset _ rows r hr)
        have hold : ∀ {v : Store}, ∀ r ∈ (Detection.naive (v.incidentsOf app.name) rows).unsolved,
            r ∈ (v.withReport app report).incidents := by
          intro v r hr
          rw [(withReport_incidents v app report).1]
          exact (mem_incidentsOf.mp (Detection.mem_of_mem_naive_unsolved hr)).1
        have harrived := hentered.arrive hfresh hnew hold hold
        -- the solutions are made for the same addresses, so they fail or succeed alike
        rw [mapM_uri_congr (hsolved.imp fun _ _ hrv => uri_eq_of_unnumbered hrv.2.1)]
        cases (Detection.naive (u.incidentsOf app.name) rows).solved.mapM fun r =>
          Producer.solutionFor setup.producer (setup.repository path) (s.applicationAt app).commit
            app.commit r.uri with
        | error e => exact ⟨rfl, harrived⟩
        | ok made =>
          dsimp only
          have hcounterparts := hsolved.imp fun r v hrv =>
            (hrv.1.withReport app report).arrive
              (by rw [withReport_incidentsOf, withReport_incidentsOf]; exact h.pairs.length_eq)
              (Detection.naive (s.incidentsOf app.name) rows)
              (Detection.naive (u.incidentsOf app.name) rows)
          have haccepted := harrived.acceptAll hcounterparts made
          cases s.admits app with
          | false => exact ⟨rfl, haccepted⟩
          | true =>
            refine ⟨?_, haccepted.finish report⟩
            rw [if_pos rfl, if_pos rfl, hfresh, hunsolved.length_eq, hsolved.length_eq]

/-! ## Runs of loads -/

/-- The store after some loads, one after the other. A load that fails leaves what it has written. -/
def after (s : Store) (calls : List LoadCall) : Store :=
  calls.foldl (fun s c => (c.run.exec s).2) s

/-- The loads with what each of them answers. -/
def answers : Store → List LoadCall → List (LoadCall × Outcome LoadCounts)
  | _, [] => []
  | s, c :: rest => (c, (c.run.exec s).1) :: answers (c.run.exec s).2 rest

theorem SamePart.step_other (h : SamePart name s u) {c : LoadCall} (hne : c.app.name ≠ name) :
    SamePart name (c.run.exec s).2 u := by
  have hcommit := load_committed c.setup c.app c.report s
  rw [LoadCall.run]
  exact ⟨h.left.committed hcommit, h.right, hcommit.checked.trans h.checked,
    (hcommit.part_other h.left hne).trans h.part⟩

theorem SamePart.step_own {c : LoadCall} (h : SamePart c.app.name s u)
    (hkind : c.setup.detector = .naive) :
    (c.run.exec s).1 = (c.run.exec u).1 ∧
      SamePart c.app.name (c.run.exec s).2 (c.run.exec u).2 :=
  h.load hkind c.report

theorem after_cons (s : Store) (c : LoadCall) (rest : List LoadCall) :
    s.after (c :: rest) = (c.run.exec s).2.after rest := by
  rw [after, List.foldl_cons, after]

/-- Loads of other applications can be left out of a run. -/
theorem SamePart.run {calls : List LoadCall} (h : SamePart name s u)
    (hkind : ∀ c ∈ callsOf name calls, c.setup.detector = .naive) :
    (answers s calls).filter (fun a => a.1.app.name == name) = answers u (callsOf name calls) ∧
      SamePart name (s.after calls) (u.after (callsOf name calls)) := by
  induction calls generalizing s u with
  | nil => exact ⟨rfl, h⟩
  | cons c rest ih =>
    -- a load of the application is a step of both runs, any other load of the first one only
    by_cases hname : c.app.name = name
    · have hown : callsOf name (c :: rest) = c :: callsOf name rest :=
        List.filter_cons_of_pos (beq_iff_eq.mpr hname)
      rw [hown] at hkind ⊢
      subst hname
      obtain ⟨hanswer, hpart⟩ := h.step_own (hkind c List.mem_cons_self)
      obtain ⟨hanswers, hparts⟩ := ih hpart fun d hd => hkind d (List.mem_cons_of_mem _ hd)
      rw [answers, answers, after_cons, after_cons, List.filter_cons_of_pos (by simp),
        hanswer, hanswers]
      exact ⟨rfl, hparts⟩
    · have hother : callsOf name (c :: rest) = callsOf name rest :=
        List.filter_cons_of_neg (by simpa using hname)
      rw [hother] at hkind ⊢
      obtain ⟨hanswers, hparts⟩ := ih (h.step_other hname) hkind
      rw [answers, after_cons, List.filter_cons_of_neg (by simpa using hname), hanswers]
      exact ⟨rfl, hparts⟩

/-- **Applications do not interfere.** Loads of any applications run one after the other on an empty
store, which may check its rows, and some may fail. If those of one application go by keys, then
what is stored of the application in the end, and what each of its loads answers, is what its loads
alone would have led to. -/
theorem applications_do_not_interfere (checked : Bool) (name : String) (calls : List LoadCall)
    (hkind : ∀ c ∈ callsOf name calls, c.setup.detector = .naive) :
    (after { checked } calls).part name = (after { checked } (callsOf name calls)).part name ∧
    (answers { checked } calls).filter (fun a => a.1.app.name == name) =
      answers { checked } (callsOf name calls) := by
  have hempty := Numbered.empty checked
  have hstart : SamePart name { checked } { checked } := ⟨hempty, hempty, rfl, rfl⟩
  obtain ⟨hanswers, hparts⟩ := hstart.run hkind
  exact ⟨hparts.part, hanswers⟩

/-! ### An example -/

/-- A load in a repository that cannot tell the differences. -/
def LoadCall.broken (c : LoadCall) : LoadCall :=
  { c with setup.repository := fun _ => { difference := fun _ _ _ => .error .git } }

/-- Two applications that share an incident; the second load of the first one fails after it has
taken in its incidents. -/
def interleaved : List LoadCall :=
  [plainCall "a" "c1" [plainIncident 3 []],
   plainCall "b" "d1" [plainIncident 3 [], plainIncident 5 []],
   (plainCall "a" "c2" [plainIncident 7 []]).broken,
   plainCall "b" "d2" [],
   plainCall "a" "c3" [plainIncident 7 []]]

theorem interleaved_applications_do_not_interfere :
    (callsOf "a" interleaved).length = 3 ∧
    (after {} interleaved).part "a" = (after {} (callsOf "a" interleaved)).part "a" ∧
    (answers {} interleaved).filter (fun a => a.1.app.name == "a") =
      answers {} (callsOf "a" interleaved) ∧
    (answers {} (callsOf "a" interleaved)).map Prod.snd =
      [.ok ⟨1, 0, 0⟩, .error .git, .ok ⟨0, 1, 1⟩] ∧
    ((after {} interleaved).part "a").incidents.map (fun p => (p.1.line, p.2.map Solution.fileDiff)) =
      [(3, some "c1..c3"), (7, none)] := by
  obtain ⟨hpart, hanswers⟩ := applications_do_not_interfere true "a" interleaved (by decide +kernel)
  exact ⟨by decide +kernel, hpart, hanswers, by decide +kernel, by decide +kernel⟩

end Remedy.Store
