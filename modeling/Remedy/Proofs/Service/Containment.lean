import Remedy.Proofs.Prompt.Rendering
import Remedy.Proofs.Service.Turns
import Remedy.Proofs.Store.Integrity
import Mathlib.Data.List.SplitBy

/-!
# Failures of the model

A model that fails when it is asked about a batch is asked again, and when all attempts are used up
the migration fails: none of its failures gets out. But the model is also asked for the summaries of
solved examples, while an incident is looked up, and there nothing catches a failure.

Main results:

* `Store.find_eq_error_iff`: when looking up fails.
* `turns_eq_error_iff`: solving fails on the way exactly when an incident that it comes to cannot be
  looked up.
* `ComesTo.solveBatches_eq_error`: such a failure is the outcome of the request.
* `failure_escapes_iff`: which failures get out, and why none but the failure of the migration does
  if no summaries are wanted.
-/

namespace Remedy

open Remedy.Action

/-! ## Summaries that cannot be made -/

namespace Producer

/-- A solution still needs its summary, and the model fails when it is asked for it. -/
def SummaryFails (style : SummaryStyle) (d : Dialogue) (row : IncidentRow) (x : Solution)
    (e : Failure) : Prop :=
  x.summaryGenerated ≠ some true ∧ ∃ prompt, summaryPrompt style row x = .ok prompt ∧
    d.reply d.prompts.length prompt = .error e

/-- Completing a solution fails only as the model does that is asked for a summary. -/
theorem finish_eq_error_iff {kind : ProducerKind} {style : SummaryStyle} {row : IncidentRow}
    {x : Solution} {d : Dialogue} {e : Failure} :
    ((finish kind style row x).exec d).1 = .error e ↔
      kind = .llmLazy ∧ SummaryFails style d row x e := by
  cases kind with
  | textOnly =>
    refine iff_of_false (fun h => ?_) (fun h => ?_)
    · cases h
    · cases h.1
  | llmLazy =>
    rw [finish, summarize, SummaryFails]
    by_cases hmade : x.summaryGenerated = some true
    · rw [hmade]
      refine iff_of_false (fun h => ?_) (fun h => h.2.1 rfl)
      cases h
    · obtain ⟨prompt, hprompt⟩ := exists_summaryPrompt style row x
      have hask : (Dialogue.ask prompt).exec d =
          (d.reply d.prompts.length prompt, { d with prompts := d.prompts ++ [prompt] }) := rfl
      rw [if_neg (by simpa using hmade), hprompt]
      show ((Action.ofOutcome (Except.ok prompt) >>= fun p => _).exec d).1 = _ ↔ _
      rw [exec_bind_of_ok (exec_ofOutcome _ _), exec_bind, hask]
      simp only [true_and, hmade, ne_eq, not_false_eq_true, Except.ok.injEq, exists_eq_left']
      cases d.reply d.prompts.length prompt with
      | ok answer =>
        refine iff_of_false (fun h => ?_) (fun h => ?_)
        · cases h
        · cases h
      | error e' => simp

end Producer

namespace Store

theorem useSolution_eq_error_iff {kind : ProducerKind} {style : Producer.SummaryStyle}
    {row : IncidentRow} {s : Session} {x : Solution} (hx : s.store.solutionOf row = some x)
    {e : Failure} :
    ((useSolution kind style row).exec s).1 = .error e ↔
      kind = .llmLazy ∧ Producer.SummaryFails style s.dialogue row x e := by
  obtain ⟨i, hi, hx⟩ := Option.bind_eq_some_iff.mp hx
  rw [useSolution_exec kind style hi hx, ← Producer.finish_eq_error_iff]
  rcases (Producer.finish kind style row x).exec s.dialogue with ⟨o, d⟩
  cases o with
  | ok done => simp
  | error e' => simp

/-- Among the solved incidents that match, the model fails at the summary of one; the solutions of
those before it have been completed. -/
def SummaryFails (style : Producer.SummaryStyle) (s : Session) (q : Query) (e : Failure) : Prop :=
  ∃ asked before row after done s' x, comparedVars q.vars = .ok asked ∧
    s.store.solvedLike q asked = before ++ row :: after ∧
    (before.mapM (useSolution .llmLazy style)).exec s = (.ok done, s') ∧
    s'.store.solutionOf row = some x ∧ Producer.SummaryFails style s'.dialogue row x e

/-- Looking up fails only if variables cannot be compared, or if the model fails at a summary. -/
theorem find_eq_error_iff {kind : ProducerKind} {style : Producer.SummaryStyle} {q : Query}
    {s : Session} (hs : Numbered s.store) {e : Failure} :
    ((find kind style q).exec s).1 = .error e ↔
      comparedVars q.vars = .error e ∨ kind = .llmLazy ∧ SummaryFails style s q e := by
  cases hasked : comparedVars q.vars with
  | error e' =>
    rw [find_exec_of_error kind style hasked]
    simp [SummaryFails, hasked]
  | ok asked =>
    rw [find_exec_of_ok kind style hasked, exec_mapM_eq_error]
    constructor
    · rintro ⟨before, row, after, done, s', hrows, hbefore, hrow⟩
      obtain ⟨x, hx⟩ := hs.exists_solutionOf_found hrows kind style
      rw [hbefore] at hx
      obtain ⟨rfl, hfails⟩ := (useSolution_eq_error_iff hx).mp hrow
      exact .inr ⟨rfl, asked, before, row, after, done, s', x, hasked, hrows, hbefore, hx, hfails⟩
    · rintro (h | ⟨rfl, asked', before, row, after, done, s', x, hasked', hrows, hbefore, hx, hfails⟩)
      · cases h
      · cases hasked.symm.trans hasked'
        exact ⟨before, row, after, done, s', hrows, hbefore,
          (useSolution_eq_error_iff hx).mpr ⟨rfl, hfails⟩⟩

end Store

/-! ## Incidents that solving comes to -/

/-- Every incident of a batch is one of those that the batches are made of. -/
theorem Batch.mem_of_mem_ofIncidents {order : Order} {mode : BatchMode}
    {incidents : List ExtendedIncident} {i : ExtendedIncident}
    (h : i ∈ (ofIncidents order mode incidents).flatten) : i ∈ incidents := by
  unfold ofIncidents group at h
  cases mode with
  | none =>
    refine (order.perm incidents).mem_iff.mp ?_
    simpa using h
  | singleGroup => simpa [List.flatten_splitBy] using h
  | ruleset => simpa [List.flatten_splitBy] using h
  | violation => simpa [List.flatten_splitBy] using h

namespace Service

variable {setup : ServiceSetup} {kinds : List ConsumerKind} {r : FileRequest}
  {look : Store.Query → Action Store.Session (List Solution)}

/-- What an incident is looked up by. -/
def queryOf (i : ExtendedIncident) : Store.Query :=
  ⟨i.ruleset, i.violation, i.vars, some i.snippet⟩

theorem describe_eq_error_iff {withExamples : Bool} {i : ExtendedIncident} {s : Store.Session}
    {e : Failure} :
    ((describe setup look withExamples i).exec s).1 = .error e ↔
      withExamples = true ∧ ((look (queryOf i)).exec s).1 = .error e := by
  cases withExamples with
  | false =>
    refine iff_of_false (fun h => ?_) (fun h => ?_)
    · cases h
    · cases h.1
  | true =>
    rw [describe, if_pos rfl, ← queryOf, exec_bind]
    rcases (look (queryOf i)).exec s with ⟨o, s'⟩
    cases o with
    | ok found => simp
    | error e' => simp

/-- Solving comes to an incident with a session: the batches before its batch are solved, and the
incidents before it in its batch are described. -/
inductive ComesTo (setup : ServiceSetup)
    (look : Store.Query → Action Store.Session (List Solution)) (r : FileRequest) :
    List (List ExtendedIncident) → String → Store.Session → ExtendedIncident → Store.Session → Prop
  | here {before after : List ExtendedIncident} {i : ExtendedIncident}
    {rest : List (List ExtendedIncident)} {contents : String} {s s' : Store.Session}
    {described : List Json}
    (hbefore : (before.mapM (describe setup look r.withExamples)).exec s = (.ok described, s')) :
    ComesTo setup look r ((before ++ i :: after) :: rest) contents s i s'
  | later {t : Turn} {rest : List (List ExtendedIncident)} {s s' : Store.Session}
    {got : BatchAnswer} {i : ExtendedIncident} (hprepared : t.Prepared setup r look s)
    (hgot : t.got? setup r = some got)
    (hrest : ComesTo setup look r rest got.file.updatedFile (t.left setup r) i s') :
    ComesTo setup look r (t.incidents :: rest) t.contents s i s'

theorem ComesTo.mem {batches : List (List ExtendedIncident)} {contents : String}
    {s s' : Store.Session} {i : ExtendedIncident}
    (h : ComesTo setup look r batches contents s i s') : i ∈ batches.flatten := by
  induction h with
  | here => simp
  | later _ _ _ ih => exact List.mem_append_right _ ih

/-! ## Prompts for batches -/

/-- The model is asked with the main template. -/
def UsesMain (setup : ServiceSetup) : Prop :=
  ∃ name, setup.model.template = .str name ∧
    Prompt.find setup.templates name true true = .ok Prompt.migration

theorem UsesMain.exists_prompt (h : UsesMain setup) (fileName language contents : String)
    {described : List Json} (hdescribed : ∀ v ∈ described, HasMessage v) :
    ∃ text, prompt setup (batchValues setup.model fileName language contents described) =
      .ok text := by
  obtain ⟨name, hname, hfind⟩ := h
  obtain ⟨text, htext⟩ := Template.exists_render
    (Prompt.renders_migration setup.model fileName language contents hdescribed)
  refine ⟨text, ?_⟩
  rw [prompt, promptFrom, hname]
  show (Prompt.find setup.templates name true true >>= fun template =>
    Template.render {} template _) = _
  rw [hfind]
  exact htext

theorem hasMessage_describedWith (i : ExtendedIncident) (found : List Solution) :
    HasMessage (describedWith setup i found) := by
  have hshown := hasMessage_fields { i with vars := setup.finder.kept i.vars }
  cases found with
  | nil => exact hshown
  | cons first rest =>
    show HasMessage (if (exampleText setup.consumer first).isEmpty then .obj _ else .obj _)
    split
    · exact hshown
    · exact hshown.set "solution_str" (by decide) (by decide) _

/-- Incidents are described with a message and a line. -/
theorem hasMessage_of_described {withExamples : Bool} {incidents : List ExtendedIncident}
    {s s' : Store.Session} {described : List Json}
    (h : (incidents.mapM (describe setup look withExamples)).exec s = (.ok described, s')) :
    ∀ v ∈ described, HasMessage v := by
  intro v hv
  obtain ⟨i, -, t, t', hi⟩ := exec_mapM_mem h hv
  cases withExamples with
  | false =>
    cases hi
    exact hasMessage_fields i
  | true =>
    rw [describe, if_pos rfl] at hi
    obtain ⟨found, t₁, -, hi⟩ := exec_bind_eq_ok.mp hi
    cases hi
    exact hasMessage_describedWith i found

/-! ## How solving fails on the way -/

theorem turns_of_undescribed {incidents : List ExtendedIncident} {s s' : Store.Session} {e : Failure}
    (h : (incidents.mapM (describe setup look r.withExamples)).exec s = (.error e, s'))
    (rest : List (List ExtendedIncident)) (contents : String) :
    turns setup look r (incidents :: rest) contents s = .error e := by
  rw [turns, h]

theorem turns_of_prepared {t : Turn} {s : Store.Session} (h : t.Prepared setup r look s)
    (rest : List (List ExtendedIncident)) :
    turns setup look r (t.incidents :: rest) t.contents s =
      (t.got? setup r).elim (.ok [t]) fun got =>
        (turns setup look r rest got.file.updatedFile (t.left setup r)).map (t :: ·) := by
  obtain ⟨incidents, contents, described, text, session⟩ := t
  rw [turns, h.described]
  dsimp only
  rw [h.rendered]
  dsimp only
  cases Turn.got? setup r ⟨incidents, contents, described, text, session⟩ with
  | none => rfl
  | some got => rfl

/-- Solving fails on the way exactly when an incident that it comes to cannot be described. -/
theorem turns_eq_error_iff (hmain : UsesMain setup) {batches : List (List ExtendedIncident)}
    {contents : String} {s : Store.Session} {e : Failure} :
    turns setup look r batches contents s = .error e ↔
      ∃ i s', ComesTo setup look r batches contents s i s' ∧
        ((describe setup look r.withExamples i).exec s').1 = .error e := by
  constructor
  · intro h
    induction batches generalizing contents s with
    | nil => cases h
    | cons incidents rest ih =>
      rcases hdescribed : (incidents.mapM (describe setup look r.withExamples)).exec s with
        ⟨o, session⟩
      cases o with
      | error e' =>
        -- the first batch fails, at one of its incidents
        rw [turns_of_undescribed hdescribed] at h
        cases h
        obtain ⟨before, i, after, ys, s', rfl, hbefore, hi⟩ :=
          exec_mapM_eq_error.mp (congrArg Prod.fst hdescribed)
        exact ⟨i, s', .here hbefore, hi⟩
      | ok described =>
        obtain ⟨text, htext⟩ := hmain.exists_prompt r.fileName (languageOf setup r) contents
          (hasMessage_of_described hdescribed)
        have hprepared : Turn.Prepared setup r look s
            { incidents, contents, described, prompt := text, session } := ⟨hdescribed, htext⟩
        have hturns := (turns_of_prepared hprepared rest).symm.trans h
        generalize ht : ({ incidents, contents, described, prompt := text, session } : Turn) = t
          at hturns hprepared
        -- a turn that is stuck is no such failure, so the failure is in a later batch
        cases hgot : t.got? setup r with
        | none =>
          rw [hgot] at hturns
          cases hturns
        | some got =>
          rw [hgot] at hturns
          obtain ⟨i, s', hcomes, hi⟩ := ih ((Outcome.map_eq_error.mp hturns))
          cases ht
          exact ⟨i, s', .later hprepared hgot hcomes, hi⟩
  · rintro ⟨i, s', hcomes, hi⟩
    induction hcomes with
    | @here before after i rest contents s s' described hbefore =>
      have hfails : (((before ++ i :: after).mapM (describe setup look r.withExamples)).exec s).1 =
          .error e :=
        exec_mapM_eq_error.mpr ⟨before, i, after, described, s', rfl, hbefore, hi⟩
      exact turns_of_undescribed (exec_eq_of_fst hfails) rest contents
    | later hprepared hgot _ ih =>
      rw [turns_of_prepared hprepared, hgot, Option.elim_some, ih hi]
      rfl

/-- A failure on the way is the outcome of the request. -/
theorem ComesTo.solveBatches_eq_error {trace : Trace} {P : Host → Prop} (htrace : trace.Writable P)
    (hdependable : Dependable setup r) (hconsumer : setup.consumer = .ofKinds kinds)
    (hfinder : ∀ q, setup.finder.find q = onSession (look q))
    {batches : List (List ExtendedIncident)} {contents : String} {session session' : Store.Session}
    {i : ExtendedIncident} {e : Failure}
    (h : ComesTo setup look r batches contents session i session')
    (hi : ((describe setup look r.withExamples i).exec session').1 = .error e)
    {soFar : UpdatedFile} (hcontents : soFar.contents = contents) {s : Service}
    (hsession : s.session = session) (hs : P s.host) (n : Int) :
    ((solveBatches setup trace r (languageOf setup r) n batches soFar).exec s).1 = .error e := by
  -- the batches before that of the incident are solved, which is what leads to it
  induction h generalizing soFar s n with
  | @here before after i rest contents session session' described hbefore =>
    subst hsession
    have hfails : (((before ++ i :: after).mapM (describe setup look r.withExamples)).exec
        s.session).1 = .error e :=
      exec_mapM_eq_error.mpr ⟨before, i, after, described, session', rfl, hbefore, hi⟩
    obtain ⟨queries, hdescribe⟩ := WorksOnSession.mapM
      (describeIncident_onSession hconsumer hfinder r.withExamples) (before ++ i :: after) s
    rw [hfails] at hdescribe
    rw [solveBatches, solveBatch, bind_assoc, exec_bind_of_error hdescribe]
  | @later t rest session session' got i hprepared hgot _ ih =>
    subst hsession
    have hrendered := hprepared.rendered
    rw [← hcontents] at hrendered
    obtain ⟨host, queries, tapes, hhost, hbatch⟩ :=
      solveBatch_exec htrace hdependable hconsumer hfinder hs hprepared.described hrendered n
    have hturn : (solveBatch setup trace r (languageOf setup r) n t.incidents soFar).exec s =
        ((orMigrationFailed (t.got? setup r)).map (extended soFar t.prompt),
          { host, queries, tapes, session := t.left setup r }) := hbatch
    rw [hgot] at hturn
    rw [solveBatches, exec_bind_of_ok hturn]
    exact ih hi rfl rfl hhost (n + 1)

theorem eq_migrationFailed_of_collect {soFar : UpdatedFile} {ts : List Turn} {e : Failure}
    (h : collect setup r soFar ts = .error e) : e = .migrationFailed := by
  induction ts generalizing soFar with
  | nil => cases h
  | cons t rest ih =>
    rw [collect] at h
    split at h
    · exact ih h
    · cases h
      rfl

/-- Which failures get out: that of the migration, and those on the way. -/
theorem solveTraced_eq_error_iff {trace : Trace} {P : Host → Prop} (htrace : trace.Writable P)
    (hdependable : Dependable setup r) (hconsumer : setup.consumer = .ofKinds kinds)
    (hfinder : ∀ q, setup.finder.find q = onSession (look q)) (hmain : UsesMain setup)
    {s : Service} (hs : P s.host) {e : Failure} (he : e ≠ .migrationFailed) :
    ((solveTraced setup trace r).exec s).1 = .error e ↔
      modelId setup = .error e ∨ (∃ id, modelId setup = .ok id) ∧
        ∃ i session, ComesTo setup look r
            (Batch.ofIncidents setup.runtime.order r.mode r.incidents) r.contents s.session i session ∧
          ((describe setup look r.withExamples i).exec session).1 = .error e := by
  cases hid : modelId setup with
  | error e' =>
    rw [solveTraced, hid, exec_bind_of_error (exec_ofOutcome _ _)]
    simp
  | ok id =>
    have hrun : (solveTraced setup trace r).exec s =
        (solveBatches setup trace r (languageOf setup r) 1
          (Batch.ofIncidents setup.runtime.order r.mode r.incidents) (givenFile r id)).exec s := by
      rw [solveTraced, hid, exec_bind_of_ok (exec_ofOutcome _ _)]
      rfl
    rw [hrun, ← turns_eq_error_iff hmain]
    cases hturns : turns setup look r (Batch.ofIncidents setup.runtime.order r.mode r.incidents)
        r.contents s.session with
    | error e' =>
      obtain ⟨i, session, hcomes, hi⟩ := (turns_eq_error_iff hmain).mp hturns
      rw [hcomes.solveBatches_eq_error htrace hdependable hconsumer hfinder hi rfl rfl hs]
      simp
    | ok ts =>
      -- then only a turn that is stuck can fail
      obtain ⟨hresult, -⟩ := solveBatches_exec htrace hdependable hconsumer hfinder hs
        (show turns setup look r _ (givenFile r id).contents s.session = .ok ts from hturns) 1
      rw [hresult]
      refine iff_of_false (fun h => he (eq_migrationFailed_of_collect h)) ?_
      simp

/-! ## Failures that get out -/

theorem describe_onlySolutions (kind : ProducerKind) (style : Producer.SummaryStyle)
    (withExamples : Bool) (i : ExtendedIncident) (s : Store.Session) :
    Store.OnlySolutions s.store
      ((describe setup (Store.find kind style) withExamples i).exec s).2.store := by
  cases withExamples with
  | false => exact .refl _
  | true =>
    have hfind := Store.find_onlySolutions kind style (queryOf i) s
    rw [describe, if_pos rfl, ← queryOf, exec_bind]
    rcases hrun : (Store.find kind style (queryOf i)).exec s with ⟨o, s'⟩
    rw [hrun] at hfind
    cases o with
    | ok found => exact hfind
    | error e => exact hfind

/-- On the way to an incident only solutions change in the store. -/
theorem ComesTo.onlySolutions {kind : ProducerKind} {style : Producer.SummaryStyle}
    {batches : List (List ExtendedIncident)} {contents : String} {s s' : Store.Session}
    {i : ExtendedIncident} (h : ComesTo setup (Store.find kind style) r batches contents s i s') :
    Store.OnlySolutions s.store s'.store := by
  have hdescribe : ∀ (incidents : List ExtendedIncident) (s : Store.Session),
      Store.OnlySolutions s.store
        ((incidents.mapM (describe setup (Store.find kind style) r.withExamples)).exec s).2.store :=
    exec_mapM_rel (R := fun s t : Store.Session => Store.OnlySolutions s.store t.store)
      (fun s => Store.OnlySolutions.refl s.store) Store.OnlySolutions.trans
      (describe_onlySolutions kind style r.withExamples)
  induction h with
  | @here before _ _ _ _ s _ _ hbefore =>
    have honly := hdescribe before s
    rwa [hbefore] at honly
  | @later t _ s _ _ _ hprepared _ _ ih =>
    have honly := hdescribe t.incidents s
    rw [hprepared.described] at honly
    -- asking the model leaves the store alone
    exact honly.trans ih

/-- **Which failures get out.** The model is asked with the main template, about any incidents and
with any store that loading and finding lead to, and whatever it says each time:

* a failure other than that of the migration gets out if and only if the model has no identifier, or
  solved examples are asked for and one of the incidents that solving comes to cannot be looked up:
  its variables cannot be compared, or summaries are wanted and the model itself fails with this
  failure when it is asked for the summary of a solved example;
* so if no summaries are wanted or no solved examples are asked for, no failure of the model gets out:
  all that can be seen but a result is that the migration has failed, that the model has no
  identifier, or that the variables of an incident cannot be compared. -/
theorem failure_escapes_iff {kind : ProducerKind} {style : Producer.SummaryStyle} {trace : Trace}
    {P : Host → Prop} {s : Service} (hconsumer : setup.consumer = .ofKinds kinds)
    (hfinder : setup.finder = Finder.ofStore kind style) (hmain : UsesMain setup)
    (htrace : trace.Writable P) (hdependable : Dependable setup r) (hhost : P s.host)
    (hstore : Store.Persisted s.session.store) :
    let run := (solveTraced setup trace r).exec s
    (∀ e, e ≠ .migrationFailed → (run.1 = .error e ↔
      modelId setup = .error e ∨ (∃ id, modelId setup = .ok id) ∧ r.withExamples = true ∧
        ∃ i session, ComesTo setup (Store.find kind style) r
            (Batch.ofIncidents setup.runtime.order r.mode r.incidents) r.contents s.session i session ∧
          (Store.comparedVars i.vars = .error e ∨
            kind = .llmLazy ∧ Store.SummaryFails style session (queryOf i) e))) ∧
    (kind = .textOnly ∨ r.withExamples = false → ∀ e, run.1 = .error e →
      e = .migrationFailed ∨ modelId setup = .error e ∨
        ∃ i ∈ r.incidents, Store.comparedVars i.vars = .error e) := by
  intro run
  have hfind : ∀ q, setup.finder.find q = onSession (Store.find kind style q) := by
    intro q
    rw [hfinder]
    rfl
  have hescapes : ∀ e, e ≠ .migrationFailed → (run.1 = .error e ↔
      modelId setup = .error e ∨ (∃ id, modelId setup = .ok id) ∧ r.withExamples = true ∧
        ∃ i session, ComesTo setup (Store.find kind style) r
            (Batch.ofIncidents setup.runtime.order r.mode r.incidents) r.contents s.session i session ∧
          (Store.comparedVars i.vars = .error e ∨
            kind = .llmLazy ∧ Store.SummaryFails style session (queryOf i) e)) := by
    intro e he
    rw [solveTraced_eq_error_iff htrace hdependable hconsumer hfind hmain hhost he]
    refine or_congr_right (and_congr_right fun _ => ?_)
    constructor
    · rintro ⟨i, session, hcomes, hi⟩
      obtain ⟨hexamples, hlook⟩ := describe_eq_error_iff.mp hi
      have hnumbered := hstore.integrity.toNumbered.onlySolutions hcomes.onlySolutions
      exact ⟨hexamples, i, session, hcomes, (Store.find_eq_error_iff hnumbered).mp hlook⟩
    · rintro ⟨hexamples, i, session, hcomes, hlook⟩
      have hnumbered := hstore.integrity.toNumbered.onlySolutions hcomes.onlySolutions
      exact ⟨i, session, hcomes, describe_eq_error_iff.mpr
        ⟨hexamples, (Store.find_eq_error_iff hnumbered).mpr hlook⟩⟩
  refine ⟨hescapes, fun hcontained e hrun => ?_⟩
  by_cases he : e = .migrationFailed
  · exact .inl he
  · rcases (hescapes e he).mp hrun with hid | ⟨-, hexamples, i, session, hcomes, hvars | ⟨hlazy, -⟩⟩
    · exact .inr (.inl hid)
    · exact .inr (.inr ⟨i, Batch.mem_of_mem_ofIncidents hcomes.mem, hvars⟩)
    · -- summaries are wanted and solved examples are asked for, which was excluded
      rcases hcontained with htext | hnone
      · cases htext.symm.trans hlazy
      · cases hnone.symm.trans hexamples

/-! ### An example -/

/-- A load with summaries wanted. -/
def lazyCall (commit : String) (incidents : List Incident) : Store.LoadCall :=
  { Store.plainCall "a" commit incidents with
    setup := { Store.plainSetup with producer := .llmLazy } }

/-- The store after an incident came and went, with summaries wanted. It is only ever evaluated as a
whole. -/
@[irreducible]
def wentLazily : Store :=
  let came := ((lazyCall "c1" [Store.plainIncident 3 [("x", .int 1)]]).run.exec {}).2
  ((lazyCall "c2" []).run.exec came).2

theorem persisted_wentLazily : Store.Persisted wentLazily := by
  delta wentLazily
  exact (Store.Persisted.empty.run _).run _

/-- A setup with the main template and a producer of solutions. -/
def mainService (kind : ProducerKind) : ServiceSetup :=
  { plainService with
    templates :=
      { library := ⟨"/", [(Prompt.mainName, Prompt.migration)]⟩
        everywhere := [], workingDirectory := "/" }
    finder := Finder.ofStore kind ⟨plainGuesser, false⟩ }

theorem usesMain_mainService (kind : ProducerKind) : UsesMain (mainService kind) :=
  ⟨"main", rfl, rfl⟩

/-- A request with an incident like the one that came and went. -/
def likeGone : FileRequest :=
  { plainRequest with
    incidents := [{ uri := "file:///A.java", message := "one", vars := [("x", .int 1)],
                    ruleset := "rules", violation := "rule" }] }

/-- A model that always fails. -/
def brokenModel : Dialogue :=
  Dialogue.replaying [.failure "boom"]

/-- The service with the store and the model. -/
def brokenService : Service where
  session := ⟨wentLazily, brokenModel⟩

/-- A trace that is switched off. -/
def untraced : Trace := ⟨false, "/logs", none, none⟩

theorem broken_runs :
    ((solveTraced (mainService .llmLazy) untraced likeGone).exec brokenService).1 =
      .error (.told "boom") ∧
    ((solveTraced (mainService .textOnly) untraced likeGone).exec brokenService).1 =
      .error .migrationFailed := by
  decide +kernel

theorem failure_escapes_iff_broken :
    ((solveTraced (mainService .llmLazy) untraced likeGone).exec brokenService).1 =
      .error (.told "boom") ∧
    ∃ i ∈ likeGone.incidents, ∃ session,
      Store.SummaryFails ⟨plainGuesser, false⟩ session (queryOf i) (.told "boom") := by
  obtain ⟨hrun, -⟩ := broken_runs
  obtain ⟨hescapes, -⟩ := failure_escapes_iff (s := brokenService) (r := likeGone) rfl rfl
    (usesMain_mainService .llmLazy) (Trace.writable_of_disabled (t := untraced) rfl)
    ⟨fun _ => ⟨rfl, rfl⟩, dependable_plainService.pause⟩ trivial persisted_wentLazily
  refine ⟨hrun, ?_⟩
  rcases (hescapes _ (by decide)).mp hrun with
    hid | ⟨-, -, i, session, hcomes, hvars | ⟨-, hfails⟩⟩
  · cases hid
  · -- the variables of the one incident can be compared
    have hi : i ∈ likeGone.incidents := Batch.mem_of_mem_ofIncidents hcomes.mem
    have hall : ∀ j ∈ likeGone.incidents, (Store.comparedVars j.vars).toBool = true := by
      decide +kernel
    have hcompared := hall i hi
    rw [hvars] at hcompared
    cases hcompared
  · exact ⟨i, Batch.mem_of_mem_ofIncidents hcomes.mem, session, hfails⟩

/-- A model that always fails: with summaries wanted its own failure gets out, from a store that two
loads lead to; without, the migration fails. -/
theorem summary_failure_escapes :
    Store.Persisted brokenService.session.store ∧
    ((solveTraced (mainService .llmLazy) untraced likeGone).exec brokenService).1 =
      .error (.told "boom") ∧
    ((solveTraced (mainService .textOnly) untraced likeGone).exec brokenService).1 =
      .error .migrationFailed :=
  ⟨persisted_wentLazily, broken_runs⟩

end Service
end Remedy
