import Remedy.Proofs.Service.Asking

/-!
# The turns of solving a file

A file is solved in turns, one for each batch of its incidents. A turn sees the file as the turns
before have left it. It ends with the first acceptable answer of the model, and the next turn goes on
with the updated file; if no attempt gives an acceptable answer, no further turn is taken and the
file cannot be migrated. `turns` is this course of things, without the host, the trace and the loop
over attempts.

Main results:

* `solveBatches_records`, `solveBatches_exec`: the batches are solved in these turns, and what that
  leaves in the trace.
* `turns_end`: either each batch has its turn and is solved, or the last turn is stuck.
* `collect_of_accepted`: what the result is made of when each turn has an acceptable answer.
* `file_solved_in_turns`: when a file is solved, what the result is, and what a failure has cost.
-/

namespace Remedy.Service

open Remedy.Action

/-- The language of a file is guessed once, from the file as it is given. -/
def languageOf (setup : ServiceSetup) (r : FileRequest) : String :=
  setup.guesser.guess r.contents (some r.fileName)

/-- One batch that the model is asked about. -/
structure Turn where
  incidents : List ExtendedIncident
  /-- The file as the turns before have left it. -/
  contents : String
  /-- The incidents as the prompt is given them. -/
  described : List Json
  prompt : String
  /-- The store and the model when the model is asked first. -/
  session : Store.Session

namespace Turn

variable (setup : ServiceSetup) (r : FileRequest)

/-- What the model says when it is asked as often as it may be. -/
def attempts (t : Turn) : List (Outcome String) :=
  Service.attempts t.session t.prompt setup.model.retries.toNat

/-- The first acceptable answer. -/
def got? (t : Turn) : Option BatchAnswer :=
  (t.attempts setup).findSome? (accepted? setup.guesser (languageOf setup r))

theorem got?_isSome {t : Turn} :
    (t.got? setup r).isSome = true ↔ ∃ o ∈ t.attempts setup,
      (accepted? setup.guesser (languageOf setup r) o).isSome = true :=
  List.findSome?_isSome_iff

/-- The session that the turn leaves. -/
def left (t : Turn) : Store.Session :=
  askedTimes t.session t.prompt
    (attemptsMade setup.guesser (languageOf setup r) (t.attempts setup))

/-- The prompt is rendered from the file as it stands and from the incidents as they are described
after each was looked up, starting from the given session. -/
structure Prepared (look : Store.Query → Action Store.Session (List Solution))
    (before : Store.Session) (t : Turn) : Prop where
  described : (t.incidents.mapM (describe setup look r.withExamples)).exec before =
    (.ok t.described, t.session)
  rendered : Service.prompt setup
    (batchValues setup.model r.fileName (languageOf setup r) t.contents t.described) = .ok t.prompt

end Turn

/-- The turns for some batches, given the file and the session at their beginning. They fail only
if looking up or rendering a prompt does. -/
def turns (setup : ServiceSetup) (look : Store.Query → Action Store.Session (List Solution))
    (r : FileRequest) :
    List (List ExtendedIncident) → String → Store.Session → Outcome (List Turn)
  | [], _, _ => .ok []
  | incidents :: rest, contents, before =>
    match (incidents.mapM (describe setup look r.withExamples)).exec before with
    | (.error e, _) => .error e
    | (.ok described, session) =>
      match prompt setup
        (batchValues setup.model r.fileName (languageOf setup r) contents described) with
      | .error e => .error e
      | .ok text =>
        let t : Turn := { incidents, contents, described, prompt := text, session }
        match t.got? setup r with
        | none => .ok [t]
        | some got =>
          (turns setup look r rest got.file.updatedFile (t.left setup r)).map (t :: ·)

variable {setup : ServiceSetup} {kinds : List ConsumerKind} {r : FileRequest}
  {look : Store.Query → Action Store.Session (List Solution)}

/-- The first turn is stuck, or the others go on from what it leaves. -/
theorem turns_cons_eq_ok {incidents : List ExtendedIncident} {rest : List (List ExtendedIncident)}
    {contents : String} {before : Store.Session} {ts : List Turn}
    (h : turns setup look r (incidents :: rest) contents before = .ok ts) :
    ∃ t : Turn, t.incidents = incidents ∧ t.contents = contents ∧ t.Prepared setup r look before ∧
      ((t.got? setup r = none ∧ ts = [t]) ∨
        ∃ got later, t.got? setup r = some got ∧
          turns setup look r rest got.file.updatedFile (t.left setup r) = .ok later ∧
          ts = t :: later) := by
  rw [turns] at h
  rcases hdescribed : (incidents.mapM (describe setup look r.withExamples)).exec before with
    ⟨o, session⟩
  rw [hdescribed] at h
  cases o with
  | error e => cases h
  | ok described =>
    dsimp only at h
    cases htext : prompt setup
      (batchValues setup.model r.fileName (languageOf setup r) contents described) with
    | error e =>
      rw [htext] at h
      cases h
    | ok text =>
      rw [htext] at h
      dsimp only at h
      refine ⟨{ incidents, contents, described, prompt := text, session }, rfl, rfl,
        ⟨hdescribed, htext⟩, ?_⟩
      cases hgot : Turn.got? setup r { incidents, contents, described, prompt := text, session } with
      | none =>
        rw [hgot] at h
        cases h
        exact .inl ⟨rfl, rfl⟩
      | some got =>
        rw [hgot] at h
        obtain ⟨later, hlater, hts⟩ := Outcome.map_eq_ok.mp h
        exact .inr ⟨got, later, rfl, hlater, hts.symm⟩

/-! ## Solving batches in turns -/

/-- The file that turns make of the file so far. -/
def collect (setup : ServiceSetup) (r : FileRequest) : UpdatedFile → List Turn → Outcome UpdatedFile
  | soFar, [] => .ok soFar
  | soFar, t :: rest =>
    match t.got? setup r with
    | some got => collect setup r (extended soFar t.prompt got) rest
    | none => .error .migrationFailed

/-- The session after some turns. -/
def sessionAfter (setup : ServiceSetup) (r : FileRequest) : Store.Session → List Turn → Store.Session
  | session, [] => session
  | _, t :: rest => sessionAfter setup r (t.left setup r) rest

/-- The files that a turn leaves in the trace. -/
def Turn.files (setup : ServiceSetup) (r : FileRequest) (batch : Int) (t : Turn) :
    List (Names × String) :=
  Trace.promptFiles batch t.prompt
      (batchValues setup.model r.fileName (languageOf setup r) t.contents t.described) ++
    attemptsFiles setup (languageOf setup r) r.fileName batch 0 (t.attempts setup)

/-- The files that turns leave in the trace, numbered from the given one. -/
def turnsFiles (setup : ServiceSetup) (r : FileRequest) : Int → List Turn → List (Names × String) :=
  Trace.numbered (Turn.files setup r)

/-- Batches are solved in their turns, and the trace gets the files of the turns. -/
theorem solveBatches_records {trace : Trace} {P : (Names → Option String) → Host → Prop}
    (htrace : trace.Records P) (hdependable : Dependable setup r)
    (hconsumer : setup.consumer = .ofKinds kinds)
    (hfinder : ∀ q, setup.finder.find q = onSession (look q))
    {batches : List (List ExtendedIncident)} {soFar : UpdatedFile} {s : Service} {ts : List Turn}
    (contents : Names → Option String) (hs : P contents s.host)
    (hturns : turns setup look r batches soFar.contents s.session = .ok ts) (n : Int) :
    ∃ host queries tapes, P (Trace.written contents (turnsFiles setup r n ts)) host ∧
      (solveBatches setup trace r (languageOf setup r) n batches soFar).exec s =
        (collect setup r soFar ts,
          { host, queries, tapes, session := sessionAfter setup r s.session ts }) := by
  -- Of the service only the session goes from turn to turn. The host, the queries and the tapes change
  -- as well, but `turns` reads none of them, so the step only has to keep `P`.
  induction batches generalizing soFar s ts n contents with
  | nil =>
    cases hturns
    exact ⟨s.host, s.queries, s.tapes, hs, rfl⟩
  | cons incidents rest ih =>
    obtain ⟨t, rfl, hcontents, hprepared, hcases⟩ := turns_cons_eq_ok hturns
    have hrendered := hprepared.rendered
    rw [hcontents] at hrendered
    obtain ⟨host, queries, tapes, hhost, hbatch⟩ := solveBatch_records htrace hdependable hconsumer
      hfinder contents hs hprepared.described hrendered n
    rw [← hcontents] at hhost
    have hturn : (solveBatch setup trace r (languageOf setup r) n t.incidents soFar).exec s =
        ((orMigrationFailed (t.got? setup r)).map (extended soFar t.prompt),
          { host, queries, tapes, session := t.left setup r }) := hbatch
    rw [solveBatches, exec_bind, hturn]
    rcases hcases with ⟨hgot, rfl⟩ | ⟨got, later, hgot, hlater, rfl⟩
    · -- no acceptable answer: the failure ends the loop and `rest` is not looked at
      rw [hgot, collect, hgot]
      refine ⟨host, queries, tapes, ?_, rfl⟩
      rw [turnsFiles, Trace.numbered, Trace.numbered, List.append_nil]
      exact hhost
    · have hnext : turns setup look r rest (extended soFar t.prompt got).contents
          (t.left setup r) = .ok later := hlater
      obtain ⟨host₁, queries₁, tapes₁, hhost₁, hrest⟩ :=
        ih (s := { host, queries, tapes, session := t.left setup r }) _ hhost hnext (n + 1)
      rw [hgot, collect, hgot]
      refine ⟨host₁, queries₁, tapes₁, ?_, hrest⟩
      rw [turnsFiles, Trace.numbered, Trace.written_append]
      exact hhost₁

/-- Batches are solved in their turns. -/
theorem solveBatches_exec {trace : Trace} {P : Host → Prop} (htrace : trace.Writable P)
    (hdependable : Dependable setup r) (hconsumer : setup.consumer = .ofKinds kinds)
    (hfinder : ∀ q, setup.finder.find q = onSession (look q))
    {batches : List (List ExtendedIncident)} {soFar : UpdatedFile} {s : Service} {ts : List Turn}
    (hs : P s.host) (hturns : turns setup look r batches soFar.contents s.session = .ok ts)
    (n : Int) :
    ((solveBatches setup trace r (languageOf setup r) n batches soFar).exec s).1 =
      collect setup r soFar ts ∧
    ((solveBatches setup trace r (languageOf setup r) n batches soFar).exec s).2.session =
      sessionAfter setup r s.session ts := by
  obtain ⟨host, queries, tapes, -, hexec⟩ := solveBatches_records htrace.records hdependable hconsumer
    hfinder (fun _ => none) hs hturns n
  rw [hexec]
  exact ⟨rfl, rfl⟩

/-! ## How turns end -/

/-- Each batch has its turn and is solved, or the last turn is stuck. -/
theorem turns_end {batches : List (List ExtendedIncident)} {contents : String}
    {before : Store.Session} {ts : List Turn}
    (h : turns setup look r batches contents before = .ok ts) :
    (ts.length = batches.length ∧
      ∃ gots : List BatchAnswer, ts.map (Turn.got? setup r) = gots.map some) ∨
      ∃ earlier t, ts = earlier ++ [t] ∧ (∀ b ∈ earlier, (b.got? setup r).isSome = true) ∧
        t.got? setup r = none := by
  induction batches generalizing contents before ts with
  | nil =>
    cases h
    exact .inl ⟨rfl, [], rfl⟩
  | cons incidents rest ih =>
    obtain ⟨t, -, -, -, ⟨hgot, rfl⟩ | ⟨got, later, hgot, hlater, rfl⟩⟩ := turns_cons_eq_ok h
    · exact .inr ⟨[], t, rfl, by simp, hgot⟩
    · rcases ih hlater with ⟨hlength, gots, hgots⟩ | ⟨earlier, u, rfl, hearlier, hu⟩
      · refine .inl ⟨by simp [hlength], got :: gots, ?_⟩
        rw [List.map_cons, List.map_cons, hgot, hgots]
      · refine .inr ⟨t :: earlier, u, rfl, fun b hb => ?_, hu⟩
        rcases List.mem_cons.mp hb with rfl | hb
        · rw [hgot]
          rfl
        · exact hearlier b hb

/-- The turns are those of the first batches, in their order. -/
theorem turns_incidents {batches : List (List ExtendedIncident)} {contents : String}
    {before : Store.Session} {ts : List Turn}
    (h : turns setup look r batches contents before = .ok ts) :
    ts.map Turn.incidents <+: batches := by
  induction batches generalizing contents before ts with
  | nil =>
    cases h
    exact List.prefix_rfl
  | cons incidents rest ih =>
    obtain ⟨t, rfl, -, -, ⟨-, rfl⟩ | ⟨got, later, -, hlater, rfl⟩⟩ := turns_cons_eq_ok h
    · exact List.cons_prefix_cons.mpr ⟨rfl, List.nil_prefix⟩
    · exact List.cons_prefix_cons.mpr ⟨rfl, ih hlater⟩

/-- Each turn is prepared in the session that the turns before have left. -/
theorem turns_prepared {batches : List (List ExtendedIncident)} {contents : String}
    {before : Store.Session} {ts earlier later : List Turn} {t : Turn}
    (h : turns setup look r batches contents before = .ok ts) (hts : ts = earlier ++ t :: later) :
    t.Prepared setup r look (sessionAfter setup r before earlier) := by
  induction batches generalizing contents before ts earlier with
  | nil =>
    cases h
    simp at hts
  | cons incidents rest ih =>
    obtain ⟨first, -, -, hprepared, hcases⟩ := turns_cons_eq_ok h
    -- whether `t` is the first turn or a later one
    cases earlier with
    | nil =>
      have hfirst : first = t := by
        rcases hcases with ⟨-, rfl⟩ | ⟨got, others, -, -, rfl⟩
        · exact (List.cons.inj hts).1
        · exact (List.cons.inj hts).1
      rw [← hfirst]
      exact hprepared
    | cons b earlier =>
      rcases hcases with ⟨-, rfl⟩ | ⟨got, others, -, hothers, rfl⟩
      · simp at hts
      · obtain ⟨rfl, hrest⟩ := List.cons.inj hts
        show t.Prepared setup r look (sessionAfter setup r (first.left setup r) earlier)
        exact ih hothers hrest

/-- Each turn has the file as the answer before has left it. -/
theorem turns_contents {batches : List (List ExtendedIncident)} {contents : String}
    {before : Store.Session} {ts : List Turn} {gots : List BatchAnswer}
    (h : turns setup look r batches contents before = .ok ts)
    (hgots : ts.map (Turn.got? setup r) = gots.map some) :
    ts.map Turn.contents =
      (contents :: gots.map fun got => got.file.updatedFile).dropLast := by
  induction batches generalizing contents before ts gots with
  | nil =>
    cases h
    cases gots with
    | nil => rfl
    | cons got gots => cases hgots
  | cons incidents rest ih =>
    obtain ⟨t, -, hcontents, -, ⟨hgot, rfl⟩ | ⟨got, later, hgot, hlater, rfl⟩⟩ :=
      turns_cons_eq_ok h
    · -- a stuck turn has no answer, against `hgots`
      cases gots with
      | nil => cases hgots
      | cons got gots =>
        rw [List.map_cons, List.map_cons, hgot] at hgots
        cases (List.cons.inj hgots).1
    · cases gots with
      | nil => cases hgots
      | cons got' gots =>
        rw [List.map_cons, List.map_cons, hgot] at hgots
        obtain ⟨hfirst, hrest⟩ := List.cons.inj hgots
        cases hfirst
        rw [List.map_cons, hcontents, ih hlater hrest]
        rfl

/-- When each turn has an acceptable answer, the result holds what they say, in order. -/
theorem collect_of_accepted {ts : List Turn} {gots : List BatchAnswer}
    (hgots : ts.map (Turn.got? setup r) = gots.map some) (soFar : UpdatedFile) :
    collect setup r soFar ts = .ok {
      contents := (gots.map fun got => got.file.updatedFile).getLastD soFar.contents
      reasoning := soFar.reasoning ++ gots.map fun got => got.file.reasoning
      prompts := soFar.prompts ++ ts.map Turn.prompt
      modelId := soFar.modelId
      additional := soFar.additional ++ gots.map fun got => got.file.additional
      answers := soFar.answers.map (· ++ gots.map fun got => got.answer) } := by
  induction ts generalizing gots soFar with
  | nil =>
    cases gots with
    | nil => simp [collect]
    | cons got gots => cases hgots
  | cons t ts ih =>
    cases gots with
    | nil => cases hgots
    | cons got gots =>
      obtain ⟨hfirst, hrest⟩ := List.cons.inj hgots
      rw [collect, hfirst]
      dsimp only
      rw [ih hrest]
      simp only [extended, List.map_cons, List.getLastD_cons, List.append_assoc,
        List.singleton_append, Option.map_map, Function.comp_def]

/-- A stuck turn makes the whole fail. -/
theorem collect_of_stuck {earlier : List Turn} {t : Turn}
    (hearlier : ∀ b ∈ earlier, (b.got? setup r).isSome = true) (ht : t.got? setup r = none)
    (soFar : UpdatedFile) :
    collect setup r soFar (earlier ++ [t]) = .error .migrationFailed := by
  induction earlier generalizing soFar with
  | nil =>
    rw [List.nil_append, collect, ht]
  | cons b earlier ih =>
    obtain ⟨got, hgot⟩ := Option.isSome_iff_exists.mp (hearlier b List.mem_cons_self)
    rw [List.cons_append, collect, hgot]
    exact ih (fun c hc => hearlier c (List.mem_cons_of_mem _ hc)) _

/-- A stuck turn asks as often as it may, and is the last to ask. -/
theorem sessionAfter_of_stuck {earlier : List Turn} {t : Turn} (ht : t.got? setup r = none)
    (session : Store.Session) :
    sessionAfter setup r session (earlier ++ [t]) =
      askedTimes t.session t.prompt setup.model.retries.toNat := by
  induction earlier generalizing session with
  | nil =>
    show t.left setup r = _
    rw [Turn.left, attemptsMade_of_none ht, Turn.attempts, attempts, List.length_map,
      List.length_range]
  | cons b earlier ih => exact ih (b.left setup r)

/-! ## Solving a file -/

/-- The file before its first turn. -/
def givenFile (r : FileRequest) (id : String) : UpdatedFile where
  contents := r.contents
  modelId := id
  answers := if r.withAnswers then some [] else none

theorem solveTraced_exec {id : String} (hid : setup.model.id = .str id) (trace : Trace)
    (r : FileRequest) (s : Service) :
    (solveTraced setup trace r).exec s =
      (solveBatches setup trace r (languageOf setup r) 1
        (Batch.ofIncidents setup.runtime.order r.mode r.incidents) (givenFile r id)).exec s := by
  have hmodel : modelId setup = .ok id := by rw [modelId, hid]
  rw [solveTraced, hmodel, exec_bind_of_ok (exec_ofOutcome _ s)]
  rfl

/-- Without a trace of its own a request is traced as the setup says. -/
theorem solveFile_exec {id : String} (hid : setup.model.id = .str id) (r : FileRequest)
    (s : Service) :
    (solveFile setup r).exec s =
      (solveTraced setup (Trace.ofRequest setup.traceEnabled s.host.workingDirectory setup.logDir id
        r.application r.fileName r.mode.word) r).exec s := by
  have htrace : (traceOf setup r).exec s =
      (.ok (Trace.ofRequest setup.traceEnabled s.host.workingDirectory setup.logDir id
        r.application r.fileName r.mode.word), s) := by
    have hmodel : modelId setup = .ok id := by rw [modelId, hid]
    rw [traceOf, hmodel, exec_bind_of_ok (exec_ofOutcome _ s), exec_bind_of_ok (exec_get s)]
    rfl
  rw [solveFile, exec_bind_of_ok htrace]

/-- A result that is made of the answers that turns were given. -/
structure MadeOf (setup : ServiceSetup) (r : FileRequest) (ts : List Turn)
    (gots : List BatchAnswer) (u : UpdatedFile) : Prop where
  /-- There is one answer for each batch. -/
  counted : gots.length = (Batch.ofIncidents setup.runtime.order r.mode r.incidents).length
  /-- Each turn has its answer, the first acceptable one. -/
  answered : ts.map (Turn.got? setup r) = gots.map some
  /-- The first turn has the file as it is given, each other as the answer before has left it. -/
  chained : ts.map Turn.contents =
    (r.contents :: gots.map fun got => got.file.updatedFile).dropLast
  contents : u.contents = (gots.map fun got => got.file.updatedFile).getLastD r.contents
  prompts : u.prompts = ts.map Turn.prompt
  reasoning : u.reasoning = gots.map fun got => got.file.reasoning
  additional : u.additional = gots.map fun got => got.file.additional
  answers : u.answers = if r.withAnswers then some (gots.map fun got => got.answer) else none

/-- **A file is solved in turns.** When neither looking up nor rendering fails on the way:

* the turns are those of the first batches in order; each prompt is rendered, in the language guessed
  at the start, from the file as it stands and from the incidents of the batch as they are described
  in the session that the turns before have left;
* a result is returned if and only if every batch has its turn and one of the allowed attempts of
  each gives an updated file;
* the result then has one prompt, one reasoning and one further remark for each batch, in order, and
  one answer if answers are asked for; each is from the first acceptable attempt of its turn, whose
  updated file the next turn goes on with; the last updated file is returned;
* otherwise the migration fails: the last turn has asked exactly as often as it may, in vain, all
  turns before it were solved, and the model is not asked again.

The identifier of the model is a text, the ways of showing solutions are known ones, solutions are
found with the store and the model, the trace can be written, the tape of the file can be put in and
saved, and one can wait as long as the pause between attempts is. Without a given trace the same holds
for the trace of the request. -/
theorem file_solved_in_turns {trace : Trace} {P : Host → Prop} {s : Service} {id : String}
    {ts : List Turn} (hid : setup.model.id = .str id) (hconsumer : setup.consumer = .ofKinds kinds)
    (hfinder : ∀ q, setup.finder.find q = onSession (look q)) (htrace : trace.Writable P)
    (hdependable : Dependable setup r) (hhost : P s.host)
    (hturns : turns setup look r (Batch.ofIncidents setup.runtime.order r.mode r.incidents) r.contents
      s.session = .ok ts) :
    let batches := Batch.ofIncidents setup.runtime.order r.mode r.incidents
    let run := (solveTraced setup trace r).exec s
    (ts.map Turn.incidents <+: batches ∧ ∀ earlier t later, ts = earlier ++ t :: later →
      t.Prepared setup r look (sessionAfter setup r s.session earlier)) ∧
    ((∃ u, run.1 = .ok u) ↔ ts.length = batches.length ∧ ∀ t ∈ ts, ∃ o ∈ t.attempts setup,
      (accepted? setup.guesser (languageOf setup r) o).isSome = true) ∧
    (∀ u, run.1 = .ok u → ∃ gots, MadeOf setup r ts gots u) ∧
    ((∀ u, run.1 ≠ .ok u) → run.1 = .error .migrationFailed ∧
      ∃ earlier t, ts = earlier ++ [t] ∧ (∀ b ∈ earlier, (b.got? setup r).isSome = true) ∧
        (∀ o ∈ t.attempts setup, accepted? setup.guesser (languageOf setup r) o = none) ∧
        run.2.session = askedTimes t.session t.prompt setup.model.retries.toNat) ∧
    (solveFile setup r).exec s =
      (solveTraced setup (Trace.ofRequest setup.traceEnabled s.host.workingDirectory setup.logDir id
        r.application r.fileName r.mode.word) r).exec s := by
  intro batches run
  have hstart : turns setup look r batches (givenFile r id).contents s.session = .ok ts := hturns
  obtain ⟨hresult, hsession⟩ := solveBatches_exec htrace hdependable hconsumer hfinder hhost hstart 1
  rw [← solveTraced_exec hid] at hresult hsession
  refine ⟨⟨turns_incidents hturns, fun _ _ _ hts => turns_prepared hturns hts⟩, ?_⟩
  rcases turns_end hturns with ⟨hlength, gots, hgots⟩ | ⟨earlier, t, hts, hearlier, ht⟩
  · -- every batch is solved, and the result can be read off the answers
    have hok := hresult.trans (collect_of_accepted hgots (givenFile r id))
    refine ⟨⟨fun _ => ⟨hlength, fun t ht => ?_⟩, fun _ => ⟨_, hok⟩⟩, fun u hu => ⟨gots, ?_⟩,
      fun hnone => absurd hok (hnone _), solveFile_exec hid r s⟩
    · rw [← Turn.got?_isSome]
      obtain ⟨got, -, hgot⟩ := List.mem_map.mp (hgots ▸ List.mem_map_of_mem ht)
      rw [← hgot]
      rfl
    · cases hok.symm.trans hu
      have hcount : gots.length = ts.length := by
        simpa using (congrArg List.length hgots).symm
      refine ⟨hcount.trans hlength, hgots, turns_contents hturns hgots, rfl, rfl, rfl, rfl, ?_⟩
      show (if r.withAnswers then some [] else none).map _ = _
      cases r.withAnswers <;> rfl
  · -- the last turn is stuck, and so no result is returned
    subst hts
    have herror := hresult.trans (collect_of_stuck hearlier ht (givenFile r id))
    have hnone := List.findSome?_eq_none_iff.mp ht
    have hfails : ∀ u, run.1 ≠ .ok u := fun u hu => by cases herror.symm.trans hu
    refine ⟨⟨fun ⟨u, hu⟩ => absurd hu (hfails u), fun ⟨_, hall⟩ => ?_⟩,
      fun u hu => absurd hu (hfails u), fun _ => ⟨herror, earlier, t, rfl, hearlier, hnone, ?_⟩,
      solveFile_exec hid r s⟩
    · obtain ⟨o, ho, hsome⟩ := hall t (by simp)
      rw [hnone o ho] at hsome
      cases hsome
    · exact hsession.trans (sessionAfter_of_stuck ht s.session)

/-! ### An example -/

/-- A guesser to which the text of a file is its language. -/
def plainGuesser : Guesser where
  ofFile? _ code := some code
  ofText? _ := some "given"

/-- A setup whose prompts are the language and the file as it stands. -/
def plainService : ServiceSetup where
  model :=
    { interface := "", args := [], provider := Model.replayProvider, id := .str "model",
      template := .str "main", llamaHeader := false, retries := 3, retryDelay := Binary64.zero }
  guesser := plainGuesser
  templates :=
    { library := ⟨"/", [(Prompt.mainName, [.value ["src_file_language"] .asIs, .text ": ",
        .value ["src_file_contents"] .asIs])]⟩
      everywhere := [], workingDirectory := "/" }
  consumer := .ofKinds [.diffOnly]
  finder := Finder.ofStore .textOnly ⟨plainGuesser, false⟩
  logDir := "/logs"

/-- An answer that gives an updated file. -/
def plainAnswer (file : String) : String :=
  "## Updated File\n```\n" ++ file ++ "\n```\n"

/-- A request with two incidents, each a batch of its own. -/
def plainRequest : FileRequest where
  fileName := "A.java"
  contents := "given"
  application := "a"
  incidents :=
    [{ uri := "file:///A.java", message := "one", line := 1, ruleset := "rules", violation := "x" },
     { uri := "file:///A.java", message := "two", line := 2, ruleset := "rules", violation := "y" }]
  mode := .none
  withAnswers := true

theorem dependable_plainService : Dependable plainService plainRequest where
  tape _ := ⟨rfl, rfl⟩
  pause := by decide +kernel

/-- A model that fails once and forgets the file once, before it answers twice as it should. -/
def forgetfulModel : Dialogue :=
  Dialogue.replaying
    [.failure "busy", .text "## Reasoning\nno", .text (plainAnswer "first"),
     .text (plainAnswer "second")]

theorem file_solved_in_two_turns :
    let s : Service := { session := { dialogue := forgetfulModel } }
    let trace : Trace := ⟨false, "", none, none⟩
    let look := Store.find .textOnly ⟨plainGuesser, false⟩
    ∃ ts gots u, turns plainService look plainRequest
        (Batch.ofIncidents .given plainRequest.mode plainRequest.incidents) plainRequest.contents
          s.session = .ok ts ∧ ts.length = 2 ∧
      ((solveTraced plainService trace plainRequest).exec s).1 = .ok u ∧
      MadeOf plainService plainRequest ts gots u ∧
      u.contents = "second" ∧ u.prompts = ["given: given", "given: first"] ∧
      u.answers = some [plainAnswer "first", plainAnswer "second"] := by
  intro s trace look
  have hlength : (turns plainService look plainRequest
      (Batch.ofIncidents .given plainRequest.mode plainRequest.incidents) plainRequest.contents
      s.session).map List.length = .ok 2 := by
    decide +kernel
  obtain ⟨ts, hturns, htwo⟩ := Outcome.map_eq_ok.mp hlength
  have hok : ((solveTraced plainService trace plainRequest).exec s).1 = .ok
      { contents := "second", reasoning := ["", ""], prompts := ["given: given", "given: first"],
        modelId := "model", additional := ["", ""],
        answers := some [plainAnswer "first", plainAnswer "second"] } := by
    decide +kernel
  obtain ⟨-, -, hmade, -, -⟩ := file_solved_in_turns rfl rfl (fun _ => rfl)
    (Trace.writable_of_disabled (t := trace) rfl) dependable_plainService trivial hturns
  obtain ⟨gots, hgots⟩ := hmade _ hok
  exact ⟨ts, gots, _, hturns, htwo, hok, hgots, rfl, rfl, rfl⟩

end Remedy.Service
