import Remedy.Proofs.Service.Turns
import Remedy.Proofs.Trace.Placed

/-!
# What a trace tells of a request

A request that is traced into an empty log directory leaves there what happened, and nothing else. The
turns are numbered from one and the attempts of a turn from zero. A turn leaves its prompt and the
values of the prompt. An attempt leaves the answer if the model gave one, and the failure if the
attempt failed, which it does without an updated file. That the request itself fails in the end makes
no difference.

Main results:

* `recorded_iff_mem`: the files that the turns write are those that tell of the turns.
* `recorded_unique`: no file is written twice.
* `trace_tells_turns`: what is in the trace after a request.
-/

namespace Remedy.Service

open Remedy.Action

variable {setup : ServiceSetup} {kinds : List ConsumerKind} {r : FileRequest}
  {look : Store.Query → Action Store.Session (List Solution)}

/-- What the model says in the attempts that are made in a turn. -/
def Turn.made (setup : ServiceSetup) (r : FileRequest) (t : Turn) : List (Outcome String) :=
  Service.made setup.guesser (languageOf setup r) (t.attempts setup)

/-- The values that the prompt of a turn was made from, as they are written down: without the
model. -/
def Turn.valuesText (setup : ServiceSetup) (r : FileRequest) (t : Turn) : String :=
  Json.render Json.indented (.obj (Fields.erase
    (batchValues setup.model r.fileName (languageOf setup r) t.contents t.described)
    Trace.modelValue))

/-- The files that tell of some turns, with what they say. -/
inductive Recorded (setup : ServiceSetup) (r : FileRequest) (ts : List Turn) : Names → String → Prop
  | prompt {i : Nat} {t : Turn} (ht : ts[i]? = some t) :
      Recorded setup r ts [Decimal.int (i + 1), "prompt"] t.prompt
  | values {i : Nat} {t : Turn} (ht : ts[i]? = some t) :
      Recorded setup r ts [Decimal.int (i + 1), "prompt_vars.json"] (t.valuesText setup r)
  /-- The model has answered. -/
  | answer {i j : Nat} {t : Turn} {answer : String} (ht : ts[i]? = some t)
      (ho : (t.made setup r)[j]? = some (.ok answer)) :
      Recorded setup r ts [Decimal.int (i + 1), Decimal.int j, "llm_result"]
        (setup.runtime.shown answer)
  /-- The attempt has failed. -/
  | failure {i j : Nat} {t : Turn} {o : Outcome String} {e : Failure} (ht : ts[i]? = some t)
      (ho : (t.made setup r)[j]? = some o)
      (he : failureOf? setup.guesser (languageOf setup r) r.fileName o = some e) :
      Recorded setup r ts [Decimal.int (i + 1), Decimal.int j, "exception"] e.text
  | origin {i j : Nat} {t : Turn} {o : Outcome String} {e : Failure} (ht : ts[i]? = some t)
      (ho : (t.made setup r)[j]? = some o)
      (he : failureOf? setup.guesser (languageOf setup r) r.fileName o = some e) :
      Recorded setup r ts [Decimal.int (i + 1), Decimal.int j, "traceback"] (setup.runtime.origin e)

/-! ## The files that are written -/

theorem mem_answerFiles_iff {batch attempt : Int} {shown : String → String} {o : Outcome String}
    {names : Names} {text : String} :
    (names, text) ∈ Trace.answerFiles batch attempt (o.map shown) ↔ ∃ answer, o = .ok answer ∧
      names = [Decimal.int batch, Decimal.int attempt, "llm_result"] ∧ text = shown answer := by
  cases o with
  | error e => simp [Trace.answerFiles, Except.map]
  | ok answer => simp [Trace.answerFiles, Except.map]

theorem mem_failureFiles_iff {batch attempt : Int} (hbatch : 0 ≤ batch) (hattempt : 0 ≤ attempt)
    {failure origin : String} {names : Names} {text : String} :
    (names, text) ∈ Trace.failureFiles batch attempt failure origin ↔
      names = [Decimal.int batch, Decimal.int attempt, "exception"] ∧ text = failure ∨
      names = [Decimal.int batch, Decimal.int attempt, "traceback"] ∧ text = origin := by
  simp [Trace.failureFiles, Trace.numberPart, hbatch, hattempt]

theorem mem_attemptFiles_iff {language fileName : String} {batch attempt : Int}
    {o : Outcome String} {file : Names × String} :
    file ∈ attemptFiles setup language fileName batch attempt o ↔
      file ∈ Trace.answerFiles batch attempt (o.map setup.runtime.shown) ∨
      ∃ e, failureOf? setup.guesser language fileName o = some e ∧
        file ∈ Trace.failureFiles batch attempt e.text (setup.runtime.origin e) := by
  rw [attemptFiles, List.mem_append]
  cases failureOf? setup.guesser language fileName o with
  | none => simp
  | some e => simp

/-- The files of the turns are those that tell of them. -/
theorem recorded_iff_mem {ts : List Turn} {names : Names} {text : String} :
    Recorded setup r ts names text ↔ (names, text) ∈ turnsFiles setup r 1 ts := by
  -- turns are numbered from one, attempts from zero
  have hfirst : ∀ i : Nat, (1 : Int) + i = i + 1 := fun i => Int.add_comm 1 i
  have hcount : ∀ j : Nat, (0 : Int) + j = j := fun j => Int.zero_add j
  have hturn : (names, text) ∈ turnsFiles setup r 1 ts ↔ ∃ (i : Nat) (t : Turn), ts[i]? = some t ∧
      ((names, text) ∈ Trace.promptFiles (i + 1) t.prompt (batchValues setup.model r.fileName
        (languageOf setup r) t.contents t.described) ∨
      ∃ (j : Nat) (o : Outcome String), (t.made setup r)[j]? = some o ∧ (names, text) ∈
        attemptFiles setup (languageOf setup r) r.fileName (i + 1) j o) := by
    rw [turnsFiles, Trace.mem_numbered_iff]
    simp only [Turn.files, List.mem_append, attemptsFiles, Trace.mem_numbered_iff, hfirst, hcount]
    rfl
  rw [hturn]
  constructor
  · intro h
    cases h with
    | prompt ht => exact ⟨_, _, ht, Or.inl (by simp [Trace.promptFiles])⟩
    | values ht => exact ⟨_, _, ht, Or.inl (by simp [Trace.promptFiles, Turn.valuesText])⟩
    | answer ht ho =>
      refine ⟨_, _, ht, Or.inr ⟨_, _, ho, mem_attemptFiles_iff.mpr (Or.inl ?_)⟩⟩
      exact mem_answerFiles_iff.mpr ⟨_, rfl, rfl, rfl⟩
    | failure ht ho he =>
      refine ⟨_, _, ht, Or.inr ⟨_, _, ho, mem_attemptFiles_iff.mpr (Or.inr ⟨_, he, ?_⟩)⟩⟩
      exact (mem_failureFiles_iff (by omega) (by omega)).mpr (Or.inl ⟨rfl, rfl⟩)
    | origin ht ho he =>
      refine ⟨_, _, ht, Or.inr ⟨_, _, ho, mem_attemptFiles_iff.mpr (Or.inr ⟨_, he, ?_⟩)⟩⟩
      exact (mem_failureFiles_iff (by omega) (by omega)).mpr (Or.inr ⟨rfl, rfl⟩)
  · rintro ⟨i, t, ht, hprompt | ⟨j, o, ho, hattempt⟩⟩
    · simp only [Trace.promptFiles, List.mem_cons, Prod.mk.injEq, List.not_mem_nil, or_false]
        at hprompt
      rcases hprompt with ⟨rfl, rfl⟩ | ⟨rfl, rfl⟩
      · exact .prompt ht
      · exact .values ht
    · rcases mem_attemptFiles_iff.mp hattempt with hanswer | ⟨e, he, hfailure⟩
      · obtain ⟨answer, rfl, rfl, rfl⟩ := mem_answerFiles_iff.mp hanswer
        exact .answer ht ho
      · rcases (mem_failureFiles_iff (by omega) (by omega)).mp hfailure with
          ⟨rfl, rfl⟩ | ⟨rfl, rfl⟩
        · exact .failure ht ho he
        · exact .origin ht ho he

theorem turn_eq_of_number {ts : List Turn} {i i' : Nat} {t t' : Turn} (ht : ts[i]? = some t)
    (ht' : ts[i']? = some t') (h : Decimal.int (i + 1) = Decimal.int (i' + 1)) : t = t' := by
  have hnumber := Decimal.int_inj h
  obtain rfl : i = i' := by omega
  exact Option.some.inj (ht.symm.trans ht')

theorem outcome_eq_of_number {os : List (Outcome String)} {j j' : Nat} {o o' : Outcome String}
    (ho : os[j]? = some o) (ho' : os[j']? = some o') (h : Decimal.int j = Decimal.int j') :
    o = o' := by
  obtain rfl : j = j' := Int.ofNat_inj.mp (Decimal.int_inj h)
  exact Option.some.inj (ho.symm.trans ho')

/-- A file says one thing: its name tells what kind of file it is, and the numbers tell the turn and
the attempt. -/
theorem recorded_unique {ts : List Turn} {names : Names} {a b : String}
    (ha : Recorded setup r ts names a) (hb : Recorded setup r ts names b) : a = b := by
  -- files of different kinds have different last names or are at different depths
  generalize hnames : names = names' at hb
  cases ha with
  | prompt ht =>
    cases hb with
    | prompt ht' =>
      obtain rfl := turn_eq_of_number ht ht' (List.cons.inj hnames).1
      rfl
    | _ => simp at hnames
  | values ht =>
    cases hb with
    | values ht' =>
      obtain rfl := turn_eq_of_number ht ht' (List.cons.inj hnames).1
      rfl
    | _ => simp at hnames
  | answer ht ho =>
    cases hb with
    | answer ht' ho' =>
      obtain ⟨hturn, hrest⟩ := List.cons.inj hnames
      obtain rfl := turn_eq_of_number ht ht' hturn
      cases outcome_eq_of_number ho ho' (List.cons.inj hrest).1
      rfl
    | _ => simp at hnames
  | failure ht ho he =>
    cases hb with
    | failure ht' ho' he' =>
      obtain ⟨hturn, hrest⟩ := List.cons.inj hnames
      obtain rfl := turn_eq_of_number ht ht' hturn
      cases outcome_eq_of_number ho ho' (List.cons.inj hrest).1
      cases he.symm.trans he'
      rfl
    | _ => simp at hnames
  | origin ht ho he =>
    cases hb with
    | origin ht' ho' he' =>
      obtain ⟨hturn, hrest⟩ := List.cons.inj hnames
      obtain rfl := turn_eq_of_number ht ht' hturn
      cases outcome_eq_of_number ho ho' (List.cons.inj hrest).1
      cases he.symm.trans he'
      rfl
    | _ => simp at hnames

/-! ## The trace after a request -/

/-- The directory of a trace that is put below a log directory by names that only lead down. -/
theorem placed_of_plain {trace : Trace} {h : Host} {log : String} {components : List String}
    {dir : Names} (hon : trace.enabled = true)
    (hdirectory : trace.directory = Path.joinAll log components) (hne : components ≠ [])
    (hplain : ∀ c ∈ components, Path.IsPlain c)
    (hlog : h.files.follow [] (FileTree.parts (Path.join h.workingDirectory log)) = .ok dir)
    (hempty : h.files.IsEmptyDir dir) :
    trace.Placed h.workingDirectory h.files dir (components.flatMap FileTree.parts) := by
  obtain ⟨first, rest, rfl⟩ := List.exists_cons_of_ne_nil hne
  have hfirst := hplain first List.mem_cons_self
  refine ⟨hon, ?_, ⟨_, ?_, hlog⟩, ?_, ?_, hempty⟩
  · rw [hdirectory]
    show Path.joinAll (Path.join log first) rest ≠ ""
    exact Path.joinAll_ne (Path.join_ne hfirst.ne_empty log) fun c hc =>
      (hplain c (List.mem_cons_of_mem _ hc)).ne_empty
  · rw [hdirectory, FileTree.parts_join_joinAll fun c hc => (hplain c hc).not_startsWith]
  · rw [List.flatMap_cons]
    exact List.append_ne_nil_of_left_ne_nil (FileTree.parts_ne_nil_of_isPlain hfirst) _
  · intro n hn
    obtain ⟨c, hc, hmem⟩ := List.mem_flatMap.mp hn
    exact (FileTree.isName_of_isPlain (hplain c hc) hmem).2

/-- **The trace tells what happened.** Let a request be traced below a log directory that is empty,
by names that only lead down, and let neither looking up nor rendering fail on the way. Then the
request comes to what its turns come to, be that a failure, and the model was asked in these turns
only. The files below the directory of the trace are those that tell of the turns: the prompt and
its values for each turn, the answer as it is shown for each attempt in which the model gave one,
and the failure with its origin for each attempt that failed. No other file is made or changed;
tapes lie among the data files of the installation. The trace of a request is put there by the
identifier of the model, the application, the file and the way of making batches. -/
theorem trace_tells_turns {trace : Trace} {s : Service} {id : String} {ts : List Turn}
    {components : List String} {dir : Names} (hid : setup.model.id = .str id)
    (hconsumer : setup.consumer = .ofKinds kinds)
    (hfinder : ∀ q, setup.finder.find q = onSession (look q)) (hdependable : Dependable setup r)
    (hon : trace.enabled = true)
    (hdirectory : trace.directory =
      Path.joinAll (Logging.directory s.host.workingDirectory setup.logDir) components)
    (hne : components ≠ []) (hplain : ∀ c ∈ components, Path.IsPlain c)
    (hlog : s.host.files.follow [] (FileTree.parts (Path.join s.host.workingDirectory
      (Logging.directory s.host.workingDirectory setup.logDir))) = .ok dir)
    (hempty : s.host.files.IsEmptyDir dir)
    (hturns : turns setup look r (Batch.ofIncidents setup.runtime.order r.mode r.incidents) r.contents
      s.session = .ok ts) :
    ((solveTraced setup trace r).exec s).1 = collect setup r (givenFile r id) ts ∧
    ((solveTraced setup trace r).exec s).2.session = sessionAfter setup r s.session ts ∧
    (∀ names text,
      ((solveTraced setup trace r).exec s).2.host.files.file?
        (dir ++ components.flatMap FileTree.parts ++ names) = some text ↔
          Recorded setup r ts names text) ∧
    (∀ p, ¬ dir ++ components.flatMap FileTree.parts <+: p →
      ((solveTraced setup trace r).exec s).2.host.files.file? p = s.host.files.file? p) ∧
    (solveFile setup r).exec s =
      (solveTraced setup (Trace.ofRequest setup.traceEnabled s.host.workingDirectory setup.logDir id
        r.application r.fileName r.mode.word) r).exec s := by
  have hplaced := placed_of_plain hon hdirectory hne hplain hlog hempty
  have hstart : turns setup look r (Batch.ofIncidents setup.runtime.order r.mode r.incidents)
      (givenFile r id).contents s.session = .ok ts := hturns
  obtain ⟨host, queries, tapes, hholds, hexec⟩ := solveBatches_records
    (Trace.records_of_placed hplaced) hdependable hconsumer hfinder _
    (Trace.holds_nothing hempty hplaced.nonempty) hstart 1
  rw [solveTraced_exec hid trace r s, hexec]
  -- no file was written twice, so what was written is what is there
  refine ⟨rfl, rfl, fun names text => ?_, hholds.other, solveFile_exec hid r s⟩
  rw [hholds.file, recorded_iff_mem]
  exact Trace.written_eq_some_iff fun _ _ _ ha hb =>
    recorded_unique (recorded_iff_mem.mpr ha) (recorded_iff_mem.mpr hb)

/-! ### An example -/

/-- A setup whose traces tell who gave an answer, and where a failure arose. -/
def tracedSetup : ServiceSetup :=
  { plainService with
    runtime :=
      { shown := fun answer => "Ai Message\n\n" ++ answer
        origin := fun e => "in an attempt: " ++ e.text } }

theorem dependable_tracedSetup : Dependable tracedSetup plainRequest where
  tape _ := ⟨rfl, rfl⟩
  pause := dependable_plainService.pause

/-- A service with an empty log directory, and a model that fails once and forgets the file once. -/
def loggingService : Service where
  host := { files := { dirs := [["logs"]] } }
  session := { dialogue := forgetfulModel }

/-- The trace of the request of two batches. -/
def loggingTrace : Trace :=
  Trace.ofRequest true "/" tracedSetup.logDir "model" plainRequest.application
    plainRequest.fileName plainRequest.mode.word

theorem loggingService_isEmptyDir : loggingService.host.files.IsEmptyDir ["logs"] := by
  refine ⟨by decide, fun q hq => ?_, fun _ _ => rfl⟩
  obtain ⟨n, ns, rfl⟩ := List.exists_cons_of_ne_nil hq
  rfl

/-- The first batch takes three attempts. The model fails in the first of them, gives no file in the
second, and has its answer accepted in the third. -/
theorem trace_tells_two_turns :
    ∃ ts, turns tracedSetup (Store.find .textOnly ⟨plainGuesser, false⟩) plainRequest
        (Batch.ofIncidents .given plainRequest.mode plainRequest.incidents) plainRequest.contents
        loggingService.session = .ok ts ∧
      ts.map (Turn.made tracedSetup plainRequest) =
        [[.error (.told "busy"), .ok "## Reasoning\nno", .ok (plainAnswer "first")],
         [.ok (plainAnswer "second")]] ∧
      (∀ names text,
        ((solveTraced tracedSetup loggingTrace plainRequest).exec loggingService).2.host.files.file?
          (["logs", "trace", "model", "a", "A.java", "none"] ++ names) = some text ↔
            Recorded tracedSetup plainRequest ts names text) ∧
      ((solveTraced tracedSetup loggingTrace plainRequest).exec loggingService).2.host.files.file?
        ["logs", "trace", "model", "a", "A.java", "none", "1", "0", "exception"] = some "busy" ∧
      ((solveTraced tracedSetup loggingTrace plainRequest).exec loggingService).2.host.files.file?
        ["logs", "trace", "model", "a", "A.java", "none", "2", "0", "llm_result"] =
          some ("Ai Message\n\n" ++ plainAnswer "second") ∧
      ((solveTraced tracedSetup loggingTrace plainRequest).exec loggingService).2.host.files.file?
        ["logs", "trace", "model", "a", "A.java", "none", "1", "0", "traceback"] =
          some "in an attempt: busy" := by
  have hmade : (turns tracedSetup (Store.find .textOnly ⟨plainGuesser, false⟩) plainRequest
      (Batch.ofIncidents .given plainRequest.mode plainRequest.incidents) plainRequest.contents
      loggingService.session).map (List.map (Turn.made tracedSetup plainRequest)) =
        .ok [[.error (.told "busy"), .ok "## Reasoning\nno", .ok (plainAnswer "first")],
          [.ok (plainAnswer "second")]] := by
    decide +kernel
  obtain ⟨ts, hturns, hts⟩ := Outcome.map_eq_ok.mp hmade
  have hid : tracedSetup.model.id = .str "model" := rfl
  have hconsumer : tracedSetup.consumer = .ofKinds [.diffOnly] := rfl
  have hfinder : ∀ q, tracedSetup.finder.find q =
      onSession (Store.find .textOnly ⟨plainGuesser, false⟩ q) := fun _ => rfl
  have hon : loggingTrace.enabled = true := rfl
  have hdirectory : loggingTrace.directory =
      Path.joinAll (Logging.directory loggingService.host.workingDirectory tracedSetup.logDir)
        ["trace", "model", "a", "A.java", "none"] := rfl
  have hplain : ∀ c ∈ ["trace", "model", "a", "A.java", "none"], Path.IsPlain c := by decide
  have hlog : loggingService.host.files.follow [] (FileTree.parts (Path.join
      loggingService.host.workingDirectory
      (Logging.directory loggingService.host.workingDirectory tracedSetup.logDir))) =
        .ok ["logs"] := by decide +kernel
  obtain ⟨-, -, hfiles, -, -⟩ := trace_tells_turns hid hconsumer hfinder dependable_tracedSetup hon
    hdirectory (List.cons_ne_nil _ _) hplain hlog loggingService_isEmptyDir hturns
  rw [show ["logs"] ++ ["trace", "model", "a", "A.java", "none"].flatMap FileTree.parts =
    ["logs", "trace", "model", "a", "A.java", "none"] by decide] at hfiles
  obtain ⟨first, rest, rfl, hfirst, hrest⟩ := List.map_eq_cons_iff.mp hts
  obtain ⟨second, rest, rfl, hsecond, -⟩ := List.map_eq_cons_iff.mp hrest
  refine ⟨_, hturns, hts, hfiles, (hfiles ["1", "0", "exception"] _).mpr ?_,
    (hfiles ["2", "0", "llm_result"] _).mpr ?_, (hfiles ["1", "0", "traceback"] _).mpr ?_⟩
  · exact .failure (i := 0) (j := 0) (t := first) (e := .told "busy") rfl (by rw [hfirst]; rfl) rfl
  · exact .answer (i := 1) (j := 0) (t := second) rfl (by rw [hsecond]; rfl)
  · exact .origin (i := 0) (j := 0) (t := first) (e := .told "busy") rfl (by rw [hfirst]; rfl) rfl

end Remedy.Service
