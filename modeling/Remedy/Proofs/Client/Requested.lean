import Remedy.Client.Solve
import Remedy.Proofs.Files.Tree
import Remedy.Proofs.Json.RoundTrip
import Remedy.Proofs.Report.Impacted
import Remedy.Proofs.Service.Asking

/-!
# The two ways of giving incidents

A request to fix a file names a report, or brings the incidents of the file itself as a text. All else
that is done for it is the same: it is prepared, the file is read, and a trace is begun. From then on
the two ways part. The incidents of a report are described for the prompt; those of the request are
plain data, which cannot be described, so such a request never fixes a file.

Main results:

* `solve_withIncidents_exec`, `solve_withReport_exec`: both requests begin alike and then work on
  incidents that were given, or reported.
* `Begun.complete_exec`: once the work has begun, what comes of it is the outcome of the request.
* `inline_agrees_iff`: when the two requests are answered alike.
-/

namespace Remedy

open Remedy.Action

namespace Client

open Rpc (Params)

/-! ## What a request asks to fix -/

/-- The request with incidents of its own, as a text. -/
def withIncidents (p : Params) (text : String) : Params :=
  ⟨p.data.set "incidents" (.str text)⟩

/-- The request with a report. -/
def withReport (p : Params) (path : String) : Params :=
  ⟨p.data.set "report_path" (.str path)⟩

theorem value_set (p : Params) (name : String) (v : Json) (other : String) :
    (⟨p.data.set name v⟩ : Params).value other = if other = name then v else p.value other := by
  unfold Params.value
  rw [Fields.get?_set]
  split
  · rfl
  · rfl

theorem textParam_of_str {p : Params} {name s : String} (h : p.value name = .str s) :
    textParam p name = .ok s := by
  rw [textParam, h]

variable {read : String → Option Json}

/-- The report at a path lists these incidents for a file, and no other file of it has a path that
ends the given one. -/
def OnlyFile (read : String → Option Json) (h : Host) (path input : String)
    (incidents : List ExtendedIncident) : Prop :=
  ∃ files k, ((impactedFiles read path).exec h).1 = .ok files ∧ (k, incidents) ∈ files ∧
    Text.endsWith input k = true ∧ ∀ f ∈ files, Text.endsWith input f.1 = true → f.1 = k

theorem impactedFiles_exec (path : String) (h : Host) :
    (impactedFiles read path).exec h = (((impactedFiles read path).exec h).1, h) := by
  unfold impactedFiles
  rw [exec_bind, Host.locate_exec]
  cases path.isEmpty with
  | true => rfl
  | false => rfl

/-- The files at a path are those of a report. -/
theorem report_of_impactedFiles {path : String} {h : Host} {files : ImpactedFiles}
    (hfiles : ((impactedFiles read path).exec h).1 = .ok files) :
    path.isEmpty = false ∧ ∃ report : Report, report.impactedFiles = .ok files := by
  unfold impactedFiles at hfiles
  rw [exec_bind, Host.locate_exec] at hfiles
  cases hpath : path.isEmpty with
  | true =>
    rw [hpath] at hfiles
    cases hfiles
  | false =>
    rw [hpath] at hfiles
    obtain ⟨report, -, hreport⟩ := Outcome.bind_eq_ok.mp hfiles
    exact ⟨rfl, report, hreport⟩

theorem OnlyFile.nonempty {h : Host} {path input : String} {incidents : List ExtendedIncident}
    (honly : OnlyFile read h path input incidents) : incidents ≠ [] := by
  obtain ⟨files, k, hfiles, hk, -⟩ := honly
  obtain ⟨-, report, hreport⟩ := report_of_impactedFiles hfiles
  exact (Report.impactedFiles_sound hreport).nonempty _ hk

/-- The request with a report asks to fix the incidents of the first file whose path ends its own. -/
theorem requested_of_find? {p : Params} {path input : String} {h : Host} {files : ImpactedFiles}
    {f : String × List ExtendedIncident} (hplain : (p.value "incidents").isSet = false)
    (hinput : p.value "input_file_path" = .str input)
    (hfiles : ((impactedFiles read path).exec h).1 = .ok files)
    (hfirst : files.find? (fun g => Text.endsWith input g.1) = some f) :
    (requested read (withReport p path)).exec h = (.ok (.reported f.2), h) := by
  have hexec : (impactedFiles read path).exec h = (.ok files, h) := by
    rw [impactedFiles_exec, hfiles]
  have hset : (withReport p path).value "incidents" = p.value "incidents" := by
    rw [withReport, value_set, if_neg (by decide)]
  have hgiven : (withReport p path).value "report_path" = .str path := by
    rw [withReport, value_set, if_pos rfl]
  have hfile : (withReport p path).value "input_file_path" = .str input := by
    rw [withReport, value_set, if_neg (by decide), hinput]
  have hisSet : (Json.str path).isSet = true := by
    rw [Json.isSet, (report_of_impactedFiles hfiles).1]
    rfl
  -- the incidents of the request are looked at first, and there are none
  rw [requested, hset, hplain, hgiven, hisSet, textParam_of_str hgiven]
  simp only [Bool.false_eq_true, if_false, if_true]
  rw [exec_bind_of_ok (exec_ofOutcome _ _), exec_bind_of_ok hexec, hfile]
  cases files with
  | nil => cases hfirst
  | cons g rest =>
    dsimp only
    rw [hfirst]
    rfl

/-- The request with a report asks to fix the incidents of the one file that it can mean. -/
theorem requested_withReport {p : Params} {path input : String} {h : Host}
    {incidents : List ExtendedIncident} (hplain : (p.value "incidents").isSet = false)
    (hinput : p.value "input_file_path" = .str input) (honly : OnlyFile read h path input incidents) :
    (requested read (withReport p path)).exec h = (.ok (.reported incidents), h) := by
  obtain ⟨files, k, hfiles, hk, hends, hunique⟩ := honly
  obtain ⟨-, report, hreport⟩ := report_of_impactedFiles hfiles
  have hsound := Report.impactedFiles_sound hreport
  exact requested_of_find? hplain hinput hfiles (hsound.find?_eq hk hends hunique)

/-- The request with incidents of its own asks to fix the data in their text. -/
theorem requested_withIncidents {text : String} {data : Json} (p : Params) (h : Host)
    (htext : Json.parse? text = some data) :
    (requested read (withIncidents p text)).exec h = (.ok (.given data), h) := by
  have hgiven : (withIncidents p text).value "incidents" = .str text := by
    rw [withIncidents, value_set, if_pos rfl]
  have hisSet : (Json.str text).isSet = true := by
    rw [Json.isSet, Bool.not_eq_true', String.isEmpty_eq_false_iff]
    -- an empty text counts as no incidents, but it is no value either
    rintro rfl
    have hnone : Json.parse? "" = none := by decide
    rw [hnone] at htext
    cases htext
  rw [requested, hgiven, hisSet, if_pos rfl, textParam_of_str hgiven,
    exec_bind_of_ok (exec_ofOutcome _ _), htext]
  rfl

/-! ## What both requests begin with -/

/-- What is done for a request before it is seen what it asks to fix. -/
def prepare (around : Surroundings) (p : Params) : Action Service ServiceSetup := do
  let config ← Service.onHost do
    Config.ofExistingFile (← Action.ofOutcome (textParam p "config_path"))
  Service.onHost (logFor p config)
  let setup ← Action.ofOutcome (setupOf around config)
  modify fun s => { s with session.dialogue := around.talk setup.model }
  return setup

/-- Work that has begun: the file with its contents, and the trace. -/
structure Begun where
  setup : ServiceSetup
  application : String
  input : String
  contents : String
  trace : Trace

/-- Begins the work for a request that was prepared. -/
def openFile (setup : ServiceSetup) (p : Params) : Action Service Begun := do
  let input ← Action.ofOutcome (textParam p "input_file_path")
  let contents ← Service.onHost (Host.readText input)
  let started ← Service.onHost Host.now
  match p.value "app_name", setup.model.id with
  | .str application, .str _ =>
    let trace ← traceOf setup application (Path.baseName input)
    return ⟨setup, application, input, contents, trace.start started⟩
  | _, _ => throw .unset

/-- Prepares a request and begins the work. -/
def commence (around : Surroundings) (p : Params) : Action Service Begun := do
  openFile (← prepare around p) p

namespace Begun

/-- The work. -/
def work (b : Begun) (what : Requested) : Action Service String := do
  let described ← Action.ofOutcome what.described
  let prompt ← promptFor b.setup b.trace (Path.baseName b.input) b.contents described
  return (← fix b.setup b.trace b.application b.input prompt).contents

/-- The work, with a note of what has come of it. -/
def complete (b : Begun) (what : Requested) : Action Service String := do
  let outcome ← (b.work what).attempt
  match outcome with
  | .ok _ => pure ()
  | .error e => recordFailure b.setup b.trace e
  finish b.trace
  let _ ← Action.ofOutcome what.count
  match outcome with
  | .ok contents => return contents
  | .error e => throw (.fixFailed e)

end Begun

theorem solve_eq (around : Surroundings) (p : Params) :
    solve around p =
      prepare around p >>= fun setup => Service.onHost (requested around.reader p) >>= fun what =>
        openFile setup p >>= fun b => b.complete what := by
  unfold solve prepare openFile solveTraced
  simp only [bind_assoc, pure_bind]
  refine bind_congr fun config => bind_congr fun _ => bind_congr fun setup => bind_congr fun _ =>
    bind_congr fun what => bind_congr fun input => bind_congr fun contents =>
    bind_congr fun started => ?_
  -- both sides ask for the same two texts
  cases p.value "app_name" with
  | str application =>
    cases setup.model.id with
    | str id =>
      simp only [bind_assoc, pure_bind]
      rfl
    | _ => rfl
  | _ => rfl

/-- The parameters that are looked at besides those that say what to fix. -/
def beside : List String := ["config_path", "log_level", "input_file_path", "app_name"]

theorem value_set_beside {name other : String} (hname : name ∉ beside) (hother : other ∈ beside)
    (p : Params) (v : Json) : (⟨p.data.set name v⟩ : Params).value other = p.value other := by
  rw [value_set, if_neg]
  rintro rfl
  exact hname hother

theorem prepare_set {name : String} (hname : name ∉ beside) (around : Surroundings) (p : Params)
    (v : Json) : prepare around ⟨p.data.set name v⟩ = prepare around p := by
  unfold prepare logFor textParam
  rw [value_set_beside hname (by decide), value_set_beside hname (by decide)]

theorem openFile_set {name : String} (hname : name ∉ beside) (setup : ServiceSetup) (p : Params)
    (v : Json) : openFile setup ⟨p.data.set name v⟩ = openFile setup p := by
  unfold openFile textParam
  rw [value_set_beside hname (by decide), value_set_beside hname (by decide)]

/-- A request begins as it does without the parameter that says what to fix. -/
theorem solve_set_exec {around : Surroundings} {p : Params} {s : Service} {name : String} {v : Json}
    {what : Requested} (hname : name ∉ beside)
    (hwhat : ∀ setup s₁, (prepare around p).exec s = (.ok setup, s₁) →
      (requested around.reader ⟨p.data.set name v⟩).exec s₁.host = (.ok what, s₁.host)) :
    (solve around ⟨p.data.set name v⟩).exec s =
      (commence around p >>= fun b => b.complete what).exec s := by
  rw [solve_eq, prepare_set hname, commence, bind_assoc, exec_bind, exec_bind]
  rcases hprepared : (prepare around p).exec s with ⟨o, s₁⟩
  cases o with
  | error e => rfl
  | ok setup =>
    -- seeing what to fix leaves the host as it is, so the work begins as if it had not been seen
    have hrequested : (Service.onHost (requested around.reader ⟨p.data.set name v⟩)).exec s₁ =
        (.ok what, s₁) := by
      rw [Service.onHost_exec, hwhat setup s₁ hprepared]
    dsimp only
    rw [exec_bind_of_ok hrequested, openFile_set hname]

theorem solve_withIncidents_exec {text : String} {data : Json}
    (htext : Json.parse? text = some data) (around : Surroundings) (p : Params) (s : Service) :
    (solve around (withIncidents p text)).exec s =
      (commence around p >>= fun b => b.complete (.given data)).exec s :=
  solve_set_exec (by decide) fun _ s₁ _ => requested_withIncidents p s₁.host htext

theorem solve_withReport_exec {around : Surroundings} {p : Params} {s : Service}
    {path input : String} {incidents : List ExtendedIncident}
    (hplain : (p.value "incidents").isSet = false)
    (hinput : p.value "input_file_path" = .str input)
    (hreport : ∀ setup s₁, (prepare around p).exec s = (.ok setup, s₁) →
      OnlyFile around.reader s₁.host path input incidents) :
    (solve around (withReport p path)).exec s =
      (commence around p >>= fun b => b.complete (.reported incidents)).exec s :=
  solve_set_exec (by decide) fun setup s₁ hprepared =>
    requested_withReport hplain hinput (hreport setup s₁ hprepared)

/-- The model of work that has begun has an identifier. -/
theorem modelId_of_begin {around : Surroundings} {p : Params} {s s₁ : Service} {b : Begun}
    (h : (commence around p).exec s = (.ok b, s₁)) : ∃ id, Service.modelId b.setup = .ok id := by
  obtain ⟨setup, s₂, -, h⟩ := exec_bind_eq_ok.mp h
  obtain ⟨input, s₃, -, h⟩ := exec_bind_eq_ok.mp h
  obtain ⟨contents, s₄, -, h⟩ := exec_bind_eq_ok.mp h
  obtain ⟨started, s₅, -, h⟩ := exec_bind_eq_ok.mp h
  split at h
  · rename_i application id _ hid
    obtain ⟨trace, s₆, -, h⟩ := exec_bind_eq_ok.mp h
    cases h
    exact ⟨id, by rw [Service.modelId, hid]⟩
  · cases h

/-! ## Where the two requests part -/

/-- A kind of hosts on which a trace can be written from its beginning to its end. -/
structure WritableToEnd (t : Trace) (P : Host → Prop) : Prop extends t.Writable P where
  finish : ∀ {s : Service}, P s.host → ∃ host, P host ∧
    (finish t).exec s = (.ok (), { s with host })

/-- A trace that is switched off can be written on any host. -/
theorem writableToEnd_of_disabled {t : Trace} (h : t.enabled = false) :
    WritableToEnd t fun _ => True where
  toWritable := Trace.writable_of_disabled h
  finish := by
    intro s _
    refine ⟨(Host.now.exec s.host).2, trivial, ?_⟩
    have hnow : ∃ time, (Service.onHost Host.now).exec s =
        (.ok time, { s with host := (Host.now.exec s.host).2 }) := by
      rw [Service.onHost_exec, Host.now, exec_bind_of_ok (exec_get _)]
      cases s.host.clock with
      | nil => exact ⟨_, rfl⟩
      | cons t rest => exact ⟨_, rfl⟩
    obtain ⟨time, hnow⟩ := hnow
    have hstop : t.stop time = t := by
      rw [Trace.stop, h]
      rfl
    rw [Client.finish, exec_bind_of_ok hnow]
    dsimp only
    rw [hstop, Trace.recordTiming, Service.onHost_exec, Trace.record_of_disabled h]

/-- Asking for a file does not look at the tapes. -/
theorem ignoresTapes_askFor (setup : ServiceSetup) (trace : Trace) (file prompt : String) :
    Service.IgnoresTapes (askFor setup trace file prompt) :=
  (Service.ignoresTapes_askOnce setup trace file language prompt 0 0).bind fun _ =>
    (Service.IgnoresTapes.ofOutcome _).bind fun _ _ _ => rfl

section Fix

variable {setup : ServiceSetup} {trace : Trace} {P : Host → Prop} (htrace : trace.Writable P)
variable {s : Service} (hs : P s.host)

include htrace hs

/-- A trace that can be written is as far written as the work has come, whatever the deck does. -/
theorem fix_host (application file prompt : String) :
    P ((fix setup trace application file prompt).exec s).2.host := by
  have hplaying := Service.playing_host (a := askFor setup trace file prompt) hs
    (fun tapes => ?_) setup.runtime.deck (Service.tapeOf setup application file)
  · rw [fix, exec_bind_snd fun _ => (Keeps.ofOutcome _).bind fun _ _ => rfl]
    exact hplaying
  · obtain ⟨o, host, hhost, hasked, -⟩ := Service.askOnce_exec htrace setup (s := { s with tapes })
      hs file language prompt 0 0
    rw [askFor, exec_bind_snd fun _ => (Keeps.ofOutcome _).bind fun _ _ => rfl, hasked]
    exact hhost

/-- An answer that is accepted is what the one attempt gives. -/
theorem fix_exec_of_accepted {application file prompt id : String} {got : Service.BatchAnswer}
    (hid : Service.modelId setup = .ok id)
    (hgot : Service.accepted? setup.guesser language
      (s.session.dialogue.reply s.session.dialogue.prompts.length prompt) = some got)
    (hdeck : setup.runtime.deck.SavesWith (Service.tapeOf setup application file) (.ok ())) :
    ∃ fixed, ((fix setup trace application file prompt).exec s).1 = .ok fixed ∧
      fixed.contents = got.file.updatedFile := by
  obtain ⟨o, host, -, hasked, ho⟩ := Service.askOnce_exec htrace setup hs file language prompt 0 0
  obtain ⟨tapes, hplayed⟩ := Service.playing_exec hdeck (ignoresTapes_askFor setup trace file prompt) s
  rw [hgot] at ho
  cases o with
  | error e => cases ho
  | ok answer =>
    cases ho
    obtain ⟨fixed, hfixed, hcontents⟩ : ∃ fixed, (askFor setup trace file prompt).exec s =
        (.ok fixed, { s with host, session := Service.askedTimes s.session prompt 1 }) ∧
          fixed.contents = got.file.updatedFile := by
      rw [askFor, exec_bind_of_ok hasked, hid]
      exact ⟨_, rfl, rfl⟩
    rw [hfixed] at hplayed
    refine ⟨fixed, ?_, hcontents⟩
    rw [fix, exec_bind_of_ok hplayed]
    rfl

end Fix

namespace Begun

variable {b : Begun} {P : Host → Prop}

/-- The values of the prompt. -/
def values (b : Begun) (described : List Json) : Fields :=
  Service.batchValues b.setup.model (Path.baseName b.input) language b.contents described

/-- Incidents that came with the request cannot be described. -/
theorem work_given (b : Begun) {incidents : List ExtendedIncident} (hne : incidents ≠ [])
    (s : Service) :
    (b.work (.given (.arr (incidents.map ExtendedIncident.encode)))).exec s =
      (.error (notIncident "dict"), s) := by
  cases incidents with
  | nil => exact absurd rfl hne
  | cons i rest => rfl

/-- The tape of the file can be put in and saved. -/
def Taped (b : Begun) : Prop :=
  b.setup.runtime.deck.SavesWith (Service.tapeOf b.setup b.application b.input) (.ok ())

/-- Work on the incidents of a report: the prompt is written down, and the model is asked once. -/
theorem work_reported (htrace : WritableToEnd b.trace P) {s : Service} (hs : P s.host)
    (incidents : List ExtendedIncident) :
    P ((b.work (.reported incidents)).exec s).2.host ∧
    ∀ prompt got,
      Service.prompt b.setup (b.values (incidents.map ExtendedIncident.encode)) = .ok prompt →
      Service.accepted? b.setup.guesser language
        (s.session.dialogue.reply s.session.dialogue.prompts.length prompt) = some got →
      (∃ id, Service.modelId b.setup = .ok id) → b.Taped →
      ((b.work (.reported incidents)).exec s).1 = .ok got.file.updatedFile := by
  rw [work, Requested.described, exec_bind_of_ok (exec_ofOutcome _ _), promptFor, ← values,
    bind_assoc]
  generalize incidents.map ExtendedIncident.encode = described
  cases hprompt : Service.prompt b.setup (b.values described) with
  | error e =>
    rw [exec_bind_of_error (exec_ofOutcome _ _)]
    exact ⟨hs, fun _ _ h => by cases h⟩
  | ok prompt =>
    obtain ⟨host, hhost, hrecord⟩ := htrace.prompt hs 0 prompt (b.values described) rfl
    have htraced : (Service.onHost (b.trace.recordPrompt 0 prompt (b.values described))).exec s =
        (.ok (), { s with host }) := by
      rw [Service.onHost_exec, hrecord]
    rw [exec_bind_of_ok (exec_ofOutcome _ _), bind_assoc, exec_bind_of_ok htraced, pure_bind]
    constructor
    · rw [exec_bind_snd fun _ _ => rfl]
      exact fix_host htrace.toWritable hhost _ _ _
    · intro prompt' got hsame haccepted ⟨id, hid⟩ htaped
      cases hsame
      obtain ⟨fixed, hfixed, hcontents⟩ := fix_exec_of_accepted htrace.toWritable
        (s := { s with host }) hhost hid haccepted htaped
      rw [exec_bind_of_ok (exec_eq_of_fst hfixed), ← hcontents]
      rfl

/-- Work that fails does not give a file. -/
theorem complete_ne_ok {what : Requested} {s t : Service} {e : Failure}
    (h : (b.work what).exec s = (.error e, t)) (file : String) :
    ((b.complete what).exec s).1 ≠ .ok file := by
  intro hok
  have hattempt : (b.work what).attempt.exec s = (.ok (.error e), t) := by
    rw [Action.attempt, exec_ofExec, h]
  rw [complete, exec_bind_of_ok hattempt] at hok
  have hexec := exec_eq_of_fst hok
  -- whether or not the note and the timing can be written, the last step fails
  obtain ⟨_, _, -, hexec⟩ := exec_bind_eq_ok.mp hexec
  obtain ⟨_, _, -, hexec⟩ := exec_bind_eq_ok.mp hexec
  obtain ⟨_, _, -, hexec⟩ := exec_bind_eq_ok.mp hexec
  cases hexec

/-- If the trace can be written, the outcome of the work is that of the request. -/
theorem complete_exec (htrace : WritableToEnd b.trace P) {what : Requested} {n : Nat}
    (hcount : what.count = .ok n) {s t : Service} {o : Outcome String}
    (hwork : (b.work what).exec s = (o, t)) (ht : P t.host) :
    ((b.complete what).exec s).1 = o.mapError .fixFailed := by
  have hattempt : (b.work what).attempt.exec s = (.ok o, t) := by
    rw [Action.attempt, exec_ofExec, hwork]
  rw [complete, exec_bind_of_ok hattempt]
  cases o with
  | ok contents =>
    obtain ⟨host, -, hfinish⟩ := htrace.finish ht
    dsimp only
    rw [exec_bind_of_ok hfinish, hcount, exec_bind_of_ok (exec_ofOutcome _ _)]
    rfl
  | error e =>
    obtain ⟨host, hhost, hrecord⟩ :=
      htrace.failure ht (-1) (-1) e.text (b.setup.runtime.origin e)
    have htraced : (recordFailure b.setup b.trace e).exec t = (.ok (), { t with host }) := by
      rw [recordFailure, Service.onHost_exec, hrecord]
    obtain ⟨host₁, -, hfinish⟩ := htrace.finish (s := { t with host }) hhost
    dsimp only
    rw [exec_bind_of_ok htraced, exec_bind_of_ok hfinish, hcount,
      exec_bind_of_ok (exec_ofOutcome _ _)]
    rfl

/-- Work on incidents that came with the request fails. -/
theorem complete_given (htrace : WritableToEnd b.trace P) {incidents : List ExtendedIncident}
    (hne : incidents ≠ []) {s : Service} (hs : P s.host) :
    ((b.complete (.given (.arr (incidents.map ExtendedIncident.encode)))).exec s).1 =
      .error (.fixFailed (notIncident "dict")) :=
  complete_exec htrace rfl (b.work_given hne s) hs

end Begun

/-- Failures of the work are answered alike when their texts are the same. -/
theorem errorOf_fixFailed_inj {e e' : Failure} :
    Rpc.errorOf (.fixFailed e) = Rpc.errorOf (.fixFailed e') ↔ e.text = e'.text := by
  simp [Rpc.errorOf]

/-- **When the two ways of giving incidents agree.** A request that brings the incidents of a file
as a text, as a report lists them, and the request that names the report instead, whatever the model
says:

* the request that brings them never gives a file;
* if the trace can be written, the two are answered alike if and only if the work does not begin
  (the configuration, the log, the file, the application or the model is not as it must be), or the
  work for the report fails with the very text that tells that an item is no incident;
* then, once the work begins, the request that brings incidents fails with that text, and the
  request with a report gives the updated file whenever the answer of the model has one and the tape
  of the file can be put in and saved. -/
theorem inline_agrees_iff {around : Surroundings} {p : Params} {s : Service}
    {path text input : String} {incidents : List ExtendedIncident}
    (hplain : (p.value "incidents").isSet = false)
    (hinput : p.value "input_file_path" = .str input)
    (hreport : ∀ setup s₁, (prepare around p).exec s = (.ok setup, s₁) →
      OnlyFile around.reader s₁.host path input incidents)
    (htext : Json.parse? text = some (.arr (incidents.map ExtendedIncident.encode))) :
    let inline := ((solve around (withIncidents p text)).exec s).1
    let reported := ((solve around (withReport p path)).exec s).1
    (∀ file, inline ≠ .ok file) ∧
    ∀ P : Host → Prop,
      (∀ b s₁, (commence around p).exec s = (.ok b, s₁) → WritableToEnd b.trace P ∧ P s₁.host) →
      (inline.mapError Rpc.errorOf = reported.mapError Rpc.errorOf ↔
        (∃ e t, (commence around p).exec s = (.error e, t)) ∨
        ∃ e, reported = .error (.fixFailed e) ∧ e.text = (notIncident "dict").text) ∧
      ∀ b s₁, (commence around p).exec s = (.ok b, s₁) →
        inline = .error (.fixFailed (notIncident "dict")) ∧
        ∀ prompt got,
          Service.prompt b.setup (b.values (incidents.map ExtendedIncident.encode)) = .ok prompt →
          Service.accepted? b.setup.guesser language
            (s₁.session.dialogue.reply s₁.session.dialogue.prompts.length prompt) = some got →
          b.Taped → reported = .ok got.file.updatedFile := by
  intro inline reported
  have hinline := congrArg Prod.fst (solve_withIncidents_exec htext around p s)
  have hreported := congrArg Prod.fst (solve_withReport_exec hplain hinput hreport)
  change inline = _ at hinline
  change reported = _ at hreported
  rw [exec_bind] at hinline hreported
  rcases hbegin : (commence around p).exec s with ⟨o, s₁⟩
  rw [hbegin] at hinline hreported
  cases o with
  | error e =>
    -- nothing was looked at yet in which the two requests differ
    rw [hinline, hreported]
    refine ⟨fun file h => ?_, fun P _ => ⟨iff_of_true rfl (.inl ⟨e, s₁, rfl⟩), fun b t h => ?_⟩⟩
    · cases h
    · cases h
  | ok b =>
    obtain ⟨setup, s₂, hprepared, -⟩ := exec_bind_eq_ok.mp hbegin
    have hne := (hreport setup s₂ hprepared).nonempty
    refine ⟨fun file => ?_, fun P htrace => ?_⟩
    · rw [hinline]
      exact Begun.complete_ne_ok (b.work_given hne s₁) file
    obtain ⟨hwritable, hs₁⟩ := htrace b s₁ rfl
    obtain ⟨hleft, hupdated⟩ := Begun.work_reported hwritable hs₁ incidents
    have hgiven : inline = .error (.fixFailed (notIncident "dict")) := by
      rw [hinline]
      exact Begun.complete_given hwritable hne hs₁
    have hwork : reported = ((b.work (.reported incidents)).exec s₁).1.mapError .fixFailed := by
      rw [hreported]
      exact Begun.complete_exec hwritable rfl rfl hleft
    constructor
    · -- a file is no failure, and of failures the text is all that is answered
      rw [hgiven, hwork]
      cases ((b.work (.reported incidents)).exec s₁).1 with
      | ok file => simp [Except.mapError]
      | error e =>
        show Except.error (Rpc.errorOf _) = Except.error (Rpc.errorOf _) ↔ _
        rw [Except.error.injEq, errorOf_fixFailed_inj]
        simp [Except.mapError, eq_comm]
    · intro b' s₁' hsame
      cases hsame
      refine ⟨hgiven, fun prompt got hprompt haccepted htaped => ?_⟩
      rw [hwork, hupdated prompt got hprompt haccepted (modelId_of_begin hbegin) htaped]
      rfl

/-! ## A request in both ways -/

/-- The incident of a report. -/
def plainReported : ExtendedIncident :=
  { uri := "file:///A", message := "m", ruleset := "r", rulesetDescription := some ""
    violation := "x", violationDescription := some "" }

/-- A host with a configuration, a report and the file that the report is about. -/
def plainHost : Host where
  files :=
    { files :=
        [(["c.toml"], Text.join "\n"
            ["[incident_store.args]", "provider = \"sqlite\"", "connection_string = \"s\"",
             "[models]", "provider = \"FakeListChatModel\"",
             "args.responses = [\"## Updated File\\n```\\nnew\\n```\\n\"]"]),
         (["r.yaml"], Json.render Json.spaced (.arr [.obj
            [("name", .str "r"), ("violations", .obj [("x", .obj [("incidents", .arr [.obj
              [("uri", .str "file:///A"), ("message", .str "m")]])])])]])),
         (["A"], "old")] }

/-- Surroundings in which the prompt is the file. -/
def plainAround : Surroundings where
  guesser := default
  templates :=
    { library := ⟨"/", [(Prompt.mainName, [.value ["src_file_contents"] .asIs])]⟩
      everywhere := [], workingDirectory := "/" }

/-- A request to fix the file. -/
def plainParams : Params :=
  ⟨[("config_path", .str "/c.toml"), ("app_name", .str "a"), ("input_file_path", .str "/A")]⟩

/-- The incidents of the report as a text. -/
def plainText : String :=
  Json.render Json.spaced (.arr ([plainReported].map ExtendedIncident.encode))

theorem parse?_plainText :
    Json.parse? plainText = some (.arr ([plainReported].map ExtendedIncident.encode)) :=
  Json.parse?_render Json.readable_spaced (by decide)

/-- What the request comes to: the report has one file, the trace is switched off, and the work for
the report gives the file of the model. -/
theorem plain_runs :
    ((prepare plainAround plainParams >>= fun _ =>
      Service.onHost (impactedFiles plainAround.reader "/r.yaml")).exec { host := plainHost }).1 =
        .ok [("A", [plainReported])] ∧
    ((commence plainAround plainParams).exec { host := plainHost }).1.map (·.trace.enabled) =
      .ok false ∧
    ((solve plainAround (withReport plainParams "/r.yaml")).exec { host := plainHost }).1 =
      .ok "new\n" := by
  decide +kernel

theorem plain_onlyFile {setup : ServiceSetup} {s : Service}
    (h : (prepare plainAround plainParams).exec { host := plainHost } = (.ok setup, s)) :
    OnlyFile plainAround.reader s.host "/r.yaml" "/A" [plainReported] := by
  obtain ⟨hfiles, -, -⟩ := plain_runs
  rw [exec_bind_of_ok h] at hfiles
  exact ⟨_, "A", hfiles, by decide, by decide, by decide⟩

theorem plain_writable {b : Begun} {s : Service}
    (h : (commence plainAround plainParams).exec { host := plainHost } = (.ok b, s)) :
    WritableToEnd b.trace fun _ => True := by
  obtain ⟨-, hdisabled, -⟩ := plain_runs
  rw [h] at hdisabled
  exact writableToEnd_of_disabled (Except.ok.inj hdisabled)

theorem inline_agrees_iff_plain :
    let inline := ((solve plainAround (withIncidents plainParams plainText)).exec
      { host := plainHost }).1
    let reported := ((solve plainAround (withReport plainParams "/r.yaml")).exec
      { host := plainHost }).1
    reported = .ok "new\n" ∧ (∀ file, inline ≠ .ok file) ∧
      inline.mapError Rpc.errorOf ≠ reported.mapError Rpc.errorOf := by
  intro inline reported
  obtain ⟨-, hbegun, hreported⟩ := plain_runs
  change reported = _ at hreported
  obtain ⟨hnone, hwritten⟩ := inline_agrees_iff (p := plainParams)
    (s := { host := plainHost }) rfl rfl (fun _ _ => plain_onlyFile) parse?_plainText
  obtain ⟨hagree, -⟩ := hwritten _ fun _ _ hbegin => ⟨plain_writable hbegin, trivial⟩
  refine ⟨hreported, hnone, fun hsame => ?_⟩
  rcases hagree.mp hsame with ⟨e, t, hbegin⟩ | ⟨e, hfailed, -⟩
  · rw [hbegin] at hbegun
    cases hbegun
  · change reported = _ at hfailed
    rw [hreported] at hfailed
    cases hfailed

/-- The model gives a file for the report, and the same incidents in the request are refused. -/
theorem refused_with_same_incidents :
    ((solve plainAround (withReport plainParams "/r.yaml")).exec { host := plainHost }).1 =
      .ok "new\n" ∧
    ((solve plainAround (withIncidents plainParams plainText)).exec { host := plainHost }).1 =
      .error (.fixFailed (.lacksMember "dict" "model_dump")) := by
  obtain ⟨-, hdisabled, hreported⟩ := plain_runs
  obtain ⟨b, hbegin, -⟩ := Outcome.map_eq_ok.mp hdisabled
  have hbegun := exec_eq_of_fst hbegin
  refine ⟨hreported, ?_⟩
  rw [solve_withIncidents_exec parse?_plainText, exec_bind_of_ok hbegun]
  exact Begun.complete_given (plain_writable hbegun) (by decide) trivial

end Client
end Remedy
