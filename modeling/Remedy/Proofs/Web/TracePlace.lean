import Remedy.Proofs.Json.RoundTrip
import Remedy.Proofs.Service.Recorded
import Remedy.Web.Routes

/-!
# Where traces lie

The directory of a trace is put together from the log directory and from what a request brings: the
name of the application, the name of the file and, before them, the identifier of the model. All that
is written for the request lies below the directory that comes out, wherever that is. It lies below
the directory for traces if these names only lead down; a name that leads up, or that begins at the
root, takes the trace elsewhere.

Main results:

* `keeps_solveTraced`: solving a file writes below the directory of its trace only.
* `isPrefix_place_of_plain`: names that only lead down stay below the directory for traces.
* `traces_stay_iff`: when all that is written for a request lies below the directory for traces.
-/

namespace Remedy

open Remedy.Action

namespace Trace

/-! ## Below the directory of a trace -/

/-- The place of the directory of a trace, when paths are taken from a directory. -/
def place (t : Trace) (workingDirectory : String) : Names :=
  FileTree.resolve [] (FileTree.parts (Path.join workingDirectory t.directory))

/-- What there is elsewhere: the directory from which paths are taken, and the files other than those
under some names in the directory of the trace. -/
def elsewhere (t : Trace) (mine : Names → Prop) (h : Host) : String × (Names → String → Prop) :=
  (h.workingDirectory, fun p text =>
    (∀ names, mine names → p ≠ t.place h.workingDirectory ++ names) ∧ h.files.file? p = some text)

/-- A file that is elsewhere is the same when all that is elsewhere is. -/
theorem file?_eq_of_elsewhere {t : Trace} {mine : Names → Prop} {h h' : Host}
    (hsame : t.elsewhere mine h' = t.elsewhere mine h) {p : Names}
    (hp : ∀ names, mine names → p ≠ t.place h.workingDirectory ++ names) :
    h'.files.file? p = h.files.file? p := by
  have hdir : h'.workingDirectory = h.workingDirectory := congrArg Prod.fst hsame
  apply Option.ext
  intro text
  -- the place of the trace is the same before and after
  have hfile := congrFun (congrFun (congrArg Prod.snd hsame) p) text
  simp only [elsewhere, hdir, eq_iff_iff] at hfile
  constructor
  · exact fun h' => (hfile.mp ⟨hp, h'⟩).2
  · exact fun h => (hfile.mpr ⟨hp, h⟩).2

section Elsewhere

variable {t : Trace} {mine : Names → Prop}

/-- A file of the trace stands under its names in the directory of the trace. -/
theorem place_joinAll {names : Names} (hnames : ∀ n ∈ names, Path.IsName n)
    (workingDirectory : String) :
    FileTree.resolve [] (FileTree.parts
      (Path.join workingDirectory (Path.joinAll t.directory names))) =
        t.place workingDirectory ++ names := by
  rw [FileTree.parts_join_names fun n hn => (hnames n hn).1, FileTree.resolve_append]
  exact FileTree.resolve_names (fun n hn => (hnames n hn).2) _

theorem keeps_record {names : Names} (hmine : mine names) (hnames : ∀ n ∈ names, Path.IsName n)
    (content : String) : Keeps (t.elsewhere mine) (t.record names content) := by
  intro h
  rw [record]
  split
  · obtain ⟨files, hafter, hother, -⟩ :=
      Host.writeWithDirs_snd (Path.joinAll t.directory names) content h
    rw [place_joinAll hnames] at hother
    rw [hafter]
    refine Prod.ext rfl ?_
    funext p text
    refine propext (and_congr_right fun hp => ?_)
    rw [show ({ h with files } : Host).files.file? p = h.files.file? p from hother p (hp names hmine)]
  · rfl

theorem keeps_recordOutcome {names : Names} (hmine : mine names)
    (hnames : ∀ n ∈ names, Path.IsName n) (content : Outcome String) :
    Keeps (t.elsewhere mine) (t.recordOutcome names content) := by
  rw [recordOutcome]
  split
  · exact (keeps_record hmine hnames "").bind fun _ =>
      (Keeps.ofOutcome content).bind fun text => keeps_record hmine hnames text
  · exact fun _ => rfl

/-- A file of the trace that could be written is there. -/
theorem file?_of_record (hon : t.enabled = true) {names : Names}
    (hnames : ∀ n ∈ names, Path.IsName n) {content : String} {h h' : Host}
    (hexec : (t.record names content).exec h = (.ok (), h')) :
    h'.workingDirectory = h.workingDirectory ∧
      h'.files.file? (t.place h.workingDirectory ++ names) = some content := by
  obtain ⟨files, hafter, -, hwritten⟩ :=
    Host.writeWithDirs_snd (Path.joinAll t.directory names) content h
  rw [place_joinAll hnames] at hwritten
  rw [record, hon, if_pos rfl] at hexec
  rw [hexec] at hafter hwritten
  rw [show h' = { h with files } from hafter]
  exact ⟨rfl, hwritten rfl⟩

theorem file?_of_recordOutcome (hon : t.enabled = true) {names : Names}
    (hnames : ∀ n ∈ names, Path.IsName n) {content : String} {h h' : Host}
    (hexec : (t.recordOutcome names (.ok content)).exec h = (.ok (), h')) :
    h'.workingDirectory = h.workingDirectory ∧
      h'.files.file? (t.place h.workingDirectory ++ names) = some content := by
  rw [recordOutcome, hon, if_pos rfl] at hexec
  obtain ⟨_, h₁, hempty, hexec⟩ := exec_bind_eq_ok.mp hexec
  obtain ⟨hdir, -⟩ := file?_of_record hon hnames hempty
  obtain ⟨hdir', hfile⟩ := file?_of_record hon hnames hexec
  rw [hdir] at hdir' hfile
  exact ⟨hdir', hfile⟩

/-! ### The steps of tracing

All files but that of the request are told from it by their names. -/

variable (hmine : ∀ names, names ≠ ["params.json"] → mine names)

include hmine

theorem keeps_recordPrompt (batch : Int) (prompt : String) (values : Fields) :
    Keeps (t.elsewhere mine) (t.recordPrompt batch prompt values) := by
  have hbatch := (isNumeral_int batch).isName
  refine (keeps_record (hmine _ (by simp)) ?_ prompt).bind fun _ =>
    keeps_recordOutcome (hmine _ (by simp)) ?_ _
  · simpa using ⟨hbatch, (by decide : Path.IsName "prompt")⟩
  · simpa using ⟨hbatch, (by decide : Path.IsName "prompt_vars.json")⟩

theorem keeps_recordAnswer (batch attempt : Int) (shown : String) :
    Keeps (t.elsewhere mine) (t.recordAnswer batch attempt shown) := by
  refine keeps_record (hmine _ (by simp)) ?_ _
  simpa using ⟨(isNumeral_int batch).isName, (isNumeral_int attempt).isName,
    (by decide : Path.IsName "llm_result")⟩

theorem keeps_recordFailure (batch attempt : Int) (failure origin : String) :
    Keeps (t.elsewhere mine) (t.recordFailure batch attempt failure origin) := by
  have hnumbers : ∀ d ∈ numberPart batch ++ numberPart attempt, Path.IsName d := fun d hd =>
    (List.mem_append.mp hd).elim (fun hd => (isNumeral_of_mem_numberPart hd).isName) fun hd =>
      (isNumeral_of_mem_numberPart hd).isName
  have hnames : ∀ name, Path.IsName name →
      ∀ n ∈ numberPart batch ++ numberPart attempt ++ [name], Path.IsName n := fun name hname n hn =>
    (List.mem_append.mp hn).elim (hnumbers n) fun hn => List.mem_singleton.mp hn ▸ hname
  -- the last of the names is not that of the request
  have hother : ∀ name, name ≠ "params.json" →
      numberPart batch ++ numberPart attempt ++ [name] ≠ ["params.json"] := by
    intro name hne heq
    have hlast := congrArg List.getLast? heq
    rw [List.getLast?_concat] at hlast
    exact hne (Option.some.inj hlast)
  exact (keeps_record (hmine _ (hother _ (by decide))) (hnames _ (by decide)) _).bind fun _ =>
    keeps_record (hmine _ (hother _ (by decide))) (hnames _ (by decide)) _

omit hmine in
/-- The end of a request does not move its trace. -/
theorem stop_elsewhere (t : Trace) (mine : Names → Prop) (time : Binary64) :
    (t.stop time).elsewhere mine = t.elsewhere mine := by
  rw [stop]
  split
  · rfl
  · rfl

theorem keeps_recordTiming : Keeps (t.elsewhere mine) t.recordTiming :=
  keeps_record (hmine _ (by decide)) (by decide) _

end Elsewhere

end Trace

/-! ## Solving a file -/

namespace Service

variable {setup : ServiceSetup} {look : Store.Query → Action Store.Session (List Solution)}
  {t : Trace} {mine : Names → Prop}

/-- What is elsewhere on the host of a service. -/
def elsewhere (t : Trace) (mine : Names → Prop) (s : Service) :
    String × (Names → String → Prop) :=
  t.elsewhere mine s.host

theorem keeps_elsewhere_onHost {α : Type} {a : Action Host α} (h : Keeps (t.elsewhere mine) a) :
    Keeps (elsewhere t mine) (onHost a) :=
  fun s => h s.host

theorem keeps_elsewhere_now : Keeps (t.elsewhere mine) Host.now := by
  intro h
  obtain ⟨time, clock, hnow⟩ := Host.now_exec h
  rw [hnow]
  rfl

variable (hmine : ∀ names, names ≠ ["params.json"] → mine names)
variable (hfinder : ∀ q, setup.finder.find q = onSession (look q))

include hfinder in
/-- Describing an incident touches the store and the model alone. -/
theorem keeps_describeIncident (withExamples : Bool) (i : ExtendedIncident) :
    Keeps (elsewhere t mine) (describeIncident setup withExamples i) := by
  rw [describeIncident]
  split
  · have hlookUp : Keeps (elsewhere t mine)
        (lookUp setup.finder ⟨i.ruleset, i.violation, i.vars, some i.snippet⟩) := by
      rw [lookUp]
      refine Keeps.bind (fun _ => rfl) fun _ => ?_
      rw [hfinder]
      exact fun _ => rfl
    refine hlookUp.bind fun found => ?_
    cases found with
    | nil => exact fun _ => rfl
    | cons first rest =>
      refine (Keeps.ofOutcome _).bind fun text => ?_
      split
      · exact fun _ => rfl
      · exact fun _ => rfl
  · exact fun _ => rfl

include hmine in
theorem keeps_askOnce (fileName language prompt : String) (batch attempt : Int) :
    Keeps (elsewhere t mine) (askOnce setup t fileName language prompt batch attempt) := by
  rw [askOnce]
  refine Keeps.bind (fun _ => rfl) fun answer => ?_
  refine (keeps_elsewhere_onHost (Trace.keeps_recordAnswer hmine batch attempt _)).bind
    fun _ => ?_
  dsimp only
  split
  · exact fun _ => rfl
  · exact fun _ => rfl

include hmine in
theorem keeps_attemptOnce (r : FileRequest) (language prompt : String) (batch attempt : Int)
    (soFar : UpdatedFile) :
    Keeps (elsewhere t mine)
      (attemptOnce setup t r language prompt batch attempt soFar) := by
  have hplaying : Keeps (elsewhere t mine) (playing setup.runtime.deck
      (tapeOf setup r.application r.fileName)
      (askOnce setup t r.fileName language prompt batch attempt)) :=
    keeps_playing (fun _ _ => rfl) (keeps_askOnce hmine r.fileName language prompt batch attempt) _ _
  rw [attemptOnce]
  refine Keeps.bind hplaying fun o => ?_
  cases o with
  | ok got => exact fun _ => rfl
  | error e => exact fun _ => rfl

/-- Waiting leaves the files alone, and so does a wait that is refused. -/
theorem keeps_sleep (seconds : Binary64) :
    Keeps (elsewhere t mine) (onHost (Host.sleep seconds)) := by
  rw [Host.sleep]
  cases Host.refusedDelay? seconds with
  | none => exact fun _ => rfl
  | some e => exact fun _ => rfl

include hmine in
theorem keeps_askUpTo (r : FileRequest) (language prompt : String) (batch : Int) (left : Nat)
    (attempt : Int) (soFar : UpdatedFile) :
    Keeps (elsewhere t mine)
      (askUpTo setup t r language prompt batch left attempt soFar) := by
  induction left generalizing attempt soFar with
  | zero => exact fun _ => rfl
  | succ left ih =>
    rw [askUpTo]
    refine (keeps_attemptOnce hmine r language prompt batch attempt soFar).bind fun done => ?_
    rcases done with ⟨file, ended⟩
    cases ended with
    | ok _ => exact fun _ => rfl
    | error e =>
      refine (keeps_elsewhere_onHost (Trace.keeps_recordFailure hmine batch attempt _ _)).bind
        fun _ => (keeps_sleep setup.model.retryDelay).bind fun _ => ih (attempt + 1) file

include hmine hfinder

theorem keeps_solveBatch (r : FileRequest) (language : String) (batch : Int)
    (incidents : List ExtendedIncident) (soFar : UpdatedFile) :
    Keeps (elsewhere t mine) (solveBatch setup t r language batch incidents soFar) := by
  rw [solveBatch]
  refine (Keeps.mapM (keeps_describeIncident hfinder r.withExamples) incidents).bind
    fun described => ?_
  refine (Keeps.ofOutcome _).bind fun text => ?_
  refine (keeps_elsewhere_onHost (Trace.keeps_recordPrompt hmine batch text _)).bind fun _ => ?_
  exact keeps_askUpTo hmine r language text batch _ 0 soFar

theorem keeps_solveBatches (r : FileRequest) (language : String) (batch : Int)
    (batches : List (List ExtendedIncident)) (soFar : UpdatedFile) :
    Keeps (elsewhere t mine) (solveBatches setup t r language batch batches soFar) := by
  induction batches generalizing batch soFar with
  | nil => exact fun _ => rfl
  | cons incidents rest ih =>
    rw [solveBatches]
    exact (keeps_solveBatch hmine hfinder r language batch incidents soFar).bind fun next =>
      ih (batch + 1) next

/-- Solving a file writes below the directory of its trace only. -/
theorem keeps_solveTraced (r : FileRequest) :
    Keeps (elsewhere t mine) (solveTraced setup t r) := by
  rw [solveTraced]
  exact (Keeps.ofOutcome _).bind fun id => keeps_solveBatches hmine hfinder r _ 1 _ _

end Service

/-! ## The directory for traces -/

namespace Decimal

/-- A row of characters of numbers with a digit in it is a name: it is no point, and no slash is in
it. -/
theorem isName_ofList {cs : List Char} (hcs : ∀ c ∈ cs, IsNumberChar c)
    (hdigit : ∃ c ∈ cs, c.isDigit = true) : Path.IsName (String.ofList cs) := by
  obtain ⟨d, hd, hdigit⟩ := hdigit
  have hne : ∀ s : String, d ∉ s.toList → String.ofList cs ≠ s := by
    rintro s hs rfl
    rw [String.toList_ofList] at hs
    exact hs hd
  have hpoint : d ≠ '.' := by
    rintro rfl
    cases hdigit
  refine ⟨⟨hne _ (by simp), hne _ (by simpa using hpoint), fun hslash => ?_⟩,
    hne _ (by simpa using hpoint)⟩
  rw [String.toList_ofList] at hslash
  rcases hcs _ hslash with h | h
  · cases h
  · simp at h

/-- The text of a double is a name, so that a directory can be named after a time. -/
theorem isName_binary64 (x : Binary64) : Path.IsName (binary64 plain x) := by
  cases x with
  | notANumber => decide
  | infinite negative =>
    cases negative with
    | true => decide
    | false => decide
  | finite negative m e h =>
    refine isName_ofList (fun c hc => ?_) ?_
    · simp only [binary64Chars, List.mem_append] at hc
      rcases hc with hsign | hbody
      · split at hsign
        · rw [List.mem_singleton.mp hsign]
          exact Or.inr (by decide)
        · cases hsign
      · split at hbody
        · have hzero : ∀ c ∈ ['0', '.', '0'], IsNumberChar c :=
            List.forall_iff_forall_mem.mp (by decide)
          exact hzero c hbody
        · exact isNumberChar_of_mem_layOut (fun d hd => isDigit_of_mem_naturalChars hd) hbody
    · have hbegins : ∀ n point, Json.Reader.BeginsWithDigit
          (if m = 0 then ['0', '.', '0'] else layOut plain (naturalChars n) point) := by
        intro n point
        split
        · exact ⟨'0', _, rfl, rfl⟩
        · exact Json.Reader.beginsWithDigit_layOut plain n point
      obtain ⟨d, more, hbody, hd⟩ := hbegins _ _
      refine ⟨d, List.mem_append_right _ ?_, hd⟩
      dsimp only
      rw [hbody]
      exact List.mem_cons_self

end Decimal

namespace Web

/-- The place of the directory for traces. -/
def tracesPlace (workingDirectory logDir : String) : Names :=
  FileTree.resolve [] (FileTree.parts (Path.join workingDirectory
    (Path.join (Logging.directory workingDirectory logDir) "trace")))

theorem isPlain_word (mode : BatchMode) : Path.IsPlain mode.word := by
  cases mode with
  | _ => decide

/-- Names that only lead down stay below the directory for traces. -/
theorem isPrefix_place_of_plain (workingDirectory logDir : String) {id application file : String}
    (h : ∀ c ∈ [id, application, file], Path.IsPlain c) (mode : BatchMode) (time : Binary64) :
    tracesPlace workingDirectory logDir <+:
      ((Trace.ofRequest true workingDirectory logDir id application file mode.word).start time).place
        workingDirectory := by
  have hplain : ∀ c ∈ [id, application, file, mode.word, Decimal.binary64 Decimal.plain time],
      Path.IsPlain c := by
    simp only [List.mem_cons, List.not_mem_nil, or_false, forall_eq_or_imp, forall_eq] at h ⊢
    exact ⟨h.1, h.2.1, h.2.2, isPlain_word mode, (Decimal.isName_binary64 time).isPlain⟩
  show _ <+: FileTree.resolve [] (FileTree.parts (Path.join workingDirectory (Path.joinAll
    (Path.join (Logging.directory workingDirectory logDir) "trace")
    [id, application, file, mode.word, Decimal.binary64 Decimal.plain time])))
  -- no name begins at the root, and none of their parts leads up
  rw [FileTree.parts_join_joinAll fun c hc => (hplain c hc).not_startsWith,
    FileTree.resolve_append, FileTree.resolve_names]
  · exact List.prefix_append _ _
  · intro n hn
    obtain ⟨c, hc, hmem⟩ := List.mem_flatMap.mp hn
    exact (FileTree.isName_of_isPlain (hplain c hc) hmem).2

/-- After the request was written down, the rest of the work leaves that file alone. -/
theorem solveRecorded_eq {setup : ServiceSetup}
    {look : Store.Query → Action Store.Session (List Solution)}
    (hfinder : ∀ q, setup.finder.find q = Service.onSession (look q)) (t : Trace)
    (request : Outcome String) (r : FileRequest) :
    ∃ rest, solveRecorded setup t request r =
        (Service.onHost (t.recordRequest request) >>= fun _ => rest) ∧
      ∀ mine : Names → Prop, (∀ names, names ≠ ["params.json"] → mine names) →
        Keeps (Service.elsewhere t mine) rest := by
  refine ⟨_, rfl, fun mine hmine => Keeps.andAlways ?_ ?_⟩
  · refine Keeps.bind (Service.keeps_solveTraced hmine hfinder r) fun o => ?_
    cases o with
    | ok updated => exact fun _ => rfl
    | error e =>
      exact (Service.keeps_elsewhere_onHost (Trace.keeps_recordFailure hmine _ _ _ _)).bind
        fun _ _ => rfl
  · refine Service.keeps_elsewhere_onHost (Service.keeps_elsewhere_now.bind fun now => ?_)
    rw [← Trace.stop_elsewhere t mine now]
    exact Trace.keeps_recordTiming hmine

section Recorded

variable {setup : ServiceSetup} {look : Store.Query → Action Store.Session (List Solution)}
variable (hfinder : ∀ q, setup.finder.find q = Service.onSession (look q))

include hfinder

/-- All that solving a file writes lies below the directory of its trace. -/
theorem isPrefix_of_solveRecorded (t : Trace) (request : Outcome String) (r : FileRequest)
    (s : Service) {p : Names}
    (h : ((solveRecorded setup t request r).exec s).2.host.files.file? p ≠ s.host.files.file? p) :
    t.place s.host.workingDirectory <+: p := by
  obtain ⟨rest, hrecorded, hrest⟩ := solveRecorded_eq hfinder t request r
  have hkeeps : Keeps (Service.elsewhere t fun _ => True) (solveRecorded setup t request r) := by
    rw [hrecorded]
    exact (Service.keeps_elsewhere_onHost (Trace.keeps_recordOutcome trivial (by decide) _)).bind
      fun _ => hrest _ fun _ _ => trivial
  by_contra hp
  refine h (Trace.file?_eq_of_elsewhere (hkeeps s) ?_)
  exact fun names _ heq => hp ⟨names, heq.symm⟩

/-- A request that could be written down is there in the end. -/
theorem file?_of_solveRecorded {t : Trace} (hon : t.enabled = true) {request : String}
    {r : FileRequest} {s : Service}
    (h : ((t.recordRequest (.ok request)).exec s.host).1 = .ok ()) :
    ((solveRecorded setup t (.ok request) r).exec s).2.host.files.file?
      (t.place s.host.workingDirectory ++ ["params.json"]) = some request := by
  obtain ⟨rest, hrecorded, hrest⟩ := solveRecorded_eq hfinder t (.ok request) r
  -- the request is written first
  rcases hrequest : (t.recordRequest (.ok request)).exec s.host with ⟨o, host⟩
  rw [hrequest] at h
  obtain rfl : o = .ok () := h
  obtain ⟨hdir, hfile⟩ := Trace.file?_of_recordOutcome hon (by decide) hrequest
  have hwritten : (Service.onHost (t.recordRequest (.ok request))).exec s =
      (.ok (), { s with host }) := by
    rw [Service.onHost_exec, hrequest]
  rw [hrecorded, exec_bind_of_ok hwritten, ← hfile]
  -- what is written later has other names
  refine Trace.file?_eq_of_elsewhere
    (hrest (fun names => names ≠ ["params.json"]) (fun _ h => h) { s with host }) ?_
  intro names hnames heq
  rw [show ({ s with host } : Service).host.workingDirectory = s.host.workingDirectory from hdir]
    at heq
  exact hnames (List.append_cancel_left heq).symm

end Recorded

/-- What a request to solve a file leaves is what solving it under its trace leaves. -/
theorem solveFile_snd {setup : Setup} {s : Service} {body id : String} {r : FileRequest}
    {time : Binary64} (hid : setup.service.model.id = .str id)
    (hbody : (bodyOf body >>= FileRequest.decode) = .ok r)
    (htime : (Host.now.exec s.host).1 = .ok time) :
    ((solveFile setup body).exec s).2 =
      ((solveRecorded setup.service
        ((Trace.ofRequest setup.service.traceEnabled s.host.workingDirectory setup.service.logDir id
          r.application r.fileName r.mode.word).start time)
        (.ok (Json.render Json.compactText r.encode)) r).exec
          { s with host := (Host.now.exec s.host).2 }).2 := by
  have hnow : (Service.onHost Host.now).exec s =
      (.ok time, { s with host := (Host.now.exec s.host).2 }) := by
    rw [Service.onHost_exec, htime]
  have hmodel : Service.modelId setup.service = .ok id := by rw [Service.modelId, hid]
  obtain ⟨_, clock, hclock⟩ := Host.now_exec s.host
  have htrace : (Service.traceOf setup.service r).exec { s with host := (Host.now.exec s.host).2 } =
      (.ok (Trace.ofRequest setup.service.traceEnabled s.host.workingDirectory setup.service.logDir id
        r.application r.fileName r.mode.word), { s with host := (Host.now.exec s.host).2 }) := by
    rw [Service.traceOf, hmodel, exec_bind_of_ok (exec_ofOutcome _ _), exec_bind_of_ok (exec_get _),
      hclock]
    rfl
  rw [solveFile, exec_bind_of_ok hnow, hbody, exec_bind_of_ok (exec_ofOutcome _ _),
    exec_bind_of_ok htrace, exec_bind]
  rcases (solveRecorded _ _ _ _).exec { s with host := (Host.now.exec s.host).2 } with ⟨o, s'⟩
  cases o with
  | error e => rfl
  | ok updated => rfl

/-- The directory for traces is not mistaken for the file of a request. -/
theorem tracesPlace_isPrefix_concat {workingDirectory logDir : String} {base : Names}
    (h : tracesPlace workingDirectory logDir <+: base ++ ["params.json"]) :
    tracesPlace workingDirectory logDir <+: base := by
  rcases List.prefix_concat_iff.mp h with heq | hbase
  · have hname : Path.IsPart "trace" := by decide
    have hlast := congrArg List.getLast? heq
    rw [tracesPlace, FileTree.parts_join_join hname.not_startsWith,
      FileTree.parts_of_isPart hname, FileTree.resolve_append, FileTree.resolve_names (by decide),
      List.getLast?_concat, List.getLast?_concat] at hlast
    exact absurd (Option.some.inj hlast) (by decide)
  · exact hbase

/-- **When traces stay in the directory for traces.** Let a request to solve a file be traced.

* Every file that is made or changed lies below the directory of the request's trace, wherever the
  identifier of the model and the names in the request lead.
* If the request can be written down, it is there afterwards, and unless it was there before, all
  that is made or changed lies below the directory for traces exactly if the directory of the trace
  does.
* It does so if the identifier and the names only lead down. -/
theorem traces_stay_iff {setup : Setup} {s : Service} {body id : String} {r : FileRequest}
    {time : Binary64} {trace : Trace} {look : Store.Query → Action Store.Session (List Solution)}
    (hid : setup.service.model.id = .str id) (hon : setup.service.traceEnabled = true)
    (hfinder : ∀ q, setup.service.finder.find q = Service.onSession (look q))
    (hbody : (bodyOf body >>= FileRequest.decode) = .ok r)
    (htime : (Host.now.exec s.host).1 = .ok time)
    (htrace : trace = (Trace.ofRequest true s.host.workingDirectory setup.service.logDir id
      r.application r.fileName r.mode.word).start time) :
    let base := trace.place s.host.workingDirectory
    let top := tracesPlace s.host.workingDirectory setup.service.logDir
    let request := Json.render Json.compactText r.encode
    let before := s.host.files
    let after := ((solveFile setup body).exec s).2.host.files
    (∀ p, after.file? p ≠ before.file? p → base <+: p) ∧
    (((trace.recordRequest (.ok request)).exec (Host.now.exec s.host).2).1 = .ok () →
      after.file? (base ++ ["params.json"]) = some request ∧
      (before.file? (base ++ ["params.json"]) ≠ some request →
        ((∀ p, after.file? p ≠ before.file? p → top <+: p) ↔ top <+: base))) ∧
    ((∀ c ∈ [id, r.application, r.fileName], Path.IsPlain c) → top <+: base) := by
  intro base top request before after
  obtain ⟨_, clock, hclock⟩ := Host.now_exec s.host
  -- up to the clock, the request begins on the host as it is given
  have hafter : after = ((solveRecorded setup.service trace (.ok request) r).exec
      { s with host := { s.host with clock } }).2.host.files := by
    show ((solveFile setup body).exec s).2.host.files = _
    rw [solveFile_snd hid hbody htime, hon, hclock, ← htrace]
  have henabled : trace.enabled = true := by
    rw [htrace]
    rfl
  have hbelow : ∀ p, after.file? p ≠ before.file? p → base <+: p := by
    intro p hchanged
    rw [hafter] at hchanged
    exact isPrefix_of_solveRecorded hfinder trace (.ok request) r
      { s with host := { s.host with clock } } hchanged
  refine ⟨hbelow, fun hok => ?_, fun hplain => ?_⟩
  · have hwritten : after.file? (base ++ ["params.json"]) = some request := by
      rw [hclock] at hok
      rw [hafter]
      exact file?_of_solveRecorded hfinder henabled
        (s := { s with host := { s.host with clock } }) hok
    refine ⟨hwritten, fun hnew => ⟨fun hstay => ?_, fun hdown p hp => hdown.trans (hbelow p hp)⟩⟩
    -- the file of the request is new, and so it has to be below as well
    refine tracesPlace_isPrefix_concat (hstay (base ++ ["params.json"]) ?_)
    rw [hwritten]
    exact hnew.symm
  · have hprefix := isPrefix_place_of_plain s.host.workingDirectory setup.service.logDir hplain
      r.mode time
    rw [← htrace] at hprefix
    exact hprefix

/-! ### Names that lead down and names that lead up -/

/-- A server that traces its requests. -/
def tracingSetup : Setup where
  service :=
    { Service.plainService with
      model := { Service.plainService.model with id := .str "m" }
      logDir := "/l"
      traceEnabled := true }
  load := { repository := fun _ => {}, source := .none }

/-- A host with an empty log directory. -/
def quietService : Service where
  host := { files := { dirs := [["l"]] } }

/-- A request for a file without incidents, from an application of some name. -/
def requestFrom (application : String) : FileRequest where
  fileName := "A"
  contents := ""
  application
  incidents := []
  mode := .none

/-- The text of the request. -/
def bodyFrom (application : String) : String :=
  Json.render Json.spaced (requestFrom application).encode

/-- The trace of the request. -/
def traceFrom (application : String) : Trace :=
  (Trace.ofRequest true "/" "/l" "m" application "A" "none").start Binary64.zero

theorem bodyFrom_decodes (application : String)
    (hproper : (requestFrom application).encode.proper = true)
    (hdecode : FileRequest.decode (requestFrom application).encode = .ok (requestFrom application)) :
    (bodyOf (bodyFrom application) >>= FileRequest.decode) = .ok (requestFrom application) := by
  rw [bodyOf, bodyFrom, Json.parse?_render Json.readable_spaced hproper]
  exact hdecode

theorem tracingSetup_finder (q : Store.Query) : tracingSetup.service.finder.find q =
    Service.onSession (Store.find .textOnly ⟨Service.plainGuesser, false⟩ q) :=
  rfl

/-- What is there after the request, if it can be written down. -/
theorem file?_of_requestFrom (application : String)
    (hproper : (requestFrom application).encode.proper = true)
    (hdecode : FileRequest.decode (requestFrom application).encode = .ok (requestFrom application))
    (hok : (((traceFrom application).recordRequest
      (.ok (Json.render Json.compactText (requestFrom application).encode))).exec
        quietService.host).1 = .ok ()) :
    ((solveFile tracingSetup (bodyFrom application)).exec quietService).2.host.files.file?
      ((traceFrom application).place "/" ++ ["params.json"]) =
        some (Json.render Json.compactText (requestFrom application).encode) := by
  have hid : tracingSetup.service.model.id = .str "m" := rfl
  have htime : (Host.now.exec quietService.host).1 = .ok Binary64.zero := rfl
  have hhost : { quietService with host := (Host.now.exec quietService.host).2 } = quietService := rfl
  have htrace : (Trace.ofRequest tracingSetup.service.traceEnabled
      quietService.host.workingDirectory tracingSetup.service.logDir "m"
      (requestFrom application).application (requestFrom application).fileName
      (requestFrom application).mode.word).start Binary64.zero = traceFrom application := rfl
  have hwritten := file?_of_solveRecorded tracingSetup_finder (t := traceFrom application)
    (r := requestFrom application) (s := quietService) rfl hok
  rw [solveFile_snd hid (bodyFrom_decodes application hproper hdecode) htime, hhost, htrace]
  exact hwritten

/-- The name of the application leads out of the directory for traces. -/
theorem trace_leaves_directory :
    ((solveFile tracingSetup (bodyFrom "../..")).exec quietService).2.host.files.file?
      ["l", "A", "none", "0.0", "params.json"] =
        some (Json.render Json.compactText (requestFrom "../..").encode) ∧
    quietService.host.files.file? ["l", "A", "none", "0.0", "params.json"] = none ∧
    ¬ tracesPlace quietService.host.workingDirectory tracingSetup.service.logDir <+:
      ["l", "A", "none", "0.0", "params.json"] := by
  have hplace : (traceFrom "../..").place "/" = ["l", "A", "none", "0.0"] := by decide +kernel
  have hwritten := file?_of_requestFrom "../.." (by decide) (by decide +kernel)
    (by decide +kernel)
  rw [hplace] at hwritten
  exact ⟨hwritten, rfl, by decide +kernel⟩

theorem quietService_isEmptyDir : quietService.host.files.IsEmptyDir ["l"] := by
  refine ⟨by decide, fun q hq => ?_, fun _ _ => rfl⟩
  obtain ⟨n, ns, rfl⟩ := List.exists_cons_of_ne_nil hq
  rfl

/-- In an empty log directory the request can be written down. -/
theorem traceFrom_recordRequest (request : String) :
    (((traceFrom "a").recordRequest (.ok request)).exec quietService.host).1 = .ok () := by
  have hdirectory : (traceFrom "a").directory =
      Path.joinAll "/l" ["trace", "m", "a", "A", "none", "0.0"] := by decide +kernel
  have hplain : ∀ c ∈ ["trace", "m", "a", "A", "none", "0.0"], Path.IsPlain c := by decide
  have hlog : quietService.host.files.follow []
      (FileTree.parts (Path.join quietService.host.workingDirectory "/l")) = .ok ["l"] := by
    decide +kernel
  have hplaced := Service.placed_of_plain rfl hdirectory (List.cons_ne_nil _ _) hplain hlog
    quietService_isEmptyDir
  obtain ⟨h, -, hexec⟩ := Trace.recordOutcome_holds hplaced
    (Trace.holds_nothing quietService_isEmptyDir hplaced.nonempty)
    (List.forall_mem_nil Trace.IsNumeral) (by decide : Path.IsName "params.json") (by decide) request
  exact congrArg Prod.fst hexec

/-- With a name that leads down, all that is written lies below the directory for traces. -/
theorem trace_stays_below_name :
    (∀ p, ((solveFile tracingSetup (bodyFrom "a")).exec quietService).2.host.files.file? p ≠
      quietService.host.files.file? p → ["l", "trace"] <+: p) ∧
    ((solveFile tracingSetup (bodyFrom "a")).exec quietService).2.host.files.file?
      ["l", "trace", "m", "a", "A", "none", "0.0", "params.json"] =
        some (Json.render Json.compactText (requestFrom "a").encode) := by
  have htop : tracesPlace quietService.host.workingDirectory tracingSetup.service.logDir =
      ["l", "trace"] := by decide +kernel
  have hplace : (traceFrom "a").place quietService.host.workingDirectory =
      ["l", "trace", "m", "a", "A", "none", "0.0"] := by decide +kernel
  have hid : tracingSetup.service.model.id = .str "m" := rfl
  have htime : (Host.now.exec quietService.host).1 = .ok Binary64.zero := rfl
  have htrace : traceFrom "a" = (Trace.ofRequest true quietService.host.workingDirectory
      tracingSetup.service.logDir "m" (requestFrom "a").application (requestFrom "a").fileName
      (requestFrom "a").mode.word).start Binary64.zero := rfl
  obtain ⟨-, hrecorded, hdown⟩ := traces_stay_iff hid rfl tracingSetup_finder
    (bodyFrom_decodes "a" (by decide) (by decide +kernel)) htime htrace
  obtain ⟨hwritten, hstay⟩ := hrecorded (traceFrom_recordRequest _)
  have hbelow := (hstay (by decide)).mpr (hdown (by decide))
  rw [htop] at hbelow
  rw [hplace] at hwritten
  exact ⟨hbelow, hwritten⟩

end Web
end Remedy
