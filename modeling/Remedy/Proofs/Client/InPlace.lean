import Remedy.Proofs.Client.Requested
import Remedy.Proofs.Report.Location
import Remedy.Proofs.Solution.Producer

/-!
# Where files are fixed

The client reads and overwrites a file at its path below the root of the application, and a solution is
made from the differences of the file below the directory of the repository. Both paths are put
together from a root and a path out of a report. The root is in front of the result unless that path
begins with a slash, and only one slash is taken from the front of it.

Main results:

* `processFile_rewritten`: a file is read and written at its path below the root, and nothing else is
  written.
* `below_root_iff`: when that path begins with the root.
-/

namespace Remedy

open Remedy.Action

/-- What a path can lead to: the files, and the directory from which paths are taken. -/
def Host.whereabouts (h : Host) : FileTree × String :=
  (h.files, h.workingDirectory)

/-- The same for the host of a service. -/
def Service.whereabouts (s : Service) : FileTree × String :=
  s.host.whereabouts

namespace Client

/-! ## At most one file is written -/

/-- At most the file at a path was written, after it could be read there. -/
def Rewritten (path : String) (before after : FileTree × String) : Prop :=
  after = before ∨
    after.2 = before.2 ∧ ∃ old text, before.1.read (Path.join before.2 path) = .ok old ∧
      before.1.write (Path.join before.2 path) text = .ok after.1

section Rewritten

variable {σ α β : Type} {view : σ → FileTree × String} {path : String} {s : σ}

/-- What only reads may come first. -/
theorem rewritten_bind {a : Action σ α} {f : α → Action σ β} (ha : Keeps view a)
    (hf : ∀ x t, a.exec s = (.ok x, t) → view t = view s →
      Rewritten path (view t) (view ((f x).exec t).2)) :
    Rewritten path (view s) (view ((a >>= f).exec s).2) := by
  have hfirst : view (a.exec s).2 = view s := ha s
  rw [exec_bind, ← hfirst]
  rcases hrun : a.exec s with ⟨o, t⟩
  rw [hrun] at hfirst
  cases o with
  | error e => exact Or.inl rfl
  | ok x => exact hf x t hrun hfirst

/-- What only reads may follow. -/
theorem rewritten_then {a : Action σ α} {f : α → Action σ β}
    (ha : Rewritten path (view s) (view (a.exec s).2)) (hf : ∀ x, Keeps view (f x)) :
    Rewritten path (view s) (view ((a >>= f).exec s).2) := by
  rw [exec_bind]
  rcases hrun : a.exec s with ⟨o, t⟩
  rw [hrun] at ha
  cases o with
  | error e => exact ha
  | ok x =>
    dsimp only
    rw [hf x t]
    exact ha

theorem rewritten_attempt {a : Action σ α} (ha : Rewritten path (view s) (view (a.exec s).2)) :
    Rewritten path (view s) (view (a.attempt.exec s).2) :=
  ha

end Rewritten

theorem read_exec (path : String) (h : Host) :
    (Host.read path).exec h =
      (if path.isEmpty then .error (.noSuchFile none)
        else h.files.read (Path.join h.workingDirectory path), h) := by
  rw [Host.read, exec_bind, Host.locate_exec]
  cases path.isEmpty with
  | true => rfl
  | false => rfl

/-- A text that could be read was read at the path. -/
theorem exists_read_of_readText {path contents : String} {h : Host}
    (hread : ((Host.readText path).exec h).1 = .ok contents) :
    ∃ old, h.whereabouts.1.read (Path.join h.whereabouts.2 path) = .ok old := by
  rw [Host.readText, bind_pure_comp, exec_map, read_exec] at hread
  obtain ⟨old, hold, -⟩ := Outcome.map_eq_ok.mp hread
  -- the empty path stands for nothing that could be read
  cases hempty : path.isEmpty with
  | true =>
    rw [hempty] at hold
    cases hold
  | false =>
    rw [hempty] at hold
    exact ⟨old, hold⟩

theorem write_rewritten {path old : String} {h : Host}
    (hread : h.whereabouts.1.read (Path.join h.whereabouts.2 path) = .ok old) (text : String) :
    Rewritten path h.whereabouts ((Host.write path text).exec h).2.whereabouts := by
  rw [Host.write, exec_bind, Host.locate_exec]
  cases path.isEmpty with
  | true => exact Or.inl rfl
  | false =>
    show Rewritten path _ ((Host.updateFiles _).exec h).2.whereabouts
    rw [Host.updateFiles, exec_bind_of_ok (exec_get _)]
    cases hwrite : h.files.write (Path.join h.workingDirectory path) text with
    | error e => exact Or.inl rfl
    | ok files => exact Or.inr ⟨rfl, old, text, hread, hwrite⟩

/-- That the command ends when a file cannot be written changes nothing in the files. -/
theorem overwrite_rewritten {path old : String} {h : Host}
    (hread : h.whereabouts.1.read (Path.join h.whereabouts.2 path) = .ok old) (text : String) :
    Rewritten path h.whereabouts ((overwrite path text).exec h).2.whereabouts := by
  refine rewritten_then (rewritten_attempt (write_rewritten hread text)) ?_
  intro o h'
  cases o with
  | ok _ => rfl
  | error _ => rfl

/-! ## The steps of fixing a file -/

theorem keeps_onHost {α : Type} {a : Action Host α} (h : Keeps Host.whereabouts a) :
    Keeps Service.whereabouts (Service.onHost a) :=
  fun s => h s.host

theorem keeps_now : Keeps Host.whereabouts Host.now := by
  intro h
  obtain ⟨time, clock, hnow⟩ := Host.now_exec h
  rw [hnow]
  rfl

theorem keeps_readText (path : String) : Keeps Host.whereabouts (Host.readText path) := by
  intro h
  rw [Host.readText, bind_pure_comp, exec_map, read_exec]

theorem keeps_traceOf (setup : ServiceSetup) (application file : String) :
    Keeps Service.whereabouts (traceOf setup application file) :=
  (Keeps.ofOutcome _).bind fun _ _ => rfl

theorem enabled_of_traceOf {setup : ServiceSetup} {application file : String} {s t : Service}
    {trace : Trace} (h : (traceOf setup application file).exec s = (.ok trace, t)) :
    trace.enabled = setup.traceEnabled := by
  obtain ⟨id, s₁, -, hrest⟩ := exec_bind_eq_ok.mp h
  cases hrest
  rfl

section Disabled

variable {trace : Trace} (hoff : trace.enabled = false)

include hoff

theorem keeps_record (parts : List String) (content : String) :
    Keeps Host.whereabouts (trace.record parts content) := by
  intro h
  rw [Trace.record_of_disabled hoff]

theorem keeps_recordOutcome (parts : List String) (content : Outcome String) :
    Keeps Host.whereabouts (trace.recordOutcome parts content) := by
  intro h
  rw [Trace.recordOutcome_of_disabled hoff]

theorem keeps_promptFor (setup : ServiceSetup) (file contents : String) (incidents : List Json) :
    Keeps Service.whereabouts (promptFor setup trace file contents incidents) := by
  refine (Keeps.ofOutcome _).bind fun text => ?_
  refine (keeps_onHost ?_).bind fun _ _ => rfl
  exact (keeps_record hoff _ _).bind fun _ => keeps_recordOutcome hoff _ _

theorem keeps_fix (setup : ServiceSetup) (application file prompt : String) :
    Keeps Service.whereabouts (fix setup trace application file prompt) := by
  refine Keeps.bind (Service.keeps_playing (fun _ _ => rfl) ?_ _ _) fun fixed =>
    (Keeps.ofOutcome _).bind fun _ _ => rfl
  refine Keeps.bind ?_ fun got => (Keeps.ofOutcome _).bind fun _ _ => rfl
  -- the model answers from the session, and its answer is not written down
  refine Keeps.bind (fun _ => rfl) fun answer => ?_
  refine (keeps_onHost (keeps_record hoff _ _)).bind fun _ s => ?_
  dsimp only
  split
  · rfl
  · rfl

theorem keeps_recordFailure (setup : ServiceSetup) (e : Failure) :
    Keeps Service.whereabouts (recordFailure setup trace e) :=
  keeps_onHost ((keeps_record hoff _ _).bind fun _ => keeps_record hoff _ _)

theorem keeps_finish : Keeps Service.whereabouts (finish trace) := by
  refine (keeps_onHost keeps_now).bind fun time => keeps_onHost (keeps_record ?_ _ _)
  rw [Trace.stop, hoff]
  exact hoff

end Disabled

/-- **Only the file at its path is written.** Without a trace, fixing a file reads it at its path
below the root and writes it there or not at all. -/
theorem processFile_rewritten {setup : ServiceSetup} (hoff : setup.traceEnabled = false)
    (application root : String) (impacted : String × List ExtendedIncident) (s : Service) :
    Rewritten (Path.join root impacted.1) s.whereabouts
      ((processFile setup application root impacted).exec s).2.whereabouts := by
  obtain ⟨file, incidents⟩ := impacted
  -- up to the answer of the model nothing is written
  refine rewritten_bind (keeps_onHost fun _ => rfl) fun _ s₁ _ _ => ?_
  refine rewritten_bind (keeps_traceOf _ _ _) fun trace s₂ htrace _ => ?_
  refine rewritten_bind (keeps_onHost keeps_now) fun time s₃ _ _ => ?_
  have hstarted : (trace.start time).enabled = false := by
    have hdisabled := (enabled_of_traceOf htrace).trans hoff
    rw [Trace.start, hdisabled]
    exact hdisabled
  refine rewritten_bind (keeps_onHost (keeps_readText _)) fun contents s₄ hread h₄ => ?_
  refine rewritten_bind (keeps_promptFor hstarted _ _ _ _) fun prompt s₅ _ h₅ => ?_
  have hattempt : Rewritten (Path.join root file) s₅.whereabouts
      ((fix setup (trace.start time) application file prompt >>= fun fixed =>
        Service.onHost (overwrite (Path.join root file) fixed.contents)).exec s₅).2.whereabouts := by
    refine rewritten_bind (keeps_fix hstarted _ _ _ _) fun fixed s₆ _ h₆ => ?_
    -- the file is still where it was read
    have hsame : s₆.host.whereabouts = s₃.host.whereabouts := (h₆.trans h₅).trans h₄
    obtain ⟨old, hold⟩ := exists_read_of_readText (congrArg Prod.fst hread)
    rw [← hsame] at hold
    exact overwrite_rewritten hold fixed.contents
  -- neither the note of a failure nor the end of the work writes
  refine rewritten_then (rewritten_attempt (rewritten_then (rewritten_attempt hattempt) fun o => ?_))
    fun o => ?_
  · cases o with
    | ok _ => exact fun _ => rfl
    | error e =>
      cases e with
      | exit status => exact fun _ => rfl
      | _ => exact keeps_recordFailure hstarted _ _
  · exact (keeps_finish hstarted).bind fun _ => Keeps.ofOutcome o

/-! ## Paths below the root -/

/-- A slash follows a known root at the front of a path. -/
def SlashAfterRoot (path : String) : Prop :=
  ∃ known ∈ Location.knownRoots, Text.startsWith path (known ++ "/") = true

instance (path : String) : Decidable (SlashAfterRoot path) :=
  inferInstanceAs (Decidable (∃ known ∈ Location.knownRoots, _))

/-- **When a file stays below the root.** The path inside the application begins with a slash exactly
if a slash follows the known root that is taken from its front. Then the root is lost: the path with
the root in front of it begins with the root only if the path does so by itself. It is with these
paths that

* the client reads and overwrites the files that a report lists, the escapes of the address as they
  are;
* production asks for the differences of a file, with the escapes read. -/
theorem below_root_iff {uri path : String} (hpath : Url.path uri = .ok path) (root : String) :
    (∀ text, (Text.startsWith (Location.relative text) "/" = true ↔ SlashAfterRoot text) ∧
      (Text.startsWith (Path.join root (Location.relative text)) root = true ↔
        ¬ SlashAfterRoot text ∨ Text.startsWith (Location.relative text) root = true)) ∧
    (∀ (report : Report) (files : ImpactedFiles), report.impactedFiles = .ok files →
      ∀ f ∈ files, ∀ i ∈ f.2, i.uri = uri →
      ∀ (setup : ServiceSetup) (application : String) (s : Service), setup.traceEnabled = false →
      Rewritten (Path.join root (Location.relative path)) s.whereabouts
        ((processFile setup application root f).exec s).2.whereabouts) ∧
    ∀ (repo : Repository) (old new : Option String) (row : IncidentRow) (calls : List GitCall),
      repo.directory = root → row.uri = uri →
      ∃ before after, ((Producer.produceText repo old new row).exec calls).2 =
        calls ++ [.content before, .content after,
          .difference old new (Path.join root (Location.relative (Url.unescape path)))] := by
  refine ⟨fun text => ⟨Location.relative_slash_iff, ?_⟩, ?_, ?_⟩
  · rw [Path.startsWith_join_iff, ne_eq, Location.relative_slash_iff]
    rfl
  · intro report files hfiles f hf i hi huri setup application s hoff
    have hown := Report.ofUri_of_lists hfiles ⟨f, hf, rfl, hi⟩
    rw [huri, Location.ofUri, hpath] at hown
    rw [show Location.relative path = f.1 from Except.ok.inj hown]
    exact processFile_rewritten hoff application root f s
  · intro repo old new row calls hdir huri
    have hfile : Location.ofEscapedUri row.uri = .ok (Location.relative (Url.unescape path)) := by
      rw [huri, Location.ofEscapedUri, hpath]
      rfl
    rw [← hdir]
    exact ⟨_, _, Producer.produceText_snd hfile old new calls⟩

/-! ## A file below the root and one outside -/

/-- A report of one incident. -/
def reportAt (uri : String) : Report where
  id := "report"
  rulesets := [{ name := some "r", violations := [("x", { incidents := [{ uri, message := "m" }] })] }]

/-- The incident that it lists. -/
def reportedAt (uri : String) : ExtendedIncident :=
  { plainReported with uri }

/-- A model that is asked without a trace. -/
def plainSetup : ServiceSetup where
  model :=
    { interface := "FakeListChatModel", args := [], provider := "FakeListChatModel", id := .str "m"
      template := .str "m", llamaHeader := false, retries := 1, retryDelay := Binary64.zero }
  guesser := plainAround.guesser
  templates := plainAround.templates
  consumer := .one .diffOnly
  finder := noExamples
  logDir := "/logs"

/-- An application with one file, beside a file that does not belong to it; the model gives the same
file to every prompt. -/
def besideApplication : Service where
  host := { files := { dirs := [["app"], ["etc"]]
                       files := [(["app", "A.java"], "old"), (["etc", "hosts"], "kept")] } }
  session := { dialogue := { reply := fun _ _ => .ok "## Updated File\n```\nnew\n```\n" } }

/-- The file of the application is fixed below its root. -/
theorem below_root_plain :
    Url.path "file:///A.java" = .ok "/A.java" ∧ ¬ SlashAfterRoot "/A.java" ∧
    Text.startsWith (Path.join "/app" (Location.relative "/A.java")) "/app" = true ∧
    (reportAt "file:///A.java").impactedFiles = .ok [("A.java", [reportedAt "file:///A.java"])] ∧
    Rewritten (Path.join "/app" (Location.relative "/A.java")) besideApplication.whereabouts
      ((processFile plainSetup "app" "/app" ("A.java", [reportedAt "file:///A.java"])).exec
        besideApplication).2.whereabouts ∧
    ((processFile plainSetup "app" "/app" ("A.java", [reportedAt "file:///A.java"])).exec
      besideApplication).2.host.files.files =
        [(["app", "A.java"], "new\n"), (["etc", "hosts"], "kept")] := by
  have hpath : Url.path "file:///A.java" = .ok "/A.java" := by decide +kernel
  have hfiles : (reportAt "file:///A.java").impactedFiles =
      .ok [("A.java", [reportedAt "file:///A.java"])] := by decide +kernel
  have hslash : ¬ SlashAfterRoot "/A.java" := by decide +kernel
  obtain ⟨hbelow, hclient, -⟩ := below_root_iff hpath "/app"
  refine ⟨hpath, hslash, (hbelow _).2.mpr (.inl hslash), hfiles, ?_, by decide +kernel⟩
  exact hclient _ _ hfiles _ List.mem_cons_self _ List.mem_cons_self rfl plainSetup "app" _ rfl

/-- Two slashes in the address lead out of the application: the other file is overwritten, and its
differences are asked for. -/
theorem double_slash_leaves_root :
    Text.startsWith (Location.relative "//etc/hosts") "/" = true ∧
    Path.join "/app" (Location.relative "//etc/hosts") = "/etc/hosts" ∧
    (reportAt "file:////etc/hosts").impactedFiles =
      .ok [("/etc/hosts", [reportedAt "file:////etc/hosts"])] ∧
    ((processFile plainSetup "app" "/app" ("/etc/hosts", [reportedAt "file:////etc/hosts"])).exec
      besideApplication).2.host.files.files =
        [(["app", "A.java"], "old"), (["etc", "hosts"], "new\n")] ∧
    ∀ row : IncidentRow, row.uri = "file:////etc/hosts" →
      ((Producer.produceText { directory := "/app" } "c1" "c2" row).exec []).2 =
        [.content "c1:/etc/hosts", .content "c2:/etc/hosts", .difference "c1" "c2" "/etc/hosts"] := by
  refine ⟨by decide +kernel, by decide +kernel, by decide +kernel, by decide +kernel, ?_⟩
  intro row huri
  have hfile : Location.ofEscapedUri row.uri = .ok "/etc/hosts" := by
    rw [huri]
    decide +kernel
  rw [Producer.produceText_snd hfile]
  decide +kernel

end Client
end Remedy
