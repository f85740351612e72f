import Remedy.Proofs.Client.InPlace
import Remedy.Proofs.Files.Tree

/-!
# Files that cannot be fixed are spared

The client fixes the files of an application one by one, in an order that it does not promise. A file
is overwritten only with an updated file that the model has given for the file's own prompt. Whatever
goes wrong before, the file stays as it is; and since no file is read for the prompt of another, the
order in which the files are fixed cannot be seen in the end.

Main results:

* `processFile_fixes`: what fixing one file does to the files.
* `processEach_fixes`: what fixing some files does, one after the other.
* `files_fixed_or_spared`: each file is fixed or spared, in any order, and no other file changes.
-/

namespace Remedy

open Remedy.Action

/-! ## Files that stand at a path -/

namespace FileTree

variable {t : FileTree}

/-- The files after a file was given a new content, if there is one. -/
def put (t : FileTree) (spot : Names) (new : Option String) : FileTree :=
  new.elim t fun text => { t with files := setFile t.files spot text }

theorem put_dirs (spot : Names) (new : Option String) : (t.put spot new).dirs = t.dirs := by
  cases new with
  | none => rfl
  | some text => rfl

theorem file?_put (spot : Names) (new : Option String) (p : Names) :
    (t.put spot new).file? p = if p = spot then new.or (t.file? spot) else t.file? p := by
  cases new with
  | none =>
    split
    · next h => rw [h]; rfl
    · rfl
  | some text => exact file?_setFile _ _ _ _

section PutAll

variable {ι : Type} (spot : ι → Names) (new : ι → Option String)

/-- The files after each of some files was given its new content. -/
def putAll (t : FileTree) (items : List ι) : FileTree :=
  items.foldl (fun t i => t.put (spot i) (new i)) t

theorem putAll_dirs (items : List ι) : (t.putAll spot new items).dirs = t.dirs := by
  induction items generalizing t with
  | nil => rfl
  | cons i rest ih => exact ih.trans (put_dirs _ _)

theorem file?_putAll_of_ne {items : List ι} {p : Names} (h : ∀ i ∈ items, p ≠ spot i) :
    (t.putAll spot new items).file? p = t.file? p := by
  induction items generalizing t with
  | nil => rfl
  | cons i rest ih =>
    obtain ⟨hi, hrest⟩ := List.forall_mem_cons.mp h
    refine (ih hrest).trans ?_
    rw [file?_put, if_neg hi]

/-- A file gets its own content: it is put once. -/
theorem file?_putAll_of_mem {items : List ι} (hdiff : items.Pairwise fun i j => spot i ≠ spot j)
    {i : ι} (hi : i ∈ items) :
    (t.putAll spot new items).file? (spot i) = (new i).or (t.file? (spot i)) := by
  induction items generalizing t with
  | nil => cases hi
  | cons j rest ih =>
    obtain ⟨hj, hrest⟩ := List.pairwise_cons.mp hdiff
    rcases List.mem_cons.mp hi with rfl | hmem
    · -- put first: all later items have other places
      refine (file?_putAll_of_ne spot new hj).trans ?_
      rw [file?_put, if_pos rfl]
    · refine (ih hrest hmem).trans ?_
      rw [file?_put, if_neg fun h => hj i hmem h.symm]

end PutAll

/-- A file stands at a path: it can be read and written there. -/
structure Stands (t : FileTree) (path : String) (spot : Names) (old : String) : Prop where
  place : t.place path = .ok spot
  read : t.read path = .ok old
  write : ∀ text, ∃ t', t.write path text = .ok t'

namespace Stands

variable {path path' old old' : String} {spot spot' : Names}

theorem of_place (hplace : t.place path = .ok spot) (hread : t.read path = .ok old)
    (hfree : t.isDir spot = false) (hend : Text.endsWith path "/" ≠ true)
    (hdir : t.isDir spot.dropLast = true) : t.Stands path spot old :=
  ⟨hplace, hread, fun text => ⟨_, write_of_place hplace hfree hend hdir text⟩⟩

theorem content (h : t.Stands path spot old) : t.file? spot = some old := by
  have hread := h.read
  rw [read_eq h.place] at hread
  split at hread
  · cases hread
  · cases hfile : t.file? spot with
    | none =>
      rw [hfile] at hread
      cases hread
    | some content =>
      rw [hfile] at hread
      rw [Except.ok.inj hread]

theorem write_eq (h : t.Stands path spot old) (text : String) :
    t.write path text = .ok { t with files := setFile t.files spot text } := by
  obtain ⟨t', hwrite⟩ := h.write text
  obtain ⟨here, hplace, rfl, -⟩ := exists_of_write hwrite
  cases h.place.symm.trans hplace
  exact hwrite

/-- A file stands where it did after another file was written. -/
theorem after (h : t.Stands path spot old) (h' : t.Stands path' spot' old') (hne : spot ≠ spot')
    (text : String) : Stands { t with files := setFile t.files spot' text } path spot old := by
  have hsome : ∀ p, (file? { t with files := setFile t.files spot' text } p).isSome =
      (t.file? p).isSome := by
    intro p
    rw [file?_setFile]
    split
    · next hp => rw [hp, h'.content]; rfl
    · rfl
  have hplace : FileTree.place { t with files := setFile t.files spot' text } path = .ok spot :=
    (place_congr (show FileTree.dirs { t with files := setFile t.files spot' text } = t.dirs from rfl)
      hsome path).trans h.place
  refine ⟨hplace, ?_, fun text' => ?_⟩
  · rw [read_eq hplace, file?_setFile, if_neg hne, ← h.read, read_eq h.place]
    rfl
  · -- the directories are the same, and they decide whether a file can be written
    obtain ⟨here, hhere, -, hfree, hend, hdir⟩ := exists_of_write (h.write_eq text')
    cases h.place.symm.trans hhere
    exact ⟨_, write_of_place hplace hfree hend hdir text'⟩

/-- A file stands where it did, whatever another file was given for its content. -/
theorem put (h : t.Stands path spot old) (h' : t.Stands path' spot' old') (hne : spot ≠ spot')
    (new : Option String) : (t.put spot' new).Stands path spot old := by
  cases new with
  | none => exact h
  | some text => exact h.after h' hne text

/-- What stands at a path has a path. -/
theorem path_ne {dir path : String} (h : t.Stands (Path.join dir path) spot old) : path ≠ "" := by
  rintro rfl
  obtain ⟨-, -, -, -, hend, -⟩ := exists_of_write (h.write_eq old)
  -- the empty path is that of the directory, with a slash at its end
  by_cases hdir : dir = ""
  · subst hdir
    have hplace : t.place (Path.join "" "") = .ok [] := rfl
    have hread := h.read
    rw [read_eq hplace] at hread
    cases hread
  · obtain ⟨front, hjoin, -⟩ := Path.exists_join_slash hdir (b := "") (by decide)
    refine hend (Text.endsWith_iff.mpr ⟨front, ?_⟩)
    rw [hjoin, String.append_empty]

end Stands

end FileTree

namespace Client

/-! ## Fixing one file -/

/-- The prompt for a file, given what is in it. -/
def ownPrompt (setup : ServiceSetup) (f : String × List ExtendedIncident) (old : String) :
    Outcome String :=
  Service.prompt setup (Service.batchValues setup.model f.1 language
    (String.ofList (Host.singleBreaks old.toList)) (f.2.map ExtendedIncident.encode))

/-- The updated file that a model gives for the prompt of a file, if the prompt can be made and the
model answers with one. -/
def updated? (setup : ServiceSetup) (say : String → Outcome String)
    (f : String × List ExtendedIncident) (old : String) : Option String :=
  ((ownPrompt setup f old).toOption.bind fun prompt =>
    Service.accepted? setup.guesser language (say prompt)).map fun got => got.file.updatedFile

/-- What the work on a file depends on: the files, the directory from which paths are taken, and
what the model says. -/
def outlook (s : Service) : (FileTree × String) × (Nat → String → Outcome String) :=
  (s.whereabouts, s.session.dialogue.reply)

theorem keeps_outlook {α : Type} {a : Action Host α} (h : Keeps Host.whereabouts a) :
    Keeps outlook (Service.onHost a) :=
  fun s => Prod.ext (h s.host) rfl

theorem keeps_outlook_finish {trace : Trace} (hoff : trace.enabled = false) :
    Keeps outlook (finish trace) := by
  refine (keeps_outlook keeps_now).bind fun time => keeps_outlook (keeps_record ?_ _ _)
  rw [Trace.stop, hoff]
  exact hoff

theorem keeps_outlook_recordFailure {trace : Trace} (hoff : trace.enabled = false)
    (setup : ServiceSetup) (e : Failure) : Keeps outlook (recordFailure setup trace e) :=
  keeps_outlook ((keeps_record hoff _ _).bind fun _ => keeps_record hoff _ _)

/-- Without a trace, making a prompt changes nothing. -/
theorem promptFor_exec (setup : ServiceSetup) {trace : Trace} (hoff : trace.enabled = false)
    (f : String × List ExtendedIncident) (old : String) (s : Service) :
    (promptFor setup trace f.1 (String.ofList (Host.singleBreaks old.toList))
      (f.2.map ExtendedIncident.encode)).exec s = (ownPrompt setup f old, s) := by
  rw [promptFor, ← ownPrompt]
  cases ownPrompt setup f old with
  | error e => rfl
  | ok prompt =>
    have htraced : (Service.onHost (trace.recordPrompt 0 prompt (Service.batchValues setup.model f.1
        language (String.ofList (Host.singleBreaks old.toList))
        (f.2.map ExtendedIncident.encode)))).exec s = (.ok (), s) := by
      rw [Service.onHost_exec, Trace.recordPrompt,
        exec_bind_of_ok (Trace.record_of_disabled hoff ..), Trace.recordOutcome_of_disabled hoff]
    rw [exec_bind_of_ok (exec_ofOutcome _ _), exec_bind_of_ok htraced]
    rfl

/-- Without a trace, the model is asked once for a file, and nothing but the prompt and the tape is
kept of that. -/
theorem fix_exec {setup : ServiceSetup} {trace : Trace} {id application file : String}
    (hoff : trace.enabled = false) (hid : Service.modelId setup = .ok id)
    (hdeck : setup.runtime.deck.SavesWith (Service.tapeOf setup application file) (.ok ()))
    (prompt : String) (s : Service) :
    ∃ o tapes, (fix setup trace application file prompt).exec s =
        (o, { s with session := Service.askedTimes s.session prompt 1, tapes }) ∧
      o.toOption.map UpdatedFile.contents =
        (Service.accepted? setup.guesser language
          (s.session.dialogue.reply s.session.dialogue.prompts.length prompt)).map
            fun got => got.file.updatedFile := by
  have hrecord : ∀ answer, ∃ host, host = s.host ∧
      (trace.recordAnswer 0 0 (setup.runtime.shown answer)).exec s.host = (.ok (), host) := by
    intro answer
    refine ⟨s.host, rfl, ?_⟩
    rw [Trace.recordAnswer, Trace.record_of_disabled hoff]
  obtain ⟨o, host, rfl, hasked, ho, -⟩ := Service.askOnce_exec_of_record setup
    (Q := fun _ host => host = s.host) (fun _ => rfl) hrecord file language prompt
  obtain ⟨tapes, hplayed⟩ := Service.playing_exec hdeck
    (ignoresTapes_askFor setup trace file prompt) s
  rw [fix, exec_bind, hplayed, askFor, exec_bind, hasked, ← ho, hid]
  cases o with
  | error e => exact ⟨.error e, tapes, rfl, rfl⟩
  | ok got => exact ⟨.ok _, tapes, rfl, rfl⟩

theorem readText_exec {path old : String} {h : Host} {spot : Names}
    (hstands : h.files.Stands (Path.join h.workingDirectory path) spot old) :
    (Host.readText path).exec h = (.ok (String.ofList (Host.singleBreaks old.toList)), h) := by
  have hread : (Host.read path).exec h = (.ok old, h) := by
    rw [read_exec, if_neg (by simpa using hstands.path_ne), hstands.read]
  rw [Host.readText, exec_bind_of_ok hread]
  rfl

theorem overwrite_exec {path old : String} {h : Host} {spot : Names}
    (hstands : h.files.Stands (Path.join h.workingDirectory path) spot old) (text : String) :
    (overwrite path text).exec h =
      (.ok (), { h with
        files := { h.files with files := FileTree.setFile h.files.files spot text } }) := by
  have hwrite : (Host.write path text).exec h =
      (.ok (), { h with
        files := { h.files with files := FileTree.setFile h.files.files spot text } }) :=
    Host.write_exec hstands.path_ne (hstands.write_eq text)
  have hattempt : (Host.write path text).attempt.exec h =
      (.ok (.ok ()), { h with
        files := { h.files with files := FileTree.setFile h.files.files spot text } }) := by
    rw [Action.attempt, exec_ofExec, hwrite]
  rw [overwrite, exec_bind_of_ok hattempt]
  rfl

/-- What follows on an attempt may only read. -/
theorem outlook_andAlways {α : Type} {a : Action Service α} {rest : Outcome α → Action Service Unit}
    {last : Action Service Unit} (hrest : ∀ o, Keeps outlook (rest o)) (hlast : Keeps outlook last)
    (s : Service) :
    outlook (((a.attempt >>= rest).andAlways last).exec s).2 = outlook (a.exec s).2 := by
  have hattempt : a.attempt.exec s = (.ok (a.exec s).1, (a.exec s).2) := rfl
  rw [andAlways_snd, hlast, exec_bind_of_ok hattempt, hrest]

theorem files_of_outlook {s t : Service} (h : outlook s = outlook t) :
    s.host.files = t.host.files :=
  congrArg (fun v => v.1.1) h

theorem workingDirectory_of_outlook {s t : Service} (h : outlook s = outlook t) :
    s.host.workingDirectory = t.host.workingDirectory :=
  congrArg (fun v => v.1.2) h

theorem reply_of_outlook {s t : Service} (h : outlook s = outlook t) :
    s.session.dialogue.reply = t.session.dialogue.reply :=
  congrArg Prod.snd h

/-- What only reads may come first. -/
theorem outlook_bind {α β : Type} {a : Action Service α} {f : α → Action Service β} {s : Service}
    {x : α} {v : (FileTree × String) × (Nat → String → Outcome String)} (ha : Keeps outlook a)
    (hx : (a.exec s).1 = .ok x)
    (hf : ∀ t, outlook t = outlook s → outlook ((f x).exec t).2 = v) :
    outlook ((a >>= f).exec s).2 = v := by
  rw [exec_bind_of_ok (Prod.ext hx rfl)]
  exact hf _ (ha s)

section Fixing

variable {setup : ServiceSetup} {id : String} {say : String → Outcome String} {s : Service}
variable (hid : Service.modelId setup = .ok id)
variable (hsay : ∀ n prompt, s.session.dialogue.reply n prompt = say prompt)
variable {root : String} {f : String × List ExtendedIncident} {spot : Names} {old : String}
variable (hstands :
  s.host.files.Stands (Path.join s.host.workingDirectory (Path.join root f.1)) spot old)

variable {application : String}
variable (hdeck : setup.runtime.deck.SavesWith (Service.tapeOf setup application f.1) (.ok ()))

include hid hsay hstands hdeck

/-- Asking for a file and writing it over the old one. -/
theorem fix_overwrite {trace : Trace} (hoff : trace.enabled = false) {prompt : String}
    (hprompt : ownPrompt setup f old = .ok prompt) :
    outlook ((fix setup trace application f.1 prompt >>= fun fixed =>
      Service.onHost (overwrite (Path.join root f.1) fixed.contents)).exec s).2 =
        ((s.host.files.put spot (updated? setup say f old), s.host.workingDirectory),
          s.session.dialogue.reply) := by
  obtain ⟨o, tapes, hexec, ho⟩ := fix_exec hoff hid hdeck prompt s
  have hupdated : updated? setup say f old = o.toOption.map UpdatedFile.contents := by
    rw [ho, hsay, updated?, hprompt]
    rfl
  rw [exec_bind, hexec, hupdated]
  cases o with
  | error e => rfl
  | ok fixed =>
    dsimp only
    rw [Service.onHost_exec, overwrite_exec hstands]
    rfl

/-- **What fixing a file does.** Without a trace, the file gets the updated file that the model
gives for its own prompt. If there is none, nothing changes. -/
theorem processFile_fixes (hoff : setup.traceEnabled = false) :
    outlook ((processFile setup application root f).exec s).2 =
      ((s.host.files.put spot (updated? setup say f old), s.host.workingDirectory),
        s.session.dialogue.reply) := by
  obtain ⟨file, incidents⟩ := f
  -- up to the prompt nothing is written and nothing can fail
  refine outlook_bind (keeps_outlook fun _ => rfl) rfl fun s₁ h₁ => ?_
  obtain ⟨trace, htrace⟩ : ∃ trace, (traceOf setup application file).exec s₁ = (.ok trace, s₁) := by
    rw [traceOf, hid]
    exact ⟨_, rfl⟩
  have hdisabled := (enabled_of_traceOf htrace).trans hoff
  refine outlook_bind (fun t => ?_) (congrArg Prod.fst htrace) fun s₂ h₂ => ?_
  · rw [traceOf, hid]
    rfl
  obtain ⟨time, clock, hnow⟩ := Host.now_exec s₂.host
  have htime : ((Service.onHost Host.now).exec s₂).1 = .ok time := congrArg Prod.fst hnow
  refine outlook_bind (keeps_outlook keeps_now) htime fun s₃ h₃ => ?_
  have hstarted : (trace.start time).enabled = false := by
    rw [Trace.start, hdisabled]
    exact hdisabled
  have hsame : outlook s₃ = outlook s := (h₃.trans h₂).trans h₁
  have hstands₃ : s₃.host.files.Stands (Path.join s₃.host.workingDirectory (Path.join root file))
      spot old := by
    rw [files_of_outlook hsame, workingDirectory_of_outlook hsame]
    exact hstands
  have hread : ((Service.onHost (Host.readText (Path.join root file))).exec s₃).1 =
      .ok (String.ofList (Host.singleBreaks old.toList)) := by
    rw [Service.onHost_exec, readText_exec hstands₃]
  refine outlook_bind (keeps_outlook (keeps_readText _)) hread fun s₄ h₄ => ?_
  replace hsame : outlook s₄ = outlook s := h₄.trans hsame
  -- from here on only the prompt, the model and the file itself count
  have hown := promptFor_exec setup hstarted (file, incidents) old s₄
  cases hprompt : ownPrompt setup (file, incidents) old with
  | error e =>
    rw [hprompt] at hown
    rw [exec_bind_of_error hown, updated?, hprompt]
    exact hsame
  | ok prompt =>
    rw [hprompt] at hown
    rw [exec_bind_of_ok hown]
    have hsay₄ : ∀ n prompt, s₄.session.dialogue.reply n prompt = say prompt := by
      rw [reply_of_outlook hsame]
      exact hsay
    have hstands₄ : s₄.host.files.Stands
        (Path.join s₄.host.workingDirectory (Path.join root file)) spot old := by
      rw [files_of_outlook hsame, workingDirectory_of_outlook hsame]
      exact hstands
    refine (outlook_andAlways (fun o => ?_) (keeps_outlook_finish hstarted) s₄).trans ?_
    · -- a failure is noted in the trace, which is switched off
      cases o with
      | ok _ => exact fun _ => rfl
      | error e =>
        cases e with
        | exit status => exact fun _ => rfl
        | _ => exact keeps_outlook_recordFailure hstarted _ _
    · have hfixed := fix_overwrite (f := (file, incidents)) hid hsay₄ hstands₄ hdeck hstarted
        hprompt
      rw [files_of_outlook hsame, workingDirectory_of_outlook hsame, reply_of_outlook hsame] at hfixed
      exact hfixed

end Fixing

/-! ## Fixing all files -/

/-- Attempts one after the other go on from where the last one ended, whatever became of it. -/
theorem exec_mapM_attempt {σ α β : Type} (g : α → Action σ β) (xs : List α) (s : σ) :
    ∃ outcomes, (xs.mapM fun x => (g x).attempt).exec s =
      (.ok outcomes, xs.foldl (fun s x => ((g x).exec s).2) s) := by
  induction xs generalizing s with
  | nil => exact ⟨[], rfl⟩
  | cons x rest ih =>
    have hattempt : (g x).attempt.exec s = (.ok ((g x).exec s).1, ((g x).exec s).2) := rfl
    obtain ⟨outcomes, hrest⟩ := ih ((g x).exec s).2
    refine ⟨((g x).exec s).1 :: outcomes, ?_⟩
    rw [List.mapM_cons, exec_bind_of_ok hattempt, exec_bind_of_ok hrest]
    rfl

theorem processAll_snd (setup : ServiceSetup) (application root : String) (files : ImpactedFiles)
    (s : Service) :
    ((processAll setup application root files).exec s).2 =
      files.foldl (fun s f => ((processFile setup application root f).exec s).2) s := by
  obtain ⟨outcomes, hexec⟩ := exec_mapM_attempt (processFile setup application root) files s
  rw [processAll, exec_bind_of_ok hexec]
  split
  · rfl
  · rfl

section All

variable {setup : ServiceSetup} {id : String} {say : String → Outcome String}
variable (hid : Service.modelId setup = .ok id) (hoff : setup.traceEnabled = false)
variable {root : String} {spot : String × List ExtendedIncident → Names}
variable {old : String × List ExtendedIncident → String} {application : String}

include hid hoff

/-- What fixing some files does, one after the other: the prompt of each is made from the content
that it had at the start. -/
theorem processEach_fixes {files : ImpactedFiles} {s : Service}
    (hsay : ∀ n prompt, s.session.dialogue.reply n prompt = say prompt)
    (hstands : ∀ f ∈ files, s.host.files.Stands
      (Path.join s.host.workingDirectory (Path.join root f.1)) (spot f) (old f))
    (hdiff : files.Pairwise fun f g => spot f ≠ spot g)
    (hdeck : ∀ f ∈ files,
      setup.runtime.deck.SavesWith (Service.tapeOf setup application f.1) (.ok ())) :
    (files.foldl (fun s f => ((processFile setup application root f).exec s).2) s).host.files =
      s.host.files.putAll spot (fun f => updated? setup say f (old f)) files := by
  induction files generalizing s with
  | nil => rfl
  | cons f rest ih =>
    obtain ⟨hf, hrest⟩ := List.forall_mem_cons.mp hstands
    obtain ⟨hne, hdiff⟩ := List.pairwise_cons.mp hdiff
    obtain ⟨htape, hdeck⟩ := List.forall_mem_cons.mp hdeck
    have hfixed := processFile_fixes hid hsay hf htape hoff
    -- after the first file the others stand as before, and the model says the same
    have hfiles : ((processFile setup application root f).exec s).2.host.files =
        s.host.files.put (spot f) (updated? setup say f (old f)) := congrArg (fun v => v.1.1) hfixed
    have hdir : ((processFile setup application root f).exec s).2.host.workingDirectory =
        s.host.workingDirectory := congrArg (fun v => v.1.2) hfixed
    have hreply : ((processFile setup application root f).exec s).2.session.dialogue.reply =
        s.session.dialogue.reply := congrArg Prod.snd hfixed
    rw [List.foldl_cons, ih ?_ ?_ hdiff hdeck, hfiles]
    · rfl
    · rw [hreply]
      exact hsay
    · intro g hg
      rw [hfiles, hdir]
      exact (hrest g hg).put hf (fun h => hne g hg h.symm) _

/-- **Files are fixed or spared.** Let different files stand below the root, let the model answer or
fail by the prompt alone, and let the tapes of the files be put in and saved. After all have been
worked on, each file is the updated file that the model gives for the file's own prompt, or what it
was if there is none. No other file changes. All that does not depend on the order. -/
theorem files_fixed_or_spared {files : ImpactedFiles} {s : Service}
    (hsay : ∀ n prompt, s.session.dialogue.reply n prompt = say prompt)
    (hstands : ∀ f ∈ files, s.host.files.Stands
      (Path.join s.host.workingDirectory (Path.join root f.1)) (spot f) (old f))
    (hdiff : files.Pairwise fun f g => spot f ≠ spot g)
    (hdeck : ∀ f ∈ files,
      setup.runtime.deck.SavesWith (Service.tapeOf setup application f.1) (.ok ())) :
    ∃ contents : Names → Option String,
      (∀ f ∈ files, contents (spot f) = some ((updated? setup say f (old f)).getD (old f))) ∧
      (∀ p, (∀ f ∈ files, p ≠ spot f) → contents p = s.host.files.file? p) ∧
      ∀ order : ImpactedFiles, order.Perm files →
        ((processAll setup application root order).exec s).2.host.files.dirs = s.host.files.dirs ∧
        ∀ p, ((processAll setup application root order).exec s).2.host.files.file? p =
          contents p := by
  -- both halves are shown for every order at once, so that any two orders agree
  have hown : ∀ order : ImpactedFiles, order.Perm files → ∀ f ∈ files,
      (s.host.files.putAll spot (fun f => updated? setup say f (old f)) order).file? (spot f) =
        some ((updated? setup say f (old f)).getD (old f)) := by
    intro order hperm f hf
    have hdiff' := hdiff.perm hperm.symm fun h h' => h h'.symm
    rw [FileTree.file?_putAll_of_mem _ _ hdiff' (hperm.mem_iff.mpr hf), (hstands f hf).content]
    cases updated? setup say f (old f) with
    | none => rfl
    | some text => rfl
  have hother : ∀ order : ImpactedFiles, order.Perm files → ∀ p, (∀ f ∈ files, p ≠ spot f) →
      (s.host.files.putAll spot (fun f => updated? setup say f (old f)) order).file? p =
        s.host.files.file? p := fun order hperm p hp =>
    FileTree.file?_putAll_of_ne _ _ fun f hf => hp f (hperm.mem_iff.mp hf)
  refine ⟨_, hown files (.refl _), hother files (.refl _), fun order hperm => ?_⟩
  have hstands' := fun f hf => hstands f (hperm.mem_iff.mp hf)
  have hdiff' := hdiff.perm hperm.symm fun h h' => h h'.symm
  have hdeck' := fun f hf => hdeck f (hperm.mem_iff.mp hf)
  rw [processAll_snd, processEach_fixes hid hoff hsay hstands' hdiff' hdeck']
  refine ⟨FileTree.putAll_dirs _ _ _, fun p => ?_⟩
  -- a place is that of one of the files, or of none
  by_cases hp : ∃ f ∈ files, p = spot f
  · obtain ⟨f, hf, rfl⟩ := hp
    rw [hown order hperm f hf, hown files (.refl _) f hf]
  · have hne : ∀ f ∈ files, p ≠ spot f := fun f hf h => hp ⟨f, hf, h⟩
    rw [hother order hperm p hne, hother files (.refl _) p hne]

end All

/-! ## A file that is fixed beside one that is spared -/

/-- A model that knows what to do with one file only. -/
def oneTrick (prompt : String) : Outcome String :=
  if prompt = "old" then .ok "## Updated File\n```\nnew\n```\n" else .error (.told "no idea")

/-- An application with two files; the model can fix the first. -/
def twoFiles : Service where
  host := { files := { dirs := [["app"]]
                       files := [(["app", "A"], "old"), (["app", "B"], "odd"),
                         (["app", "C"], "kept")] } }
  session := { dialogue := { reply := fun _ => oneTrick } }

/-- What is in these two files. -/
def twoContents (f : String × List ExtendedIncident) : String :=
  if f.1 = "A" then "old" else "odd"

theorem twoFiles_stands : ∀ f ∈ ([("A", []), ("B", [])] : ImpactedFiles),
    twoFiles.host.files.Stands (Path.join twoFiles.host.workingDirectory (Path.join "/app" f.1))
      ["app", f.1] (twoContents f) := by
  intro f hf
  simp only [List.mem_cons, List.not_mem_nil, or_false] at hf
  rcases hf with rfl | rfl
  · exact .of_place (by decide +kernel) (by decide +kernel) (by decide) (by decide) (by decide)
  · exact .of_place (by decide +kernel) (by decide +kernel) (by decide) (by decide) (by decide)

/-- In either order, the first file is fixed, the second is spared, and a third does not change. -/
theorem one_fixed_one_spared :
    updated? plainSetup oneTrick ("A", []) "old" = some "new\n" ∧
    updated? plainSetup oneTrick ("B", []) "odd" = none ∧
    ∀ order : ImpactedFiles, order.Perm [("A", []), ("B", [])] →
      ((processAll plainSetup "app" "/app" order).exec twoFiles).2.host.files.file? ["app", "A"] =
        some "new\n" ∧
      ((processAll plainSetup "app" "/app" order).exec twoFiles).2.host.files.file? ["app", "B"] =
        some "odd" ∧
      ((processAll plainSetup "app" "/app" order).exec twoFiles).2.host.files.file? ["app", "C"] =
        some "kept" := by
  have hid : Service.modelId plainSetup = .ok "m" := rfl
  have hsay : ∀ n prompt, twoFiles.session.dialogue.reply n prompt = oneTrick prompt :=
    fun _ _ => rfl
  have hfixed : updated? plainSetup oneTrick ("A", []) "old" = some "new\n" := by decide +kernel
  have hspared : updated? plainSetup oneTrick ("B", []) "odd" = none := by decide +kernel
  obtain ⟨contents, hown, hother, hafter⟩ :=
    files_fixed_or_spared hid rfl hsay twoFiles_stands (by decide)
      fun _ _ _ => ⟨rfl, rfl⟩
  refine ⟨hfixed, hspared, fun order hperm => ?_⟩
  obtain ⟨-, hcontents⟩ := hafter order hperm
  rw [hcontents, hcontents, hcontents]
  refine ⟨?_, ?_, (hother ["app", "C"] (by decide)).trans (by decide)⟩
  · refine (hown ("A", []) (by simp)).trans ?_
    rw [show twoContents ("A", []) = "old" from rfl, hfixed]
    rfl
  · refine (hown ("B", []) (by simp)).trans ?_
    rw [show twoContents ("B", []) = "odd" from rfl, hspared]
    rfl

end Client
end Remedy
