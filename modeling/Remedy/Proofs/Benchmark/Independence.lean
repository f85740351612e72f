import Remedy.Proofs.Benchmark.Placeless
import Remedy.Proofs.Files.Sound
import Remedy.Proofs.Json.Reordered

/-!
# Solving examples independently

A benchmark goes through all pairs of a configuration and an example with one state: the examples are
changed by solving them, directories come and go, and the model is asked again and again. None of this
is seen in the results. An example is the same for its prompt after it was solved, the directories that
stay behind let the same examples be made repositories, and a model that looks at the prompt alone does
not notice what it was asked before.

Main results:

* `asRepository_of_clear`: the action on an example is run, and the files are as before.
* `solve_exec`: solving an example gives the verdict on it.
* `evaluate_eq_ok_iff`: when examples are solved, and with what results.
* `pairs_independent`: each pair gives what it gives on its own.
-/

namespace Remedy

/-- The model answers the same to the same prompt, whatever it was asked before. -/
def Dialogue.Memoryless (d : Dialogue) : Prop :=
  ∀ m n prompt, d.reply m prompt = d.reply n prompt

namespace Benchmark

open Remedy.Action

/-! ## Making an example a repository -/

/-- The directory of an example, seen from the root. -/
def Setup.directory (setup : Setup) (cwd name : String) : String :=
  Path.join cwd (Path.join setup.examples name)

/-- The directory that makes an example a repository, seen from the root. -/
def Setup.marker (setup : Setup) (cwd name : String) : String :=
  Path.join cwd (setup.markerOf name)

theorem isName_git : Path.IsName ".git" := by decide

theorem parts_marker (setup : Setup) (cwd name : String) :
    FileTree.parts (setup.marker cwd name) = FileTree.parts (setup.directory cwd name) ++ [".git"] := by
  rw [Setup.marker, Setup.markerOf, FileTree.parts_join_join isName_git.1.not_startsWith,
    FileTree.parts_of_isPart isName_git.1, Setup.directory]

theorem onHost_exec {α : Type} (a : Action Host α) (s : State) :
    (onHost a).exec s = ((a.exec s.host).1, { s with host := (a.exec s.host).2 }) := rfl

/-- A state that is reached while a model solves examples: there are the files of the beginning, and
perhaps more directories. -/
structure Ready (files : FileTree) (cwd : String) (reply : Nat → String → Outcome String)
    (s : State) : Prop where
  grown : files.Grown s.host.files
  here : s.host.workingDirectory = cwd
  asked : s.dialogue.reply = reply

/-- What solving an example leaves as it is. -/
def State.kept (s : State) : FileTree × String × (Nat → String → Outcome String) :=
  (s.host.files, s.host.workingDirectory, s.dialogue.reply)

section Repository

variable {α : Type} {setup : Setup} {cwd name : String} {a : Action State α} {s : State}
  {files : FileTree} {reply : Nat → String → Outcome String}

theorem git_ne (setup : Setup) (name : String) : setup.markerOf name ≠ "" :=
  Path.join_ne isName_git.1.1 _

/-- Only an example whose directory no file is in the way of can be made a repository. -/
theorem clear_of_asRepository (hready : Ready files cwd reply s) {x : α} {s' : State}
    (h : (asRepository setup name a).exec s = (.ok x, s')) :
    files.Clear (setup.directory cwd name) := by
  obtain ⟨hgrown, rfl, -⟩ := hready
  rw [← hgrown.clear_iff]
  have hparts := parts_marker setup s.host.workingDirectory name
  rw [asRepository, exec_bind, onHost_exec, Host.pathExists_exec (git_ne setup name)] at h
  dsimp only at h
  split at h
  · next hexists => exact FileTree.clear_of_pathExists hgrown.sound hparts hexists
  · obtain ⟨_, s₁, hmade, -⟩ := exec_bind_eq_ok.mp h
    rw [onHost_exec] at hmade
    obtain ⟨hmade, -⟩ := Prod.mk.inj hmade
    obtain ⟨made, hmakes⟩ := Host.exists_of_makeDirs_exec (git_ne setup name) hmade
    exact FileTree.clear_of_makeDirs hgrown.sound hparts hmakes

/-- The directory is removed after the action, and the result of the action stays. -/
theorem exec_removing {made left : FileTree} (hkeeps : Keeps State.kept a)
    (hfiles : s.host.files = made) (hhere : s.host.workingDirectory = cwd)
    (hleft : made.removeDir (setup.marker cwd name) = .ok left) :
    (a.andAlways (onHost (Host.removeDir (setup.markerOf name)))).exec s =
      ((a.exec s).1, { (a.exec s).2 with host := { (a.exec s).2.host with files := left } }) := by
  have hsame : (a.exec s).2.host.files = made := (congrArg (·.1) (hkeeps s)).trans hfiles
  have hstill : (a.exec s).2.host.workingDirectory = cwd := (congrArg (·.2.1) (hkeeps s)).trans hhere
  have hgone : (Host.removeDir (setup.markerOf name)).exec (a.exec s).2.host =
      (.ok (), { (a.exec s).2.host with files := left }) :=
    Host.removeDir_exec (git_ne setup name) (by rw [hsame, hstill]; exact hleft)
  refine andAlways_exec ?_
  rw [onHost_exec, hgone]

/-- If no file is in the way, the action is run while the example is a repository, and afterwards the
files are as they were. -/
theorem asRepository_of_clear (hready : Ready files cwd reply s)
    (hleads : files.LeadsDown (setup.directory cwd name))
    (hclear : files.Clear (setup.directory cwd name)) (hkeeps : Keeps State.kept a) :
    ∃ s₁, s₁.dialogue.reply = reply ∧
      s₁.host.files.pathExists (setup.marker s₁.host.workingDirectory name) = true ∧
      ((asRepository setup name a).exec s).1 = (a.exec s₁).1 ∧
      Ready files cwd reply ((asRepository setup name a).exec s).2 := by
  obtain ⟨hgrown, hhere, hasked⟩ := hready
  have hstill := fun s => congrArg (·.2.1) (hkeeps s)
  have hreply := fun s => congrArg (·.2.2) (hkeeps s)
  rw [asRepository, exec_bind, onHost_exec, Host.pathExists_exec (git_ne setup name), hhere,
    ← Setup.marker]
  dsimp only
  by_cases hexists : s.host.files.pathExists (setup.marker cwd name) = true
  · -- a repository already: the action is all that is run
    have hsame : (a.exec s).2.host.files = s.host.files := congrArg (·.1) (hkeeps s)
    have hafter : files.Grown (a.exec s).2.host.files := by rw [hsame]; exact hgrown
    rw [if_pos hexists]
    exact ⟨s, hasked, hhere ▸ hexists, rfl, hafter, (hstill s).trans hhere,
      (hreply s).trans hasked⟩
  · -- the directory can be made, and removing it leaves the files as they were
    obtain ⟨made, left, hmade, hleft, hagain⟩ := FileTree.exists_grown hgrown.sound
      (parts_marker setup cwd name) isName_git.2 (Host.not_endsWith_join isName_git cwd _)
      (hgrown.leadsDown hleads) (hgrown.clear_iff.mpr hclear) hexists
    rw [if_neg hexists, exec_bind, onHost_exec,
      Host.makeDirs_exec (git_ne setup name) (by rw [hhere]; exact hmade)]
    dsimp only
    rw [exec_bind, exec_modify]
    dsimp only
    let s₁ : State :=
      { s with host := { s.host with files := made }, initialized := s.initialized ++ [name] }
    have hthere : s₁.host.workingDirectory = cwd := hhere
    have hrun := exec_removing (s := s₁) hkeeps rfl hthere hleft
    refine ⟨s₁, hasked, ?_, ?_⟩
    · rw [hthere]
      exact FileTree.pathExists_of_dirExists (FileTree.dirExists_of_makeDirs hmade).2
    rw [hrun]
    exact ⟨rfl, hgrown.trans hagain, (hstill s₁).trans hthere, (hreply s₁).trans hasked⟩

end Repository

/-! ## Solving an example -/

/-- How a model does on an example that is a repository, of which nothing but the two decides. -/
def verdict (setup : Setup) (model : Model) (e : Example) : Outcome Result := do
  let (prompt, language) ← promptOf setup true model e
  let answer ← (setup.talk model).reply 0 prompt
  let updated := (Answer.parse setup.around.guesser language answer).updatedFile
  let some expected := e.expected | throw .wrongKind
  return { distance := Text.editDistance expected updated, prompt, answer }

theorem verdict_placeless (setup : Setup) (model : Model) (e : Example) :
    verdict setup model e.placeless = verdict setup model e := by
  rw [verdict, promptOf_placeless]
  rfl

theorem printing_exec (line : String) (s : State) :
    (onHost (Host.printLine line)).exec s =
      (.ok (), { s with host := ((Host.printLine line).exec s.host).2 }) := rfl

theorem asking_exec (prompt : String) (s : State) :
    (onPart State.dialogue (fun s dialogue => { s with dialogue }) (Dialogue.ask prompt)).exec s =
      (s.dialogue.reply s.dialogue.prompts.length prompt,
        { s with dialogue := { s.dialogue with prompts := s.dialogue.prompts ++ [prompt] } }) := rfl

section Solve

variable (setup : Setup) (model : Model) (config : String) (e : Example)

theorem solve_keeps : Keeps State.kept (solve setup model config e) := by
  unfold solve
  refine Keeps.bind (fun s => ?_) fun isRepository => (Keeps.ofOutcome _).bind fun prompted => ?_
  · rw [onHost_exec, Host.pathExists_exec (git_ne setup e.name)]
  obtain ⟨prompt, language⟩ := prompted
  refine Keeps.bind (fun s => rfl) fun _ => Keeps.bind (fun s => rfl) fun answer => ?_
  cases e.expected with
  | none => exact fun s => rfl
  | some expected => exact fun s => rfl

variable {model} in
/-- Solving an example that is a repository gives the verdict on it, whatever the model was asked
before. -/
theorem solve_exec {s : State} (hmodel : (setup.talk model).Memoryless)
    (hasked : s.dialogue.reply = (setup.talk model).reply)
    (hthere : s.host.files.pathExists (setup.marker s.host.workingDirectory e.name) = true) :
    ((solve setup model config e).exec s).1 =
      (verdict setup model e).map (·, e.placeless) := by
  have hopen : (onHost (Host.pathExists (setup.markerOf e.name))).exec s = (.ok true, s) := by
    rw [onHost_exec, Host.pathExists_exec (git_ne setup e.name), ← Setup.marker, hthere]
  rw [solve, verdict, exec_bind_of_ok hopen, exec_bind, exec_ofOutcome]
  cases promptOf setup true model e with
  | error failure => rfl
  | ok prompted =>
    obtain ⟨prompt, language⟩ := prompted
    -- the model does not count the prompts before this one
    have hreply : s.dialogue.reply s.dialogue.prompts.length prompt =
        (setup.talk model).reply 0 prompt := by
      rw [hasked]
      exact hmodel _ _ _
    dsimp only
    rw [exec_bind_of_ok (printing_exec _ s), exec_bind, asking_exec]
    dsimp only
    rw [hreply]
    show _ = Except.map _ ((setup.talk model).reply 0 prompt >>= _)
    cases (setup.talk model).reply 0 prompt with
    | error failure => rfl
    | ok answer =>
      cases e.expected with
      | none => rfl
      | some expected => rfl

end Solve

/-! ## Runs -/

/-- An entry is the verdict on an example that can be made a repository. -/
def Scored (setup : Setup) (files : FileTree) (cwd : String) (model : Model) (config : String)
    (e : Example) (entry : Entry) : Prop :=
  files.Clear (setup.directory cwd e.name) ∧
    ∃ result, verdict setup model e = .ok result ∧ entry = ⟨e.name, config, result⟩

/-- Entries are the verdicts on examples under a configuration. -/
def ScoredUnder (setup : Setup) (files : FileTree) (cwd : String) (examples : List Example)
    (config : String × ModelConfig) (entries : List Entry) : Prop :=
  ∃ model, Model.ofConfig setup.around.environment config.2 = .ok model ∧
    List.Forall₂ (Scored setup files cwd model config.1) examples entries

section Run

variable {setup : Setup} {files : FileTree} {cwd : String} {s s' : State}

/-- It does not matter whether examples were solved before. -/
theorem scoredUnder_placeless {examples : List Example} {config : String × ModelConfig}
    {entries : List Entry} :
    ScoredUnder setup files cwd (examples.map Example.placeless) config entries ↔
      ScoredUnder setup files cwd examples config entries := by
  simp only [ScoredUnder, List.forall₂_map_left_iff, Scored, verdict_placeless]
  rfl

section Example

variable {model : Model} {config : String} {e : Example}

/-- Nothing decides on the result for an example but the verdict and whether files are in the way. -/
theorem exec_of_clear (config : String) (hmodel : (setup.talk model).Memoryless)
    (hleads : files.LeadsDown (setup.directory cwd e.name))
    (hclear : files.Clear (setup.directory cwd e.name))
    (hready : Ready files cwd (setup.talk model).reply s) :
    ∃ s', (asRepository setup e.name (solve setup model config e)).exec s =
        ((verdict setup model e).map (·, e.placeless), s') ∧
      Ready files cwd (setup.talk model).reply s' := by
  obtain ⟨s₁, hasked, hthere, hfst, hafter⟩ :=
    asRepository_of_clear hready hleads hclear (solve_keeps setup model config e)
  rw [solve_exec setup config e hmodel hasked hthere] at hfst
  exact ⟨_, exec_eq_of_fst hfst, hafter⟩

theorem scored_of_exec (hmodel : (setup.talk model).Memoryless)
    (hleads : files.LeadsDown (setup.directory cwd e.name))
    (hready : Ready files cwd (setup.talk model).reply s) {solved : Result × Example}
    (h : (asRepository setup e.name (solve setup model config e)).exec s = (.ok solved, s')) :
    (Scored setup files cwd model config e ⟨e.name, config, solved.1⟩ ∧ solved.2 = e.placeless) ∧
      Ready files cwd (setup.talk model).reply s' := by
  have hclear := clear_of_asRepository hready h
  obtain ⟨s₁, hrun, hafter⟩ := exec_of_clear config hmodel hleads hclear hready
  obtain ⟨hresult, rfl⟩ := Prod.mk.inj (hrun.symm.trans h)
  obtain ⟨result, hverdict, rfl⟩ := Outcome.map_eq_ok.mp hresult
  exact ⟨⟨⟨hclear, result, hverdict, rfl⟩, rfl⟩, hafter⟩

theorem exec_of_scored (hmodel : (setup.talk model).Memoryless)
    (hleads : files.LeadsDown (setup.directory cwd e.name))
    (hready : Ready files cwd (setup.talk model).reply s) {solved : Result × Example}
    (h : Scored setup files cwd model config e ⟨e.name, config, solved.1⟩ ∧
      solved.2 = e.placeless) :
    ∃ s', (asRepository setup e.name (solve setup model config e)).exec s = (.ok solved, s') ∧
      Ready files cwd (setup.talk model).reply s' := by
  obtain ⟨⟨hclear, result, hverdict, hentry⟩, hleft⟩ := h
  obtain ⟨s', hrun, hafter⟩ := exec_of_clear config hmodel hleads hclear hready
  cases hentry
  refine ⟨s', ?_, hafter⟩
  rw [hrun, hverdict, ← hleft]
  rfl

end Example

section Config

variable {reply : Nat → String → Outcome String} {examples : List Example}
  {config : String × ModelConfig}

/-- The examples that are solved under a configuration have their verdicts for entries, and are left
without places. -/
theorem scoredUnder_of_exec
    (hmodel : ∀ model, Model.ofConfig setup.around.environment config.2 = .ok model →
      (setup.talk model).Memoryless)
    (hleads : ∀ e ∈ examples, files.LeadsDown (setup.directory cwd e.name))
    (hready : Ready files cwd reply s) {entries : List Entry} {left : List Example}
    (h : (evaluateConfig setup examples config).exec s = (.ok (entries, left), s')) :
    ScoredUnder setup files cwd examples config entries ∧ left = examples.map Example.placeless ∧
      ∃ reply', Ready files cwd reply' s' := by
  rw [evaluateConfig] at h
  obtain ⟨model, s₁, hmade, h⟩ := exec_bind_eq_ok.mp h
  rw [exec_ofOutcome] at hmade
  obtain ⟨hmodelOf, rfl⟩ := Prod.mk.inj hmade
  obtain ⟨_, s₂, hset, h⟩ := exec_bind_eq_ok.mp h
  obtain ⟨-, rfl⟩ := Prod.mk.inj hset
  obtain ⟨solved, s₃, hsolved, h⟩ := exec_bind_eq_ok.mp h
  cases h
  have hbegin : Ready files cwd (setup.talk model).reply { s with dialogue := setup.talk model } :=
    ⟨hready.grown, hready.here, rfl⟩
  obtain ⟨hall, hafter⟩ := exec_mapM_of_invariant
    (fun e he _ _ _ hs => scored_of_exec (hmodel model hmodelOf) (hleads e he) hs) hbegin hsolved
  -- an entry has the name of the example that is left, which is that of the example
  refine ⟨⟨model, hmodelOf, ?_⟩, ?_, _, hafter⟩
  · rw [List.forall₂_map_right_iff]
    refine hall.imp fun e x hx => ?_
    obtain ⟨result, left⟩ := x
    obtain ⟨hscored, rfl⟩ := hx
    exact hscored
  · exact Json.map_eq_map_iff_forall₂.mpr (hall.flip.imp fun _ _ hsolved => hsolved.2)

/-- Entries that are verdicts are made of results. -/
theorem exists_solved {model : Model} {entries : List Entry}
    (h : List.Forall₂ (Scored setup files cwd model config.1) examples entries) :
    ∃ solved : List (Result × Example),
      List.Forall₂ (fun e x => Scored setup files cwd model config.1 e ⟨e.name, config.1, x.1⟩ ∧
        x.2 = e.placeless) examples solved ∧
      entries = solved.map fun x => ⟨x.2.name, config.1, x.1⟩ := by
  induction h with
  | nil => exact ⟨[], .nil, rfl⟩
  | @cons e entry examples entries hscored _ ih =>
    obtain ⟨solved, hall, rfl⟩ := ih
    obtain ⟨hclear, result, hverdict, rfl⟩ := hscored
    exact ⟨(result, e.placeless) :: solved,
      .cons ⟨⟨hclear, result, hverdict, rfl⟩, rfl⟩ hall, rfl⟩

/-- Examples that have verdicts under a configuration are solved. -/
theorem exec_of_scoredUnder
    (hmodel : ∀ model, Model.ofConfig setup.around.environment config.2 = .ok model →
      (setup.talk model).Memoryless)
    (hleads : ∀ e ∈ examples, files.LeadsDown (setup.directory cwd e.name))
    (hready : Ready files cwd reply s) {entries : List Entry}
    (h : ScoredUnder setup files cwd examples config entries) :
    ∃ s', (evaluateConfig setup examples config).exec s =
        (.ok (entries, examples.map Example.placeless), s') ∧
      ∃ reply', Ready files cwd reply' s' := by
  obtain ⟨model, hmade, hscored⟩ := h
  obtain ⟨solved, hall, rfl⟩ := exists_solved hscored
  have hbegin : Ready files cwd (setup.talk model).reply { s with dialogue := setup.talk model } :=
    ⟨hready.grown, hready.here, rfl⟩
  obtain ⟨s', hsolved, hafter⟩ := exists_exec_mapM_of_invariant
    (fun e he _ _ hs => exec_of_scored (hmodel model hmade) (hleads e he) hs) hbegin hall
  have hleft : solved.map Prod.snd = examples.map Example.placeless :=
    Json.map_eq_map_iff_forall₂.mpr (hall.flip.imp fun _ _ hsolved => hsolved.2)
  refine ⟨s', ?_, _, hafter⟩
  rw [evaluateConfig, hmade, exec_bind, exec_ofOutcome, ← hleft]
  dsimp only
  rw [exec_bind, exec_modify]
  dsimp only
  rw [exec_bind_of_ok hsolved]
  rfl

end Config

section Configs

variable {reply : Nat → String → Outcome String} {configs : List (String × ModelConfig)}
  {examples : List Example}

theorem groups_of_exec
    (hmodels : ∀ c ∈ configs, ∀ model, Model.ofConfig setup.around.environment c.2 = .ok model →
      (setup.talk model).Memoryless)
    (hleads : ∀ e ∈ examples, files.LeadsDown (setup.directory cwd e.name))
    (hready : Ready files cwd reply s) {entries : List Entry}
    (h : (evaluate setup configs examples).exec s = (.ok entries, s')) :
    ∃ groups, List.Forall₂ (ScoredUnder setup files cwd examples) configs groups ∧
      entries = groups.flatten := by
  induction configs generalizing examples reply s entries with
  | nil =>
    cases h
    exact ⟨[], .nil, rfl⟩
  | cons config configs ih =>
    rw [evaluate] at h
    obtain ⟨⟨first, left⟩, s₁, hfirst, h⟩ := exec_bind_eq_ok.mp h
    obtain ⟨rest, s₂, hrest, h⟩ := exec_bind_eq_ok.mp h
    cases h
    obtain ⟨hscored, rfl, reply', hready'⟩ :=
      scoredUnder_of_exec (hmodels config List.mem_cons_self) hleads hready hfirst
    -- the examples come without places to the configurations that are left
    have hleads' : ∀ e ∈ examples.map Example.placeless,
        files.LeadsDown (setup.directory cwd e.name) :=
      List.forall_mem_map.mpr hleads
    obtain ⟨groups, hall, rfl⟩ :=
      ih (fun c hc => hmodels c (List.mem_cons_of_mem _ hc)) hleads' hready' hrest
    exact ⟨first :: groups, .cons hscored (hall.imp fun _ _ => scoredUnder_placeless.mp), rfl⟩

theorem exec_of_groups
    (hmodels : ∀ c ∈ configs, ∀ model, Model.ofConfig setup.around.environment c.2 = .ok model →
      (setup.talk model).Memoryless)
    (hleads : ∀ e ∈ examples, files.LeadsDown (setup.directory cwd e.name))
    (hready : Ready files cwd reply s) {groups : List (List Entry)}
    (h : List.Forall₂ (ScoredUnder setup files cwd examples) configs groups) :
    ∃ s', (evaluate setup configs examples).exec s = (.ok groups.flatten, s') := by
  induction configs generalizing examples reply s groups with
  | nil =>
    cases h
    exact ⟨s, rfl⟩
  | cons config configs ih =>
    obtain ⟨first, rest, hscored, hall, rfl⟩ := List.forall₂_cons_left_iff.mp h
    obtain ⟨s₁, hfirst, reply', hready'⟩ :=
      exec_of_scoredUnder (hmodels config List.mem_cons_self) hleads hready hscored
    have hleads' : ∀ e ∈ examples.map Example.placeless,
        files.LeadsDown (setup.directory cwd e.name) :=
      List.forall_mem_map.mpr hleads
    obtain ⟨s₂, hrest⟩ := ih (fun c hc => hmodels c (List.mem_cons_of_mem _ hc)) hleads' hready'
      (hall.imp fun _ _ => scoredUnder_placeless.mpr)
    refine ⟨s₂, ?_⟩
    rw [evaluate, exec_bind_of_ok hfirst]
    dsimp only
    rw [exec_bind_of_ok hrest]
    rfl

/-- Examples are solved exactly if each can be made a repository and has a verdict, and then these are
the results, whatever else is solved. -/
theorem evaluate_eq_ok_iff
    (hmodels : ∀ c ∈ configs, ∀ model, Model.ofConfig setup.around.environment c.2 = .ok model →
      (setup.talk model).Memoryless)
    (hleads : ∀ e ∈ examples, files.LeadsDown (setup.directory cwd e.name))
    (hready : Ready files cwd reply s) {entries : List Entry} :
    ((evaluate setup configs examples).exec s).1 = .ok entries ↔
      ∃ groups, List.Forall₂ (ScoredUnder setup files cwd examples) configs groups ∧
        entries = groups.flatten := by
  constructor
  · intro h
    exact groups_of_exec hmodels hleads hready (exec_eq_of_fst h)
  · rintro ⟨groups, hall, rfl⟩
    obtain ⟨s', hrun⟩ := exec_of_groups hmodels hleads hready hall
    rw [hrun]

end Configs

/-! ## Keys -/

theorem keys_of_scoredUnder {examples : List Example} {config : String × ModelConfig}
    {entries : List Entry} (h : ScoredUnder setup files cwd examples config entries) :
    entries.map (fun x => (x.exampleName, x.config)) =
      examples.map fun e => (e.name, config.1) := by
  obtain ⟨model, -, hall⟩ := h
  refine Json.map_eq_map_iff_forall₂.mpr (hall.flip.imp fun entry e hscored => ?_)
  obtain ⟨-, result, -, rfl⟩ := hscored
  rfl

theorem keys_of_groups {examples : List Example} {configs : List (String × ModelConfig)}
    {groups : List (List Entry)}
    (h : List.Forall₂ (ScoredUnder setup files cwd examples) configs groups) :
    groups.flatten.map (fun x => (x.exampleName, x.config)) =
      configs.flatMap fun c => examples.map fun e => (e.name, c.1) := by
  induction h with
  | nil => rfl
  | cons hgroup _ ih =>
    rw [List.flatten_cons, List.map_append, keys_of_scoredUnder hgroup, ih, List.flatMap_cons]

/-- Different examples and configurations make different pairs. -/
theorem nodup_pairs {examples : List Example} {configs : List (String × ModelConfig)}
    (hconfigs : (configs.map Prod.fst).Nodup) (hexamples : (examples.map Example.name).Nodup) :
    (configs.flatMap fun c => examples.map fun e => (e.name, c.1)).Nodup := by
  have hpairs := (hconfigs.product hexamples).map Prod.swap_injective
  simpa [SProd.sprod, List.product, List.map_flatMap, List.flatMap_map, Function.comp_def]
    using hpairs

end Run

/-- **Pairs of an example and a configuration are solved independently.** When models whose answers
depend on the prompt alone solve examples under several configurations, there is one result for each
pair, and it is the one that the pair gives if it is solved on its own.

The directory of each example has to lead down from one that is there, as it does for the names in a
listing of the directory of examples (`FileTree.leadsDown_of_dirExists`). A name that leads up again
would have its own repository taken for missing as long as the directory it passes is, and removed. -/
theorem pairs_independent {setup : Setup} {configs : List (String × ModelConfig)}
    {examples : List Example} {s : State} {entries : List Entry}
    (hconfigs : (configs.map Prod.fst).Nodup) (hexamples : (examples.map Example.name).Nodup)
    (hmodels : ∀ c ∈ configs, ∀ model, Model.ofConfig setup.around.environment c.2 = .ok model →
      (setup.talk model).Memoryless)
    (hsound : s.host.files.Sound)
    (hleads : ∀ e ∈ examples,
      s.host.files.LeadsDown (setup.directory s.host.workingDirectory e.name))
    (h : ((evaluate setup configs examples).exec s).1 = .ok entries) :
    (entries.map fun x => (x.exampleName, x.config)) =
        (configs.flatMap fun c => examples.map fun e => (e.name, c.1)) ∧
      (entries.map fun x => (x.exampleName, x.config)).Nodup ∧
      ∀ c ∈ configs, ∀ e ∈ examples, ∃ result,
        ⟨e.name, c.1, result⟩ ∈ entries ∧
        ((evaluate setup [c] [e]).exec s).1 = .ok [⟨e.name, c.1, result⟩] := by
  have hready : Ready s.host.files s.host.workingDirectory s.dialogue.reply s :=
    ⟨hsound.grown, rfl, rfl⟩
  obtain ⟨groups, hall, rfl⟩ := (evaluate_eq_ok_iff hmodels hleads hready).mp h
  rw [keys_of_groups hall]
  refine ⟨rfl, nodup_pairs hconfigs hexamples, fun c hc e he => ?_⟩
  obtain ⟨group, hgroup, model, hmodel, hscores⟩ := Json.exists_of_forall₂_right hall.flip hc
  obtain ⟨entry, hentry, hscored⟩ := Json.exists_of_forall₂_right hscores.flip he
  -- the verdict on the pair is all that its own run needs
  have halone : List.Forall₂ (ScoredUnder setup s.host.files s.host.workingDirectory [e]) [c]
      [[entry]] := .cons ⟨model, hmodel, .cons hscored .nil⟩ .nil
  obtain ⟨-, result, -, rfl⟩ := hscored
  refine ⟨result, List.mem_flatten.mpr ⟨group, hgroup, hentry⟩, ?_⟩
  refine (evaluate_eq_ok_iff ?_ ?_ hready).mpr ⟨_, halone, rfl⟩
  · exact List.forall_mem_singleton.mpr (hmodels c hc)
  · exact List.forall_mem_singleton.mpr (hleads e he)

/-- A benchmark whose prompts show a name, what the model expects and a file, and whose models give
back the prompt. -/
def echoing : Setup where
  around :=
    { guesser := default
      templates :=
        { library := ⟨"/", [(Prompt.mainName, [.value ["src_file_name"] .asIs,
            .value [Trace.modelValue, "llama_header"] .asIs, .value ["src_file_contents"] .asIs])]⟩
          everywhere := [], workingDirectory := "/" } }
  examples := "/e"
  repository := fun _ _ => {}
  source := .none
  talk := fun _ => { reply := fun _ prompt => .ok ("## Updated File\n```\n" ++ prompt ++ "\n```\n") }

/-- A configuration of a model, which expects marks around its prompts or not. -/
def plainConfig (marked : Bool) : ModelConfig :=
  { provider := Model.replayProvider, args := [], llamaHeader := some marked }

/-- An example with an incident at some place. -/
def placedExample (name : String) : Example where
  name := name
  before := some "old"
  expected := some "new"
  incidents := some [{ uri := name, message := "m", vars := [("file", .str name)],
                       ruleset := "r", violation := "x" }]
  report := some { id := "", rulesets := [{ name := some "r", violations := [("x", { incidents :=
    [{ uri := name, message := "m", vars := [("file", .str name)] }] })] }] }
  application := some [("application_name", .str "a"), ("repo_uri_origin", .str ""),
    ("repo_uri_local", .str "/w"), ("current_branch", .str ""), ("current_commit", .str ""),
    ("generated_at", .str "2024-01-01T00:00:00")]

/-- One of two examples is a repository. -/
def halfOpened : State where
  host := { files := { dirs := [["e"], ["e", "x"], ["e", "x", ".git"], ["e", "y"]] } }

/-- The entry of an example whose prompt was given back. -/
def echo (config name mark : String) (distance : Nat) : Entry :=
  ⟨name, config, { distance, prompt := name ++ mark ++ "old"
                   answer := "## Updated File\n```\n" ++ (name ++ mark ++ "old") ++ "\n```\n" }⟩

/-- The entries of two examples under two configurations. -/
def echoes : List Entry :=
  [echo "a" "x" "True" 7, echo "a" "y" "True" 7, echo "b" "x" "False" 8, echo "b" "y" "False" 8]

theorem pairs_independent_echoing :
    ((evaluate echoing [("a", plainConfig true), ("b", plainConfig false)]
        [placedExample "x", placedExample "y"]).exec halfOpened).1 = .ok echoes ∧
      ∃ result, ⟨"y", "b", result⟩ ∈ echoes ∧
        ((evaluate echoing [("b", plainConfig false)] [placedExample "y"]).exec halfOpened).1 =
          .ok [⟨"y", "b", result⟩] := by
  have hrun : ((evaluate echoing [("a", plainConfig true), ("b", plainConfig false)]
      [placedExample "x", placedExample "y"]).exec halfOpened).1 = .ok echoes := by
    decide +kernel
  have hnames : ∀ e ∈ [placedExample "x", placedExample "y"], Path.IsName e.name := by
    decide +kernel
  obtain ⟨-, -, hpairs⟩ := pairs_independent (by decide +kernel) (by decide +kernel)
    (fun _ _ _ _ _ _ _ => rfl) (by decide +kernel)
    (fun e he => FileTree.leadsDown_of_dirExists (by decide +kernel) (hnames e he)) hrun
  exact ⟨hrun, hpairs _ (.tail _ (.head _)) _ (.tail _ (.head _))⟩

end Benchmark
end Remedy
