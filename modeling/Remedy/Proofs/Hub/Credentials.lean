import Remedy.Hub.Import
import Remedy.Proofs.Action
import Mathlib.Data.List.Induction

/-!
# What a copy of a repository is made with

A copy is made for an identity. A user and a password go into the address of that copy and nowhere
else. A key sets the command by which copies are made, and the command stays set: a later copy whose
own identity sets none is made with the key of another application.

Main results:

* `authorize_exec`: what an identity does to the address and to the command.
* `sshCommand_afterCopies`: after some copies, the command is the last that one of them has set.
* `copy_independent_iff`: what a copy is made with after any others, and when that depends on its own
  identity alone.
* `copied_with_key_of_other`: a copy that is made with the key of another application.
-/

namespace Remedy.Hub

open Remedy.Action

/-! ## What an identity asks for -/

/-- The user and the password of an identity that has both. -/
def login? (identity : Option Identity) : Option (String × String) := do
  let i ← identity
  return (← Identity.said i.user, ← Identity.said i.password)

/-- The address for an identity: a user and a password go into it. -/
def addressFor (url : Json) (identity : Option Identity) : Outcome Json :=
  match login? identity with
  | some (user, password) => withPassword url user password
  | none => .ok url

/-- The command that an identity sets: by its key, unless it has a user and a password. -/
def commandFor (identity : Option Identity) : Option String :=
  match login? identity with
  | some _ => none
  | none => (identity.bind fun i => Identity.said i.key).map ("ssh -i " ++ ·)

/-- The address depends on the identity alone. The command is the one that the identity sets, or else
the one before. -/
theorem authorize_exec (url : Json) (identity : Option Identity) (s : Importer) :
    (authorize url identity).exec s =
      (addressFor url identity,
        { s with sshCommand := (commandFor identity).or s.sshCommand }) := by
  cases identity with
  | none => rfl
  | some i =>
    -- the three texts are tried in the order user, password, key
    unfold authorize addressFor commandFor login?
    simp only [Option.bind_eq_bind, Option.bind_some]
    cases Identity.said i.user with
    | none => cases Identity.said i.key <;> rfl
    | some user =>
      cases Identity.said i.password with
      | none => cases Identity.said i.key <;> rfl
      | some password => rfl

/-! ## One copy -/

/-- A call that makes a copy. -/
structure CloneCall where
  url : Json
  branch : Json
  commit : Json
  destination : String
  identity : Option Identity

namespace CloneCall

/-- Makes the copy. -/
def run (setup : ImportSetup) (c : CloneCall) : Importing Unit :=
  cloneAt setup c.url c.branch c.commit c.destination c.identity

/-- The copy as it is made with a command. Without an address none is made. -/
def clone? (c : CloneCall) (command : Option String) : Option RepoStep :=
  (addressFor c.url c.identity).toOption.map fun address =>
    .clone address c.destination c.branch command

/-- Copies made with different commands differ. -/
theorem clone?_inj {c : CloneCall} {a b : Option String} :
    c.clone? a = c.clone? b ↔ (∃ e, addressFor c.url c.identity = .error e) ∨ a = b := by
  unfold clone?
  cases addressFor c.url c.identity with
  | error e => simp [Except.toOption]
  | ok address => simp [Except.toOption]

/-- The copy that a call makes: the first step that it takes. -/
def copyIn (setup : ImportSetup) (s : Importer) (c : CloneCall) : Option RepoStep :=
  (((c.run setup).exec s).2.steps.drop s.steps.length).head?

end CloneCall

theorem takeStep_exec (setup : ImportSetup) (step : RepoStep) (s : Importer) :
    ∃ o, (takeStep setup step).exec s = (o, { s with steps := s.steps ++ [step] }) := by
  unfold takeStep
  rw [exec_bind_of_ok (exec_modify _ s)]
  cases setup.git step with
  | ok _ => exact ⟨_, rfl⟩
  | error e => cases e <;> exact ⟨_, rfl⟩

/-- Whatever comes of a call, it leaves the command that its identity sets, or else the one before,
and the first step that it takes is the copy, made with that command. -/
theorem cloneCall_run_snd (setup : ImportSetup) (c : CloneCall) (s : Importer) :
    ∃ taken : List RepoStep,
      ((c.run setup).exec s).2 = { s with
        steps := s.steps ++ taken, sshCommand := (commandFor c.identity).or s.sshCommand } ∧
      taken.head? = c.clone? ((commandFor c.identity).or s.sshCommand) := by
  unfold CloneCall.run cloneAt CloneCall.clone?
  rw [exec_bind, authorize_exec]
  generalize (commandFor c.identity).or s.sshCommand = command
  cases addressFor c.url c.identity with
  | error e => exact ⟨[], by simp, rfl⟩
  | ok address =>
    dsimp only
    rw [exec_bind_of_ok (exec_get _), exec_bind]
    obtain ⟨o, hclone⟩ := takeStep_exec setup (.clone address c.destination c.branch command)
      { s with sshCommand := command }
    rw [hclone]
    -- the checkout follows only a copy that could be made
    cases o with
    | error e => exact ⟨[.clone address c.destination c.branch command], rfl, rfl⟩
    | ok made =>
      cases made with
      | false => exact ⟨[.clone address c.destination c.branch command], rfl, rfl⟩
      | true =>
        refine ⟨[.clone address c.destination c.branch command, .checkout c.commit], ?_, rfl⟩
        dsimp only
        obtain ⟨o, hcheckout⟩ := takeStep_exec setup (.checkout c.commit) { s with
          steps := s.steps ++ [.clone address c.destination c.branch command]
          sshCommand := command }
        rw [if_pos rfl, exec_bind, hcheckout]
        cases o <;> simp

theorem copyIn_eq (setup : ImportSetup) (s : Importer) (c : CloneCall) :
    c.copyIn setup s = c.clone? ((commandFor c.identity).or s.sshCommand) := by
  obtain ⟨taken, hstate, hfirst⟩ := cloneCall_run_snd setup c s
  rw [CloneCall.copyIn, hstate]
  dsimp only
  rw [List.drop_left, hfirst]

/-! ## Copies one after the other -/

/-- What is left after some copies, whatever came of each. -/
def afterCopies (setup : ImportSetup) (s : Importer) (calls : List CloneCall) : Importer :=
  calls.foldl (fun s c => ((c.run setup).exec s).2) s

/-- The last command that one of the copies has set. -/
def lastCommand (calls : List CloneCall) : Option String :=
  (calls.filterMap fun c => commandFor c.identity).getLast?

theorem lastCommand_append (calls : List CloneCall) (c : CloneCall) :
    lastCommand (calls ++ [c]) = (commandFor c.identity).or (lastCommand calls) := by
  unfold lastCommand
  rw [List.filterMap_append]
  cases h : commandFor c.identity with
  | none => simp [h]
  | some command => simp [h]

theorem sshCommand_afterCopies (setup : ImportSetup) (s : Importer) (calls : List CloneCall) :
    (afterCopies setup s calls).sshCommand = (lastCommand calls).or s.sshCommand := by
  -- from the last copy backwards: it sets the command, or leaves the one that it finds
  induction calls using List.reverseRecOn with
  | nil => rfl
  | append_singleton calls c ih =>
    obtain ⟨taken, hstate, -⟩ := cloneCall_run_snd setup c (afterCopies setup s calls)
    have hlast : afterCopies setup s (calls ++ [c]) =
        ((c.run setup).exec (afterCopies setup s calls)).2 := by
      simp [afterCopies]
    rw [hlast, hstate, lastCommand_append]
    dsimp only
    rw [ih, Option.or_assoc]

/-- A copy for which the only thing given is a key. -/
def keyCopy (key : String) : CloneCall where
  url := .str "git@host:a.git"
  branch := .str "main"
  commit := .str "c1"
  destination := "/apps/a"
  identity := some { id := 1, name := "a", key := some key }

/-- **What a copy is made with.** After any copies, with any identities and whatever came of them:

* the address has the credentials of the copy's own identity and no others, and the command is the one
  that this identity sets, or else the last that an earlier identity has set, or else the one from
  before the first copy;
* so the copy is made as if it were the first if and only if its own identity sets the command, or no
  earlier one did, or the last one set the command that was there before (or there is no address and
  no copy);
* the copy is the same after all earlier copies if and only if its own identity sets the command (or
  there is no address and no copy). -/
theorem copy_independent_iff (setup : ImportSetup) (c : CloneCall) :
    (∀ s earlier, c.copyIn setup (afterCopies setup s earlier) =
      c.clone? ((commandFor c.identity).or ((lastCommand earlier).or s.sshCommand))) ∧
    (∀ s earlier, c.copyIn setup (afterCopies setup s earlier) = c.copyIn setup s ↔
      (∃ e, addressFor c.url c.identity = .error e) ∨ (commandFor c.identity).isSome = true ∨
        lastCommand earlier = none ∨ lastCommand earlier = s.sshCommand) ∧
    ((∀ s earlier earlier', c.copyIn setup (afterCopies setup s earlier) =
        c.copyIn setup (afterCopies setup s earlier')) ↔
      (∃ e, addressFor c.url c.identity = .error e) ∨ (commandFor c.identity).isSome = true) := by
  have hcopy : ∀ s earlier, c.copyIn setup (afterCopies setup s earlier) =
      c.clone? ((commandFor c.identity).or ((lastCommand earlier).or s.sshCommand)) := by
    intro s earlier
    rw [copyIn_eq, sshCommand_afterCopies]
  refine ⟨hcopy, fun s earlier => ?_, fun hsame => ?_, fun hown s earlier earlier' => ?_⟩
  · rw [hcopy, copyIn_eq, CloneCall.clone?_inj]
    refine or_congr_right ?_
    -- only the cases in which the own identity sets nothing look at the past
    cases commandFor c.identity with
    | some command => simp
    | none =>
      cases lastCommand earlier with
      | none => simp
      | some command => simp
  · -- the same copy after nothing and after the copy of an application with a key
    have hnew := hsame {} [] [keyCopy "/keys/a"]
    rw [hcopy, hcopy, CloneCall.clone?_inj] at hnew
    refine hnew.imp_right fun hcommand => ?_
    cases hown : commandFor c.identity with
    | some command => rfl
    | none =>
      rw [hown] at hcommand
      cases hcommand
  · rw [hcopy, hcopy, CloneCall.clone?_inj]
    refine hown.imp_right fun hset => ?_
    obtain ⟨command, hcommand⟩ := Option.isSome_iff_exists.mp hset
    rw [hcommand]
    rfl

/-- A hub that is not asked. -/
def copyingOnly : ImportSetup where
  hub := ⟨⟨fun _ _ => .error .http⟩, "HUB", 60, true⟩
  directory := "/apps"
  pageLimit := 0

/-- A copy without an identity that follows the copy of another application is made with the key of
that application; alone it is made without one. -/
theorem copied_with_key_of_other :
    let other : CloneCall := ⟨.str "git@host:b.git", .str "main", .str "c2", "/apps/b", none⟩
    other.copyIn copyingOnly {} = some (.clone (.str "git@host:b.git") "/apps/b" (.str "main") none) ∧
    other.copyIn copyingOnly (afterCopies copyingOnly {} [keyCopy "/keys/a"]) =
      some (.clone (.str "git@host:b.git") "/apps/b" (.str "main") (some "ssh -i /keys/a")) := by
  decide +kernel

end Remedy.Hub
