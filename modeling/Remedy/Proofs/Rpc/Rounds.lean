import Remedy.Rpc.Server
import Remedy.Proofs.Rpc.Frame

/-!
# The rounds of a server

A server takes one message after the other. Each round reads from the stream, so that the bound on
the number of rounds is never reached, and ends in one of a few ways: the stream has ended, a message
was taken, or something failed and was answered under the last identifier, if there is one.

Main results:

* `takeNext_message`, `takeNext_error`, `takeNext_end`: what a round does with what is read.
* `run_exec`: a run is a round and, if it goes on, a run.
* `run_of_end`, `run_of_taken`, `run_of_failed`, `run_of_unset`: how a run goes on after a round.
-/

namespace Remedy.Rpc

open Remedy.Action

variable {σ : Type}

/-! ## The stream -/

/-- The action leaves the stream as it is. -/
def KeepsInput {α : Type} (a : Serving σ α) : Prop :=
  ∀ c, (a.exec c).2.input = c.input

theorem keepsInput_bind {α β : Type} {a : Serving σ α} {f : α → Serving σ β} (ha : KeepsInput a)
    (hf : ∀ x, KeepsInput (f x)) : KeepsInput (a >>= f) :=
  Keeps.bind ha hf

theorem keepsInput_ofOutcome {α : Type} (o : Outcome α) :
    KeepsInput (ofOutcome o : Serving σ α) :=
  fun _ => rfl

theorem keepsInput_note (e : Event) : KeepsInput (note e : Serving σ Unit) :=
  fun _ => rfl

theorem keepsInput_onWork {α : Type} (a : Action σ α) : KeepsInput (onWork a) :=
  fun _ => rfl

theorem keepsInput_take (server : Server σ) (message : Json) : KeepsInput (take server message) := by
  cases message with
  | obj fields =>
    unfold take
    refine keepsInput_bind (fun _ => rfl) fun _ => ?_
    split
    · split
      · unfold passOn
        refine keepsInput_bind (keepsInput_ofOutcome _) fun found => ?_
        cases found with
        | none => exact fun _ => rfl
        | some p => exact keepsInput_bind (keepsInput_note _) fun _ => keepsInput_onWork _
      · unfold answerRequest
        refine keepsInput_bind (keepsInput_ofOutcome _) fun found => ?_
        cases found with
        | none => exact fun _ => rfl
        | some p =>
          refine keepsInput_bind (keepsInput_ofOutcome _) fun args => ?_
          refine keepsInput_bind (keepsInput_note _) fun _ => ?_
          exact keepsInput_bind (keepsInput_onWork _) fun _ => keepsInput_note _
    · exact keepsInput_bind (keepsInput_note _) fun _ => keepsInput_onWork _
  | null => exact fun _ => rfl
  | bool b => exact fun _ => rfl
  | int n => exact fun _ => rfl
  | real x => exact fun _ => rfl
  | str s => exact fun _ => rfl
  | arr xs => exact fun _ => rfl

theorem exec_note (e : Event) (c : Connection σ) :
    (note e).exec c = (.ok (), { c with events := c.events ++ [e] }) := rfl

/-! ## Rounds -/

section Rounds

variable {server : Server σ} {c c' : Connection σ} {rest : Bytes}

theorem exec_read {r : Outcome (Option Json)} (h : receive.exec c.input = (r, rest)) :
    (onPart Connection.input (fun c input => { c with input }) receive).exec c =
      (r, { c with input := rest }) := by
  unfold onPart
  rw [exec_ofExec, h]

/-- A message that is not null is taken after it was read. -/
theorem takeNext_message {message : Json} (hmessage : message ≠ .null)
    (h : receive.exec c.input = (.ok (some message), rest)) :
    (takeNext server).exec c =
      (((take server message).exec { c with input := rest }).1.map fun _ => true,
        ((take server message).exec { c with input := rest }).2) := by
  unfold takeNext
  rw [exec_bind_of_ok (exec_read h)]
  cases message with
  | null => exact absurd rfl hmessage
  | bool b => rfl
  | int n => rfl
  | real x => rfl
  | str s => rfl
  | arr xs => rfl
  | obj fields => exact exec_map (fun _ => true) (take server (.obj fields)) _

theorem takeNext_error {e : Failure} (h : receive.exec c.input = (.error e, rest)) :
    (takeNext server).exec c = (.error e, { c with input := rest }) :=
  exec_bind_of_error (exec_read h) _

theorem takeNext_end (h : receive.exec c.input = (.ok none, rest) ∨
      receive.exec c.input = (.ok (some .null), rest)) :
    (takeNext server).exec c = (.ok false, { c with input := rest }) := by
  unfold takeNext
  rcases h with h | h
  · rw [exec_bind_of_ok (exec_read h)]
    rfl
  · rw [exec_bind_of_ok (exec_read h)]
    rfl

/-- A round after which there may be more has read something. -/
theorem length_takeNext_lt {o : Outcome Bool} (h : (takeNext server).exec c = (o, c'))
    (hmore : o ≠ .ok false) : c'.input.length < c.input.length := by
  have hsome : c.input ≠ [] := by
    intro hnil
    have hend : (takeNext server).exec c = (.ok false, { c with input := [] }) :=
      takeNext_end (.inl (by rw [hnil]; exact receive_nil))
    rw [hend] at h
    exact hmore (congrArg Prod.fst h).symm
  have hlt := length_receive_lt hsome
  have hinput : c'.input = (receive.exec c.input).2 := by
    rcases hread : receive.exec c.input with ⟨r, rest⟩
    cases r with
    | error e =>
      rw [takeNext_error hread] at h
      rw [← (Prod.mk.inj h).2]
    | ok found =>
      cases found with
      | none =>
        rw [takeNext_end (.inl hread)] at h
        rw [← (Prod.mk.inj h).2]
      | some message =>
        by_cases hnull : message = .null
        · subst hnull
          rw [takeNext_end (.inr hread)] at h
          rw [← (Prod.mk.inj h).2]
        · rw [takeNext_message hnull hread] at h
          rw [← (Prod.mk.inj h).2]
          exact keepsInput_take server message _
  rw [hinput]
  exact hlt

/-- What a round leads to: the end of the run, or a connection with which it goes on. -/
def round (server : Server σ) (c : Connection σ) : (Outcome Unit × Connection σ) ⊕ Connection σ :=
  match (takeNext server).exec c with
  | (.ok true, c') => .inr c'
  | (.ok false, c') => .inl (.ok (), c')
  | (.error (.exit status), c') => .inl (.error (.exit status), c')
  | (.error e, c') =>
    match c'.lastId with
    | some id => .inr { c' with events := c'.events ++ [.responded id (.error (errorOf e))] }
    | none => .inl (.error .unset, c')

theorem round_of_failed {e : Failure} (he : ∀ status, e ≠ .exit status)
    (h : (takeNext server).exec c = (.error e, c')) :
    round server c =
      match c'.lastId with
      | some id => .inr { c' with events := c'.events ++ [.responded id (.error (errorOf e))] }
      | none => .inl (.error .unset, c') := by
  unfold round
  rw [h]
  split
  · rename_i heq
    cases heq
  · rename_i heq
    cases heq
  · rename_i heq
    cases heq
    exact absurd rfl (he _)
  · rename_i heq
    cases heq
    rfl

theorem runUpTo_succ (fuel : Nat) :
    (runUpTo server (fuel + 1)).exec c =
      (round server c).elim id fun c' => (runUpTo server fuel).exec c' := by
  have hattempt : (takeNext server).attempt.exec c =
      (.ok ((takeNext server).exec c).1, ((takeNext server).exec c).2) := rfl
  rw [runUpTo, exec_bind_of_ok hattempt]
  rcases hnext : (takeNext server).exec c with ⟨o, c'⟩
  dsimp only
  split
  · rename_i more
    rw [round, hnext]
    cases more <;> rfl
  · rw [round, hnext]
    rfl
  · rename_i e hexit
    rw [round_of_failed hexit hnext]
    unfold answerFailure
    rw [exec_bind, exec_bind_of_ok (exec_get _)]
    obtain ⟨input, lastId, events, work⟩ := c'
    cases lastId <;> rfl

/-- A round with which the run goes on has read something. -/
theorem length_round_lt (h : round server c = .inr c') : c'.input.length < c.input.length := by
  unfold round at h
  split at h
  · rename_i d hnext
    cases h
    exact length_takeNext_lt hnext (by simp)
  · cases h
  · cases h
  · rename_i e d _ hnext
    have hlt := length_takeNext_lt hnext (by simp)
    split at h
    · cases h
      exact hlt
    · cases h

/-- The bound on the number of rounds does not matter if it is larger than the stream is long. -/
theorem runUpTo_congr {fuel fuel' : Nat} (h : c.input.length < fuel) (h' : c.input.length < fuel') :
    (runUpTo server fuel).exec c = (runUpTo server fuel').exec c := by
  induction fuel generalizing fuel' c with
  | zero => omega
  | succ fuel ih =>
    obtain ⟨fuel', rfl⟩ : ∃ k, fuel' = k + 1 := ⟨fuel' - 1, by omega⟩
    rw [runUpTo_succ, runUpTo_succ]
    rcases hround : round server c with r | c'
    · rfl
    · have hlt := length_round_lt hround
      exact ih (by omega) (by omega)

/-- A run is a round and, if it goes on, a run. -/
theorem run_exec : (run server).exec c = (round server c).elim id fun c' => (run server).exec c' := by
  have hrun : ∀ d, (run server).exec d = (runUpTo server (d.input.length + 1)).exec d := fun d => rfl
  rw [hrun, runUpTo_succ]
  rcases hround : round server c with r | c'
  · rfl
  · have hlt := length_round_lt hround
    show (runUpTo server c.input.length).exec c' = (run server).exec c'
    rw [hrun]
    exact runUpTo_congr hlt (Nat.lt_succ_self _)

theorem run_of_end (h : (takeNext server).exec c = (.ok false, c')) :
    (run server).exec c = (.ok (), c') := by
  rw [run_exec, round, h]
  rfl

theorem run_of_taken (h : (takeNext server).exec c = (.ok true, c')) :
    (run server).exec c = (run server).exec c' := by
  rw [run_exec, round, h]
  rfl

theorem run_of_failed {e : Failure} {id : Json} (he : ∀ status, e ≠ .exit status)
    (h : (takeNext server).exec c = (.error e, c')) (hid : c'.lastId = some id) :
    (run server).exec c =
      (run server).exec { c' with events := c'.events ++ [.responded id (.error (errorOf e))] } := by
  rw [run_exec, round_of_failed he h, hid]
  rfl

end Rounds

end Remedy.Rpc
