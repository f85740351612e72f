import Remedy.Proofs.Rpc.Messages

/-!
# Requests and their replies

A client that sends well-formed requests gets one reply to each, in the order of the requests and
under their identifiers: the result of the method, or the error that says why there is none. What is
sent in the one direction is received in the other, and the server stops when the client does.

Main results:

* `reply_eq`: what a request is replied is what comes of it.
* `run_requests`: a run on the frames of requests.
* `received_and_replied`: sent messages are received, and sent requests are replied to.
-/

namespace Remedy.Rpc

open Remedy.Action

variable {σ : Type}

/-! ## Requests -/

/-- A message that names a method and brings an identifier and arguments. -/
structure Request where
  fields : Fields
  id : Json
  method : String
  params : Fields
  args : Fields
  id_eq : fields.get? "id" = some id
  id_ne : id ≠ .null
  method_eq : fields.get? "method" = some (.str method)
  method_ne : method ≠ ""
  params_eq : fields.get? "params" = some (.obj params)
  args_eq : params.get? "kwargs" = some (.obj args)

/-- The request as it is sent. -/
def Request.message (r : Request) : Json :=
  .obj r.fields

/-- The reply to a request, and the work after it. A method that there is not is told so. Otherwise
the reply is the result of the method or its own error, and any other failure is an internal error
with the text of the failure. -/
def Server.reply (server : Server σ) (r : Request) (work : σ) : Except ResponseError Json × σ :=
  match server.methods.lookup r.method with
  | none => (.error ⟨.methodNotFound, "Method not found: " ++ r.method⟩, work)
  | some call =>
    match (call r.args).exec work with
    | (.ok result, work') => (.ok result, work')
    | (.error (.response code text), work') => (.error ⟨code, text⟩, work')
    | (.error (.fixFailed cause), work') =>
      (.error ⟨.internalError, "failed to generate fix - " ++ cause.text⟩, work')
    | (.error e, work') => (.error ⟨.internalError, e.text⟩, work')

/-- The replies to requests, each under the identifier of its request, and the work after them. -/
def Server.replies (server : Server σ) :
    List Request → σ → List (Json × Except ResponseError Json) × σ
  | [], work => ([], work)
  | r :: rs, work =>
    let (reply, work') := server.reply r work
    let (replies, last) := server.replies rs work'
    ((r.id, reply) :: replies, last)

theorem partOf_id (r : Request) : partOf r.fields "id" = r.id := by
  rw [partOf, r.id_eq]
  rfl

theorem partOf_method (r : Request) : partOf r.fields "method" = .str r.method := by
  rw [partOf, r.method_eq]
  rfl

theorem partOf_params (r : Request) : partOf r.fields "params" = .obj r.params := by
  rw [partOf, r.params_eq]
  rfl

theorem isRequest_fields (r : Request) : IsRequest r.fields := by
  refine ⟨?_, ?_⟩
  · rw [partOf_method, Json.isSet, Bool.not_eq_true', Bool.eq_false_iff, ne_eq, String.isEmpty_iff]
    exact r.method_ne
  · rw [partOf_id]
    exact r.id_ne

/-- What a request is replied is what comes of it. -/
theorem reply_eq (server : Server σ) (r : Request) (work : σ) :
    server.reply r work = ((server.answer (.str r.method) (.obj r.params) work).1.mapError errorOf,
      (server.answer (.str r.method) (.obj r.params) work).2) := by
  have hargs : argumentsOf (.obj r.params) = .ok r.args := by
    simp only [argumentsOf, r.args_eq]
  have hfound : lookUp? server.methods (.str r.method) =
      .ok ((server.methods.lookup r.method).map fun x => (r.method, x)) := rfl
  unfold Server.reply Server.answer
  rw [hfound]
  cases server.methods.lookup r.method with
  | none => rfl
  | some call =>
    rw [Option.map_some, hargs]
    dsimp only
    rcases (call r.args).exec work with ⟨o, work'⟩
    cases o with
    | ok result => rfl
    | error e => cases e <;> rfl

/-! ## Runs -/

/-- A run on the frames of requests replies to each of them and ends with the stream. -/
theorem run_requests {server : Server σ} (hstays : server.Stays) {requests : List Request}
    (hsend : ∀ r ∈ requests, Sendable r.message) {c : Connection σ}
    (hinput : c.input = send (requests.map Request.message)) :
    ∃ c', (run server).exec c = (.ok (), c') ∧ c'.input = [] ∧
      c'.responses = c.responses ++ (server.replies requests c.work).1 ∧
      c'.work = (server.replies requests c.work).2 := by
  induction requests generalizing c with
  | nil =>
    have hend : (takeNext server).exec c = (.ok false, { c with input := [] }) :=
      takeNext_end (.inl (by rw [hinput]; exact receive_nil))
    exact ⟨_, run_of_end hend, rfl, (List.append_nil _).symm, rfl⟩
  | cons r requests ih =>
    have hread : receive.exec c.input =
        (.ok (some (.obj r.fields)), send (requests.map Request.message)) := by
      rw [hinput]
      exact receive_frame (hsend r List.mem_cons_self) _
    obtain ⟨c₁, hrun, hinput₁, -, hresponses, hwork⟩ :=
      run_request hstays hread (isRequest_fields r)
    rw [partOf_id, partOf_method, partOf_params] at hresponses
    rw [partOf_method, partOf_params] at hwork
    -- the state of the work is handed on from one request to the next
    obtain ⟨c₂, hrun₂, hinput₂, hresponses₂, hwork₂⟩ :=
      ih (fun x hx => hsend x (List.mem_cons_of_mem r hx)) hinput₁
    refine ⟨c₂, hrun.trans hrun₂, hinput₂, ?_, ?_⟩
    · rw [hresponses₂, hresponses, hwork, Server.replies, reply_eq, List.append_assoc]
      rfl
    · rw [hwork₂, hwork, Server.replies, reply_eq]

/-- **Messages and requests come through.** Messages that are sent are received in their order, and
then the stream has ended. A server whose methods do not end the program replies to sent requests
once each, in their order and under their identifiers, and stops at the end of the stream. -/
theorem received_and_replied :
    (∀ messages : List Json, (∀ m ∈ messages, Sendable m) →
      receiveTimes (messages.length + 1) (send messages) =
        (messages.map (fun m => .ok (some m)) ++ [.ok none], [])) ∧
    ∀ {σ : Type} (server : Server σ), server.Stays →
      ∀ requests : List Request, (∀ r ∈ requests, Sendable r.message) → ∀ work : σ,
        ∃ c, (run server).exec { input := send (requests.map Request.message), work } = (.ok (), c) ∧
          c.input = [] ∧ (c.responses, c.work) = server.replies requests work := by
  constructor
  · intro messages h
    exact receiveTimes_send h
  · intro σ server hstays requests h work
    obtain ⟨c, hrun, hinput, hresponses, hwork⟩ := run_requests hstays h
      (show ({ input := send (requests.map Request.message), work } : Connection σ).input = _ from rfl)
    refine ⟨c, hrun, hinput, ?_⟩
    rw [hresponses, hwork]
    rfl

/-! ## An example -/

theorem int_ne_null (n : Int) : Json.int n ≠ .null := by
  intro h
  cases h

/-- A request of a number for a method. -/
def plainRequest (id : Int) (method : String) (h : method ≠ "") : Request where
  fields := [("id", .int id), ("method", .str method), ("params", .obj [("kwargs", .obj [])])]
  id := .int id
  method := method
  params := [("kwargs", .obj [])]
  args := []
  id_eq := rfl
  id_ne := int_ne_null id
  method_eq := rfl
  method_ne := h
  params_eq := rfl
  args_eq := rfl

/-- A server that counts, refuses or breaks, and waits for no answers. -/
def countingServer : Server Nat where
  methods := [
    ("count", fun _ => do
      modify (· + 1)
      return .int (← get)),
    ("refuse", fun _ => throw (.response .invalidParams "no")),
    ("break", fun _ => throw (.told "broken"))]
  handleResult _ _ _ := throw (.missingKey none)

theorem countingServer_stays : countingServer.Stays := by
  constructor
  · intro m hm args work status
    simp only [countingServer, List.mem_cons, List.not_mem_nil, or_false] at hm
    rcases hm with rfl | rfl | rfl
    · intro h
      cases h
    · intro h
      cases h
    · intro h
      cases h
  · intro n hn
    cases hn

/-- Requests with each kind of reply. -/
def plainRequests : List Request :=
  [plainRequest 1 "count" (by decide), plainRequest 2 "sleep" (by decide),
   plainRequest 3 "refuse" (by decide), plainRequest 4 "break" (by decide),
   plainRequest 5 "count" (by decide)]

theorem plainRequests_sendable : ∀ r ∈ plainRequests, Sendable r.message := by
  have h : ∀ r ∈ plainRequests, r.message.proper = true ∧
      (Json.render Json.spaced r.message).length < streamLimit := by decide +kernel
  exact fun r hr => ⟨(h r hr).1, (h r hr).2⟩

theorem received_and_replied_to_five :
    receiveTimes 6 (send (plainRequests.map Request.message)) =
      (plainRequests.map (fun r => .ok (some r.message)) ++ [.ok none], []) ∧
    ∃ c, (run countingServer).exec
        { input := send (plainRequests.map Request.message), work := 0 } = (.ok (), c) ∧
      c.responses = [(.int 1, .ok (.int 1)),
        (.int 2, .error ⟨.methodNotFound, "Method not found: sleep"⟩),
        (.int 3, .error ⟨.invalidParams, "no"⟩), (.int 4, .error ⟨.internalError, "broken"⟩),
        (.int 5, .ok (.int 2))] := by
  obtain ⟨hreceived, hreplied⟩ := received_and_replied
  constructor
  · refine hreceived (plainRequests.map Request.message) fun m hm => ?_
    obtain ⟨r, hr, rfl⟩ := List.mem_map.mp hm
    exact plainRequests_sendable r hr
  · obtain ⟨c, hrun, -, hreplies⟩ :=
      hreplied countingServer countingServer_stays plainRequests plainRequests_sendable 0
    exact ⟨c, hrun, congrArg Prod.fst hreplies⟩

end Remedy.Rpc
