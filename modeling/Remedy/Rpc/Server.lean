import Remedy.Json.Display
import Remedy.Rpc.Frame
import Remedy.Trace

/-!
# Serving requests

A server (`CustomRpcServer`) reads messages until the stream ends. A request names a method and brings
an identifier under which it is answered, with a result or an error; a notification brings none and is
not answered. A message without a method is an answer to the server itself. A message that cannot be
read is answered with an error under the identifier of the message before it.
-/

namespace Remedy.Rpc

/-- What a request asks for (`method_callbacks`), what a notification is given to
(`notify_callbacks`), and what is done with an answer to the server itself, given its identifier,
its result and its error (`handle_result`). Each may fail. -/
structure Server (σ : Type) where
  methods : List (String × (Fields → Action σ Json))
  notifications : List (String × (Json → Action σ Unit)) := []
  handleResult : Json → Json → Json → Action σ Unit := fun _ _ _ => return

/-- An error answer. -/
structure ResponseError where
  code : ResponseCode
  text : String
deriving DecidableEq, Repr

/-- What happens while a server runs. -/
inductive Event where
  | called (method : String) (args : Fields)
  | notified (method : String) (params : Json)
  | responded (id : Json) (answer : Except ResponseError Json)
  | handled (id result error : Json)

/-- The stream that a server reads, the identifier of the last message, what has happened, and the
state of the work behind it. -/
structure Connection (σ : Type) where
  input : Bytes
  lastId : Option Json := none
  events : List Event := []
  work : σ

/-- Actions of a server. -/
abbrev Serving (σ : Type) := Action (Connection σ)

variable {σ : Type}

/-- Notes what happens. -/
def note (e : Event) : Serving σ Unit :=
  modify fun c => { c with events := c.events ++ [e] }

/-- An action on the work behind a server. -/
def onWork {α : Type} (a : Action σ α) : Serving σ α :=
  Action.onPart Connection.work (fun c work => { c with work }) a

/-- The error answer for a failure. -/
def errorOf : Failure → ResponseError
  | .response code text => ⟨code, text⟩
  | .fixFailed cause => ⟨.internalError, "failed to generate fix - " ++ cause.text⟩
  | e => ⟨.internalError, e.text⟩

/-- The entry under the name of a method. Lists and objects cannot be looked up. -/
def lookUp? {α : Type} (table : List (String × α)) : Json → Outcome (Option (String × α))
  | .str name => .ok ((table.lookup name).map fun x => (name, x))
  | .arr _ => .error .wrongKind
  | .obj _ => .error .wrongKind
  | _ => .ok none

/-- The arguments of a request. -/
def argumentsOf : Json → Outcome Fields
  | .obj params =>
    match Fields.get? params "kwargs" with
    | some (.obj args) => .ok args
    | some _ => .error .wrongKind
    | none => .error (.missingKey (some "kwargs"))
  | _ => .error .wrongKind

/-- Answers a request. -/
def answerRequest (server : Server σ) (id method params : Json) : Serving σ Unit := do
  match ← Action.ofOutcome (lookUp? server.methods method) with
  | none => throw (.response .methodNotFound ("Method not found: " ++ method.display))
  | some (name, call) =>
    let args ← Action.ofOutcome (argumentsOf params)
    note (.called name args)
    let result ← onWork (call args)
    note (.responded id (.ok result))

/-- Passes a notification on; one of an unknown name is dropped. -/
def passOn (server : Server σ) (method params : Json) : Serving σ Unit := do
  match ← Action.ofOutcome (lookUp? server.notifications method) with
  | none => return
  | some (name, call) =>
    note (.notified name params)
    onWork (call params)

/-- Hands an answer to the server itself on. -/
def handOn (server : Server σ) (id result error : Json) : Serving σ Unit := do
  note (.handled id result error)
  onWork (server.handleResult id result error)

/-- Takes a message. -/
def take (server : Server σ) : Json → Serving σ Unit
  | .obj fields => do
    let part := fun name => (Fields.get? fields name).getD .null
    let id := part "id"
    modify fun c => { c with lastId := some id }
    if (part "method").isSet then
      if id = .null then passOn server (part "method") (part "params")
      else answerRequest server id (part "method") (part "params")
    else handOn server id (part "result") (part "error")
  | _ => throw .missingMember

/-- Reads (`recv_response`) and takes one message; gives whether there may be more. -/
def takeNext (server : Server σ) : Serving σ Bool := do
  match ← Action.onPart Connection.input (fun c input => { c with input }) receive with
  | none => return false
  | some .null => return false
  | some message =>
    take server message
    return true

/-- Answers a failure under the last identifier (`rpc_id`), which must have come (`send_response`). -/
def answerFailure (e : Failure) : Serving σ Unit := do
  match (← get).lastId with
  | some id => note (.responded id (.error (errorOf e)))
  | none => throw .unset

/-- Takes messages until the stream ends, or until the work behind the server ends the program. The
fuel bounds their number. -/
def runUpTo (server : Server σ) : Nat → Serving σ Unit
  | 0 => return
  | fuel + 1 => do
    match ← (takeNext server).attempt with
    | .ok more => if more then runUpTo server fuel
    | .error (.exit status) => throw (.exit status)
    | .error e =>
      answerFailure e
      runUpTo server fuel

/-- Takes messages until the stream ends. Every message is at least one byte long. -/
def run (server : Server σ) : Serving σ Unit := do
  runUpTo server ((← get).input.length + 1)

end Remedy.Rpc
