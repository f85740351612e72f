import Remedy.Action
import Remedy.Json.Reader
import Remedy.Json.Writer

/-!
# Sockets

A socket takes one message. A message that is not understood is answered with an error; a request is
read part by part and is then refused, because it brings variables under a name by which the service
does not take them.
-/

namespace Remedy.Web

/-- A message that arrives on a socket. -/
inductive SocketMessage where
  | text (data : String)
  /-- The connection broke, with the text of the reason. -/
  | error (reason : String)
  | other
deriving DecidableEq, Repr

/-- What the server does on a socket. -/
inductive SocketEvent where
  | prepared
  | sent (text : String)
  | closed
deriving DecidableEq, Repr

namespace Socket

/-- Adds an event. -/
def note (e : SocketEvent) : Action (List SocketEvent) Unit :=
  modify (· ++ [e])

/-- Sends an error. -/
def sendError (reason : String) : Action (List SocketEvent) Unit :=
  note (.sent (Json.render Json.spaced (.obj [("error", .str reason)])))

/-- The parts that a request must have, in the order in which they are read. -/
def requestParts : List String :=
  ["application_name", "ruleset_name", "violation_name", "incident_variables", "file_name",
   "file_contents", "line_number"]

/-- Reads the parts of a request: the first that is missing is reported. -/
def readRequest : Json → Outcome Unit
  | .obj fields =>
    match requestParts.find? fun part => !Fields.has fields part with
    | some part => .error (.missingKey (some part))
    | none => .ok ()
  | _ => .error .wrongKind

/-- Takes a request. `reachable` tells whether the service can be found. -/
def takeRequest (reachable : Bool) (request : Json) : Outcome Unit := do
  if !reachable then throw (.missingKey none)
  readRequest request
  throw .wrongKind

/-- Serves a socket (`get_ws_get_incident_solution`). -/
def serve (reachable : Bool) (message : SocketMessage) : Action (List SocketEvent) Unit := do
  note .prepared
  match message with
  | .text data =>
    match Json.parse? data with
    | none => sendError "Received non-json data"
    | some request => Action.ofOutcome (takeRequest reachable request)
  | .error reason => sendError ("Websocket closed with exception " ++ reason)
  | .other => sendError "Unsupported message type"
  note .closed

end Socket
end Remedy.Web
