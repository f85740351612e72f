import Remedy.Rpc.Server
import Remedy.Samples.Shell
import Remedy.Web.Socket

/-!
# Journals

What happened in a run, written as values.
-/

namespace Remedy

/-- An error answer as a value; the text of an unforeseen failure may be left out. -/
def Rpc.ResponseError.encode (told : ResponseError → Bool) (e : ResponseError) : Json :=
  .obj (("code", .str e.code.name) :: if told e then [("message", .str e.text)] else [])

/-- An event of a server as a value. -/
def Rpc.Event.encode (told : ResponseError → Bool) : Event → Json
  | .called name args => .obj [("called", .str name), ("kwargs", .obj args)]
  | .notified name v => .obj [("notified", .str name), ("params", v)]
  | .responded id (.ok v) => .obj [("response", id), ("result", v), ("failed", .null)]
  | .responded id (.error e) =>
    .obj [("response", id), ("result", .null), ("failed", e.encode told)]
  | .handled id v e => .obj [("handled", id), ("result", v), ("given_error", e)]

/-- Whether an event is an answer to a request. -/
def Rpc.Event.isAnswer : Event → Bool
  | .responded _ _ => true
  | _ => false

/-- What happened on a socket, as a value. -/
def Web.SocketEvent.encode : SocketEvent → Json
  | .prepared => .str "prepare"
  | .sent t => .str t
  | .closed => .str "close"

/-- A program that was started, as a value; its directory is given below another. -/
def Samples.Launch.encode (above : String) (l : Launch) : Json :=
  .arr [.str (match l.start with | .system => "system" | .run => "run"),
    .str (Path.relativeTo above l.directory), l.command]

end Remedy
