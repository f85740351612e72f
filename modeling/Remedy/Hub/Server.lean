import Remedy.Action
import Remedy.Json.Access

/-!
# The server of a hub

A hub is asked over the network for what it knows about applications and is sent new data. What it
answers may depend on all that it was asked before, so a server is a function of the requests so far.
-/

namespace Remedy.Hub

/-- A file that is sent along: its name, the documents in it and their kind. -/
structure FilePart where
  name : String
  documents : List Json
  mime : String
deriving DecidableEq

/-- What is sent. -/
inductive Payload where
  | data (v : Json)
  | files (parts : List (String × FilePart))
deriving DecidableEq

/-- A request to a hub. -/
inductive Request where
  /-- Asks for data, perhaps with a condition. -/
  | get (url : String) (condition : Option (String × String)) (timeout : Int) (verify : Bool)
  /-- Sends data. -/
  | post (url : String) (headers : List (String × String)) (payload : Payload) (timeout : Int)
      (verify : Bool)
deriving DecidableEq

/-- An answer of a hub. -/
structure Response where
  status : Int
  body : Json := .null
  text : String := ""
deriving DecidableEq

/-- A hub: its answers to requests, given those before. -/
structure Server where
  answer : List Request → Request → Outcome Response

namespace Request

/-- The address of a request with its condition. -/
def key : Request → String
  | .get url (some (name, value)) _ _ => url ++ "?" ++ name ++ "=" ++ value
  | .get url none _ _ => url
  | .post url _ _ _ _ => url

/-- A request for data as a value: address, time limit and whether the server is verified. -/
def encodeCall : Request → Json
  | .get url condition timeout verify =>
    .arr [.str (Request.get url condition timeout verify).key, .int timeout, .bool verify]
  | .post url _ _ timeout verify => .arr [.str url, .int timeout, .bool verify]

/-- A payload as entries. -/
def encodePayload : Payload → Fields
  | .data v => [("data", v)]
  | .files parts =>
    [("files", .obj (parts.map fun (field, p) =>
      (field, .arr [.str p.name, .arr p.documents, .str p.mime])))]

/-- A request as a value, with all that is sent. -/
def encode : Request → Json
  | .get url _ timeout verify =>
    .obj [("get", .str url), ("timeout", .int timeout), ("verify", .bool verify)]
  | .post url headers payload timeout verify =>
    .obj ([("post", .str url), ("headers", .obj (headers.map fun (k, v) => (k, .str v))),
      ("timeout", .int timeout), ("verify", .bool verify)] ++ encodePayload payload)

end Request

/-- Sends a request; the requests so far are the state. -/
def send (server : Server) (r : Request) : Action (List Request) Response :=
  Action.ofExec fun past => (server.answer past r, past ++ [r])

/-- A hub at an address, and how it is asked. -/
structure Connection where
  server : Server
  address : String
  timeout : Int := 60
  verify : Bool := true

/-- The data at a path below the address. An error status is a failure. -/
def Connection.fetch (hub : Connection) (path : String) (condition : Option (String × String)) :
    Action (List Request) Json := do
  let r ← send hub.server (.get (hub.address ++ path) condition hub.timeout hub.verify)
  if 400 ≤ r.status then throw .http
  return r.body

section Pages

variable {σ α : Type} (page : Nat → Action σ Json) (take : α → Json → Action σ α)

/-- Takes an item of a page and counts it. -/
def counting (got : α × Nat) (item : Json) : Action σ (α × Nat) := do
  return (← take got.1 item, got.2 + 1)

/-- Goes on with the pages of a list, as long as the number of items, `current_offset`, is another one
than when the last page was asked for, `previous_offset`. The fuel bounds the number of pages. -/
def pagesFrom : Nat → Option Nat → Nat → α → Action σ α
  | 0, _, _, got => return got
  | fuel + 1, previous, current, got => do
    if previous = some current then return got
    let items ← Action.ofOutcome (← page current).each
    let (next, reached) ← items.foldlM (counting take) (got, current)
    pagesFrom fuel (some current) reached next

/-- Goes through a list that is given page by page (`paginate_api`). A page is asked for by the
number of items so far. Each item is taken before the next page is asked for. -/
def paginate (limit : Nat) (got : α) : Action σ α :=
  pagesFrom page take limit none 0 got

end Pages

end Remedy.Hub
