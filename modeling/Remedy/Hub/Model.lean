import Remedy.Json.Decode
import Remedy.Json.Writer
import Remedy.Path
import Remedy.Report.Encode
import Remedy.Timestamp

/-!
# The data of a hub

Analyses of applications, the issues that an analysis found with their incidents, and the identities
by which repositories are reached.
-/

namespace Remedy.Hub

open Decode

/-- Who made or changed an entry, and when. These are kept as they come. -/
def noteFields : List String := ["createUser", "updateUser", "createTime"]

/-- Reads the notes of an entry. -/
def readNotes (fields : Fields) : Outcome Fields :=
  noteFields.mapM fun name => do
    return (name, Json.ofText? (← withDefault fields [name] (nullable text) none))

/-- An incident of an issue. -/
structure HubIncident where
  id : Int
  notes : Fields
  issue : Int
  file : String
  line : Int
  message : String
  /-- The code around the incident, `codeSnip`. -/
  snippet : String
  /-- The `variables` of an incident, which a hub calls its facts. -/
  vars : Fields
deriving DecidableEq

namespace HubIncident

/-- Reads an incident. -/
def decode (v : Json) : Outcome HubIncident := do
  let fields ← object v
  return {
    id := ← required fields ["id"] int
    notes := ← readNotes fields
    issue := ← required fields ["issue"] int
    file := ← required fields ["file"] text
    line := ← required fields ["line"] int
    message := ← required fields ["message"] text
    snippet := ← required fields ["codeSnip"] text
    vars := ← required fields ["facts"] object }

/-- As a value. -/
def encode (i : HubIncident) : Json :=
  .obj ([("id", .int i.id)] ++ i.notes ++
    [("issue", .int i.issue), ("file", .str i.file), ("line", .int i.line),
     ("message", .str i.message), ("codeSnip", .str i.snippet), ("facts", .obj i.vars)])

end HubIncident

/-- A link of an issue. -/
structure HubLink where
  url : String
  title : String
deriving DecidableEq

/-- Reads a link. -/
def HubLink.decode (v : Json) : Outcome HubLink := do
  let fields ← object v
  return { url := ← required fields ["url"] text, title := ← required fields ["title"] text }

/-- As a value. -/
def HubLink.encode (l : HubLink) : Json :=
  .obj [("url", .str l.url), ("title", .str l.title)]

/-- An issue that an analysis found. -/
structure Issue where
  id : Int
  notes : Fields
  analysis : Int
  ruleset : String
  rule : String
  name : String
  description : String
  category : String
  effort : Int
  incidents : List HubIncident
  links : Option (List HubLink)
  labels : List String
deriving DecidableEq

namespace Issue

/-- Reads an issue. -/
def decode (v : Json) : Outcome Issue := do
  let fields ← object v
  return {
    id := ← required fields ["id"] int
    notes := ← readNotes fields
    analysis := ← required fields ["analysis"] int
    ruleset := ← required fields ["ruleset"] text
    rule := ← required fields ["rule"] text
    name := ← required fields ["name"] text
    description := ← required fields ["description"] text
    category := ← required fields ["category"] text
    effort := ← required fields ["effort"] int
    incidents := ← required fields ["incidents"] (listOf HubIncident.decode)
    links := ← withDefault fields ["links"] (nullable (listOf HubLink.decode)) (some [])
    labels := ← required fields ["labels"] (listOf text) }

/-- As a value. -/
def encode (i : Issue) : Json :=
  .obj ([("id", .int i.id)] ++ i.notes ++
    [("analysis", .int i.analysis), ("ruleset", .str i.ruleset), ("rule", .str i.rule),
     ("name", .str i.name), ("description", .str i.description), ("category", .str i.category),
     ("effort", .int i.effort), ("incidents", .arr (i.incidents.map HubIncident.encode)),
     ("links", encodeOption (fun ls => .arr (ls.map HubLink.encode)) i.links),
     ("labels", Json.texts i.labels)])

end Issue

/-- An identity by which a repository is reached. -/
structure Identity where
  id : Int
  kind : Option String := none
  name : String
  user : Option String := none
  password : Option String := none
  key : Option String := none
deriving DecidableEq, Repr

namespace Identity

/-- Reads an identity. -/
def decode (v : Json) : Outcome Identity := do
  let fields ← object v
  let optional := fun name => withDefault fields [name] (nullable text) none
  return {
    id := ← required fields ["id"] int
    kind := ← optional "kind"
    name := ← required fields ["name"] text
    user := ← optional "user"
    password := ← optional "password"
    key := ← optional "key" }

/-- The parts of an identity by name. -/
def fields (i : Identity) : Fields :=
  [("id", .int i.id), ("kind", Json.ofText? i.kind), ("name", .str i.name),
   ("user", Json.ofText? i.user), ("password", Json.ofText? i.password),
   ("key", Json.ofText? i.key)]

/-- As a value. -/
def encode (i : Identity) : Json := .obj i.fields

/-- A text that says something. -/
def said (s : Option String) : Option String :=
  s.filter fun t => !t.isEmpty

/-- Of two identities the one to use as `credentials`: the first, unless only the second has a key. -/
def preferred (first second : Identity) : Identity :=
  if (said first.key).isNone && (said second.key).isSome then second else first

end Identity

/-- An analysis of an application. -/
structure Analysis where
  id : Int
  application : Int
  commit : Option String := none
deriving DecidableEq, Repr

/-- Reads the number of an application and its identities. -/
def readApplication (v : Json) : Outcome (Int × List Identity) := do
  let fields ← object v
  let _ ← readNotes fields
  return (← required fields ["id"] int,
    ← withDefault fields ["identities"] (listOf Identity.decode) [])

/-- Reads an analysis. -/
def Analysis.decode (v : Json) : Outcome Analysis := do
  let fields ← object v
  let _ ← readNotes fields
  let _ ← required fields ["effort"] int
  let _ ← withDefault fields ["archived"] (nullable bool) none
  return {
    id := ← required fields ["id"] int
    application := (← required fields ["application"] readApplication).1
    commit := ← withDefault fields ["commit"] (nullable text) none }

/-- Reads data that must be an object before it is checked further. -/
def readObject {α : Type} (decode : Json → Outcome α) : Json → Outcome α
  | .obj fields => decode (.obj fields)
  | _ => .error .wrongKind

/-- An application as a hub describes it, with the place of a local copy. What the hub says about its
repository is kept as it comes. -/
structure HubApplication where
  name : String
  origin : Json
  localPath : String
  branch : Json
  commit : Json
  generated : Timestamp
deriving DecidableEq

namespace HubApplication

/-- A part of the repository of an application, or the empty text. -/
def repositoryPart (repository : Json) (name : String) : Outcome Json :=
  match repository with
  | .obj fields => .ok ((Fields.get? fields name).getD (.str ""))
  | .arr items => if items.contains (.str name) then .error .wrongKind else .ok (.str "")
  | .str s => if Text.contains s name then .error .wrongKind else .ok (.str "")
  | _ => .error .wrongKind

/-- The `createTime` of an application; it may be missing. -/
def readTime (v : Option Json) : Outcome Timestamp :=
  match v with
  | none => .ok { moment := ⟨1970, 1, 1, 0, 0, 0⟩, offset := some 0 }
  | some (.str s) =>
    match Timestamp.ofText? s with
    | some t => .ok t
    | none => .error .unreadableTime
  | some _ => .error .wrongKind

/-- Reads an application (`parse_application_data`); its local copy lies below a directory. -/
def ofFields (dir : String) (fields : Fields) : Outcome HubApplication := do
  let part := fun name =>
    match fields.get? "repository" with
    | some repository => repositoryPart repository name
    | none => .ok (.str "")
  let origin ← part "url"
  let branch ← part "branch"
  let commit ← match fields.get? "repository" with
    | some (.obj repository) => .ok ((Fields.get? repository "commit").getD (.str ""))
    | some _ => .error .missingMember
    | none => .error (.missingKey (some "repository"))
  let generated ← readTime (fields.get? "createTime")
  match (fields.get? "name").getD (.str "") with
  | .str name => return { name, origin, localPath := Path.join dir name, branch, commit, generated }
  | _ => throw .wrongKind

/-- As a value. -/
def encode (a : HubApplication) : Json :=
  .arr [.str a.name, a.origin, .str a.localPath, a.branch, a.commit, .str a.generated.text]

end HubApplication
end Remedy.Hub
