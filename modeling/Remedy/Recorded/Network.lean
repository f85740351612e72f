import Remedy.History
import Remedy.Hub.Import
import Remedy.Hub.Server
import Remedy.Hub.Upload
import Remedy.Samples.Shell
import Remedy.Trial.Basic

/-!
# A recorded network

Hubs that give recorded answers, and the histories and samples of recorded applications. A hub answers
from a table, by address and by how often the address was asked for, or from a script, by how many
requests of the same kind came before.
-/

namespace Remedy

namespace Hub.Server

/-- A hub that answers from a table of addresses. The answers of an address are given in turn and the
last is repeated; an address that is not in the table is not found. -/
def ofTable (table : Fields) : Server where
  answer := fun past r =>
    let bodies := ((table.get? r.key).bind Json.items?).getD []
    let asked := (past.filter fun q => q.key == r.key).length
    match bodies[min asked (bodies.length - 1)]? with
    | some body => .ok { status := 200, body }
    | none => .ok { status := 404 }

/-- The answer to a request when a script has come to its end. -/
def noneLeft : Response := { status := 500, text := "none left" }

/-- An answer that a script tells. -/
def scripted (v : Json) : Outcome Response :=
  match v.textAt? "raise" with
  | some reason => .error (.unreachable reason)
  | none => .ok { status := v.intOr "status" 200, body := v.valueAt "json", text := v.textAt "text" }

/-- Whether a request asks for data. -/
def asks : Request → Bool
  | .get .. => true
  | .post .. => false

/-- A hub that answers what asks for data from one script and what sends data from another. -/
def ofScript (posts gets : List Json) : Server where
  answer := fun past r =>
    let script := if asks r then gets else posts
    match script[(past.filter fun q => asks q == asks r).length]? with
    | some v => scripted v
    | none => .ok noneLeft

end Hub.Server

/-- A change of a file written as its path before, its path after and the patch. -/
def FileChange.ofJson? : Json → Option FileChange
  | .arr [before, after, .str patch] => some { before := before.text?, after := after.text?, patch }
  | _ => none

/-- A recorded history. -/
def History.ofJson (v : Json) : History where
  branches := v.tableAt "branches"
  commits := (v.fieldsAt "commits").map fun (id, _) => (id, (v.valueAt "commits").tableAt id)
  changes := fun first last =>
    ((v.valueAt "diffs").itemsAt (first ++ ".." ++ last)).filterMap FileChange.ofJson?

/-- Recorded samples. -/
def Samples.Catalog.ofJson (v : Json) : Catalog where
  repos := (v.fieldsAt "repos").map fun (name, r) => (name, ⟨r.items?.getD []⟩)
  apps := v.tableAt "sample_apps"

/-- A recorded place where a hub is filled from. -/
def Hub.UploadSetup.ofJson (directory : String) (v : Json) : UploadSetup where
  server := Server.ofScript (v.itemsAt "posts") (v.itemsAt "gets")
  samples := Samples.Catalog.ofJson v
  directory
  head := fun place =>
    if ((v.valueAt "git").textsAt "missing").contains (Path.baseName place) then .error .git
    else .ok fun branch =>
      match branch.text?.bind fun b => ((v.valueAt "git").tableAt "commits").lookup b with
      | some commit => .ok commit
      | none => .error .outOfRange

/-- A recorded place to which a hub is imported, whose repositories may fail. -/
def Hub.ImportSetup.ofJson (address directory : String) (timeout : Int) (verify : Bool) (v : Json) :
    ImportSetup where
  hub := { server := Server.ofTable (v.fieldsAt "api"), address, timeout, verify }
  directory
  git := fun step =>
    let name := match step with
      | .clone .. => "clone"
      | .checkout _ => "checkout"
    if v.textAt "fail" == name then .error .git else .ok ()
  pageLimit := 10000

/-- An import that is stopped while it waits for the n-th time. -/
def Hub.ImportSetup.stoppedAt (n : Nat) (setup : ImportSetup) : ImportSetup :=
  { setup with
    sleep := fun past _ => if n ≤ past.length + 1 then .error (.exit (.code 0)) else .ok () }

/-- A recorded trial of a model. -/
def Trial.Setup.ofJson (output model : String) (v : Json) : Setup where
  history := History.ofJson (v.valueAt "repo")
  initial := v.textAt "initial"
  solved := v.textAt "solved"
  output
  model
  rulesets := v.valueAt "limit_to_rulesets"
  violations := v.valueAt "limit_to_violations"

/-- Programs with recorded exit codes: of copies by their places, and which copies leave nothing. -/
def Samples.Programs.ofJson (v : Json) : Programs where
  clone := fun place =>
    ((v.valueAt "clone").intOr place 0, !(v.textsAt "no_dir").contains place)

end Remedy
