import Remedy.Host.Basic
import Remedy.Json.Writer

/-!
# Parameters of a request

The parameters that come with a request to solve a file, by name. Some have defaults. A path is only
accepted if a file stands there.
-/

namespace Remedy.Rpc

/-- The parameters of a request (`RPCParams`). -/
structure Params where
  data : Fields
deriving DecidableEq

namespace Params

/-- What a parameter is if it is not given. -/
def unsetValue : String → Json
  | "incidents" => .arr []
  | "report_path" => .arr []
  | "log_level" => .str "INFO"
  | _ => .null

/-- A parameter. -/
def value (p : Params) (name : String) : Json :=
  (p.data.get? name).getD (unsetValue name)

/-- The text of all parameters. -/
def text (p : Params) : String :=
  Json.render Json.spaced (.obj p.data)

/-- Refuses a parameter. -/
def refuse {α : Type} (reason : String) : Outcome α :=
  .error (.response .invalidParams reason)

/-- Checks that a directory stands at a path, or that a file does (`_validate_path`). -/
def checkPath (path : String) (directory : Bool) : Action Host Unit := do
  if !(← Host.pathExists path) then Action.ofOutcome (refuse ("path " ++ path ++ " does not exist"))
  let isDir ← Host.dirExists path
  if directory && !isDir then Action.ofOutcome (refuse ("file path is not a directory " ++ path))
  if !directory && isDir then Action.ofOutcome (refuse ("file path is a directory " ++ path))

/-- The parameters that must name a file. -/
def paths : List String := ["config_path", "input_file_path", "report_path"]

/-- Sets a parameter; one that must name a file is checked. -/
def set (p : Params) (name : String) (v : Json) : Action Host Params := do
  if name == "data" then return ⟨v.fields?.getD []⟩
  if paths.contains name then
    match v with
    | .str path => checkPath path false
    | _ => throw .wrongKind
  return ⟨p.data.set name v⟩

end Params
end Remedy.Rpc
