import Remedy.Config.Basic
import Remedy.Config.Toml
import Remedy.Json.Merge
import Remedy.Host.Basic
import Remedy.Text.Blank

/-!
# Loading configurations

A configuration comes from a file, laid over the settings file of the installation if there is one.
Settings of the installation that are unknown are passed over; those of the file are refused.
-/

namespace Remedy.Config

/-- Reads the settings in a TOML text (`TomlConfigSettingsSource`). -/
def ofToml (content : String) : Outcome Fields :=
  match Toml.parse? content with
  | some fields => .ok fields
  | none => .error .malformedSettings

/-- Reads the data in a YAML text that is written as JSON; an empty text holds nothing. -/
def dataOfText (content : String) : Outcome Json :=
  match Json.parse? content with
  | some data => .ok data
  | none => if (Text.strip content).isEmpty then .ok .null else .error .malformedJson

/-- The known parts among the settings of an installation. -/
def knownParts (settings : Fields) : Fields :=
  partNames.filterMap fun name => (settings.get? name).map fun v => (name, v)

/-- The settings of the installation, from its settings file. -/
def installed (path : String) : Action Host Fields := do
  if ← Host.pathExists path then
    return knownParts (← Action.ofOutcome (ofToml (← Host.read path)))
  else return []

/-- The configuration of the given parts, laid over those of the installation. -/
def ofParts (parts : Fields) : Action Host Config := do
  let h ← get
  let settings ← installed h.settingsFile
  Action.ofOutcome (decode h.standardLogDir (Fields.merge settings parts))

/-- The parts in the data of a file. -/
def partsOf : Json → Outcome Fields
  | .obj fields => .ok fields
  | _ => .error .wrongKind

/-- The data of a configuration file; its name tells the format. -/
def dataOfFile (path : String) : Action Host Json := do
  let (_, ext) := Path.splitExtension path
  if ext == ".toml" then
    return .obj (← Action.ofOutcome (ofToml (← Host.read path)))
  else if ext == ".yaml" || ext == ".yml" then
    Action.ofOutcome (dataOfText (← Host.read path))
  else throw (.badValue ("'" ++ path ++ "' has unsupported file type: " ++ ext))

/-- Loads a configuration from a file (`model_validate_filepath`). -/
def ofFile (path : String) : Action Host Config := do
  let data ← dataOfFile path
  ofParts (← Action.ofOutcome (partsOf data))

/-- Loads the configuration of the client, which must be there. -/
def ofExistingFile (path : String) : Action Host Config := do
  if ← Host.pathExists path then ofFile path
  else throw (.noSuchFile (some "Config file not found."))

end Remedy.Config
