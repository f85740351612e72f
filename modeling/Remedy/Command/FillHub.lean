import Remedy.CommandLine
import Remedy.Hub.Upload

/-!
# The command that fills a hub

Makes the samples known to the hub whose address stands on the command line.
-/

namespace Remedy.Command.FillHub

/-- What the command takes. -/
def spec : CommandSpec where
  options := [{ names := ["-k", "--skip-verify"], key := "skip", kind := .flag }]
  places := ["url"]

/-- The command. -/
def run (setup : Hub.UploadSetup) (words : List String) : Action Hub.Uploader Unit := do
  let args ← Action.ofOutcome (CommandLine.parse spec words)
  let verify := !(args.flag? "skip").getD false
  if !verify then modify fun s => { s with muted := true }
  Hub.upload setup { url := (args.text? "url").getD "", verify }

end Remedy.Command.FillHub
