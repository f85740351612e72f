import Remedy.Samples.Shell

/-!
# Fetching samples

Copies the repositories of the samples that are not there yet and switches each to its branches.
-/

namespace Remedy.Samples

open Errand

/-- Copies the repository of a sample. -/
def cloneSample (programs : Programs) (name : String) (url : Json) : Action Errand Unit := do
  let place := repoPlace name
  launch .run (.arr [.str "git", .str "clone", url, .str place])
  let (code, made) := programs.clone place
  if code ≠ 0 then
    tell ("Error cloning " ++ name)
    tell ("*** Exiting since we couldnt clone '" ++ name ++ "'")
    throw (.exit (.code 1))
  if made then
    let _ ← (onHost (Host.makeDirs place)).attempt
    return

/-- Fetches one sample. -/
def fetchSample (programs : Programs) (sample : String × SampleRepo) : Action Errand Unit := do
  let (name, repo) := sample
  tell ("Cloning " ++ name ++ "...")
  if ← onHost (Host.pathExists (repoPlace name)) then
    tell ("*** Skipping since '" ++ repoPlace name ++ "' already exists")
  else
    cloneSample programs name (← Action.ofOutcome repo.url)
    enter (repoPlace name)
    let initial ← Action.ofOutcome repo.initial
    if initial ≠ .null then
      tell ("Debug: git checkout " ++ initial.display)
      checkout initial
      checkout (← Action.ofOutcome repo.solved)
    leaveRepo

/-- Fetches the samples (`fetch_sample_apps`). -/
def fetchAll (programs : Programs) (samples : Catalog) : Action Errand Unit :=
  samples.repos.forM (fetchSample programs)

end Remedy.Samples
