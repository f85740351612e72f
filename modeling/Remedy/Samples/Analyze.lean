import Remedy.Samples.Shell

/-!
# Analysing samples

Runs the analyser on every sample before and after its migration, and writes down for each repository
which branches were analysed.
-/

namespace Remedy.Samples

open Errand

/-- The branch of a repository at a stage of its migration. -/
inductive Stage where
  | initial
  | solved
deriving DecidableEq, Repr

namespace Stage

/-- The word for a stage. -/
def word : Stage → String
  | .initial => "initial"
  | .solved => "solved"

/-- The branch at a stage. -/
def branch (r : SampleRepo) : Stage → Outcome Json
  | .initial => r.initial
  | .solved => r.solved

end Stage

/-- Switches the repository of a sample to the branch of a stage. -/
def switchRepo (stage : Stage) (sample : String × SampleRepo) : Action Errand Unit := do
  let (name, repo) := sample
  let branch ← Action.ofOutcome (stage.branch repo)
  tell ("Switching to " ++ branch.display ++ " branch for " ++ name ++ "...")
  enter (repoPlace name)
  if branch ≠ .null then checkout branch
  leaveRepo

/-- Makes sure that the analyser is there (`ensure_kantra_bin_exists`). -/
def needAnalyzer : Action Errand Unit := do
  let path := Path.join (← get).host.workingDirectory "bin/kantra"
  tell ("Checking for Kantra binary at " ++ path)
  if !(← onHost (Host.fileExists path)) then
    throw (.exit (.text ("Unable to find " ++ path ++ "\nPlease install Kantra")))

/-- Makes sure that a directory for results is there (`ensure_output_dir_exists`). -/
def needOutput (dir : String) : Action Errand Unit := do
  if !(← onHost (Host.dirExists dir)) then
    tell ("Creating output directory '" ++ dir ++ "'")
    onHost (Host.makeDirs dir)

/-- The command that analyses sources. -/
def analyzeCommand (scripts source output : String) : String :=
  "time ./bin/kantra analyze -i " ++ source ++ " -t \"quarkus\" -t \"jakarta-ee\" " ++
    "-t \"jakarta-ee8\" -t \"jakarta-ee9\" -t \"cloud-readiness\" --rules " ++ scripts ++
    "/custom_rules -o " ++ output ++ " --overwrite"

/-- Analyses a sample at a stage (`analyze`). -/
def analyze (scripts : String) (stage : Stage) (app : String × String) : Action Errand Unit := do
  let (name, source) := app
  needAnalyzer
  let output := Path.join (← get).host.workingDirectory
    ("analysis_reports/" ++ name ++ "/" ++ stage.word)
  needOutput output
  tell ("Analyzing '" ++ source ++ "', will write output to '" ++ output ++ "'")
  launch .run (.str (analyzeCommand scripts source output))

/-- Writes down the branches of a sample beside its reports (`update_app_yaml`). -/
def describeSample (sample : String × SampleRepo) : Action Errand Unit := do
  let (name, repo) := sample
  let url ← Action.ofOutcome repo.url
  let initial ← Action.ofOutcome repo.initial
  let solved ← Action.ofOutcome repo.solved
  let dir := "analysis_reports/" ++ name
  if !(← onHost (Host.dirExists dir)) then
    throw (.exit (.text ("Output directory for app.yaml seems wrong, `" ++ dir ++
      "` does not exist")))
  onHost (Host.write (Path.join dir "app.yaml")
    ("initial_branch: " ++ initial.display ++ "\nsolved_branch: " ++ solved.display ++
      "\nrepo: " ++ url.display ++ "\n"))

/-- Analyses the samples (`analyze_apps`); the rules lie beside the scripts. -/
def analyzeAll (scripts : String) (samples : Catalog) : Action Errand Unit := do
  [Stage.initial, .solved].forM fun stage => do
    samples.repos.forM (switchRepo stage)
    samples.apps.forM (analyze scripts stage)
  samples.repos.forM describeSample

end Remedy.Samples
