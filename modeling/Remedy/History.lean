import Remedy.Failure
import Remedy.Text.Search

/-!
# Histories

The history of an application: its branches, the files at each commit, and what changed between two
commits. A revision is named by a branch or by a commit.
-/

namespace Remedy

/-- A change of one file. -/
structure FileChange where
  /-- The path before. -/
  before : Option String
  /-- The path after. -/
  after : Option String
  patch : String
deriving DecidableEq, Repr

/-- The history of an application (`GitDiff`). -/
structure History where
  /-- The commit at the head of each branch. -/
  branches : List (String × String) := []
  /-- The files at each commit. -/
  commits : List (String × List (String × String)) := []
  /-- The changes from one commit to another. -/
  changes : String → String → List FileChange := fun _ _ => []

namespace History

/-- The revision that is current if none is named. -/
def current : String := "HEAD"

/-- The commit that a revision names. -/
def commit (h : History) (revision : String) : Outcome String :=
  match h.branches.lookup revision with
  | some id => .ok id
  | none => if (h.commits.lookup revision).isSome then .ok revision else .error .unknownRevision

/-- The commit at the head of a branch (`get_commit_from_branch`). -/
def head (h : History) (branch : String) : Outcome String :=
  match h.branches.lookup branch with
  | some id => .ok id
  | none => .error .outOfRange

/-- The changes between two revisions (`get_patch`). -/
def patches (h : History) (first last : String) : Outcome (List FileChange) := do
  return h.changes (← h.commit first) (← h.commit last)

/-- What changed in a file, under its old or its new path (`get_patch_for_file`). -/
def patchOf (h : History) (first last path : String) : Outcome (Option String) := do
  let found := (← h.patches first last).find? fun c => c.before == some path || c.after == some path
  return found.map FileChange.patch

/-- Whether a file changed (`diff_exists_for_file`); this is not said of pictures. -/
def changed? (h : History) (first last path : String) : Outcome (Option Bool) := do
  if Text.endsWith path ".svg" then return none
  return some (← h.patchOf first last path).isSome

/-- A file at a revision (`get_file_contents`). -/
def file (h : History) (path revision : String) : Outcome String := do
  let id ← h.commit revision
  match ((h.commits.lookup id).getD []).lookup path with
  | some content => return content
  | none => throw (.missingKey (some path))

/-- A file at the head of a branch (`get_file_contents_from_branch`). The head is a commit and not the
name of one, so no file is found by it. -/
def fileOnBranch (h : History) (_path branch : String) : Outcome String := do
  let _ ← h.head branch
  throw .wrongKind

/-- The first commits that have a file (`get_commits_for_file`). -/
def commitsOf (h : History) (path : String) (limit : Nat) : List String :=
  ((h.commits.filter fun (_, files) => (files.lookup path).isSome).map Prod.fst).take limit

end History
end Remedy
