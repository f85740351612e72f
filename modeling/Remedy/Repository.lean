import Remedy.Action
import Remedy.Json.Display

/-!
# Repositories

What is asked of a repository under version control: the content of a file at a commit and the
differences of a file between two commits. A repository is given by its answers; the questions asked
are kept.
-/

namespace Remedy

/-- A question to a repository. -/
inductive GitCall where
  | content (what : String)
  | difference (old new : Option String) (path : String)
deriving DecidableEq, Repr

/-- A repository, by its answers. -/
structure Repository where
  /-- The directory in which the files are checked out. -/
  directory : String := "/work"
  /-- The content of a file at a commit, named as `commit:path`. -/
  content? : String → Option String := fun _ => none
  /-- The differences of the file at a path between two commits; one that is not known is left out of
  the question. -/
  difference : Option String → Option String → String → Outcome String := fun _ _ _ => .ok ""
  /-- The commit at the head of a branch. -/
  head? : String → Option String := fun _ => none
  /-- Where the repository was cloned from. -/
  origin : String := ""

/-- Actions that ask a repository; the state is the list of questions. -/
abbrev GitAction := Action (List GitCall)

namespace Repository

/-- The name of a file at a commit. The word for nothing stands for a commit that is not known. -/
def fileAt (commit : Option String) (path : String) : String :=
  commit.getD Json.nullWord ++ ":" ++ path

/-- Asks for the content of a file at a commit. -/
def content (r : Repository) (what : String) : GitAction String :=
  Action.ofExec fun calls =>
    (match r.content? what with
      | some text => .ok text
      | none => .error .git,
     calls ++ [.content what])

/-- Asks for the content of a file at a commit; a file that is not there counts as empty. -/
def contentOrEmpty (r : Repository) (what : String) : GitAction String := do
  match ← (r.content what).attempt with
  | .ok text => return text
  | .error _ => return ""

/-- Asks for the differences of a file. -/
def differences (r : Repository) (old new : Option String) (path : String) : GitAction String :=
  Action.ofExec fun calls => (r.difference old new path, calls ++ [.difference old new path])

end Repository
end Remedy
