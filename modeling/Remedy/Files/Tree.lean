import Remedy.Text.Search
import Remedy.Path
import Remedy.Failure

/-!
# Trees of files

The files that a command sees, as a value: directories and files under their names from the root.
Paths are given as texts and may hold empty parts, `.` and `..`; each part but the last must name a
directory.
-/

namespace Remedy

/-- The names from the root to a file or a directory. -/
abbrev Names := List String

/-- Directories and files. The root is always a directory. -/
structure FileTree where
  dirs : List Names := []
  files : List (Names × String) := []
deriving DecidableEq, Inhabited

namespace FileTree

/-- A directory stands there. -/
def isDir (t : FileTree) (names : Names) : Bool :=
  names.isEmpty || t.dirs.contains names

/-- The content of the file that stands there. -/
def file? (t : FileTree) (names : Names) : Option String :=
  t.files.lookup names

/-- The parts of a path that name something. -/
def parts (path : String) : List String :=
  (Text.split path "/").filter fun p => !p.isEmpty && p != "."

/-- Follows the parts of a path from a directory. Every place that is passed must be a directory;
the last need not exist. -/
def follow (t : FileTree) : Names → List String → Outcome Names
  | here, [] => .ok here
  | here, part :: rest =>
    if t.isDir here then
      if part == ".." then follow t here.dropLast rest else follow t (here ++ [part]) rest
    else if (t.file? here).isSome then .error .notDirectory
    else .error (.noSuchFile none)

/-- The place that a path from the root names. -/
def place (t : FileTree) (path : String) : Outcome Names := do
  let here ← t.follow [] (parts path)
  if Text.endsWith path "/" && (t.file? here).isSome then throw .notDirectory
  return here

/-- Something stands at the path. -/
def pathExists (t : FileTree) (path : String) : Bool :=
  match t.place path with
  | .ok here => t.isDir here || (t.file? here).isSome
  | .error _ => false

/-- A directory stands at the path. -/
def dirExists (t : FileTree) (path : String) : Bool :=
  match t.place path with
  | .ok here => t.isDir here
  | .error _ => false

/-- A file stands at the path. -/
def fileExists (t : FileTree) (path : String) : Bool :=
  match t.place path with
  | .ok here => (t.file? here).isSome
  | .error _ => false

/-- The content of the file at the path. -/
def read (t : FileTree) (path : String) : Outcome String := do
  let here ← t.place path
  if t.isDir here then throw .directoryThere
  match t.file? here with
  | some content => return content
  | none => throw (.noSuchFile none)

/-- Sets the content of a place, keeping the order in which files were made. -/
def setFile : List (Names × String) → Names → String → List (Names × String)
  | [], here, content => [(here, content)]
  | (p, c) :: rest, here, content =>
    if p = here then (p, content) :: rest else (p, c) :: setFile rest here content

/-- Writes a file; its directory must be there. -/
def write (t : FileTree) (path content : String) : Outcome FileTree := do
  let here ← t.place path
  if t.isDir here || Text.endsWith path "/" then throw .directoryThere
  let dir := here.dropLast
  if t.isDir dir then return { t with files := setFile t.files here content }
  else if (t.file? dir).isSome then throw .notDirectory
  else throw (.noSuchFile none)

/-- Adds one directory; its parent must be there and its place free. -/
def makeDir (t : FileTree) (path : String) : Outcome FileTree := do
  let here ← t.place path
  if t.isDir here || (t.file? here).isSome then throw .alreadyThere
  let dir := here.dropLast
  if t.isDir dir then return { t with dirs := t.dirs ++ [here] }
  else if (t.file? dir).isSome then throw .notDirectory
  else throw (.noSuchFile none)

/-- Adds the directories of a path that are missing, each under the one before. `done` holds the parts
that have been passed. -/
def makeMissing (t : FileTree) (done : List String) : List String → Outcome FileTree
  | [] => .ok t
  | part :: rest => do
    let path := "/" ++ Text.join "/" (done ++ [part])
    let t' ← if t.pathExists path then pure t else t.makeDir path
    makeMissing t' (done ++ [part]) rest

/-- Adds a directory with the directories above it; it may be there already. -/
def makeDirs (t : FileTree) (path : String) : Outcome FileTree := do
  if path.isEmpty then throw (.noSuchFile none)
  let t' ← t.makeMissing [] (parts path)
  if t'.dirExists path then return t' else throw .alreadyThere

/-- A place lies in a directory or below it. -/
def below (dir place : Names) : Bool :=
  dir.isPrefixOf place

/-- Removes a directory with all that is in it. -/
def removeDir (t : FileTree) (path : String) : Outcome FileTree := do
  let here ← t.place path
  if (t.file? here).isSome then throw .notDirectory
  if !t.isDir here then throw (.noSuchFile none)
  return { dirs := t.dirs.filter (!below here ·), files := t.files.filter (!below here ·.1) }

/-- Names that stand directly in a directory, sorted. -/
def list (t : FileTree) (path : String) : Outcome (List String) := do
  let here ← t.place path
  if (t.file? here).isSome then throw .notDirectory
  if !t.isDir here then throw (.noSuchFile none)
  let names := (t.dirs ++ t.files.map Prod.fst).filterMap fun p =>
    if below here p && p.length == here.length + 1 then p.getLast? else none
  return names.mergeSort Text.precedes

/-- The files below a directory, by their paths from it. -/
def filesBelow (t : FileTree) (path : String) : List (String × String) :=
  let here := parts path
  t.files.filterMap fun (p, content) =>
    if below here p then some (Text.join "/" (p.drop here.length), content) else none

/-- Files that are not in an earlier tree, or have another content there. -/
def changedSince (t old : FileTree) : FileTree :=
  { t with files := t.files.filter fun (p, content) => old.file? p != some content }

end FileTree
end Remedy
