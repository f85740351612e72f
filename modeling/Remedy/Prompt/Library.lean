import Remedy.Prompt.Texts
import Remedy.Path

/-!
# Finding templates

Templates are found by name in a directory of templates, or by a path to a file. A name that is found
in neither way stands for the main template, if falling back is allowed.
-/

namespace Remedy.Prompt

/-- A directory of templates: the directory and the templates in it by their paths from there. -/
structure Library where
  directory : String
  templates : List (String × Template)

/-- The end of the names of templates. -/
def extension : String := ".jinja"

/-- The name of the main template. -/
def mainName : String := "main" ++ extension

/-- The templates of the prompts, in the given directory. -/
def standard (directory : String) : Library where
  directory
  templates :=
    [(mainName, migration),
     ("solution_handling/before_and_after" ++ extension, beforeAndAfter),
     ("solution_handling/diff_only" ++ extension, diffOnly),
     ("solution_handling/generation" ++ extension, summary),
     ("solution_handling/llm_summary" ++ extension, summaryOnly),
     ("template_02.txt", [.text listingText])]

/-- The templates of the benchmarks, in the given directory. -/
def benchmarks (directory : String) : Library where
  directory
  templates := [(mainName, benchmark)]

namespace Library

/-- The template of a name. A name may not lead out of the directory. -/
def named? (library : Library) (name : String) : Option Template :=
  let parts := (Text.split name "/").filter fun p => !p.isEmpty && p != "."
  if parts.contains ".." then none else library.templates.lookup (Text.join "/" parts)

/-- The template whose file has the given path from the root. -/
def atPath? (library : Library) (path : String) : Option Template :=
  library.templates.findSome? fun (name, template) =>
    if Path.join library.directory name == path then some template else none

end Library

/-- Where templates are looked for: the directory in use, every directory that a path may lead to, and
the directory from which relative paths are seen. -/
structure Search where
  library : Library
  everywhere : List Library
  workingDirectory : String

/-- The template at a path to a file: a file name in the directory that the path leads to. -/
def atPath (search : Search) (name : String) : Outcome Template :=
  let directory := Path.absolute search.workingDirectory (Path.join name "..")
  let file := Path.baseName name
  match search.everywhere.findSome? (·.atPath? (Path.join directory file)) with
  | some template =>
    if file.isEmpty || file == ".." then .error (.templateMissing file) else .ok template
  | none => .error (.templateMissing file)

/-- The template of a name: in the directory in use, else as a path, else the main template. -/
def find (search : Search) (name : String) (fallback addExtension : Bool) : Outcome Template := do
  let name := if addExtension && !Text.endsWith name extension then name ++ extension else name
  match search.library.named? name with
  | some template => return template
  | none =>
    match atPath search name with
    | .ok template => return template
    | .error e =>
      if fallback then
        match search.library.named? mainName with
        | some template => return template
        | none => throw (.templateMissing mainName)
      else throw e

end Remedy.Prompt
