import Remedy.Detection.SyntaxTree
import Remedy.Host.Basic
import Remedy.Json.Access
import Remedy.Json.Writer
import Remedy.Language
import Remedy.Repository

/-!
# Recorded surroundings

What a run depends on, read from a value: the answers of a repository, what a guesser knows, the files
and the clock of a host. A run in recorded surroundings can be repeated.
-/

namespace Remedy

/-- A repository that gives recorded answers. -/
def Repository.ofJson (v : Json) : Repository where
  directory := v.textOr "dir" "/work"
  content? := fun what => (v.tableAt "show").lookup what
  difference := fun _ _ path =>
    if v.flagOr "diff_fails" false then .error .git
    else .ok (((v.tableAt "diff").lookup path).getD "")
  head? := fun branch => (v.tableAt "branches").lookup branch
  origin := v.textAt "origin"

/-- A question to a repository as a value; a commit that is not known is not mentioned. -/
def GitCall.encode : GitCall → Json
  | .content what => Json.texts ["show", what]
  | .difference old new path => Json.texts (["diff"] ++ old.toList ++ new.toList ++ [path])

namespace Guesser

/-- A guesser that knows ends of file names, and parts of texts, with the language each points to.
They are tried in order. -/
def ofTables (byName byText : List (String × String)) : Guesser where
  ofFile? name _ := (byName.find? fun (ending, _) => Text.endsWith name ending).map Prod.snd
  ofText? code := (byText.find? fun (part, _) => Text.contains code part).map Prod.snd

/-- The ends of the names of files that migrations meet. -/
def commonNames : List (String × String) :=
  [(".java", "java"), (".py", "python"), (".xml", "xml"), (".properties", "properties")]

/-- Parts of texts that migrations meet. -/
def commonTexts : List (String × String) :=
  [("public class", "java"), ("import ", "java"), ("def ", "python"), ("<?xml", "xml")]

/-- Languages of files that migrations meet. -/
def common : Guesser := ofTables commonNames commonTexts

/-- A guesser with recorded knowledge in place of the common one. -/
def ofJson (v : Json) : Guesser :=
  ofTables (((v.get? "lex_files").bind Json.items?).elim commonNames Json.textPairs)
    (((v.get? "lex_texts").bind Json.items?).elim commonTexts Json.textPairs)

end Guesser

mutual

/-- A syntax tree written as the name, the first and the last place and the children. -/
def SyntaxTree.ofJson : Json → SyntaxTree
  | .arr items => SyntaxTree.ofItems items
  | _ => .node "" 0 0 []

/-- The tree of the items of a list. -/
def SyntaxTree.ofItems : List Json → SyntaxTree
  | [.str name, .int first, .int last, .arr children] =>
    .node name first last (SyntaxTree.ofChildren children)
  | _ => .node "" 0 0 []

/-- The trees of a list. -/
def SyntaxTree.ofChildren : List Json → List SyntaxTree
  | [] => []
  | c :: cs => SyntaxTree.ofJson c :: SyntaxTree.ofChildren cs

end

namespace FileTree

/-- The content of a recorded file: a text, or data that is written as JSON. -/
def recordedText : Json → String
  | .str s => s
  | v => Json.render Json.spacedText v

/-- Puts a recorded file below a directory; a path that ends in a slash is a directory. -/
def plantOne (dir : String) (t : FileTree) (entry : String × Json) : FileTree :=
  let full := Path.join dir entry.1
  if Text.endsWith entry.1 "/" then (t.makeDirs full).toOption.getD t
  else
    let t := (t.makeDirs (Path.parent full)).toOption.getD t
    (t.write full (recordedText entry.2)).toOption.getD t

/-- Puts recorded files below a directory. -/
def plant (dir : String) (t : FileTree) (files : Fields) : FileTree :=
  files.foldl (plantOne dir) t

/-- The files below a directory as an object. -/
def encodeBelow (t : FileTree) (dir : String) : Fields :=
  (t.filesBelow dir).map fun (p, c) => (p, .str c)

end FileTree

/-- A host in a directory: with recorded files and environment, a working directory in it, and the
settings of an installation in it. -/
def Host.recorded (dir logDir : String) (files : Fields) (v : Json) : Host :=
  let work := Path.join dir "work"
  let tree := FileTree.plant dir {} files
  { files := (tree.makeDirs work).toOption.getD tree
    workingDirectory := work
    environment := v.tableAt "env"
    clock := (v.itemsAt "times").filterMap Json.number?
    settingsFile := Path.join dir "kai/config.toml"
    standardLogDir := logDir }

end Remedy
