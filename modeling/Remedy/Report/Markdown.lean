import Remedy.Report.Basic
import Remedy.Text.Blank
import Remedy.Number.Decimal
import Remedy.Files.Tree

/-!
# Reports for readers

Each rule set of a report as a page of its own: a description, and then the violations with their
links and incidents.
-/

namespace Remedy.Markdown

/-- A line of text if a condition holds. -/
def lineIf (condition : Bool) (text : String) : String :=
  if condition then text ++ "\n" else ""

/-- One incident. An unknown line and line zero are not told apart from each other. -/
def incident (i : Incident) : String :=
  let message := Text.strip i.message
  lineIf (!i.uri.isEmpty) ("  * " ++ i.uri) ++
    lineIf (i.line != 0) ("      * Line Number: " ++ Decimal.int i.line) ++
    lineIf (!message.isEmpty) ("      * Message: '" ++ message ++ "'") ++
    lineIf (!i.snippet.isEmpty)
      ("      * Code Snippet:\n```java\n" ++ i.snippet ++ "\n```")

/-- One link. -/
def link (l : Link) : String :=
  "  * " ++ l.title ++ ": " ++ l.url ++ "\n"

/-- One violation, numbered from zero (`get_violation_snippet`). -/
def violation (number : Nat) (name : String) (v : Violation) : String :=
  "### #" ++ Decimal.natural number ++ " - " ++ name ++ "\n" ++
    "* Category: " ++ v.category.word ++ "\n" ++
    (match v.effort with
      | some effort => "* Effort: " ++ Decimal.int effort ++ "\n"
      | none => "") ++
    "* Description: " ++ v.description ++ "\n" ++
    lineIf (!v.labels.isEmpty) ("* Labels: " ++ Text.join ", " v.labels) ++
    lineIf (!v.links.isEmpty) "* Links" ++ String.join (v.links.map link) ++
    lineIf (!v.incidents.isEmpty) "* Incidents" ++ String.join (v.incidents.map incident)

/-- The page of a rule set (`_write_markdown_snippet`). -/
def page (name : String) (r : RuleSet) : String :=
  "# " ++ name ++ "\n## Description\n" ++ r.description ++ "\n" ++
    "* Source of rules: https://github.com/konveyor/rulesets/tree/main/default/generated\n" ++
    "## Violations\nNumber of Violations: " ++ Decimal.natural r.violations.length ++ "\n" ++
    String.join (r.violations.zipIdx.map fun ((key, v), number) => violation number key v)

/-- The file name of a rule set's page: slashes are not possible in it. -/
def fileName (ruleset : String) : String :=
  Text.replace ruleset "/" "_" ++ ".md"

/-- Writes pages one after the other, as long as that is possible. Gives the tree as it then is, and
the failure that stopped it. -/
def writePages (files : FileTree) (dir : String) : List RuleSet → FileTree × Outcome Unit
  | [] => (files, .ok ())
  | r :: rest =>
    match r.name with
    | none => (files, .error .missingMember)
    | some name =>
      match files.write (dir ++ "/" ++ fileName name) (page name r) with
      | .ok files' => writePages files' dir rest
      | .error e => (files, .error e)

/-- Writes the pages of a report into a directory, which is made if it is missing
(`write_markdown`). -/
def write (files : FileTree) (dir : String) (report : Report) : FileTree × Outcome Unit :=
  match files.makeDirs dir with
  | .ok files' => writePages files' dir report.rulesets
  | .error e => (files, .error e)

end Remedy.Markdown
