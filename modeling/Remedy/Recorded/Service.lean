import Remedy.Prompt.Installed
import Remedy.Recorded.Surroundings
import Remedy.Service.Assembly
import Remedy.Service.File
import Remedy.Store.Backend
import Remedy.Store.Load
import Remedy.Web.Socket

/-!
# A recorded service

What the store and the service are set up with, read from a value: what is known about sources, how
reports are loaded, which solved examples are found, and which model is asked.
-/

namespace Remedy

/-- The libraries of a recorded run: an answer is shown with who gave it. -/
def Runtime.recorded (data : String) : Runtime where
  shown answer := "[ai] " ++ answer
  deck := { data }

/-- A recorded reply of a model: a text, or a failure with its text under `raise`. -/
def Reply.recorded : Json → Reply
  | .str s => .text s
  | v =>
    match v.get? "raise" with
    | some (.str s) => .failure s
    | _ => .text ""

/-- The dialogue with a model whose recorded replies may be failures. -/
def Model.recorded (m : Model) : Dialogue :=
  m.replayed Reply.recorded

/-- Recorded surroundings of the service of an installation. -/
def Surroundings.ofJson (i : Installation) (benchmarks : Bool) (cwd : String) (v : Json) :
    Surroundings where
  environment := v.tableAt "env"
  guesser := Guesser.ofJson v
  templates := i.search benchmarks cwd
  runtime := .recorded i.data
  talk := Model.recorded

/-- Recorded knowledge about sources: the trees of texts, and the names of the parts that are kept. -/
def Detection.SourceKnowledge.ofJson (v : Json) : SourceKnowledge :=
  let trees := (v.itemsAt "trees").filterMap fun t =>
    match t with
    | .arr [.str text, tree] => some (text, SyntaxTree.ofJson tree)
    | _ => Option.none
  { parse := fun t => (trees.lookup t).elim (.error (.missingKey (some t))) .ok
    keeps := fun _ _ best => (v.textsAt "mapped").contains best.name }

/-- A recorded database. -/
def Backend.ofJson (v : Json) : Outcome Backend := do
  return ofArgs {
    provider := ← providerOf (v.valueAt "provider")
    host := v.textAt? "host"
    database := v.textAt? "database"
    user := v.textAt? "user"
    password := v.textAt? "password"
    connectionString := v.textAt? "connection_string" }

/-- A record of logging with recorded parts in place of the given ones. -/
def Logging.Record.withJson (r : Record) (v : Json) : Record :=
  { r with
    file := v.textOr "file" r.file
    line := v.intOr "line" r.line
    function := v.textOr "func" r.function
    message := v.textOr "message" r.message }

/-- How a recorded template is laid out. -/
def TemplateLayout.ofJson (v : Json) : TemplateLayout where
  escapes := v.flagOr "autoescape" true
  trimsAfterTags := v.flagOr "trim_blocks" true
  stripsBeforeTags := v.flagOr "lstrip_blocks" true

/-- A recorded message on a socket; the reason of an error is given. -/
def Web.SocketMessage.ofJson (reason : String) (v : Json) : SocketMessage :=
  match v.textAt "type" with
  | "TEXT" => .text (v.textAt "data")
  | "ERROR" => .error reason
  | _ => .other

/-- A recorded request to solve a file, with the way in which its incidents are grouped. -/
def FileRequest.ofJson (v : Json) : Outcome FileRequest := do
  let mode ← (v.textAt? "batch_mode").elim (.ok .singleGroup) BatchMode.ofWord
  return { ← decode (.obj ((v.fields?.getD []).erase "batch_mode")) with mode }

/-- What stands for a database in recordings: it takes rows that lack columns. -/
def Store.recorded : Store where
  checked := false

/-- How reports are loaded. -/
def Store.LoadSetup.ofJson (v repo : Json) : Outcome LoadSetup := do
  return {
    detector := ← ((v.get? "detector").elim (.ok .naive) Detection.ofName)
    producer := ← ((v.get? "producer").elim (.ok .textOnly) Producer.ofName)
    repository := fun _ => Repository.ofJson repo
    source := Detection.SourceKnowledge.none }

/-- Solved examples from a table, by ruleset and violation. -/
def Finder.ofTable (table : Fields) : Outcome Finder := do
  let entries ← table.mapM fun (k, v) => do
    return (k, ← (v.items?.getD []).mapM Solution.decode)
  return {
    find := fun q => return ((entries.lookup (q.ruleset ++ "/" ++ q.violation)).getD [])
    kept := id }

/-- The word that stands for the directory of templates. -/
def templatesMark : String := "\x7bTEMPLATES\x7d"

/-- The name of a template of an installation. -/
def Installation.templateName (i : Installation) (s : String) : String :=
  Text.replace s templatesMark i.templates

/-- Reads how a model is configured. -/
def ModelConfig.ofJson (i : Installation) (v : Json) : Outcome ModelConfig := do
  let c ← ModelConfig.decode v
  return { c with template := c.template.map i.templateName }

/-- A recorded model. -/
def Model.ofJson (i : Installation) (v : Json) : Outcome Model := do
  Model.ofConfig (v.tableAt "env") (← ModelConfig.ofJson i (v.valueAt "models"))

/-- A recorded model, if there is one. -/
def Model.ofJson? (i : Installation) (v : Json) : Outcome (Option Model) :=
  if (v.get? "models").isSome then (Model.ofJson i v).map some else .ok none

/-- The talk with a model that may be missing. -/
def Dialogue.of (m : Option Model) : Dialogue := (m.map Model.recorded).getD silent

/-- How the service is set up. A template may be given by its text. -/
def ServiceSetup.ofJson (i : Installation) (logDir : String) (v : Json) : Outcome ServiceSetup := do
  let c ← if (v.get? "models").isSome then ModelConfig.ofJson i (v.valueAt "models")
    else .ok { provider := Model.replayProvider }
  let s := i.search false "/"
  let (c, s) := match v.textAt? "template_text" with
    | some t => ({ c with template := some "/given/text.jinja" },
        { s with everywhere := ⟨"/given", [("text.jinja", Template.ofText t)]⟩ :: s.everywhere })
    | none => (c, s)
  return {
    model := ← Model.ofConfig (v.tableAt "env") c
    guesser := Guesser.ofJson v
    templates := s
    consumer := (v.get? "consumers").elim (.one .diffOnly) ConsumerChoice.decode
    finder := ← Finder.ofTable (v.fieldsAt "solutions")
    logDir
    traceEnabled := v.flagOr "trace" false
    runtime := .recorded i.data }

end Remedy
