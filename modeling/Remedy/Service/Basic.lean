import Remedy.Batch
import Remedy.Host.Basic
import Remedy.Json.Display
import Remedy.Language
import Remedy.Model.Basic
import Remedy.Playback
import Remedy.Prompt.Library
import Remedy.Solution.Consumer
import Remedy.Store.Find
import Remedy.Trace

/-!
# The service

The service works on a host with a store of incidents and a model. It finds how incidents like the
given ones were solved before, and asks the model to solve the given ones.
-/

namespace Remedy

/-- What the service works on. -/
structure Service where
  host : Host := {}
  session : Store.Session := {}
  /-- What was looked up, in order. -/
  queries : List Store.Query := []
  /-- The data files, with the tapes among them. -/
  tapes : FileTree := {}

/-- How solved examples are found. -/
structure Finder where
  find : Store.Query → Action Service (List Solution)
  /-- The variables of an incident after it was looked up. -/
  kept : Fields → Fields

/-- What the service finds in the libraries that it is built on. -/
structure Runtime where
  /-- An answer of the model as a trace shows it (`pretty_repr`). -/
  shown : String → String := id
  /-- The text that tells where a failure arose (`format_exc`). -/
  origin : Failure → String := Failure.text
  /-- The order of the identities of incidents. -/
  order : Batch.Order := .given
  deck : Deck := {}

/-- What the service is set up with. -/
structure ServiceSetup where
  model : Model
  guesser : Guesser
  templates : Prompt.Search
  consumer : ConsumerChoice
  finder : Finder
  logDir : String
  traceEnabled : Bool := false
  demoMode : Bool := false
  runtime : Runtime := {}

namespace Service

/-- An action on the host. -/
def onHost {α : Type} (a : Action Host α) : Action Service α :=
  Action.onPart Service.host (fun s host => { s with host }) a

/-- An action on the store and the model. -/
def onSession {α : Type} (a : Action Store.Session α) : Action Service α :=
  Action.onPart Service.session (fun s session => { s with session }) a

/-- An action on the data files. -/
def onTapes {α : Type} (a : Action FileTree α) : Action Service α :=
  Action.onPart Service.tapes (fun s tapes => { s with tapes }) a

/-- The tape of a file of an application. -/
def tapeOf (setup : ServiceSetup) (application file : String) : Playback :=
  .ofFile setup.runtime.deck.data setup.demoMode setup.model.id.display application
    (Text.replace file "/" "-")

/-- Does something with a tape in the deck (`playback_if_demo_mode`) and tells whether the tape
could be saved afterwards. It is not saved if what is done fails. -/
def playing {α : Type} (deck : Deck) (tape : Playback) (a : Action Service α) :
    Action Service (α × Outcome Unit) := do
  onTapes (deck.load tape)
  let x ← a
  return (x, ← (onTapes (deck.save tape)).attempt)

/-- Asks the model. -/
def ask (prompt : String) : Action Service String :=
  onSession (Action.onPart Store.Session.dialogue (fun s d => { s with dialogue := d })
    (Dialogue.ask prompt))

/-- Looks an incident up. -/
def lookUp (finder : Finder) (q : Store.Query) : Action Service (List Solution) := do
  modify fun s => { s with queries := s.queries ++ [q] }
  finder.find q

/-- The prompt of the template that is configured for a model, with the given values. The name of a
template must be a text. -/
def promptFrom (templates : Prompt.Search) (model : Model) (values : Fields) : Outcome String := do
  let some name := model.template.text? | throw .missingMember
  Template.render {} (← Prompt.find templates name true true) values

/-- The prompt of the service with the given values (`get_prompt`). -/
def prompt (setup : ServiceSetup) (values : Fields) : Outcome String :=
  promptFrom setup.templates setup.model values

end Service

namespace Finder

/-- Solved examples from the store. Looking an incident up drops the variables that say where it
is. -/
def ofStore (kind : ProducerKind) (style : Producer.SummaryStyle) : Finder where
  find q := Service.onSession (Store.find kind style q)
  kept := Location.withoutPlace

end Finder
end Remedy
