import Remedy.Config.Basic
import Remedy.Detection.LineMatch
import Remedy.Service.Basic
import Remedy.Store.Backend

/-!
# Assembling the service

The service is put together from a configuration: the model first, then the database, the way in
which solved incidents are detected and solutions are made, and last the way in which they are shown.
-/

namespace Remedy

/-- What the service needs besides its configuration. -/
structure Surroundings where
  environment : Model.Environment := []
  guesser : Guesser
  templates : Prompt.Search
  /-- What the text of a report is read as. -/
  reader : String → Option Json := Json.parse?
  runtime : Runtime := {}
  /-- The talk with a model. -/
  talk : Model → Dialogue := Model.dialogue
  /-- What a server of the client does with an answer to itself (`handle_result`). -/
  handleResult : Json → Json → Json → Action Service Unit := fun _ _ _ => return

/-- A service that was put together (`KaiApplication`). -/
structure Assembly where
  config : Config
  setup : ServiceSetup
  backend : Backend
  detector : DetectorKind
  producer : ProducerKind

namespace Assembly

/-- Puts the service together. -/
def ofConfig (around : Surroundings) (c : Config) : Outcome Assembly := do
  let model ← Model.ofConfig around.environment c.models
  let backend := Backend.ofArgs c.store.args
  return {
    config := c
    backend
    detector := c.store.detector
    producer := c.store.producer
    setup := {
      model
      guesser := around.guesser
      templates := around.templates
      consumer := ConsumerChoice.ofKinds c.consumers
      finder := Finder.ofStore c.store.producer
        { guesser := around.guesser, llamaHeader := model.llamaHeader }
      logDir := c.logDir
      traceEnabled := c.traceEnabled
      demoMode := c.demoMode
      runtime := around.runtime } }

end Assembly
end Remedy
