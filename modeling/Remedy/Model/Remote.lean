import Remedy.Host.Basic
import Remedy.Json.Decode
import Remedy.Number.Decimal

/-!
# Remote text generation

A model that runs on an inference server. The server is reached by a web address or by a host and a
port, then perhaps with a certificate. Text is generated at once, or token by token with someone to
watch.
-/

namespace Remedy

/-- How an inference server is reached. -/
inductive Endpoint where
  | web (url : String)
  | channel (host port : String) (certificate : Option String)
deriving DecidableEq, Repr

/-- A model on an inference server (`CaikitLLM`). -/
structure RemoteModel where
  url : String
  modelId : String
  streaming : Bool := false
  endpoint : Endpoint
deriving DecidableEq, Repr

/-- A request to generate text. -/
structure Generation where
  prompt : Json
  keepsPrompt : Json := .bool false
  most : Json := .int 512
  least : Json := .int 10
  device : Json := .str ""
  stop : Json := .null
  /-- Someone watches the tokens. -/
  watched : Bool := false
deriving DecidableEq

/-- A call of the inference server. -/
structure GenerationCall where
  /-- Tokens are given one by one. -/
  stepwise : Bool
  modelId : String
  request : Generation
deriving DecidableEq

/-- The talk with an inference server: the calls, the tokens that were watched and the warnings. -/
structure RemoteTalk where
  calls : List GenerationCall := []
  watched : List String := []
  warnings : List String := []

namespace Endpoint

/-- How the server of an address is reached. -/
def ofUrl (url : String) (certificate : Option String) : Outcome Endpoint :=
  if Text.startsWith url "http" then .ok (.web url)
  else
    let refused := .error (.badValue
      "Invalid url provided, must be either \"host:port\" or \"http[s]://host:port/path\"")
    match Text.split url ":" with
    | [host, port] =>
      if host.isEmpty || port.isEmpty then refused else .ok (.channel host port certificate)
    | _ => refused

end Endpoint

namespace RemoteModel

/-- The word for this kind of model. -/
def kindWord : String := "caikit_tgis"

/-- What a model is set up from. -/
def parts : List String :=
  ["inference_server_url", "model_id", "certificate_chain", "streaming", "client"]

/-- Sets a model up. A certificate is read from its file before the address is looked at. -/
def ofFields (fields : Fields) : Action Host RemoteModel := do
  if fields.any (fun (k, _) => !parts.contains k) then throw .wrongKind
  if !(fields.has "inference_server_url" && fields.has "model_id") then throw .wrongKind
  let url ← Action.ofOutcome (Decode.required fields ["inference_server_url"] Decode.text)
  let modelId ← Action.ofOutcome (Decode.required fields ["model_id"] Decode.text)
  let path ← Action.ofOutcome
    (Decode.withDefault fields ["certificate_chain"] (Decode.nullable Decode.text) none)
  let streaming ← Action.ofOutcome (Decode.withDefault fields ["streaming"] Decode.bool false)
  let certificate ← match path.filter fun p => !p.isEmpty with
    | some p => some <$> Host.read p
    | none => pure none
  let endpoint ← Action.ofOutcome (Endpoint.ofUrl url certificate)
  return { url, modelId, streaming, endpoint }

/-- What tells a model apart from others (`_identifying_params`). -/
def identity (m : RemoteModel) : Json :=
  .obj [("inference_server_url", .str m.url)]

end RemoteModel

namespace Generation

/-- Reads a request; parts that are not known are passed over. -/
def ofFields (fields : Fields) : Outcome Generation := do
  let some prompt := fields.get? "prompt" | throw .wrongKind
  let standard : Generation := { prompt }
  let part := fun name default => (fields.get? name).getD default
  return {
    prompt
    keepsPrompt := part "preserve_input_text" standard.keepsPrompt
    most := part "max_new_tokens" standard.most
    least := part "min_new_tokens" standard.least
    device := part "device" standard.device
    stop := part "stop" standard.stop
    watched := (part "manager" .null).isSet }

/-- A choice of device and texts that stop the generation are not offered. -/
def check (r : Generation) : Outcome Unit :=
  if r.device.isSet || r.stop.isSet then .error .notOffered else .ok ()

end Generation

/-- As a value. -/
def GenerationCall.encode (c : GenerationCall) : Json :=
  .arr [.str (if c.stepwise then "generate_text_stream" else "generate_text"), .str c.modelId,
    c.request.prompt,
    .obj [("preserve_input_text", c.request.keepsPrompt), ("max_new_tokens", c.request.most),
      ("min_new_tokens", c.request.least)]]

namespace RemoteModel

/-- Calls the server, which gives tokens. -/
def callServer (m : RemoteModel) (stepwise : Bool) (r : Generation) : Action RemoteTalk Unit :=
  modify fun s => { s with calls := s.calls ++ [⟨stepwise, m.modelId, r⟩] }

/-- Generates text token by token (`_stream`). -/
def stream (m : RemoteModel) (server : Generation → List String) (r : Generation) :
    Action RemoteTalk (List String) := do
  Action.ofOutcome r.check
  m.callServer true r
  let tokens := server r
  if r.watched then modify fun s => { s with watched := s.watched ++ tokens }
  return tokens

/-- The warning that nothing can be watched. -/
def watchWarning : String := "run_manager is ignored for non-streaming use cases"

/-- Generates text (`_call`). -/
def generate (m : RemoteModel) (server : Generation → List String) (r : Generation) :
    Action RemoteTalk String := do
  if m.streaming then return String.join (← m.stream server r)
  if r.watched then modify fun s => { s with warnings := s.warnings ++ [watchWarning] }
  Action.ofOutcome r.check
  m.callServer false r
  return String.join (server r)

end RemoteModel
end Remedy
