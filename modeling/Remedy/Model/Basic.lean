import Remedy.Config.Basic
import Remedy.Json.Merge
import Remedy.Model.Dialogue
import Remedy.Number.Decimal
import Remedy.Text.Search
import Remedy.Truth

/-!
# Models

How a model is set up from its configuration. Each provider has defaults, over which the configured
arguments are laid, and its own name for the argument that identifies the model.
-/

namespace Remedy

/-- A model as it is set up. The identifier is taken from the arguments as it stands there. -/
structure Model where
  /-- The interface through which the model is reached. -/
  interface : String
  args : Fields
  provider : String
  id : Json
  template : Json
  llamaHeader : Bool
  retries : Int
  retryDelay : Binary64
deriving DecidableEq

namespace Model

/-- As a value. -/
def encode (m : Model) : Json :=
  .obj
    [("class", .str m.interface), ("args", .obj m.args), ("provider_id", .str m.provider),
     ("model_id", m.id), ("template", m.template), ("llama_header", .bool m.llamaHeader),
     ("retries", .int m.retries), ("delay", .real m.retryDelay)]

/-- The environment that a model is set up in. -/
abbrev Environment := List (String × String)

/-- A decimal number `digits * 10 ^ exponent` as a double. -/
def decimal (digits : Nat) (exponent : Int) : Json :=
  .real (Decimal.Scaled.toBinary64 false ⟨digits, exponent⟩)

/-- The variable that asks for recorded answers. -/
def demoVariable : String := "KAI__DEMO_MODE"

/-- The credentials of the client for hosted models: given ones in demo mode, otherwise those that the
client finds in the environment itself. -/
def hostedClient (env : Environment) : Outcome Json := do
  if (← Truth.ofSetting (env.lookup demoVariable) (some false)) == some true then
    return .obj [("client", .obj
      [("api_key", .str ((env.lookup "GENAI_KEY").getD "dummy_value")),
       ("api_endpoint", .str ((env.lookup "GENAI_API").getD ""))])]
  else return .obj [("client", .str "from_env")]

/-- The parameters of hosted models. -/
def hostedParameters : Json :=
  .obj
    [("decoding_method", .str "sample"), ("max_new_tokens", .int 4096), ("min_new_tokens", .int 10),
     ("temperature", decimal 5 (-2)), ("top_k", .int 20), ("top_p", decimal 9 (-1)),
     ("return_options", .obj [("input_text", .bool false), ("input_tokens", .bool true)])]

/-- What is flagged in the input and output of hosted models. -/
def hostedModerations : Json :=
  .obj [("hap", .obj
    [("input", .bool true), ("output", .bool false), ("threshold", decimal 1 (-2))])]

/-- The reply of a replaying model that was given none. -/
def standardReply : String :=
  Text.join "\n"
    ["## Reasoning", "", "Default reasoning.", "", "## Updated File", "", "```",
     "Default updated file.", "```", "", "## Additional Information", "",
     "Default additional information.", "", ""]

/-- The provider that replays replies. -/
def replayProvider : String := "FakeListChatModel"

/-- The identifier of the model that replays replies. -/
def replayId : String := "fake-list-chat-model"

/-- What a provider sets up: the interface, the arguments and the identifier. -/
structure Setup where
  interface : String
  args : Fields
  id : Json

/-- The setup with arguments laid over defaults, and the identifier under the given name. -/
def setup (interface : String) (defaults args : Fields) (idName : String) : Setup :=
  let merged := Fields.merge defaults args
  { interface, args := merged, id := (Fields.get? merged idName).getD .null }

/-- The setup of a provider. -/
def setupOf (env : Environment) (provider : String) (args : Fields) : Outcome Setup :=
  match provider with
  | "ChatOllama" =>
    .ok (setup "ChatOllama"
      [("model", .str "mistral"), ("temperature", decimal 1 (-1)), ("max_tokens", .null),
       ("streaming", .bool true)] args "model")
  | "ChatOpenAI" =>
    .ok (setup "ChatOpenAI"
      [("model", .str "gpt-3.5-turbo"), ("temperature", decimal 1 (-1)), ("streaming", .bool true)]
      args "model")
  | "ChatIBMGenAI" => do
    let client ← hostedClient env
    let withClient := if args.has "client" then args else args.set "client" client
    return setup "LangChainChatInterface"
      [("model_id", .str "ibm-mistralai/mixtral-8x7b-instruct-v01-q"),
       ("parameters", hostedParameters), ("moderations", hostedModerations),
       ("streaming", .bool true)] withClient "model_id"
  | "ChatBedrock" =>
    .ok (setup "ChatBedrock" [("model_id", .str "meta.llama3-70b-instruct-v1:0")] args "model_id")
  | "FakeListChatModel" =>
    .ok { setup "FakeListChatModel"
            [("responses", Json.texts [standardReply]), ("sleep", .null)] args "" with
          id := .str replayId }
  | "ChatGoogleGenerativeAI" =>
    .ok (setup "ChatGoogleGenerativeAI"
      [("model", .str "gemini-pro"), ("temperature", decimal 7 (-1)), ("streaming", .bool false),
       ("google_api_key", .str ((env.lookup "GOOGLE_API_KEY").getD "dummy_value"))] args "model")
  | _ => .error (.told ("Unrecognized provider '" ++ provider ++ "'"))

/-- Models that expect marks around their prompts. -/
def marked : List String :=
  ["mistralai/mistral-7b-instruct-v0-2", "mistralai/mixtral-8x7b-instruct-v01",
   "codellama/codellama-34b-instruct", "codellama/codellama-70b-instruct",
   "deepseek-ai/deepseek-coder-33b-instruct", "tiiuae/falcon-180b", "tiiuae/falcon-40b",
   "ibm/falcon-40b-8lang-instruct", "meta-llama/llama-2-70b-chat", "meta-llama/llama-2-13b-chat",
   "meta-llama/llama-2-7b", "meta-llama/llama-3-70b-instruct", "meta-llama/llama-3-8b-instruct"]

/-- Sets up the model of a configuration (`ModelProvider`). -/
def ofConfig (env : Environment) (c : ModelConfig) : Outcome Model := do
  let s ← setupOf env c.provider c.args
  return {
    interface := s.interface
    args := s.args
    provider := c.provider
    id := s.id
    template := match c.template with | some t => .str t | none => s.id
    llamaHeader := c.llamaHeader.getD (marked.any fun m => s.id = .str m)
    retries := c.retries
    retryDelay := c.retryDelay }

/-- The values that a replaying model gives as its `responses`. -/
def responses (m : Model) : List Json :=
  ((m.args.get? "responses").bind Json.items?).getD []

/-- The dialogue with a model whose replies are read from its responses: only a replaying model is
ever asked. -/
def replayed (read : Json → Reply) (m : Model) : Dialogue :=
  if m.provider == replayProvider then Dialogue.replaying (m.responses.map read)
  else Dialogue.silent

/-- The dialogue with a model, which replies with texts. -/
def dialogue (m : Model) : Dialogue :=
  m.replayed fun v => .text (v.text?.getD "")

/-- What templates are told of a model. -/
def forTemplates (m : Model) : Json :=
  .obj [("llama_header", .bool m.llamaHeader)]

end Model
end Remedy
