import Remedy.Config.Kinds

/-!
# Configurations

What a run of the service or the client is set up with. A configuration is read from an object; parts
that it does not give have defaults, and parts that are unknown are refused at the top and ignored
below it.
-/

namespace Remedy

open Decode

/-- How a database is reached: by one address, or by all four of host, database, user and password. -/
structure StoreArgs where
  provider : StoreProvider
  host : Option String := none
  database : Option String := none
  user : Option String := none
  password : Option String := none
  connectionString : Option String := none
  solutionDetection : DetectorKind := .naive
deriving DecidableEq

/-- Where incidents are stored, and how solutions are found and made (`KaiConfigIncidentStore`). -/
structure StoreConfig where
  detector : DetectorKind := .lineMatch
  producer : ProducerKind := .textOnly
  args : StoreArgs
deriving DecidableEq

/-- Which model is asked, and how often (`KaiConfigModels`). -/
structure ModelConfig where
  provider : String
  args : Fields := []
  template : Option String := none
  llamaHeader : Option Bool := none
  retries : Int := 5
  retryDelay : Binary64 := Binary64.ofInt 10
deriving DecidableEq

/-- A configuration (`KaiConfig`). -/
structure Config where
  logLevel : String := "INFO"
  fileLogLevel : String := "INFO"
  logDir : String
  demoMode : Bool := false
  traceEnabled : Bool := false
  workers : Int := 8
  timeout : Int := 3600
  bind : String := "0.0.0.0:8080"
  store : StoreConfig
  models : ModelConfig
  consumers : List ConsumerKind := [.diffOnly]
deriving DecidableEq

namespace StoreArgs

/-- All four parts of an address are given. -/
def hasParts (a : StoreArgs) : Bool :=
  a.host.isSome && a.database.isSome && a.user.isSome && a.password.isSome

/-- Exactly one of the two ways to reach the database must be given (`validate_connection_string`). -/
def check (a : StoreArgs) : Outcome StoreArgs :=
  if a.connectionString.isSome == a.hasParts then
    .error (.invalidData
      (some "Must provide one of connection_string or [host, database, user, password]"))
  else .ok a

/-- Reads how one particular database is reached. -/
def ofFields (provider : StoreProvider) (fields : Fields) : Outcome StoreArgs := do
  if (← withDefault fields ["provider"] StoreProvider.decode provider) ≠ provider then invalid
  let args : StoreArgs := {
    provider
    host := ← withDefault fields ["host"] (nullable text) none
    database := ← withDefault fields ["database"] (nullable text) none
    user := ← withDefault fields ["user"] (nullable text) none
    password := ← withDefault fields ["password"] (nullable text) none
    connectionString := ← withDefault fields ["connection_string"] (nullable text) none
    solutionDetection := ← withDefault fields ["solution_detection"] DetectorKind.decode .naive }
  args.check

/-- Reads how a database is reached; the data says which one. -/
def decode (v : Json) : Outcome StoreArgs := do
  let fields ← object v
  let provider ← required fields ["provider"] StoreProvider.decode
  ofFields provider fields

/-- As a value. -/
def encode (a : StoreArgs) : Json :=
  .obj
    [("provider", .str a.provider.word), ("host", Json.ofText? a.host),
     ("database", Json.ofText? a.database), ("user", Json.ofText? a.user),
     ("password", Json.ofText? a.password),
     ("connection_string", Json.ofText? a.connectionString),
     ("solution_detection", .str a.solutionDetection.word)]

end StoreArgs

namespace StoreConfig

/-- Reads where incidents are stored. -/
def decode (v : Json) : Outcome StoreConfig := do
  let fields ← object v
  return {
    detector := ← withDefault fields ["solution_detectors"] DetectorKind.decode .lineMatch
    producer := ← withDefault fields ["solution_producers"] ProducerKind.decode .textOnly
    args := ← required fields ["args"] StoreArgs.decode }

/-- As a value. -/
def encode (s : StoreConfig) : Json :=
  .obj
    [("solution_detectors", .str s.detector.word), ("solution_producers", .str s.producer.word),
     ("args", s.args.encode)]

end StoreConfig

namespace ModelConfig

/-- Reads which model is asked. -/
def decode (v : Json) : Outcome ModelConfig := do
  let fields ← object v
  return {
    provider := ← required fields ["provider"] text
    args := ← withDefault fields ["args"] object []
    template := ← withDefault fields ["template"] (nullable text) none
    llamaHeader := ← withDefault fields ["llama_header"] (nullable bool) none
    retries := ← withDefault fields ["llm_retries"] int 5
    retryDelay := ← withDefault fields ["llm_retry_delay"] real (Binary64.ofInt 10) }

/-- As a value. -/
def encode (m : ModelConfig) : Json :=
  .obj
    [("provider", .str m.provider), ("args", .obj m.args), ("template", Json.ofText? m.template),
     ("llama_header", match m.llamaHeader with | some b => .bool b | none => .null),
     ("llm_retries", .int m.retries), ("llm_retry_delay", .real m.retryDelay)]

end ModelConfig

namespace Config

/-- The names of the parts of a configuration. -/
def partNames : List String :=
  ["log_level", "file_log_level", "log_dir", "demo_mode", "trace_enabled", "gunicorn_workers",
   "gunicorn_timeout", "gunicorn_bind", "incident_store", "models", "solution_consumers"]

/-- Reads a configuration; `logDir` is the log directory if none is given. -/
def decode (logDir : String) (fields : Fields) : Outcome Config := do
  if fields.keys.any fun k => !partNames.contains k then invalid
  return {
    logLevel := ← withDefault fields ["log_level"] text "INFO"
    fileLogLevel := ← withDefault fields ["file_log_level"] text "INFO"
    logDir := ← withDefault fields ["log_dir"] text logDir
    demoMode := ← withDefault fields ["demo_mode"] bool false
    traceEnabled := ← withDefault fields ["trace_enabled"] bool false
    workers := ← withDefault fields ["gunicorn_workers"] int 8
    timeout := ← withDefault fields ["gunicorn_timeout"] int 3600
    bind := ← withDefault fields ["gunicorn_bind"] text "0.0.0.0:8080"
    store := ← required fields ["incident_store"] StoreConfig.decode
    models := ← required fields ["models"] ModelConfig.decode
    consumers := ← withDefault fields ["solution_consumers"] (listOf ConsumerKind.decode)
      [.diffOnly] }

/-- As a value. -/
def encode (c : Config) : Json :=
  .obj
    [("log_level", .str c.logLevel), ("file_log_level", .str c.fileLogLevel),
     ("log_dir", .str c.logDir), ("demo_mode", .bool c.demoMode),
     ("trace_enabled", .bool c.traceEnabled), ("gunicorn_workers", .int c.workers),
     ("gunicorn_timeout", .int c.timeout), ("gunicorn_bind", .str c.bind),
     ("incident_store", c.store.encode), ("models", c.models.encode),
     ("solution_consumers", Json.texts (c.consumers.map ConsumerKind.word))]

end Config
end Remedy
