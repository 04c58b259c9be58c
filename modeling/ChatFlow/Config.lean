import ChatFlow.Policy
import ChatFlow.Text.Blank

namespace ChatFlow

open Json.Decoder (required natural)

/-- Where flows, conversations and paused runs are stored. -/
structure DatabaseConfig where
  /-- the directory that holds the database -/
  directory : String
  /-- the name of the database in its directory -/
  fileName : String
  maxConnections : Nat
  deriving DecidableEq, Repr

structure EngineConfig where
  /-- how long requests may take, in milliseconds, where the node does not say -/
  timeout : Nat
  /-- how many nodes one traversal may visit -/
  maxSteps : Nat
  /-- mistakes in flows are failures -/
  strict : Bool
  deriving DecidableEq, Repr

structure SweepConfig where
  /-- when there is a sweep -/
  schedule : String
  /-- how many records a sweep takes up -/
  batch : Nat
  deriving DecidableEq, Repr

structure Config where
  database : DatabaseConfig
  engine : EngineConfig
  sweep : SweepConfig
  deriving DecidableEq, Repr

namespace DatabaseConfig

def standard : DatabaseConfig := ⟨"data", "convoflow.db", 5⟩

def decoder : Json.Decoder DatabaseConfig :=
  .record
    [required "data_dir" .text fun directory c => { c with directory },
      required "file_name" .text fun fileName c => { c with fileName },
      required "max_connections" (natural maxHalfWord) fun maxConnections c =>
        { c with maxConnections }]
    standard

def toJson (c : DatabaseConfig) : Json :=
  .ofMembers
    [("data_dir", .text c.directory), ("file_name", .text c.fileName),
      ("max_connections", .ofNat c.maxConnections)]

end DatabaseConfig

namespace EngineConfig

def standard : EngineConfig := ⟨15000, 1000, false⟩

def decoder : Json.Decoder EngineConfig :=
  .record
    [required "http_timeout_ms" (natural maxWord) fun timeout c => { c with timeout },
      required "max_steps" (natural maxWord) fun maxSteps c => { c with maxSteps },
      required "strict" .bool fun strict c => { c with strict }]
    standard

def toJson (c : EngineConfig) : Json :=
  .ofMembers
    [("http_timeout_ms", .ofNat c.timeout), ("max_steps", .ofNat c.maxSteps),
      ("strict", .bool c.strict)]

end EngineConfig

namespace SweepConfig

def standard : SweepConfig := ⟨"*/15 * * * * *", 50⟩

def decoder : Json.Decoder SweepConfig :=
  .record
    [required "schedule" .text fun schedule c => { c with schedule },
      required "batch_size" (natural maxWord) fun batch c => { c with batch }]
    standard

def toJson (c : SweepConfig) : Json :=
  .ofMembers [("schedule", .text c.schedule), ("batch_size", .ofNat c.batch)]

end SweepConfig

namespace Config

def standard : Config := ⟨.standard, .standard, .standard⟩

def decoder : Json.Decoder Config :=
  .record
    [required "database" DatabaseConfig.decoder fun database c => { c with database },
      required "engine" EngineConfig.decoder fun engine c => { c with engine },
      required "sweep" SweepConfig.decoder fun sweep c => { c with sweep }]
    standard

def toJson (c : Config) : Json :=
  .ofMembers
    [("database", c.database.toJson), ("engine", c.engine.toJson), ("sweep", c.sweep.toJson)]

def policy (c : Config) : Policy := if c.engine.strict then .strict else .permissive

def variableNames : List String :=
  ["CONVOFLOW_DATA_DIR", "CONVOFLOW_DB_FILE", "CONVOFLOW_DB_MAX_CONNECTIONS",
    "CONVOFLOW_HTTP_TIMEOUT_MS", "CONVOFLOW_MAX_STEPS", "CONVOFLOW_STRICT",
    "CONVOFLOW_SWEEP_SCHEDULE", "CONVOFLOW_SWEEP_BATCH"]

/-- The number that a variable holds, blanks around it aside, or what it is without the variable. -/
def numberOr (fallback limit : Nat) (held : Option String) : Nat :=
  (held.bind fun s => Decimal.natural? limit (Text.trim s).toList).getD fallback

/-- The truth value that a variable names, blanks around it aside, or what it is without the
variable. -/
def boolOr (fallback : Bool) (held : Option String) : Bool :=
  match held.map Text.trim with
  | some "true" => true
  | some "false" => false
  | _ => fallback

/-- The configuration that the variables of an environment set. A text is taken as it is; a variable
that cannot be read counts as one that is not set. -/
def ofEnvironment (lookup : String → Option String) : Config where
  database := {
    directory := (lookup "CONVOFLOW_DATA_DIR").getD standard.database.directory
    fileName := (lookup "CONVOFLOW_DB_FILE").getD standard.database.fileName
    maxConnections :=
      numberOr standard.database.maxConnections maxHalfWord
        (lookup "CONVOFLOW_DB_MAX_CONNECTIONS") }
  engine := {
    timeout := numberOr standard.engine.timeout maxWord (lookup "CONVOFLOW_HTTP_TIMEOUT_MS")
    maxSteps := numberOr standard.engine.maxSteps maxWord (lookup "CONVOFLOW_MAX_STEPS")
    strict := boolOr standard.engine.strict (lookup "CONVOFLOW_STRICT") }
  sweep := {
    schedule := (lookup "CONVOFLOW_SWEEP_SCHEDULE").getD standard.sweep.schedule
    batch := numberOr standard.sweep.batch maxWord (lookup "CONVOFLOW_SWEEP_BATCH") }

end Config

end ChatFlow
