import QueryCriteria.Config.Setting

/-!
The configuration: sections for logging, for all data sources, and for each backend. Every setting
has a default; an optional one may be null.
-/
namespace QueryCriteria

inductive LogFormat where
  /-- One JSON object on each line. -/
  | json
  /-- Lines for human readers. -/
  | pretty
deriving DecidableEq, Repr

namespace LogFormat

def text : LogFormat → String
  | .json => "json"
  | .pretty => "pretty"

/-- A format by its name, by its place among the formats, or as a table with its name for nothing. -/
def read : Reader Setting LogFormat
  | .text "json" | .natural 0 | .table [("json", .null)] => some .json
  | .text "pretty" | .natural 1 | .table [("pretty", .null)] => some .pretty
  | _ => none

end LogFormat

structure LoggingConfig where
  /-- The filter in force unless the environment names another one. -/
  level : String
  format : LogFormat

structure SourceConfig where
  /-- The time limit of a call in milliseconds. -/
  timeoutMillis : UInt64
  maxRetries : UInt32
  /-- The first wait between attempts in milliseconds. -/
  retryDelayMillis : UInt64
  /-- Retries of an attempt to connect. -/
  connectMaxRetries : UInt32

structure PostgresConfig where
  url : String
  maxConnections : UInt32
  minConnections : UInt32
  /-- Seconds to wait for a connection. -/
  connectionTimeoutSeconds : UInt64

structure RedisConfig where
  url : String
  maxConnections : UInt64
  /-- Seconds after which a stored record expires. -/
  timeToLive : Option UInt64

structure DynamoConfig where
  region : Option String
  endpointUrl : Option String
  accessKeyId : Option String
  secretAccessKey : Option String

structure SearchConfig where
  url : String
  username : Option String
  password : Option String
  /-- Whether writes are waited for until searches find them. -/
  refresh : Bool

structure Config where
  logging : LoggingConfig
  sources : SourceConfig
  postgres : PostgresConfig
  redis : RedisConfig
  dynamo : DynamoConfig
  search : SearchConfig

namespace LoggingConfig

def default : LoggingConfig := ⟨"info", .json⟩

def read (surplus : Reader.Surplus) : Reader Setting LoggingConfig := fun setting =>
  match Reader.parts surplus ["level", "format"] setting with
  | some [level, format] => do
    return ⟨← Reader.orElse (some default.level) Setting.text? level,
      ← Reader.orElse (some default.format) LogFormat.read format⟩
  | _ => none

def toJson (config : LoggingConfig) : Json :=
  .object [("format", .text config.format.text), ("level", .text config.level)]

end LoggingConfig

namespace SourceConfig

def default : SourceConfig := ⟨5000, 3, 100, 3⟩

def read (surplus : Reader.Surplus) : Reader Setting SourceConfig := fun setting =>
  match Reader.parts surplus ["timeout_ms", "max_retries", "retry_delay_ms", "connect_max_retries"] setting with
  | some [timeout, retries, delay, connectRetries] => do
    return ⟨← Reader.orElse (some default.timeoutMillis) Setting.uint64? timeout,
      ← Reader.orElse (some default.maxRetries) Setting.uint32? retries,
      ← Reader.orElse (some default.retryDelayMillis) Setting.uint64? delay,
      ← Reader.orElse (some default.connectMaxRetries) Setting.uint32? connectRetries⟩
  | _ => none

def toJson (config : SourceConfig) : Json :=
  .object [("connect_max_retries", .ofUInt32 config.connectMaxRetries),
    ("max_retries", .ofUInt32 config.maxRetries),
    ("retry_delay_ms", .ofUInt64 config.retryDelayMillis),
    ("timeout_ms", .ofUInt64 config.timeoutMillis)]

end SourceConfig

namespace PostgresConfig

def default : PostgresConfig := ⟨"postgres://localhost:5432/postgres", 10, 1, 10⟩

def read (surplus : Reader.Surplus) : Reader Setting PostgresConfig := fun setting =>
  match Reader.parts surplus ["url", "max_connections", "min_connections", "connection_timeout_secs"] setting with
  | some [url, most, least, timeout] => do
    return ⟨← Reader.orElse (some default.url) Setting.text? url,
      ← Reader.orElse (some default.maxConnections) Setting.uint32? most,
      ← Reader.orElse (some default.minConnections) Setting.uint32? least,
      ← Reader.orElse (some default.connectionTimeoutSeconds) Setting.uint64? timeout⟩
  | _ => none

def toJson (config : PostgresConfig) : Json :=
  .object [("connection_timeout_secs", .ofUInt64 config.connectionTimeoutSeconds),
    ("max_connections", .ofUInt32 config.maxConnections),
    ("min_connections", .ofUInt32 config.minConnections), ("url", .text config.url)]

end PostgresConfig

namespace RedisConfig

def default : RedisConfig := ⟨"redis://localhost:6379", 16, none⟩

def read (surplus : Reader.Surplus) : Reader Setting RedisConfig := fun setting =>
  match Reader.parts surplus ["url", "max_connections", "ttl_secs"] setting with
  | some [url, most, timeToLive] => do
    return ⟨← Reader.orElse (some default.url) Setting.text? url,
      ← Reader.orElse (some default.maxConnections) Setting.uint64? most,
      ← Reader.orElse (some none) (Reader.optional Setting.uint64?) timeToLive⟩
  | _ => none

def toJson (config : RedisConfig) : Json :=
  .object [("max_connections", .ofUInt64 config.maxConnections),
    ("ttl_secs", .ofOption .ofUInt64 config.timeToLive), ("url", .text config.url)]

end RedisConfig

/-- An optional text. -/
private def readText : Option Setting → Option (Option String) :=
  Reader.orElse (some none) (Reader.optional Setting.text?)

namespace DynamoConfig

def default : DynamoConfig := ⟨none, none, none, none⟩

def read (surplus : Reader.Surplus) : Reader Setting DynamoConfig := fun setting =>
  match Reader.parts surplus ["region", "endpoint_url", "access_key_id", "secret_access_key"] setting with
  | some [region, endpoint, key, secret] => do
    return ⟨← readText region, ← readText endpoint, ← readText key, ← readText secret⟩
  | _ => none

def toJson (config : DynamoConfig) : Json :=
  .object [("access_key_id", .ofOption .text config.accessKeyId),
    ("endpoint_url", .ofOption .text config.endpointUrl), ("region", .ofOption .text config.region),
    ("secret_access_key", .ofOption .text config.secretAccessKey)]

end DynamoConfig

namespace SearchConfig

def default : SearchConfig := ⟨"http://localhost:9200", none, none, false⟩

def read (surplus : Reader.Surplus) : Reader Setting SearchConfig := fun setting =>
  match Reader.parts surplus ["url", "username", "password", "refresh"] setting with
  | some [url, username, password, refresh] => do
    return ⟨← Reader.orElse (some default.url) Setting.text? url, ← readText username,
      ← readText password, ← Reader.orElse (some default.refresh) Setting.bool? refresh⟩
  | _ => none

def toJson (config : SearchConfig) : Json :=
  .object [("password", .ofOption .text config.password), ("refresh", .bool config.refresh),
    ("url", .text config.url), ("username", .ofOption .text config.username)]

end SearchConfig

namespace Config

def default : Config :=
  ⟨.default, .default, .default, .default, .default, .default⟩

def read (surplus : Reader.Surplus) : Reader Setting Config := fun setting =>
  match Reader.parts surplus ["logging", "datasource", "postgres", "redis", "dynamodb", "elasticsearch"]
      setting with
  | some [logging, sources, postgres, redis, dynamo, search] => do
    return ⟨← Reader.orElse (some .default) (LoggingConfig.read surplus) logging,
      ← Reader.orElse (some .default) (SourceConfig.read surplus) sources,
      ← Reader.orElse (some .default) (PostgresConfig.read surplus) postgres,
      ← Reader.orElse (some .default) (RedisConfig.read surplus) redis,
      ← Reader.orElse (some .default) (DynamoConfig.read surplus) dynamo,
      ← Reader.orElse (some .default) (SearchConfig.read surplus) search⟩
  | _ => none

def toJson (config : Config) : Json :=
  .object [("datasource", config.sources.toJson), ("dynamodb", config.dynamo.toJson),
    ("elasticsearch", config.search.toJson), ("logging", config.logging.toJson),
    ("postgres", config.postgres.toJson), ("redis", config.redis.toJson)]

end Config

end QueryCriteria
