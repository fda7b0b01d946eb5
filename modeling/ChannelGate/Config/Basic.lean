import ChannelGate.Config.Environment
import ChannelGate.Error
import ChannelGate.Json.Basic
import ChannelGate.Number.Digits
import ChannelGate.Publisher.Settings
import ChannelGate.Text.Quoted
import ChannelGate.Trace
import ChannelGate.Url.Basic

set_option autoImplicit false

namespace ChannelGate

structure Config where
  instanceId : String
  storeUrl : String
  stream : String
  checkIntervalSecs : Nat
  probeTimeoutMs : Nat
  writeTimeoutMs : Nat
  maxPending : Nat
  maxStreamLen : Nat
  policiesPath : Option String
  cacheTtlSecs : Nat
  logLevel : String
  logFormat : String
  deriving DecidableEq

/-- A text in lower case, as far as letters of ASCII come from it. The Kelvin sign and the dotted
capital I are the only other characters with such a letter in their lower case; the rest stay. -/
def lowercase (text : String) : String :=
  String.ofList (text.toList.flatMap fun c =>
    if c = '\u212a' then ['k'] else if c = '\u0130' then ['i', '\u0307'] else [c.toLower])

def Level.named : List (String × Level) :=
  [("trace", .trace), ("debug", .debug), ("info", .info), ("warn", .warn), ("error", .error)]

def Level.parse (name : String) : Except ConfigError Level :=
  match Level.named.lookup (lowercase name) with
  | some level => .ok level
  | none =>
    .error (.invalidValue "LOG_LEVEL" name "must be one of trace, debug, info, warn, error")

namespace Config

/-- The store that is used where none is configured. -/
def standardUrl : String := "redis://localhost:6379/0"

def sample : Config where
  instanceId := "test-instance"
  storeUrl := standardUrl
  stream := Publisher.Settings.standard.stream
  checkIntervalSecs := 60
  probeTimeoutMs := Publisher.Settings.standard.probeTimeout
  writeTimeoutMs := Publisher.Settings.standard.writeTimeout
  maxPending := 1000
  maxStreamLen := Publisher.Settings.standard.maxStreamLen
  policiesPath := none
  cacheTtlSecs := 10
  logLevel := "info"
  logFormat := "text"

def publisherSettings (config : Config) : Publisher.Settings where
  stream := config.stream
  maxStreamLen := config.maxStreamLen
  maxPending := config.maxPending
  checkInterval := 1000 * config.checkIntervalSecs
  probeTimeout := config.probeTimeoutMs
  writeTimeout := config.writeTimeoutMs

def levelNames : List String := ["trace", "debug", "info", "warn", "error"]

def isLogFormat (name : String) : Bool := name = "json" || name = "text"

def require (condition : Bool) (error : ConfigError) : Except ConfigError Unit :=
  if condition then .ok () else .error error

def requireUrl (key text : String) : Except ConfigError Unit :=
  match Url.parse text with
  | .ok _ => .ok ()
  | .error e => .error (.invalidValue key text e.message)

def requireFile (disk : Disk) (path : Option String) : Except ConfigError Unit :=
  match path with
  | none => .ok ()
  | some path =>
    match disk.find? path with
    | some (.file (.readable _)) => .ok ()
    | some (.file (.unreadable reason)) =>
      .error (.invalid
        ("Cannot read Policies YAML file at " ++ Quoted.quote path ++ ": " ++ reason))
    | _ => .error (.invalid ("Policies YAML file not found at " ++ Quoted.quote path))

def requireLevel (name : String) : Except ConfigError Unit :=
  require (levelNames.contains (lowercase name))
    (.invalidValue "LOG_LEVEL" name ("must be one of " ++ String.intercalate ", " levelNames))

/-- Looks at the texts of a configuration. The numbers of an environment are checked where they are
read. -/
def validate (config : Config) (disk : Disk) : Except ConfigError Unit := do
  require (config.instanceId ≠ "") (.invalid "MQTT_ADAPTER_INSTANCE_ID must not be empty")
  require (config.stream ≠ "") (.invalid "MQTT_ADAPTER_ES_STREAM must not be empty")
  requireUrl "MQTT_ADAPTER_ES_URL" config.storeUrl
  requireFile disk config.policiesPath
  requireLevel config.logLevel
  require (isLogFormat config.logFormat)
    (.invalidValue "LOG_FORMAT" config.logFormat "must be 'json' or 'text'")

/-- The value of a variable that is not empty. -/
def filled? (environment : Environment) (key : String) : Option String :=
  (environment.value? key).filter (· ≠ "")

/-- The number of a variable, which has to be greater than zero. -/
def positive (environment : Environment) (key : String) (standard : Nat) :
    Except ConfigError Nat :=
  match environment.value? key with
  | none => .ok standard
  | some value =>
    match Number.readNat Number.unsignedBound value.toList with
    | .error e => .error (.invalidValue key value e.message)
    | .ok 0 => .error (.invalidValue key value "must be greater than 0")
    | .ok n => .ok n

/-- The configuration of an environment in which the file for variables was loaded. A gateway
without an id of its own gets `freshId`. -/
def ofVariables (environment : Environment) (disk : Disk) (freshId : String) :
    Except ConfigError Config := do
  let text (key standard : String) : String := (environment.value? key).getD standard
  let standard := Publisher.Settings.standard
  let checkInterval ← positive environment "MQTT_ADAPTER_ES_CHECK_INTERVAL_SECS" 60
  let probeTimeout ← positive environment "MQTT_ADAPTER_ES_PING_TIMEOUT_MS" standard.probeTimeout
  let writeTimeout ← positive environment "MQTT_ADAPTER_ES_WRITE_TIMEOUT_MS" standard.writeTimeout
  let maxPending ← positive environment "MQTT_ADAPTER_ES_MAX_UNPUBLISHED" standard.maxPending
  let maxStreamLen ← positive environment "MQTT_ADAPTER_ES_MAX_STREAM_LEN" standard.maxStreamLen
  let cacheTtl ← positive environment "MQTT_ADAPTER_AUTH_CACHE_TTL_SECS" 10
  let config : Config :=
    { instanceId := (filled? environment "MQTT_ADAPTER_INSTANCE_ID").getD freshId
      storeUrl := text "MQTT_ADAPTER_ES_URL" standardUrl
      stream := text "MQTT_ADAPTER_ES_STREAM" standard.stream
      checkIntervalSecs := checkInterval
      probeTimeoutMs := probeTimeout
      writeTimeoutMs := writeTimeout
      maxPending := maxPending
      maxStreamLen := maxStreamLen
      policiesPath := filled? environment "MQTT_ADAPTER_POLICIES_YAML_PATH"
      cacheTtlSecs := cacheTtl
      logLevel := text "LOG_LEVEL" "info"
      logFormat := text "LOG_FORMAT" "json" }
  config.validate disk
  return config

def ofEnvironment (environment : Environment) (disk : Disk) (freshId : String) :
    Except ConfigError Config :=
  ofVariables (environment.load disk) disk freshId

def toJson (config : Config) : Json :=
  .object [("instance_id", .string config.instanceId), ("es_url", .string config.storeUrl),
    ("es_stream", .string config.stream),
    ("es_check_interval_secs", .integer config.checkIntervalSecs),
    ("es_ping_timeout_ms", .integer config.probeTimeoutMs),
    ("es_write_timeout_ms", .integer config.writeTimeoutMs),
    ("es_max_unpublished", .integer config.maxPending),
    ("es_max_stream_len", .integer config.maxStreamLen),
    ("policies_yaml_path", (config.policiesPath.map Json.string).getD .null),
    ("auth_cache_ttl_secs", .integer config.cacheTtlSecs), ("log_level", .string config.logLevel),
    ("log_format", .string config.logFormat)]

def textOf? (json : Json) (key : String) : Option String :=
  match json.member? key with
  | some (.string value) => some value
  | _ => none

def maybeTextOf? (json : Json) (key : String) : Option (Option String) :=
  match json.member? key with
  | some (.string value) => some (some value)
  | some .null => some none
  | none => some none
  | _ => none

/-- An unsigned number of 64 bits that has to be there. -/
def numberOf? (json : Json) (key : String) : Option Nat :=
  match json.member? key with
  | some (.integer (.ofNat n)) => if n < Number.unsignedBound then some n else none
  | _ => none

/-- The configuration of a JSON object with all fields; other members are left aside. -/
def ofJson? (json : Json) : Option Config := do
  return {
    instanceId := ← textOf? json "instance_id"
    storeUrl := ← textOf? json "es_url"
    stream := ← textOf? json "es_stream"
    checkIntervalSecs := ← numberOf? json "es_check_interval_secs"
    probeTimeoutMs := ← numberOf? json "es_ping_timeout_ms"
    writeTimeoutMs := ← numberOf? json "es_write_timeout_ms"
    maxPending := ← numberOf? json "es_max_unpublished"
    maxStreamLen := ← numberOf? json "es_max_stream_len"
    policiesPath := ← maybeTextOf? json "policies_yaml_path"
    cacheTtlSecs := ← numberOf? json "auth_cache_ttl_secs"
    logLevel := ← textOf? json "log_level"
    logFormat := ← textOf? json "log_format" }

/-- The configuration with members of a JSON object laid over it and others taken away. -/
def overlaid? (config : Config) (members : List (String × Json)) (removed : List String) :
    Option Config :=
  match config.toJson with
  | .object base =>
    ofJson? (.object ((members ++ base).filter fun member => !removed.contains member.1))
  | _ => none

end Config

end ChannelGate
