import CcsTrans.Config.Document

/-!
The configuration file: its two formats, how they are read and how they are written.

A v2 file holds the application settings and the profiles. A v3 file holds the settings
only; it is read and written by way of the v2 format, from which it differs in its version,
in one more runtime setting and in having no profiles.
-/

namespace CcsTrans.Config

open CcsTrans.Text CcsTrans.Json CcsTrans.Fallible

def kSchemaVersion : Bytes := str "ccs-trans.config/v2"
def kApplicationConfigSchema : Bytes := str "ccs-trans.config/v3"

inductive ConfigSchemaKind where
  | v2
  | v3
  | unsupported
  deriving DecidableEq

abbrev Members := List (Bytes × Value)

/-! ### Reading fields -/

/-- `check_object_keys`: the members, when they are those expected. -/
def checkObjectKeys (value : Value) (path : Bytes) (allowed required : List Bytes) :
    Except Bytes Members :=
  match value with
  | .obj ms =>
    match ms.find? fun m => !allowed.contains m.1 with
    | some m => .error (path ++ str " contains unknown field: " ++ m.1)
    | none =>
      match required.find? fun k => !contains k ms with
      | some k => .error (path ++ str " is missing required field: " ++ k)
      | none => .ok ms
  | _ => .error (path ++ str " must be a JSON object")

def readString (ms : Members) (key : String) (path : Bytes) : Except Bytes Bytes :=
  match find (str key) ms with
  | some (.str s) => .ok s
  | _ => .error (path ++ str "." ++ str key ++ str " must be a JSON string")

def readBool (ms : Members) (key : String) (path : Bytes) : Except Bytes Bool :=
  match find (str key) ms with
  | some (.bool b) => .ok b
  | _ => .error (path ++ str "." ++ str key ++ str " must be a JSON boolean")

def readUnsigned (ms : Members) (key : String) (path : Bytes) (maximum : ℕ) :
    Except Bytes UInt64 :=
  match find (str key) ms with
  | some (.uint n) =>
    if n.toNat > maximum then
      .error (path ++ str "." ++ str key ++ str " exceeds the supported maximum of " ++
        decimal maximum)
    else .ok n
  | _ => .error (path ++ str "." ++ str key ++ str " must be a non-negative JSON integer")

/-- A number that must not be zero. -/
def readPositive (ms : Members) (key : String) (path : Bytes) (maximum : ℕ)
    (expected : String) : Except Bytes UInt64 := do
  let n ← readUnsigned ms key path maximum
  if n = 0 then throw (path ++ str "." ++ str key ++ str expected)
  return n

/-- `read_timeout`. -/
def readTimeout (ms : Members) (key : String) (allowZero : Bool) : Except Bytes Int32 := do
  let n ← readUnsigned ms key (str "$.timeouts") intMax
  if !allowZero && n = 0 then
    throw (str "$.timeouts." ++ str key ++ str " must be greater than 0")
  return Int32.ofNat n.toNat

def optionalString (ms : Members) (key : String) (path : Bytes) : Except Bytes (Option Bytes) :=
  if contains (str key) ms then some <$> readString ms key path else .ok none

def optionalBool (ms : Members) (key : String) (path : Bytes) : Except Bytes Bool :=
  if contains (str key) ms then readBool ms key path else .ok false

/-- A member that is there; `null` otherwise, which no reader takes. -/
def member (ms : Members) (key : String) : Value := (find (str key) ms).getD .null

def greaterThanZero : String := " must be greater than 0"

/-! ### The application settings -/

def listenerKeys : List Bytes := [str "host", str "port"]
def runtimeKeys : List Bytes := [str "worker_threads", str "max_connections",
  str "max_request_body_size", str "max_response_body_size", str "metrics_interval_ms"]
def timeoutKeys : List Bytes := [str "resolve_ms", str "connect_ms", str "send_ms",
  str "response_header_ms", str "stream_idle_ms", str "total_ms"]
def loggingKeys : List Bytes := [str "path", str "level", str "body", str "redact_sensitive",
  str "body_limit", str "queue_capacity", str "max_total_size", str "flush_interval_ms"]

def readListener (root : Members) : Except Bytes ListenerSettings := do
  let path := str "$.listener"
  let ms ← checkObjectKeys (member root "listener") path listenerKeys listenerKeys
  let host ← readString ms "host" path
  let port ← readPositive ms "port" path 65535 " must be between 1 and 65535"
  return ⟨host, port.toUInt16⟩

/-- The runtime settings of a v2 file, which has no limit on bytes in flight. -/
def readRuntime (root : Members) : Except Bytes RuntimeSettings := do
  let path := str "$.runtime"
  let ms ← checkObjectKeys (member root "runtime") path runtimeKeys runtimeKeys
  let workerThreads ← readPositive ms "worker_threads" path kMaxWorkerThreads.toNat greaterThanZero
  let maxConnections ← readPositive ms "max_connections" path kMaxConnections.toNat greaterThanZero
  let maxRequestBodySize ←
    readPositive ms "max_request_body_size" path kMaxBufferedBodySize.toNat greaterThanZero
  let maxResponseBodySize ←
    readPositive ms "max_response_body_size" path kMaxBufferedBodySize.toNat greaterThanZero
  let metricsIntervalMs ← readUnsigned ms "metrics_interval_ms" path intMax
  return { workerThreads := workerThreads.toUInt32, maxConnections := maxConnections.toUInt32,
           maxRequestBodySize := maxRequestBodySize, maxResponseBodySize := maxResponseBodySize,
           metricsIntervalMs := metricsIntervalMs.toUInt32 }

def readTimeouts (root : Members) : Except Bytes TimeoutConfig := do
  let ms ← checkObjectKeys (member root "timeouts") (str "$.timeouts") timeoutKeys timeoutKeys
  let resolveMs ← readTimeout ms "resolve_ms" false
  let connectMs ← readTimeout ms "connect_ms" false
  let sendMs ← readTimeout ms "send_ms" false
  let responseHeaderMs ← readTimeout ms "response_header_ms" false
  let streamIdleMs ← readTimeout ms "stream_idle_ms" false
  let totalMs ← readTimeout ms "total_ms" true
  return ⟨resolveMs, connectMs, sendMs, responseHeaderMs, streamIdleMs, totalMs⟩

/-- The limit on the size of all logs may be missing. -/
def readLogging (root : Members) : Except Bytes LoggingSettings := do
  let at_ := str "$.logging"
  let ms ← checkObjectKeys (member root "logging") at_ loggingKeys
    (loggingKeys.filter (· ≠ str "max_total_size"))
  let path ← readString ms "path" at_
  let level ← readString ms "level" at_
  let body ← readBool ms "body" at_
  let redactSensitive ← readBool ms "redact_sensitive" at_
  let bodyLimit ← readPositive ms "body_limit" at_ kMaxLogBufferSize.toNat greaterThanZero
  let queueCapacity ← readPositive ms "queue_capacity" at_ kMaxLogBufferSize.toNat greaterThanZero
  let maxTotalSize ←
    if contains (str "max_total_size") ms then
      readPositive ms "max_total_size" at_ kMaxLogTotalSize.toNat greaterThanZero
    else .ok ({} : LoggingSettings).maxTotalSize
  let flushIntervalMs ←
    readPositive ms "flush_interval_ms" at_ kMaxFlushIntervalMs.toNat greaterThanZero
  return ⟨path, level, body, redactSensitive, bodyLimit, queueCapacity, maxTotalSize,
    flushIntervalMs.toUInt32⟩

/-- `read_required_application_settings`. -/
def readRequiredApplicationSettings (root : Members) : Except Bytes ApplicationSettings := do
  let listener ← readListener root
  let runtime ← readRuntime root
  let timeouts ← readTimeouts root
  let logging ← readLogging root
  return ⟨listener, runtime, timeouts, logging⟩

/-! ### The profiles -/

/-- The options of a rule: its members but those every rule has. -/
def parseOptions (path : Bytes) : Members → Except Bytes Members
  | [] => .ok []
  | (k, v) :: ms =>
    if k = str "id" ∨ k = str "enabled" ∨ k = str "type" then parseOptions path ms
    else if !isValidRuleOptionName k then
      .error (path ++ str " contains an invalid rule option name: " ++ k)
    else match validateRuleJson 0 0 v with
      | .error e => .error (path ++ str "." ++ k ++ str ": " ++ e)
      | .ok _ => do return (k, v) :: (← parseOptions path ms)

/-- `parse_rule`. -/
def parseRule (source : Value) (path : Bytes) : Except Bytes RuleDefinition :=
  match source with
  | .obj ms =>
    if !contains (str "id") ms || !contains (str "type") ms then
      .error (path ++ str " must contain id and type")
    else do
      let id ← readString ms "id" path
      let type ← readString ms "type" path
      let enabled ← optionalBool ms "enabled" path
      let options ← parseOptions path ms
      return ⟨id, enabled, type, options, 0⟩
  | _ => .error (path ++ str " must be a JSON object")

/-- The rules from the one of number `index` on, those of the names `ids` behind them. -/
def parseRules (path : Bytes) (index : ℕ) (ids : List Bytes) :
    List Value → Except Bytes (List RuleDefinition)
  | [] => .ok []
  | source :: sources => do
    let rule ← parseRule source (path ++ str ".rules[" ++ decimal index ++ str "]")
    if ids.contains rule.id then
      throw (path ++ str ".rules contains duplicate rule id: " ++ rule.id)
    return rule :: (← parseRules path (index + 1) (rule.id :: ids) sources)

/-- `parse_profile`. -/
def parseProfile (source : Value) (profileId : Bytes) : Except Bytes ProfileDefinition := do
  let path := str "$.profiles." ++ profileId
  let ms ← checkObjectKeys source path
    [str "enabled", str "protocol", str "local", str "upstream", str "rules"] []
  let enabled ← optionalBool ms "enabled" path
  let protocol ← optionalString ms "protocol" path
  let localRoutes ←
    if contains (str "local") ms then do
      let at_ := path ++ str ".local"
      let ls ← checkObjectKeys (member ms "local") at_ [str "request_path", str "usage_path"] []
      let requestPath ← optionalString ls "request_path" at_
      let usagePath ← optionalString ls "usage_path" at_
      pure (LocalRoutes.mk requestPath usagePath)
    else pure {}
  let upstream ←
    if contains (str "upstream") ms then do
      let at_ := path ++ str ".upstream"
      let us ← checkObjectKeys (member ms "upstream") at_
        [str "base_url", str "request_path", str "usage_path"] []
      let baseUrl ← optionalString us "base_url" at_
      let requestPath ← optionalString us "request_path" at_
      let usagePath ← optionalString us "usage_path" at_
      pure (UpstreamDefinition.mk baseUrl requestPath usagePath)
    else pure {}
  let rules ←
    match find (str "rules") ms with
    | none => pure []
    | some (.arr xs) =>
      if xs.length > kMaxRulesPerProfile then
        throw (path ++ str ".rules exceeds the maximum of " ++ decimal kMaxRulesPerProfile)
      else parseRules path 0 [] xs
    | some _ => throw (path ++ str ".rules must be a JSON array")
  return { enabled := enabled, protocol := protocol, localRoutes := localRoutes,
           upstream := upstream, rules := rules }

def parseProfiles : Members → Except Bytes (List (Bytes × ProfileDefinition))
  | [] => .ok []
  | (id, source) :: ms => do
    let profile ← parseProfile source id
    return (id, profile) :: (← parseProfiles ms)

/-! ### Files -/

section Files

variable [Library]

/-- `parse_root`, which `parse_config_document` repeats. -/
def parseRoot (content : Bytes) : Except Bytes Members :=
  if content.length > kMaxConfigDocumentBytes then
    .error (str "config document exceeds the 4 MiB limit")
  else match parseTree false content with
    | .error e => .error (str "failed to parse config document: " ++ Library.what e)
    | .ok tree =>
      match duplicateKey tree with
      | some k => .error (str "config contains duplicate JSON object key: " ++ k)
      | none =>
        match toDom tree with
        | .obj ms => .ok ms
        | _ => .error (str "config root must be a JSON object")

def documentKeys : List Bytes := [str "schema_version", str "listener", str "runtime",
  str "timeouts", str "logging", str "profiles"]

/-- `parse_config_document`. -/
def parseConfigDocument (content : Bytes) : Except Bytes ConfigDocument := do
  let root ← parseRoot content
  match find (str "schema_version") root with
  | some (.str version) =>
    if version ≠ kSchemaVersion then
      throw (str "unsupported config schema_version; expected ccs-trans.config/v2")
  | _ => throw (str "config schema_version must be a JSON string")
  let root ← checkObjectKeys (.obj root) (str "$") documentKeys documentKeys
  let application ← readRequiredApplicationSettings root
  let profiles ←
    match find (str "profiles") root with
    | some (.obj ms) =>
      if ms.length > kMaxConfigProfiles then
        throw (str "config exceeds the maximum of " ++ decimal kMaxConfigProfiles ++
          str " profiles")
      else parseProfiles ms
    | _ => throw (str "$.profiles must be a JSON object")
  let candidate : ConfigDocument := ⟨application, profiles⟩
  validateConfigDocument candidate
  return candidate

/-- `detect_config_schema`. -/
def detectConfigSchema (content : Bytes) : Except Bytes ConfigSchemaKind := do
  let root ← parseRoot content
  match find (str "schema_version") root with
  | some (.str version) =>
    return if version = kSchemaVersion then .v2
      else if version = kApplicationConfigSchema then .v3
      else .unsupported
  | _ => throw (str "config schema_version must be a JSON string")

def applicationKeys : List Bytes := [str "listener", str "logging", str "runtime",
  str "schema_version", str "timeouts"]

/-- `exact_root_keys`. -/
def exactRootKeys (root : Members) : Except Bytes Unit :=
  match root.find? fun m => !applicationKeys.contains m.1 with
  | some m => .error (str "config contains unknown root field: " ++ m.1)
  | none =>
    match applicationKeys.find? fun k => !contains k root with
    | some k => .error (str "config is missing required root field: " ++ k)
    | none => .ok ()

/-- `parse_application_config_document`. -/
def parseApplicationConfigDocument (content : Bytes) : Except Bytes ApplicationSettings := do
  let root ← parseRoot content
  match find (str "schema_version") root with
  | some (.str version) =>
    if version ≠ kApplicationConfigSchema then
      throw (str "unsupported config schema_version; expected ccs-trans.config/v3")
  | _ => throw (str "unsupported config schema_version; expected ccs-trans.config/v3")
  exactRootKeys root
  match find (str "runtime") root with
  | some (.obj runtime) =>
    match find (str "max_inflight_bytes") runtime with
    | some (.uint maxInflightBytes) =>
      -- the rest is a v2 file without profiles
      let root := replace (str "runtime") (.obj (erase (str "max_inflight_bytes") runtime)) root
      let root := replace (str "schema_version") (.str kSchemaVersion) root
      let root := insertMember (str "profiles") (.obj []) root
      match dump (.obj root) with
      | none => throw (str "failed to read v3 application settings: " ++
          Library.whatDump (.obj root))
      | some translated =>
        match parseConfigDocument translated with
        | .error e => throw (str "invalid v3 application settings: " ++ e)
        | .ok legacy =>
          let application := { legacy.application with
            runtime := { legacy.application.runtime with maxInflightBytes := maxInflightBytes } }
          validateApplicationSettings application
          return application
    | _ => throw (str "$.runtime.max_inflight_bytes must be a non-negative JSON integer")
  | _ => throw (str "$.runtime must be a JSON object")

end Files

/-! ### Writing -/

def uint32 (n : UInt32) : Value := .uint n.toUInt64

/-- An `int` is written as a signed number. -/
def int32 (n : Int32) : Value := .int n.toInt64

/-- The members of an object stand in the order of their names. -/
def listenerJson (s : ListenerSettings) : Members :=
  [(str "host", .str s.host), (str "port", .uint s.port.toUInt64)]

def runtimeJson (s : RuntimeSettings) : Members :=
  [(str "max_connections", uint32 s.maxConnections),
   (str "max_request_body_size", .uint s.maxRequestBodySize),
   (str "max_response_body_size", .uint s.maxResponseBodySize),
   (str "metrics_interval_ms", uint32 s.metricsIntervalMs),
   (str "worker_threads", uint32 s.workerThreads)]

def timeoutsJson (s : TimeoutConfig) : Members :=
  [(str "connect_ms", int32 s.connectMs), (str "resolve_ms", int32 s.resolveMs),
   (str "response_header_ms", int32 s.responseHeaderMs), (str "send_ms", int32 s.sendMs),
   (str "stream_idle_ms", int32 s.streamIdleMs), (str "total_ms", int32 s.totalMs)]

def loggingJson (s : LoggingSettings) : Members :=
  [(str "body", .bool s.body), (str "body_limit", .uint s.bodyLimit),
   (str "flush_interval_ms", uint32 s.flushIntervalMs), (str "level", .str s.level),
   (str "max_total_size", .uint s.maxTotalSize), (str "path", .str s.path),
   (str "queue_capacity", .uint s.queueCapacity),
   (str "redact_sensitive", .bool s.redactSensitive)]

/-- A member for a field that is given. -/
def optionalMember (key : String) (value : Option Bytes) : Members :=
  value.toList.map fun v => (str key, .str v)

/-- An object that is left out when it is empty. -/
def optionalObject (key : String) (ms : Members) : Members :=
  if ms.isEmpty then [] else [(str key, .obj ms)]

/-- A rule, its options among the fields every rule has. -/
def ruleJson (rule : RuleDefinition) : Value :=
  .obj (rule.options.foldl (fun ms o => insertMember o.1 o.2 ms)
    [(str "enabled", .bool rule.enabled), (str "id", .str rule.id), (str "type", .str rule.type)])

def localJson (l : LocalRoutes) : Members :=
  optionalMember "request_path" l.requestPath ++ optionalMember "usage_path" l.usagePath

def upstreamJson (u : UpstreamDefinition) : Members :=
  optionalMember "base_url" u.baseUrl ++ optionalMember "request_path" u.requestPath ++
    optionalMember "usage_path" u.usagePath

def profileJson (p : ProfileDefinition) : Value :=
  .obj ([(str "enabled", .bool p.enabled)] ++ optionalObject "local" (localJson p.localRoutes) ++
    optionalMember "protocol" p.protocol ++ [(str "rules", .arr (p.rules.map ruleJson))] ++
    optionalObject "upstream" (upstreamJson p.upstream))

/-- `document_to_json`. -/
def documentToJson (d : ConfigDocument) : Value :=
  .obj [(str "listener", .obj (listenerJson d.application.listener)),
    (str "logging", .obj (loggingJson d.application.logging)),
    (str "profiles", .obj (d.profiles.map fun (id, p) => (id, profileJson p))),
    (str "runtime", .obj (runtimeJson d.application.runtime)),
    (str "schema_version", .str kSchemaVersion),
    (str "timeouts", .obj (timeoutsJson d.application.timeouts))]

section Write

variable [Library]

/-- `serialize_config_document`. -/
def serializeConfigDocument (d : ConfigDocument) : Except Bytes Bytes := do
  validateConfigDocument d
  match dumpPretty (documentToJson d) with
  | none => throw (str "failed to serialize config document: " ++
      Library.whatDump (documentToJson d))
  | some text =>
    let serialized := text ++ [ch '\n']
    if serialized.length > kMaxConfigDocumentBytes then
      throw (str "serialized config document exceeds the 4 MiB limit")
    return serialized

def membersOf : Value → Members
  | .obj ms => ms
  | _ => []

/-- The root of a v3 file, from the root of the v2 file without profiles. -/
def applicationRoot (root : Members) (maxInflightBytes : UInt64) : Members :=
  let root := erase (str "profiles") (replace (str "schema_version") (.str kApplicationConfigSchema)
    root)
  let runtime := insertMember (str "max_inflight_bytes") (.uint maxInflightBytes)
    (membersOf (member root "runtime"))
  replace (str "runtime") (.obj runtime) root

/-- `serialize_application_config_document`. -/
def serializeApplicationConfigDocument (a : ApplicationSettings) : Except Bytes Bytes := do
  validateApplicationSettings a
  let serializedLegacy ← serializeConfigDocument { application := a }
  match parse serializedLegacy with
  | .ok (.obj root) =>
    let root := Value.obj (applicationRoot root a.runtime.maxInflightBytes)
    match dumpPretty root with
    | none => throw (str "failed to serialize v3 application settings: " ++ Library.whatDump root)
    | some text =>
      let serialized := text ++ [ch '\n']
      if serialized.length > kMaxConfigDocumentBytes then
        throw (str "serialized config document exceeds the 4 MiB limit")
      return serialized
  | .ok v => throw (str "failed to serialize v3 application settings: " ++ Library.whatDump v)
  | .error e => throw (str "failed to serialize v3 application settings: " ++ Library.what e)

end Write

end CcsTrans.Config
