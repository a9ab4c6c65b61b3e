import CcsTrans.Config.Snapshot
import CcsTrans.InPlace

/-!
The fields an editor can set.

Each field has a descriptor, which says what may be written into it, and an accessor, which
says where it is kept. The writers change the settings or the profile they are given in
place; they check before they write.
-/

namespace CcsTrans.Config

open CcsTrans.Text CcsTrans.Storage CcsTrans.InPlace

inductive ConfigurationFieldScope where
  | application
  | profile
  deriving DecidableEq

inductive ConfigurationFieldInputKind where
  | text
  | unsignedInteger
  | boolean
  | enumeration
  | path
  | url
  deriving DecidableEq

inductive RuntimeApplyImpact where
  | runtimeReload
  | serviceRestart
  deriving DecidableEq

structure ConfigurationFieldDescriptor where
  key : Bytes
  scope : ConfigurationFieldScope
  inputKind : ConfigurationFieldInputKind
  required : Bool := true
  minimum : Option UInt64 := none
  maximum : Option UInt64 := none
  enumValues : List Bytes := []
  displayNameKey : Bytes
  applyImpact : RuntimeApplyImpact

inductive ConfigurationFieldValue where
  | text (s : Bytes)
  | number (n : UInt64)
  | flag (b : Bool)
  deriving DecidableEq

/-! ### Descriptors -/

def kKiB : UInt64 := 1024
def kMiB : UInt64 := 1024 * kKiB
def kGiB : UInt64 := 1024 * kMiB
def kTiB : UInt64 := 1024 * kGiB

/-- A number of the application between two bounds. -/
def numberDescriptor (key : String) (minimum maximum : UInt64) (name : String)
    (impact : RuntimeApplyImpact) : ConfigurationFieldDescriptor where
  key := str key
  scope := .application
  inputKind := .unsignedInteger
  minimum := some minimum
  maximum := some maximum
  displayNameKey := str name
  applyImpact := impact

/-- A field of the application without bounds. -/
def plainDescriptor (key : String) (kind : ConfigurationFieldInputKind) (name : String)
    (impact : RuntimeApplyImpact) (values : List Bytes := []) : ConfigurationFieldDescriptor where
  key := str key
  scope := .application
  inputKind := kind
  enumValues := values
  displayNameKey := str name
  applyImpact := impact

/-- A field of a profile. -/
def profileDescriptor (key : String) (kind : ConfigurationFieldInputKind) (required : Bool)
    (name : String) (values : List Bytes := []) : ConfigurationFieldDescriptor where
  key := str key
  scope := .profile
  inputKind := kind
  required := required
  enumValues := values
  displayNameKey := str name
  applyImpact := .runtimeReload

def intMax64 : UInt64 := 2147483647

/-- `application_field_descriptors`. -/
def applicationFieldDescriptors : List ConfigurationFieldDescriptor := [
  plainDescriptor "listener.host" .text "field.listener.host" .serviceRestart,
  numberDescriptor "listener.port" 1 65535 "field.listener.port" .serviceRestart,
  numberDescriptor "runtime.worker-threads" 1 1024 "field.runtime.worker_threads" .serviceRestart,
  numberDescriptor "runtime.max-connections" 1 65535 "field.runtime.max_connections"
    .runtimeReload,
  numberDescriptor "runtime.max-request-body-size" 1 kGiB "field.runtime.max_request_body_size"
    .runtimeReload,
  numberDescriptor "runtime.max-response-body-size" 1 kGiB "field.runtime.max_response_body_size"
    .runtimeReload,
  numberDescriptor "runtime.max-inflight-bytes" kMiB (64 * kGiB)
    "field.runtime.max_inflight_bytes" .serviceRestart,
  numberDescriptor "runtime.metrics-interval-ms" 0 intMax64 "field.runtime.metrics_interval_ms"
    .serviceRestart,
  numberDescriptor "timeouts.resolve-ms" 1 intMax64 "field.timeouts.resolve_ms" .runtimeReload,
  numberDescriptor "timeouts.connect-ms" 1 intMax64 "field.timeouts.connect_ms" .runtimeReload,
  numberDescriptor "timeouts.send-ms" 1 intMax64 "field.timeouts.send_ms" .runtimeReload,
  numberDescriptor "timeouts.response-header-ms" 1 intMax64 "field.timeouts.response_header_ms"
    .runtimeReload,
  numberDescriptor "timeouts.stream-idle-ms" 1 intMax64 "field.timeouts.stream_idle_ms"
    .runtimeReload,
  numberDescriptor "timeouts.total-ms" 0 intMax64 "field.timeouts.total_ms" .runtimeReload,
  plainDescriptor "logging.path" .path "field.logging.path" .runtimeReload,
  plainDescriptor "logging.level" .enumeration "field.logging.level" .runtimeReload levels,
  plainDescriptor "logging.body" .boolean "field.logging.body" .runtimeReload,
  plainDescriptor "logging.redact-sensitive" .boolean "field.logging.redact_sensitive"
    .runtimeReload,
  numberDescriptor "logging.body-limit" 1 kGiB "field.logging.body_limit" .runtimeReload,
  numberDescriptor "logging.queue-capacity" 1 kGiB "field.logging.queue_capacity" .serviceRestart,
  numberDescriptor "logging.max-total-size" 1 kTiB "field.logging.max_total_size" .serviceRestart,
  numberDescriptor "logging.flush-interval-ms" 1 60000 "field.logging.flush_interval_ms"
    .serviceRestart]

/-- `profile_field_descriptors`. -/
def profileFieldDescriptors : List ConfigurationFieldDescriptor := [
  profileDescriptor "id" .text true "field.profile.id",
  profileDescriptor "enabled" .boolean true "field.profile.enabled",
  profileDescriptor "protocol" .enumeration false "field.profile.protocol"
    [str "chat", str "messages", str "responses"],
  profileDescriptor "local.request-path" .path false "field.profile.local_request_path",
  profileDescriptor "local.usage-path" .path false "field.profile.local_usage_path",
  profileDescriptor "upstream.base-url" .url false "field.profile.upstream_base_url",
  profileDescriptor "upstream.request-path" .path false "field.profile.upstream_request_path",
  profileDescriptor "upstream.usage-path" .path false "field.profile.upstream_usage_path"]

/-- `find_configuration_field_descriptor`. -/
def findConfigurationFieldDescriptor (scope : ConfigurationFieldScope) (key : Bytes) :
    Option ConfigurationFieldDescriptor :=
  let descriptors := match scope with
    | .application => applicationFieldDescriptors
    | .profile => profileFieldDescriptors
  descriptors.find? fun d => d.key == key

/-! ### Accessors -/

/-- How a field of one of the three types is read and written. -/
inductive Accessor (σ : Type) where
  | text (get : σ → Bytes) (set : Bytes → σ → σ)
  | number (get : σ → UInt64) (set : UInt64 → σ → σ)
  | flag (get : σ → Bool) (set : Bool → σ → σ)

/-- A timeout, which the editor shows as an unsigned number. -/
def timeoutAccessor (get : TimeoutConfig → Int32)
    (set : Int32 → TimeoutConfig → TimeoutConfig) : Accessor ApplicationSettings :=
  .number (fun a => (get a.timeouts).toInt64.toUInt64)
    fun n a => { a with timeouts := set (Int32.ofNat n.toNat) a.timeouts }

/-- Where the fields of the application are kept. -/
def applicationAccessors : List (Bytes × Accessor ApplicationSettings) := [
  (str "listener.host", .text (·.listener.host)
    fun v a => { a with listener.host := v }),
  (str "listener.port", .number (·.listener.port.toUInt64)
    fun v a => { a with listener.port := v.toUInt16 }),
  (str "runtime.worker-threads", .number (·.runtime.workerThreads.toUInt64)
    fun v a => { a with runtime.workerThreads := v.toUInt32 }),
  (str "runtime.max-connections", .number (·.runtime.maxConnections.toUInt64)
    fun v a => { a with runtime.maxConnections := v.toUInt32 }),
  (str "runtime.max-request-body-size", .number (·.runtime.maxRequestBodySize)
    fun v a => { a with runtime.maxRequestBodySize := v }),
  (str "runtime.max-response-body-size", .number (·.runtime.maxResponseBodySize)
    fun v a => { a with runtime.maxResponseBodySize := v }),
  (str "runtime.max-inflight-bytes", .number (·.runtime.maxInflightBytes)
    fun v a => { a with runtime.maxInflightBytes := v }),
  (str "runtime.metrics-interval-ms", .number (·.runtime.metricsIntervalMs.toUInt64)
    fun v a => { a with runtime.metricsIntervalMs := v.toUInt32 }),
  (str "timeouts.resolve-ms", timeoutAccessor (·.resolveMs) fun v t => { t with resolveMs := v }),
  (str "timeouts.connect-ms", timeoutAccessor (·.connectMs) fun v t => { t with connectMs := v }),
  (str "timeouts.send-ms", timeoutAccessor (·.sendMs) fun v t => { t with sendMs := v }),
  (str "timeouts.response-header-ms", timeoutAccessor (·.responseHeaderMs)
    fun v t => { t with responseHeaderMs := v }),
  (str "timeouts.stream-idle-ms", timeoutAccessor (·.streamIdleMs)
    fun v t => { t with streamIdleMs := v }),
  (str "timeouts.total-ms", timeoutAccessor (·.totalMs) fun v t => { t with totalMs := v }),
  (str "logging.path", .text (·.logging.path) fun v a => { a with logging.path := v }),
  (str "logging.level", .text (·.logging.level) fun v a => { a with logging.level := v }),
  (str "logging.body", .flag (·.logging.body) fun v a => { a with logging.body := v }),
  (str "logging.redact-sensitive", .flag (·.logging.redactSensitive)
    fun v a => { a with logging.redactSensitive := v }),
  (str "logging.body-limit", .number (·.logging.bodyLimit)
    fun v a => { a with logging.bodyLimit := v }),
  (str "logging.queue-capacity", .number (·.logging.queueCapacity)
    fun v a => { a with logging.queueCapacity := v }),
  (str "logging.max-total-size", .number (·.logging.maxTotalSize)
    fun v a => { a with logging.maxTotalSize := v }),
  (str "logging.flush-interval-ms", .number (·.logging.flushIntervalMs.toUInt64)
    fun v a => { a with logging.flushIntervalMs := v.toUInt32 })]

/-- Where the texts of a profile are kept that may be missing. -/
def profileAccessors : List (Bytes × (StoredProfile → Option Bytes) ×
    (Option Bytes → StoredProfile → StoredProfile)) := [
  (str "protocol", (·.protocol), fun v p => { p with protocol := v }),
  (str "local.request-path", (·.localRequestPath), fun v p => { p with localRequestPath := v }),
  (str "local.usage-path", (·.localUsagePath), fun v p => { p with localUsagePath := v }),
  (str "upstream.base-url", (·.upstreamBaseUrl), fun v p => { p with upstreamBaseUrl := v }),
  (str "upstream.request-path", (·.upstreamRequestPath),
    fun v p => { p with upstreamRequestPath := v }),
  (str "upstream.usage-path", (·.upstreamUsagePath), fun v p => { p with upstreamUsagePath := v })]

def Accessor.read {σ : Type} : Accessor σ → σ → ConfigurationFieldValue
  | .text get _, s => .text (get s)
  | .number get _, s => .number (get s)
  | .flag get _, s => .flag (get s)

/-- The text of the exception that `std::get` throws at a value of another type. -/
def badVariantAccess : Bytes := str "std::get: wrong index for variant"

/-- Write a value of the type of the field. -/
def Accessor.write {σ : Type} : Accessor σ → ConfigurationFieldValue → EStateM Bytes σ Unit
  | .text _ set, .text v => modify (set v)
  | .number _ set, .number v => modify (set v)
  | .flag _ set, .flag v => modify (set v)
  | _, _ => throw badVariantAccess

/-! ### Writers -/

/-- `require_scope`. -/
def requireScope (d : ConfigurationFieldDescriptor) (expected : ConfigurationFieldScope) :
    Except Bytes Unit :=
  if d.scope = expected then .ok ()
  else .error (str "field descriptor has the wrong scope: " ++ d.key)

/-- `validate_typed_value`. -/
def validateTypedValue (d : ConfigurationFieldDescriptor) (value : ConfigurationFieldValue) :
    Except Bytes Unit :=
  match d.inputKind with
  | .unsignedInteger =>
    match value with
    | .number n =>
      if d.minimum.any (n < ·) then .error (d.key ++ str " is below its supported minimum")
      else if d.maximum.any (n > ·) then .error (d.key ++ str " exceeds its supported maximum")
      else .ok ()
    | _ => .error (d.key ++ str " requires an unsigned integer")
  | .boolean =>
    match value with
    | .flag _ => .ok ()
    | _ => .error (d.key ++ str " requires a boolean")
  | _ =>
    match value with
    | .text text =>
      if d.inputKind = .enumeration ∧ text ∉ d.enumValues then
        .error (d.key ++ str " has an unsupported value: " ++ text)
      else .ok ()
    | _ => .error (d.key ++ str " requires text")

/-- `apply_application_field`. -/
def applyApplicationField (d : ConfigurationFieldDescriptor) (value : ConfigurationFieldValue) :
    EStateM Bytes ApplicationSettings Unit := do
  demand (requireScope d .application)
  demand (validateTypedValue d value)
  match Json.find d.key applicationAccessors with
  | some accessor => accessor.write value
  | none => throw (str "unsupported application field: " ++ d.key)

/-- `read_application_field`. -/
def readApplicationField (a : ApplicationSettings) (d : ConfigurationFieldDescriptor) :
    Except Bytes ConfigurationFieldValue := do
  requireScope d .application
  match Json.find d.key applicationAccessors with
  | some accessor => return accessor.read a
  | none => throw (str "unsupported application field: " ++ d.key)

/-- `reset_application_field`. -/
def resetApplicationField (d : ConfigurationFieldDescriptor) :
    EStateM Bytes ApplicationSettings Unit := do
  match Json.find d.key applicationAccessors with
  | some accessor => applyApplicationField d (accessor.read {})
  | none => throw (str "unsupported application field: " ++ d.key)

def invalidProfileId : Bytes :=
  str "profile id must be 1-64 characters using letters, digits, ., _, or -"

/-- `apply_profile_field`. -/
def applyProfileField (d : ConfigurationFieldDescriptor) (value : ConfigurationFieldValue) :
    EStateM Bytes StoredProfile Unit := do
  demand (requireScope d .profile)
  demand (validateTypedValue d value)
  if d.key = str "id" then
    match value with
    | .text id =>
      rejectIf (isValidProfileId id = false) invalidProfileId
      modify fun p => { p with profileId := id }
    | _ => throw badVariantAccess
  else if d.key = str "enabled" then
    match value with
    | .flag b => modify fun p => { p with enabled := b }
    | _ => throw badVariantAccess
  else match Json.find d.key profileAccessors, value with
    | some (_, set), .text v => modify (set (some v))
    | some _, _ => throw badVariantAccess
    | none, _ => throw (str "unsupported profile field: " ++ d.key)

/-- `read_profile_field`. -/
def readProfileField (p : StoredProfile) (d : ConfigurationFieldDescriptor) :
    Except Bytes (Option ConfigurationFieldValue) := do
  requireScope d .profile
  if d.key = str "id" then return some (.text p.profileId)
  else if d.key = str "enabled" then return some (.flag p.enabled)
  else match Json.find d.key profileAccessors with
    | some (get, _) => return (get p).map .text
    | none => throw (str "unsupported profile field: " ++ d.key)

/-- `reset_profile_field`. -/
def resetProfileField (d : ConfigurationFieldDescriptor) : EStateM Bytes StoredProfile Unit := do
  demand (requireScope d .profile)
  if d.key = str "enabled" then modify fun p => { p with enabled := false }
  else if d.key = str "id" then throw (str "profile id cannot be unset")
  else match Json.find d.key profileAccessors with
    | some (get, set) =>
      if (get (← MonadState.get)).isSome then modify (set none)
      else throw (str "profile field is not set: " ++ d.key)
    | none => throw (str "profile field is not set: " ++ d.key)

end CcsTrans.Config
