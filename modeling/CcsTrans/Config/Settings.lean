import CcsTrans.Core.Path
import CcsTrans.Fallible
import CcsTrans.Text

/-!
The application settings and what makes them acceptable.
-/

namespace CcsTrans.Config

open CcsTrans.Text CcsTrans.Core CcsTrans.Fallible

structure ListenerSettings where
  host : Bytes := str "127.0.0.1"
  port : UInt16 := 15723
  deriving DecidableEq

structure RuntimeSettings where
  workerThreads : UInt32 := 32
  maxConnections : UInt32 := 64
  maxRequestBodySize : UInt64 := 100 * 1024 * 1024
  maxResponseBodySize : UInt64 := 100 * 1024 * 1024
  maxInflightBytes : UInt64 := 512 * 1024 * 1024
  metricsIntervalMs : UInt32 := 0
  deriving DecidableEq

structure TimeoutConfig where
  resolveMs : Int32 := 300000
  connectMs : Int32 := 300000
  sendMs : Int32 := 300000
  responseHeaderMs : Int32 := 300000
  streamIdleMs : Int32 := 300000
  totalMs : Int32 := 0
  deriving DecidableEq

structure LoggingSettings where
  path : Bytes := str "logs/ccs-trans.log"
  level : Bytes := str "info"
  body : Bool := true
  redactSensitive : Bool := false
  bodyLimit : UInt64 := 1024 * 1024
  queueCapacity : UInt64 := 16 * 1024 * 1024
  maxTotalSize : UInt64 := 2 * 1024 * 1024 * 1024
  flushIntervalMs : UInt32 := 100
  deriving DecidableEq

structure ApplicationSettings where
  listener : ListenerSettings := {}
  runtime : RuntimeSettings := {}
  timeouts : TimeoutConfig := {}
  logging : LoggingSettings := {}
  deriving DecidableEq

def kMaxWorkerThreads : UInt32 := 1024
def kMaxConnections : UInt32 := 65535
def kMaxBufferedBodySize : UInt64 := 1024 * 1024 * 1024
def kMinInflightMemoryBudget : UInt64 := 1024 * 1024
def kMaxInflightMemoryBudget : UInt64 := 64 * 1024 * 1024 * 1024
def kMaxLogBufferSize : UInt64 := 1024 * 1024 * 1024
def kMaxLogTotalSize : UInt64 := 1024 * 1024 * 1024 * 1024
def kLogRecordHeadroom : UInt64 := 1024 * 1024
def kJsonEscapeExpansion : UInt64 := 6
def kMaxFlushIntervalMs : UInt32 := 60000
def intMax : ℕ := 2147483647

/-- Why a setting or a profile is refused: the field as an editor names it, and the text. -/
structure Rejection where
  field : Bytes
  detail : Bytes
  deriving DecidableEq

/-- Refuse a field when it does not meet its condition. -/
def check (ok : Bool) (field detail : Bytes) : Except Rejection Unit :=
  if ok then .ok () else .error ⟨field, detail⟩

lemma check_eq_ok {ok : Bool} {field detail : Bytes} :
    check ok field detail = .ok () ↔ ok = true := by
  cases ok <;> simp [check]

lemma check_bind_eq_ok {α : Type} {ok : Bool} {field detail : Bytes} {f : Unit → Except Rejection α}
    {a : α} : (check ok field detail >>= f) = .ok a ↔ ok = true ∧ f () = .ok a := by
  cases ok <;> simp [check]

def levels : List Bytes := [str "trace", str "debug", str "info", str "warn", str "error"]

/-- The path of the log names a file. -/
def namesLogFile (path : Bytes) : Bool :=
  let file := Path.filename (Path.lexicallyNormal path)
  file != [] && file != str "." && file != str ".."

/-- A relative log path stays below the application root. -/
def staysBelowRoot (path : Bytes) : Bool :=
  let normal := Path.lexicallyNormal path
  Path.isAbsolute normal || (Path.elements normal).head? != some (str "..")

/-- One of the five timeouts that must not be zero. -/
def checkStageTimeout (field : Bytes) (value : Int32) : Except Rejection Unit :=
  check (0 < value.toInt) field (str "stage timeouts must be positive; total_ms may be 0")

/-- `validate_application_settings_impl`. -/
def validateSettingsImpl (a : ApplicationSettings) : Except Rejection Unit := do
  check (a.listener.host != [] && a.listener.host.length ≤ 255 &&
      !containsControl a.listener.host && !a.listener.host.any isSpace)
    (str "listener.host") (str "listener.host must be a non-empty host without whitespace")
  check (a.listener.port != 0)
    (str "listener.port") (str "listener.port must be between 1 and 65535")
  check (a.runtime.workerThreads != 0 && a.runtime.workerThreads ≤ kMaxWorkerThreads)
    (str "runtime.worker-threads")
    (str "runtime.worker_threads must be between 1 and " ++ decimal kMaxWorkerThreads.toNat)
  check (a.runtime.workerThreads ≤ a.runtime.maxConnections &&
      a.runtime.maxConnections ≤ kMaxConnections)
    (str "runtime.max-connections")
    (str "runtime.max_connections must be between worker_threads and " ++
      decimal kMaxConnections.toNat)
  check (a.runtime.maxRequestBodySize != 0 && a.runtime.maxRequestBodySize ≤ kMaxBufferedBodySize)
    (str "runtime.max-request-body-size")
    (str "runtime body size limits must be between 1 byte and 1 GiB")
  check (a.runtime.maxResponseBodySize != 0 &&
      a.runtime.maxResponseBodySize ≤ kMaxBufferedBodySize)
    (str "runtime.max-response-body-size")
    (str "runtime body size limits must be between 1 byte and 1 GiB")
  check (kMinInflightMemoryBudget ≤ a.runtime.maxInflightBytes &&
      a.runtime.maxInflightBytes ≤ kMaxInflightMemoryBudget)
    (str "runtime.max-inflight-bytes")
    (str "runtime.max_inflight_bytes must be between 1 MiB and 64 GiB")
  check (a.runtime.metricsIntervalMs.toNat ≤ intMax)
    (str "runtime.metrics-interval-ms")
    (str "runtime.metrics_interval_ms exceeds the supported integer range")
  checkStageTimeout (str "timeouts.resolve-ms") a.timeouts.resolveMs
  checkStageTimeout (str "timeouts.connect-ms") a.timeouts.connectMs
  checkStageTimeout (str "timeouts.send-ms") a.timeouts.sendMs
  checkStageTimeout (str "timeouts.response-header-ms") a.timeouts.responseHeaderMs
  checkStageTimeout (str "timeouts.stream-idle-ms") a.timeouts.streamIdleMs
  check (0 ≤ a.timeouts.totalMs.toInt)
    (str "timeouts.total-ms") (str "stage timeouts must be positive; total_ms may be 0")
  check (levels.contains a.logging.level)
    (str "logging.level") (str "logging.level must be one of trace, debug, info, warn, error")
  check (a.logging.path != [] && a.logging.path.length ≤ 32768 &&
      !containsControl a.logging.path)
    (str "logging.path") (str "logging.path must name a log file")
  check (namesLogFile a.logging.path)
    (str "logging.path") (str "logging.path must name a log file")
  check (staysBelowRoot a.logging.path)
    (str "logging.path") (str "relative logging.path must stay within the application root")
  check (a.logging.bodyLimit != 0 && a.logging.bodyLimit ≤ kMaxLogBufferSize)
    (str "logging.body-limit")
    (str "logging size fields must be 1 byte to 1 GiB and flush_interval_ms must be 1 to 60000")
  check (a.logging.queueCapacity != 0 && a.logging.queueCapacity ≤ kMaxLogBufferSize)
    (str "logging.queue-capacity")
    (str "logging size fields must be 1 byte to 1 GiB and flush_interval_ms must be 1 to 60000")
  check (a.logging.flushIntervalMs != 0 && a.logging.flushIntervalMs ≤ kMaxFlushIntervalMs)
    (str "logging.flush-interval-ms")
    (str "logging size fields must be 1 byte to 1 GiB and flush_interval_ms must be 1 to 60000")
  check (a.logging.maxTotalSize != 0 && a.logging.maxTotalSize ≤ kMaxLogTotalSize)
    (str "logging.max-total-size")
    (str "logging.max_total_size must be between 1 byte and 1 TiB")
  check (max a.logging.queueCapacity
      (a.logging.bodyLimit * kJsonEscapeExpansion + kLogRecordHeadroom) ≤ a.logging.maxTotalSize)
    (str "logging.max-total-size")
    (str "logging.max_total_size is too small for body_limit and queue_capacity")

/-- `validate_application_settings`. -/
def validateApplicationSettings (a : ApplicationSettings) : Except Bytes Unit :=
  match validateSettingsImpl a with
  | .ok _ => .ok ()
  | .error r => .error r.detail

/-- The default settings are accepted. -/
theorem validateSettingsImpl_default : validateSettingsImpl {} = .ok () := by
  decide

/-- `resolve_application_log_path`. -/
def resolveApplicationLogPath (a : ApplicationSettings) (applicationRoot : Bytes) :
    Except Bytes Bytes :=
  let parsed := Path.lexicallyNormal a.logging.path
  let outside : Except Bytes Bytes :=
    .error (str "relative logging.path must stay within the application root")
  if Path.isAbsolute parsed then .ok parsed
  else if parsed = [] ∨ (Path.elements parsed).head? = some (str "..") then outside
  else
    let root := Path.lexicallyNormal applicationRoot
    let resolved := Path.lexicallyNormal (Path.append root parsed)
    let relative := Path.lexicallyRelative resolved root
    if relative = [] ∨ relative = str "." ∨ (Path.elements relative).head? = some (str "..") then
      outside
    else .ok resolved

end CcsTrans.Config
