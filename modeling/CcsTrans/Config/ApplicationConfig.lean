import CcsTrans.Config.Codec
import CcsTrans.Json.Length

/-!
The v3 file of accepted settings reads back as these settings.
-/

namespace CcsTrans.Config

open CcsTrans.Text CcsTrans.Json CcsTrans.Fallible

/-! ### Accepted settings -/

/-- What the round trip uses of accepted settings. -/
structure SettingsOk (a : ApplicationSettings) : Prop where
  host : a.listener.host.length ≤ 255
  port : a.listener.port ≠ 0
  workers : a.runtime.workerThreads ≠ 0 ∧ a.runtime.workerThreads ≤ kMaxWorkerThreads
  connections : a.runtime.workerThreads ≤ a.runtime.maxConnections ∧
    a.runtime.maxConnections ≤ kMaxConnections
  request : a.runtime.maxRequestBodySize ≠ 0 ∧ a.runtime.maxRequestBodySize ≤ kMaxBufferedBodySize
  response : a.runtime.maxResponseBodySize ≠ 0 ∧
    a.runtime.maxResponseBodySize ≤ kMaxBufferedBodySize
  metrics : a.runtime.metricsIntervalMs.toNat ≤ intMax
  resolve : 0 < a.timeouts.resolveMs.toInt
  connect : 0 < a.timeouts.connectMs.toInt
  send : 0 < a.timeouts.sendMs.toInt
  header : 0 < a.timeouts.responseHeaderMs.toInt
  idle : 0 < a.timeouts.streamIdleMs.toInt
  total : 0 ≤ a.timeouts.totalMs.toInt
  level : a.logging.level ∈ levels
  path : a.logging.path.length ≤ 32768
  bodyLimit : a.logging.bodyLimit ≠ 0 ∧ a.logging.bodyLimit ≤ kMaxLogBufferSize
  queue : a.logging.queueCapacity ≠ 0 ∧ a.logging.queueCapacity ≤ kMaxLogBufferSize
  flush : a.logging.flushIntervalMs ≠ 0 ∧ a.logging.flushIntervalMs ≤ kMaxFlushIntervalMs
  totalSize : a.logging.maxTotalSize ≠ 0 ∧ a.logging.maxTotalSize ≤ kMaxLogTotalSize
  /-- The limit on bytes in flight is accepted by itself. -/
  inflight : ∀ n, kMinInflightMemoryBudget ≤ n → n ≤ kMaxInflightMemoryBudget →
    validateSettingsImpl { a with runtime := { a.runtime with maxInflightBytes := n } } = .ok ()

lemma settingsOk {a : ApplicationSettings} (h : validateSettingsImpl a = .ok ()) : SettingsOk a := by
  have h' := h
  simp only [validateSettingsImpl, checkStageTimeout, check_bind_eq_ok, check_eq_ok,
    Bool.and_eq_true, bne_iff_ne, decide_eq_true_eq, List.contains_iff_mem] at h
  obtain ⟨⟨⟨⟨-, hhost⟩, -⟩, -⟩, hport, hworkers, hconn, hreq, hresp, hinfl, hmetrics, hres, hcon, hsend,
    hhead, hidle, htotal, hlevel, ⟨⟨-, hpath⟩, -⟩, -, -, hbody, hqueue, hflush, htot, -⟩ := h
  refine ⟨hhost, hport, hworkers, hconn, hreq, hresp, hmetrics, hres, hcon, hsend, hhead, hidle,
    htotal, hlevel, hpath, hbody, hqueue, hflush, htot, fun n h1 h2 => ?_⟩
  simp only [validateSettingsImpl, checkStageTimeout, check_bind_eq_ok, check_eq_ok] at h' ⊢
  obtain ⟨c1, c2, c3, c4, c5, c6, -, rest⟩ := h'
  exact ⟨c1, c2, c3, c4, c5, c6, by simp [h1, h2], rest⟩

/-! ### The files as they read back -/

/-- A number that is not negative, as it reads back. -/
def readsAs (n : Int32) : Value := .uint n.toInt64.toInt.toNat.toUInt64

def readTimeoutsJson (s : TimeoutConfig) : Members :=
  [(str "connect_ms", readsAs s.connectMs), (str "resolve_ms", readsAs s.resolveMs),
   (str "response_header_ms", readsAs s.responseHeaderMs), (str "send_ms", readsAs s.sendMs),
   (str "stream_idle_ms", readsAs s.streamIdleMs), (str "total_ms", readsAs s.totalMs)]

/-- The root of the v2 file of settings, as it reads back. -/
def legacyRoot (a : ApplicationSettings) : Members :=
  [(str "listener", .obj (listenerJson a.listener)), (str "logging", .obj (loggingJson a.logging)),
    (str "profiles", .obj []), (str "runtime", .obj (runtimeJson a.runtime)),
    (str "schema_version", .str kSchemaVersion), (str "timeouts", .obj (readTimeoutsJson a.timeouts))]

def inflightRuntimeJson (s : RuntimeSettings) : Members :=
  [(str "max_connections", uint32 s.maxConnections),
   (str "max_inflight_bytes", .uint s.maxInflightBytes),
   (str "max_request_body_size", .uint s.maxRequestBodySize),
   (str "max_response_body_size", .uint s.maxResponseBodySize),
   (str "metrics_interval_ms", uint32 s.metricsIntervalMs),
   (str "worker_threads", uint32 s.workerThreads)]

/-- The root of the v3 file of settings. -/
def settingsRoot (a : ApplicationSettings) : Members :=
  [(str "listener", .obj (listenerJson a.listener)), (str "logging", .obj (loggingJson a.logging)),
    (str "runtime", .obj (inflightRuntimeJson a.runtime)),
    (str "schema_version", .str kApplicationConfigSchema),
    (str "timeouts", .obj (readTimeoutsJson a.timeouts))]

lemma canon_int32 {n : Int32} (h : 0 ≤ n.toInt) : canon (int32 n) = readsAs n := by
  have : 0 ≤ n.toInt64.toInt := by simpa using h
  rw [int32, canon, if_pos this]
  rfl

lemma canon_documentToJson {a : ApplicationSettings} (h : SettingsOk a) :
    canon (documentToJson { application := a }) = .obj (legacyRoot a) := by
  simp [documentToJson, legacyRoot, canon, canonMembers, listenerJson, loggingJson, runtimeJson,
    timeoutsJson, readTimeoutsJson, uint32, canon_int32 h.connect.le, canon_int32 h.resolve.le,
    canon_int32 h.header.le, canon_int32 h.send.le, canon_int32 h.idle.le, canon_int32 h.total]

lemma applicationRoot_legacyRoot (a : ApplicationSettings) :
    applicationRoot (legacyRoot a) a.runtime.maxInflightBytes = settingsRoot a := by
  rfl

lemma canon_settingsRoot (a : ApplicationSettings) :
    canon (.obj (settingsRoot a)) = .obj (settingsRoot a) := rfl

lemma canon_legacyRoot (a : ApplicationSettings) :
    canon (.obj (legacyRoot a)) = .obj (legacyRoot a) := rfl

lemma document_listenerJson (s : ListenerSettings) : Document (.obj (listenerJson s)) :=
  document_obj ((listenerJson {}).map Prod.fst) rfl (by decide) (by simp [listenerJson, Proper])

lemma document_loggingJson (s : LoggingSettings) : Document (.obj (loggingJson s)) :=
  document_obj ((loggingJson {}).map Prod.fst) rfl (by decide)
    (by simp [loggingJson, Proper, uint32])

lemma document_runtimeJson (s : RuntimeSettings) : Document (.obj (runtimeJson s)) :=
  document_obj ((runtimeJson {}).map Prod.fst) rfl (by decide)
    (by simp [runtimeJson, Proper, uint32])

lemma document_inflightRuntimeJson (s : RuntimeSettings) :
    Document (.obj (inflightRuntimeJson s)) :=
  document_obj ((inflightRuntimeJson {}).map Prod.fst) rfl (by decide)
    (by simp [inflightRuntimeJson, Proper, uint32])

lemma document_readTimeoutsJson (s : TimeoutConfig) : Document (.obj (readTimeoutsJson s)) :=
  document_obj ((readTimeoutsJson {}).map Prod.fst) rfl (by decide)
    (by simp [readTimeoutsJson, Proper, readsAs])

lemma document_timeoutsJson (s : TimeoutConfig) : Document (.obj (timeoutsJson s)) :=
  document_obj ((timeoutsJson {}).map Prod.fst) rfl (by decide)
    (by simp [timeoutsJson, Proper, int32])

lemma document_settingsRoot (a : ApplicationSettings) : Document (.obj (settingsRoot a)) := by
  refine document_obj ((settingsRoot {}).map Prod.fst) rfl (by decide) ?_
  simp only [settingsRoot, List.forall_mem_cons, document_listenerJson, document_loggingJson,
    document_inflightRuntimeJson, document_readTimeoutsJson, true_and]
  simp [Proper]

lemma document_legacyRoot (a : ApplicationSettings) : Document (.obj (legacyRoot a)) := by
  refine document_obj ((legacyRoot {}).map Prod.fst) rfl (by decide) ?_
  simp only [legacyRoot, List.forall_mem_cons, document_listenerJson, document_loggingJson,
    document_runtimeJson, document_readTimeoutsJson, true_and]
  simp [Proper]

/-! ### Reading -/

lemma readUnsigned_uint {ms : Members} {key : String} {path : Bytes} {n : UInt64} {maximum : ℕ}
    (h : find (str key) ms = some (.uint n)) (hle : n.toNat ≤ maximum) :
    readUnsigned ms key path maximum = .ok n := by
  simp only [readUnsigned, h, not_lt.mpr hle, if_false]

lemma readPositive_uint {ms : Members} {key : String} {path : Bytes} {n : UInt64} {maximum : ℕ}
    {expected : String} (h : find (str key) ms = some (.uint n)) (hle : n.toNat ≤ maximum)
    (h0 : n ≠ 0) : readPositive ms key path maximum expected = .ok n := by
  simp only [readPositive, readUnsigned_uint h hle, ok_bind, h0, if_false, pure_eq_ok]

lemma readTimeout_readsAs {ms : Members} {key : String} {n : Int32} {allowZero : Bool}
    (h : find (str key) ms = some (readsAs n)) (hn : 0 ≤ n.toInt)
    (hpos : allowZero = true ∨ 0 < n.toInt) : readTimeout ms key allowZero = .ok n := by
  have hmax := n.toInt_lt
  have hnat : (n.toInt64.toInt.toNat.toUInt64).toNat = n.toInt.toNat := by
    simp only [Int32.toInt_toInt64, Nat.toUInt64_eq, UInt64.toNat_ofNat']
    omega
  have hle : (n.toInt64.toInt.toNat.toUInt64).toNat ≤ intMax := by
    rw [hnat, intMax]
    omega
  have hzero : ¬ ((!allowZero && decide (n.toInt64.toInt.toNat.toUInt64 = 0)) = true) := by
    rcases hpos with rfl | hpos
    · simp
    · simp only [Bool.and_eq_true, decide_eq_true_eq, not_and]
      intro _ h0
      have := congrArg UInt64.toNat h0
      rw [hnat] at this
      simp only [UInt64.toNat_zero] at this
      omega
  have hback : Int32.ofNat (n.toInt64.toInt.toNat.toUInt64).toNat = n := by
    rw [hnat, ← Int32.toInt_inj, Int32.toInt_ofNat_of_lt (by omega)]
    omega
  simp only [readTimeout, readUnsigned_uint h hle, ok_bind, hzero, if_false, hback, pure_eq_ok,
    Bool.false_eq_true]

lemma checkObjectKeys_ok {ms : Members} {path : Bytes} {allowed required : List Bytes}
    (hallowed : (ms.map Prod.fst).all allowed.contains = true)
    (hrequired : required.all (ms.map Prod.fst).contains = true) :
    checkObjectKeys (.obj ms) path allowed required = .ok ms := by
  have h1 : ms.find? (fun m => !allowed.contains m.1) = none := by
    rw [List.find?_eq_none]
    intro m hm
    have := List.all_eq_true.mp hallowed m.1 (List.mem_map_of_mem hm)
    simpa using this
  have h2 : required.find? (fun k => !contains k ms) = none := by
    rw [List.find?_eq_none]
    intro k hk
    have := List.all_eq_true.mp hrequired k hk
    simpa using contains_of_mem (List.contains_iff_mem.mp this)
  simp only [checkObjectKeys, h1, h2]

lemma toUInt64_ne_zero_of_uint16 {n : UInt16} (h : n ≠ 0) : n.toUInt64 ≠ 0 := by
  intro h0
  apply h
  have := congrArg UInt64.toNat h0
  rw [← UInt16.toNat_inj]
  simpa using this

lemma toUInt64_ne_zero_of_uint32 {n : UInt32} (h : n ≠ 0) : n.toUInt64 ≠ 0 := by
  intro h0
  apply h
  have := congrArg UInt64.toNat h0
  rw [← UInt32.toNat_inj]
  simpa using this

lemma toNat_le_of_uint32 {n m : UInt32} (h : n ≤ m) : n.toUInt64.toNat ≤ m.toNat := by
  simpa using UInt32.le_iff_toNat_le.mp h

lemma readListener_legacyRoot {a : ApplicationSettings} (h : SettingsOk a) :
    readListener (legacyRoot a) = .ok a.listener := by
  have hkeys : checkObjectKeys (member (legacyRoot a) "listener") (str "$.listener") listenerKeys
      listenerKeys = .ok (listenerJson a.listener) := checkObjectKeys_ok rfl rfl
  have hhost : readString (listenerJson a.listener) "host" (str "$.listener") =
      .ok a.listener.host := rfl
  have hport : readPositive (listenerJson a.listener) "port" (str "$.listener") 65535
      " must be between 1 and 65535" = .ok a.listener.port.toUInt64 := by
    refine readPositive_uint rfl ?_ (toUInt64_ne_zero_of_uint16 h.port)
    have := a.listener.port.toNat_lt
    simp only [UInt16.toNat_toUInt64]
    omega
  simp [readListener, hkeys, hhost, hport]

lemma readRuntime_legacyRoot {a : ApplicationSettings} (h : SettingsOk a) :
    readRuntime (legacyRoot a) =
      .ok { a.runtime with maxInflightBytes := ({} : RuntimeSettings).maxInflightBytes } := by
  let ms := runtimeJson a.runtime
  have hkeys : checkObjectKeys (member (legacyRoot a) "runtime") (str "$.runtime") runtimeKeys
      runtimeKeys = .ok ms := checkObjectKeys_ok rfl rfl
  have hconn0 : a.runtime.maxConnections ≠ 0 := by
    intro h0
    have hle := UInt32.le_iff_toNat_le.mp h.connections.1
    have hne : a.runtime.workerThreads.toNat ≠ 0 := fun he =>
      h.workers.1 (UInt32.toNat_inj.mp (by simpa using he))
    rw [h0] at hle
    simp only [UInt32.toNat_zero] at hle
    omega
  have hworkers : readPositive ms "worker_threads" (str "$.runtime") kMaxWorkerThreads.toNat
      greaterThanZero = .ok a.runtime.workerThreads.toUInt64 :=
    readPositive_uint rfl (toNat_le_of_uint32 h.workers.2) (toUInt64_ne_zero_of_uint32 h.workers.1)
  have hconn : readPositive ms "max_connections" (str "$.runtime") kMaxConnections.toNat
      greaterThanZero = .ok a.runtime.maxConnections.toUInt64 :=
    readPositive_uint rfl (toNat_le_of_uint32 h.connections.2) (toUInt64_ne_zero_of_uint32 hconn0)
  have hreq : readPositive ms "max_request_body_size" (str "$.runtime") kMaxBufferedBodySize.toNat
      greaterThanZero = .ok a.runtime.maxRequestBodySize :=
    readPositive_uint rfl (UInt64.le_iff_toNat_le.mp h.request.2) h.request.1
  have hresp : readPositive ms "max_response_body_size" (str "$.runtime")
      kMaxBufferedBodySize.toNat greaterThanZero = .ok a.runtime.maxResponseBodySize :=
    readPositive_uint rfl (UInt64.le_iff_toNat_le.mp h.response.2) h.response.1
  have hmetrics : readUnsigned ms "metrics_interval_ms" (str "$.runtime") intMax =
      .ok a.runtime.metricsIntervalMs.toUInt64 :=
    readUnsigned_uint rfl (by simpa using h.metrics)
  simp [readRuntime, hkeys, hworkers, hconn, hreq, hresp, hmetrics]

lemma readTimeouts_legacyRoot {a : ApplicationSettings} (h : SettingsOk a) :
    readTimeouts (legacyRoot a) = .ok a.timeouts := by
  let ms := readTimeoutsJson a.timeouts
  have hkeys : checkObjectKeys (member (legacyRoot a) "timeouts") (str "$.timeouts") timeoutKeys
      timeoutKeys = .ok ms := checkObjectKeys_ok rfl rfl
  have hresolve : readTimeout ms "resolve_ms" false = .ok a.timeouts.resolveMs :=
    readTimeout_readsAs rfl h.resolve.le (.inr h.resolve)
  have hconnect : readTimeout ms "connect_ms" false = .ok a.timeouts.connectMs :=
    readTimeout_readsAs rfl h.connect.le (.inr h.connect)
  have hsend : readTimeout ms "send_ms" false = .ok a.timeouts.sendMs :=
    readTimeout_readsAs rfl h.send.le (.inr h.send)
  have hheader : readTimeout ms "response_header_ms" false = .ok a.timeouts.responseHeaderMs :=
    readTimeout_readsAs rfl h.header.le (.inr h.header)
  have hidle : readTimeout ms "stream_idle_ms" false = .ok a.timeouts.streamIdleMs :=
    readTimeout_readsAs rfl h.idle.le (.inr h.idle)
  have htotal : readTimeout ms "total_ms" true = .ok a.timeouts.totalMs :=
    readTimeout_readsAs rfl h.total (.inl rfl)
  simp [readTimeouts, hkeys, hresolve, hconnect, hsend, hheader, hidle, htotal]

lemma readLogging_legacyRoot {a : ApplicationSettings} (h : SettingsOk a) :
    readLogging (legacyRoot a) = .ok a.logging := by
  let ms := loggingJson a.logging
  have hkeys : checkObjectKeys (member (legacyRoot a) "logging") (str "$.logging") loggingKeys
      (loggingKeys.filter (· ≠ str "max_total_size")) = .ok ms := checkObjectKeys_ok rfl rfl
  have hpath : readString ms "path" (str "$.logging") = .ok a.logging.path := rfl
  have hlevel : readString ms "level" (str "$.logging") = .ok a.logging.level := rfl
  have hbody : readBool ms "body" (str "$.logging") = .ok a.logging.body := rfl
  have hredact : readBool ms "redact_sensitive" (str "$.logging") = .ok a.logging.redactSensitive :=
    rfl
  have hlimit : readPositive ms "body_limit" (str "$.logging") kMaxLogBufferSize.toNat
      greaterThanZero = .ok a.logging.bodyLimit :=
    readPositive_uint rfl (UInt64.le_iff_toNat_le.mp h.bodyLimit.2) h.bodyLimit.1
  have hqueue : readPositive ms "queue_capacity" (str "$.logging") kMaxLogBufferSize.toNat
      greaterThanZero = .ok a.logging.queueCapacity :=
    readPositive_uint rfl (UInt64.le_iff_toNat_le.mp h.queue.2) h.queue.1
  have hthere : contains (str "max_total_size") ms = true := rfl
  have htotal : readPositive ms "max_total_size" (str "$.logging") kMaxLogTotalSize.toNat
      greaterThanZero = .ok a.logging.maxTotalSize :=
    readPositive_uint rfl (UInt64.le_iff_toNat_le.mp h.totalSize.2) h.totalSize.1
  have hflush : readPositive ms "flush_interval_ms" (str "$.logging") kMaxFlushIntervalMs.toNat
      greaterThanZero = .ok a.logging.flushIntervalMs.toUInt64 :=
    readPositive_uint rfl (toNat_le_of_uint32 h.flush.2) (toUInt64_ne_zero_of_uint32 h.flush.1)
  simp only [readLogging, hkeys, ok_bind, hpath, hlevel, hbody, hredact, hlimit, hqueue, hthere,
    if_true, htotal, hflush, pure_eq_ok, UInt32.toUInt32_toUInt64]

section Files

variable [Library]

/-- The text of a document, with a line break after it, is read. -/
lemma parseRoot_text {v : Value} {ms : Members} {text : Bytes} {step : Option ℕ} {r : Bytes}
    (hdoc : Document v) (hcanon : canon v = .obj ms) (htext : dumpAt step 0 v = some text)
    (hr : Ends r) (hskip : skip false r = .ok [])
    (hlen : (text ++ r).length ≤ kMaxConfigDocumentBytes) : parseRoot (text ++ r) = .ok ms := by
  have htree := parseTree_dumpAt (c := false) htext hr hskip
  have hproper := proper_canon hdoc
  rw [hcanon] at htree hproper
  simp only [parseRoot, not_lt.mpr hlen, if_false, htree, duplicateKey_proper hproper,
    toDom_proper hproper]

omit [Library] in
lemma length_of_mem_levels {level : Bytes} (h : level ∈ levels) : level.length ≤ 5 := by
  revert level
  decide

/-- A v2 file of accepted settings is far below the limit. -/
lemma widthAt_legacyRoot {a : ApplicationSettings} (h : SettingsOk a) :
    widthAt 0 0 (.obj (legacyRoot a)) ≤ kMaxConfigDocumentBytes := by
  have hlevel := length_of_mem_levels h.level
  have hhost := h.host
  have hpath := h.path
  simp only [legacyRoot, widthAt, widthMembers, listenerJson, loggingJson, runtimeJson,
    readTimeoutsJson, uint32, readsAs, str, List.length_map, kSchemaVersion,
    kMaxConfigDocumentBytes]
  simp
  omega

/-- What is written for settings: they are accepted, and the text is that of their root. -/
lemma serializeApplication_ok {a : ApplicationSettings} {u : Bytes}
    (h : serializeApplicationConfigDocument a = .ok u) :
    validateSettingsImpl a = .ok () ∧ ∃ text, dumpPretty (.obj (settingsRoot a)) = some text ∧
      u = text ++ [ch '\n'] ∧ u.length ≤ kMaxConfigDocumentBytes := by
  unfold serializeApplicationConfigDocument at h
  obtain ⟨_, hval, h⟩ := bind_eq_ok.mp h
  obtain ⟨legacy, hlegacy, h⟩ := bind_eq_ok.mp h
  have hsettings : validateSettingsImpl a = .ok () := by
    unfold validateApplicationSettings at hval
    split at hval
    · next heq => exact heq
    · cases hval
  have hok := settingsOk hsettings
  have hparse : parse legacy = .ok (.obj (legacyRoot a)) := by
    unfold serializeConfigDocument at hlegacy
    obtain ⟨_, -, hlegacy⟩ := bind_eq_ok.mp hlegacy
    split at hlegacy
    · cases hlegacy
    next text htext =>
    dsimp only at hlegacy
    split at hlegacy
    · cases hlegacy
    cases hlegacy
    have htree := parseTree_dumpPretty (c := false) htext
    rw [parse, htree, map_ok, canon_documentToJson hok, toDom_proper (document_legacyRoot a)]
  rw [hparse] at h
  simp only [applicationRoot_legacyRoot] at h
  split at h
  · cases h
  next text htext =>
  split at h
  · cases h
  next hlen =>
  cases h
  exact ⟨hsettings, text, htext, rfl, not_lt.mp hlen⟩

omit [Library] in
lemma validateConfigDocument_settings {a : ApplicationSettings}
    (h : validateSettingsImpl a = .ok ()) : validateConfigDocument { application := a } = .ok () := by
  simp [validateConfigDocument, validateDocument, h, validateProfiles, routeCount]

/-- The v2 file that a v3 file of accepted settings is translated to. -/
lemma parseConfigDocument_legacyRoot {a : ApplicationSettings} {text : Bytes}
    (ha : validateSettingsImpl a = .ok ()) (htext : dump (.obj (legacyRoot a)) = some text) :
    parseConfigDocument text = .ok { application := { a with
      runtime := { a.runtime with
        maxInflightBytes := ({} : RuntimeSettings).maxInflightBytes } } } := by
  have hok := settingsOk ha
  have hlen : text.length ≤ kMaxConfigDocumentBytes :=
    (length_dump_le htext).trans (widthAt_legacyRoot hok)
  have hroot : parseRoot text = .ok (legacyRoot a) := by
    have := parseRoot_text (document_legacyRoot a) (canon_legacyRoot a) htext ends_nil rfl
      (by simpa using hlen)
    simpa using this
  have hversion : find (str "schema_version") (legacyRoot a) = some (.str kSchemaVersion) := rfl
  have hkeys : checkObjectKeys (.obj (legacyRoot a)) (str "$") documentKeys documentKeys =
      .ok (legacyRoot a) := checkObjectKeys_ok rfl rfl
  have hprofiles : find (str "profiles") (legacyRoot a) = some (.obj []) := rfl
  have hdoc := validateConfigDocument_settings
    (hok.inflight ({} : RuntimeSettings).maxInflightBytes (by decide) (by decide))
  simp only [parseConfigDocument, hroot, ok_bind, hversion, ne_eq, not_true_eq_false, if_false,
    hkeys, readRequiredApplicationSettings, readListener_legacyRoot hok, readRuntime_legacyRoot hok,
    readTimeouts_legacyRoot hok, readLogging_legacyRoot hok, pure_eq_ok, hprofiles]
  simp only [List.length_nil, parseProfiles, Nat.not_lt_zero, if_false, ok_bind, hdoc,
    gt_iff_lt]

omit [Library] in
lemma writable_legacyRoot {a : ApplicationSettings} (h : Writable (.obj (settingsRoot a))) :
    Writable (.obj (legacyRoot a)) := by
  have hparts := (proper_obj.mp h).2
  have hlistener : Writable (.obj (listenerJson a.listener)) :=
    (hparts (str "listener", _) (by simp [settingsRoot])).2
  have hlogging : Writable (.obj (loggingJson a.logging)) :=
    (hparts (str "logging", _) (by simp [settingsRoot])).2
  have htimeouts : Writable (.obj (readTimeoutsJson a.timeouts)) :=
    (hparts (str "timeouts", _) (by simp [settingsRoot])).2
  have hruntime : Writable (.obj (runtimeJson a.runtime)) :=
    proper_of_names ((runtimeJson {}).map Prod.fst) rfl (by decide) (by decide)
      (by simp [runtimeJson, Proper, uint32])
  refine proper_of_names ((legacyRoot {}).map Prod.fst) rfl (by decide) (by decide) ?_
  simp only [legacyRoot, List.forall_mem_cons, hlistener, hlogging, htimeouts, hruntime, true_and]
  refine ⟨by simp [Proper, ProperMembers], ?_, by simp⟩
  show validUtf8 kSchemaVersion = true
  decide

/-- **Settings that are written are read back.** -/
theorem parse_serializeApplication {a : ApplicationSettings} {u : Bytes}
    (h : serializeApplicationConfigDocument a = .ok u) :
    parseApplicationConfigDocument u = .ok a ∧ detectConfigSchema u = .ok .v3 ∧
      u.length ≤ kMaxConfigDocumentBytes := by
  obtain ⟨ha, text, htext, rfl, hlen⟩ := serializeApplication_ok h
  have hdoc := document_settingsRoot a
  have hroot : parseRoot (text ++ [ch '\n']) = .ok (settingsRoot a) :=
    parseRoot_text hdoc (canon_settingsRoot a) htext (ends_cons [] (by decide)) rfl hlen
  have hversion : find (str "schema_version") (settingsRoot a) = some (.str kApplicationConfigSchema) :=
    rfl
  refine ⟨?_, ?_, hlen⟩
  · have hexact : exactRootKeys (settingsRoot a) = .ok () := rfl
    have hruntime : find (str "runtime") (settingsRoot a) =
        some (.obj (inflightRuntimeJson a.runtime)) := rfl
    have hinflight : find (str "max_inflight_bytes") (inflightRuntimeJson a.runtime) =
        some (.uint a.runtime.maxInflightBytes) := rfl
    have htranslated : insertMember (str "profiles") (.obj [])
        (replace (str "schema_version") (.str kSchemaVersion) (replace (str "runtime")
          (.obj (erase (str "max_inflight_bytes") (inflightRuntimeJson a.runtime)))
          (settingsRoot a))) = legacyRoot a := rfl
    have hwritable := writable_legacyRoot (writable_of_dumpAt hdoc htext)
    obtain ⟨text', htext'⟩ := dumpAt_writable hwritable none 0
    have hvalid : validateApplicationSettings a = .ok () := by
      simp [validateApplicationSettings, ha]
    simp only [parseApplicationConfigDocument, hroot, ok_bind, hversion, ne_eq, not_true_eq_false,
      if_false, hexact, hruntime, hinflight, htranslated]
    rw [show dump (.obj (legacyRoot a)) = some text' from htext']
    simp only [parseConfigDocument_legacyRoot ha htext', hvalid, ok_bind, pure_eq_ok]
  · simp only [detectConfigSchema, hroot, ok_bind, hversion]
    rfl

end Files

end CcsTrans.Config
