import CcsTrans.Config.Agreement
import CcsTrans.Config.DocumentCodec
import CcsTrans.Server.Processing
import CcsTrans.Server.RequestHead
import CcsTrans.Server.Ways
import Mathlib.Algebra.Order.BigOperators.Group.List

/-!
The records of a request fit the log.

A byte takes at most six in a record. The limit of the log leaves six times the limit of bodies
and a mebibyte. The query and the headers of a request come out of one head, so that together
they take at most six times its 64 KiB; everything else in a record is bounded by what is
accepted of a configuration.
-/

namespace CcsTrans.Server

open CcsTrans.Text CcsTrans.Config CcsTrans.Core CcsTrans.Json CcsTrans.Protocols CcsTrans.Routing
open CcsTrans.Rules CcsTrans.Logging CcsTrans.Procs CcsTrans.Fallible

/-! ### The surroundings -/

/-- `proxy_mode`, of each transport. -/
def proxyModes : List Bytes := [str "windows_system", str "macos_environment", str "unsupported"]

/-- `std::hex`. -/
def hexadecimal (n : UInt64) : Bytes := (Nat.toDigits 16 n.toNat).map ch

/-- `make_request_id`, of the time, the thread and a counter. -/
def makeRequestId (millis thread seq : UInt64) : Bytes :=
  str "req_" ++ hexadecimal millis ++ str "_" ++ hexadecimal thread ++ str "_" ++ hexadecimal seq

/-- `NI_MAXHOST`, with which the address of a client is written. -/
def kMaxHost : ℕ := 1025

/-- The check at the head of `FileLogSink::write`. -/
def writeRefusal (maxTotalSize : UInt64) (data : Bytes) : Option Bytes :=
  if data.length > maxTotalSize.toNat then
    some (str "log record exceeds the configured total size limit")
  else none

/-- What stands in a record without quotes has at most 20 characters: a `long long`, or a bool. -/
def Printed (record : LogRecord) : Prop :=
  ∀ field ∈ record.fields, ∀ text, field.value = .plain text → text.length ≤ 20

/-- The records of what has come in and of what goes out. -/
def requestReceived : Bytes := str "request_received"
def upstreamRequest : Bytes := str "upstream_request"

/-- What a program may call: a record of these two is one that the log takes. -/
def Fits (g : Generation) : Op → Prop
  | .log record => record.event = requestReceived ∨ record.event = upstreamRequest →
      Printed record → ∀ timestamp : Bytes, timestamp.length = timestampSize →
        (∀ b ∈ timestamp, escapedByteSize b = 1) →
        writeRefusal g.logging.maxTotalSize (renderLine timestamp record) = none
  | _ => True

/-! ### Sizes -/

lemma escapedByteSize_le (b : UInt8) : escapedByteSize b ≤ 6 := by
  unfold escapedByteSize
  split_ifs <;> omega

lemma escapedSize_le (s : Bytes) : escapedSize s ≤ 6 * s.length := by
  induction s with
  | nil => simp [escapedSize]
  | cons b t ih =>
    have hb := escapedByteSize_le b
    simp only [escapedSize, List.map_cons, List.sum_cons, List.length_cons] at ih ⊢
    omega

/-- What the headers of a request take of its head: a name, a colon, a value and a line break. -/
def headerBytes (headers : Headers) : ℕ :=
  (headers.map fun header => header.1.length + header.2.length + 3).sum

lemma escapedSize_shown_le (redactSensitive : Bool) (header : Bytes × Bytes) :
    escapedSize (shown redactSensitive header) ≤ 6 * header.2.length + 3 := by
  unfold shown
  split_ifs
  · have : escapedSize (str "***") = 3 := rfl
    omega
  · have := escapedSize_le header.2
    omega

lemma headersSize_le (headers : Headers) (redactSensitive : Bool) :
    headersSize headers redactSensitive ≤ 2 + 6 * headerBytes headers := by
  have hsum : headers.length + (headers.map fun header =>
      5 + escapedSize header.1 + escapedSize (shown redactSensitive header)).sum ≤
        6 * headerBytes headers := by
    induction headers with
    | nil => simp [headerBytes]
    | cons header headers ih =>
      have hname := escapedSize_le header.1
      have hvalue := escapedSize_shown_le redactSensitive header
      simp only [headerBytes, List.map_cons, List.sum_cons, List.length_cons] at ih ⊢
      omega
  unfold headersSize
  omega

/-- The bound of a field: its name has at most 24 bytes. -/
def fieldBound (field : LogField) : ℕ :=
  148 + match field.value with
    | .quoted text => 2 + 6 * text.length
    | .plain _ => 20
    | .headers headers _ => 2 + 6 * headerBytes headers

/-- The names of the fields of a record are short. -/
def Named (fields : List LogField) : Prop := ∀ field ∈ fields, field.name.length ≤ 24

lemma fieldSize_le {field : LogField} (hname : field.name.length ≤ 24)
    (hplain : ∀ text, field.value = .plain text → text.length ≤ 20) :
    fieldSize field ≤ fieldBound field := by
  have hescaped := escapedSize_le field.name
  unfold fieldSize fieldBound
  cases hvalue : field.value with
  | quoted text =>
    have := escapedSize_le text
    dsimp only
    omega
  | plain text =>
    have := hplain text hvalue
    dsimp only
    omega
  | headers headers redactSensitive =>
    have := headersSize_le headers redactSensitive
    dsimp only
    omega

lemma renderedLineSize_le {record : LogRecord} (hprinted : Printed record)
    (hnamed : Named record.fields) : renderedLineSize record ≤
      57 + 6 * record.level.length + 6 * record.event.length +
        (record.fields.map fieldBound).sum := by
  have hlevel := escapedSize_le record.level
  have hevent := escapedSize_le record.event
  have hfields : (record.fields.map fieldSize).sum ≤ (record.fields.map fieldBound).sum :=
    List.sum_le_sum fun field hmem => fieldSize_le (hnamed field hmem) (hprinted field hmem)
  have htime : timestampSize = 23 := rfl
  unfold renderedLineSize
  omega

/-! ### What comes out of a head -/

lemma length_trim_le (s : Bytes) : (trim s).length ≤ s.length := by
  have hfirst := (List.dropWhile_sublist (l := s) isSpace).length_le
  have hsecond := (List.dropWhile_sublist (l := (s.dropWhile isSpace).reverse) isSpace).length_le
  rw [List.length_reverse] at hsecond
  rw [trim, List.length_reverse]
  omega

/-- The lines of a head, each with its line break, are the head and one line break more. -/
lemma length_headLines (s : Bytes) : ((headLines s).map fun line => line.length + 2).sum = s.length + 2 := by
  fun_induction headLines s with
  | case1 => rfl
  | case2 b => rfl
  | case3 b c t h ih =>
    simp only [List.map_cons, List.sum_cons, List.length_nil, List.length_cons] at ih ⊢
    omega
  | case4 b c t h hnil ih =>
    rw [hnil] at ih
    simp at ih
  | case5 b c t h line lines hlines ih =>
    rw [hlines] at ih
    simp only [List.map_cons, List.sum_cons, List.length_cons] at ih ⊢
    omega

/-- The headers that are read stand in the lines. -/
lemma headerBytes_le {lines : List Bytes} {headers : Headers}
    (h : parseHeaders lines = .ok headers) :
    headerBytes headers ≤ (lines.map fun line => line.length + 2).sum := by
  induction lines generalizing headers with
  | nil =>
    cases h
    simp [headerBytes]
  | cons line lines ih =>
    unfold parseHeaders at h
    split_ifs at h with hline
    · cases h
      simp [headerBytes]
    · split at h
      · cases h
      next name rest hcut =>
        dsimp only at h
        split_ifs at h
        obtain ⟨headers', hrest, rfl⟩ := map_eq_ok.mp h
        have hlength := congrArg List.length (cut_eq hcut)
        have hcolon : (str ":").length = 1 := rfl
        have hvalue := length_trim_le rest
        have := ih hrest
        simp only [headerBytes, List.map_cons, List.sum_cons, List.length_append] at this hlength ⊢
        omega

/-- The method, the query and the headers of a request have room in its head. -/
lemma length_of_parse {rawHead clientIp : Bytes} {request : HttpRequest}
    (h : parseRequestHead rawHead clientIp = .ok request) :
    request.method.length + request.query.length + headerBytes request.headers ≤ rawHead.length ∧
      request.clientIp = clientIp := by
  have hread := readHead_of_parse h
  obtain ⟨lines, hlines⟩ := headLines_head rawHead
  have hsum := length_headLines rawHead
  have htarget : request.query.length ≤ request.target.length := by
    rcases hread.target with ⟨-, hquery⟩ | htarget
    · simp [hquery]
    · rw [htarget]
      simp only [List.length_append, List.length_cons]
      omega
  have hline := congrArg List.length hread.line
  simp only [List.length_append, List.length_cons] at hline
  rw [hlines] at hsum
  simp only [List.map_cons, List.sum_cons] at hsum
  have hheaders : headerBytes request.headers ≤ (lines.map fun line => line.length + 2).sum ∧
      request.clientIp = clientIp := by
    unfold parseRequestHead at h
    dsimp only at h
    rw [hlines] at h
    dsimp only at h
    split at h
    next method target version hsplit =>
      split_ifs at h
      obtain ⟨headers, hparsed, rfl⟩ := map_eq_ok.mp h
      obtain ⟨-, -, -, hkept⟩ := splitTarget_keeps { method, target, version, headers, clientIp }
      rw [hkept]
      refine ⟨headerBytes_le hparsed, ?_⟩
      unfold splitTarget
      split <;> rfl
    · cases h
  exact ⟨by omega, hheaders.2⟩

/-! ### What is accepted of a configuration -/

/-- The texts of a route that stand in records. -/
structure RouteBounds (route : RouteEntry) : Prop where
  profile : route.profile.id.length ≤ 64
  protocol : route.profile.handler.id.length ≤ 64
  baseUrl : route.upstream.baseUrl.length ≤ kMaxUrlBytes
  path : route.upstream.path.length ≤ 2048

lemma length_of_stableId {value : Bytes} {lowerCaseOnly allowDot : Bool}
    (h : validStableId value lowerCaseOnly allowDot = true) : value.length ≤ 64 := by
  simp only [validStableId, Bool.and_eq_true, decide_eq_true_eq] at h
  exact h.1.1.2

lemma length_of_canonicalize {path canonical : Bytes}
    (h : canonicalizeHttpPath path = .ok canonical) : path.length ≤ 2048 := by
  obtain ⟨n, hn, -⟩ := canonicalizeHttpPath_ok_iff.mp h
  exact hn.length

lemma length_canonical_le {path n : Bytes} (h : Canonical path n) : n.length ≤ path.length := by
  induction h with
  | nil => rfl
  | byte _ _ _ ih => simpa using ih
  | decoded _ _ _ _ _ ih =>
    simp only [List.length_cons]
    omega
  | kept _ _ _ _ _ ih =>
    simp only [List.length_cons]
    omega

lemma length_of_canonicalize_right {path canonical : Bytes}
    (h : canonicalizeHttpPath path = .ok canonical) : canonical.length ≤ 2048 := by
  obtain ⟨n, hn, rfl⟩ := canonicalizeHttpPath_ok_iff.mp h
  have hle := length_canonical_le hn.canonical
  have hlength := hn.length
  unfold closed
  split_ifs
  · rw [List.length_dropLast]
    omega
  · omega

lemma length_of_validateBaseUrl {value label : Bytes} (h : validateBaseUrl value label = .ok ()) :
    value.length ≤ kMaxUrlBytes := by
  unfold validateBaseUrl at h
  by_contra hlong
  rw [if_pos (.inr (.inl (by omega)))] at h
  cases h

lemma length_getD_le {value : Option Bytes} {n : ℕ} (h : ∀ v, value = some v → v.length ≤ n) :
    (value.getD []).length ≤ n := by
  cases value with
  | none => simp
  | some v => exact h v rfl

lemma compileProfile_valid {protocols : ProtocolRegistry} {rules : RuleRegistry} {id : Bytes}
    {d : ProfileDefinition} {profile : RuntimeProfile}
    (h : compileProfile protocols rules id d = .ok profile) :
    validateProfileDefinition id d true = .ok () := by
  unfold compileProfile at h
  dsimp only at h
  split at h
  · cases h
  next handler hfind =>
    split at h
    · cases h
    next hvalid =>
      obtain ⟨-, hprofile⟩ := ProtocolRegistry.validateProfile_ok hvalid
      obtain ⟨_, hdefinition, -⟩ := bind_eq_ok.mp hprofile
      exact hdefinition

/-- What an accepted profile has upstream. -/
lemma upstreamTarget_bounds {id : Bytes} {d : ProfileDefinition}
    (h : validateProfileDefinition id d true = .ok ()) (kind : RouteKind) :
    (upstreamTarget kind d).baseUrl.length ≤ kMaxUrlBytes ∧
      (upstreamTarget kind d).path.length ≤ 2048 ∧
      ∀ protocol, d.protocol = some protocol → protocol.length ≤ 64 := by
  unfold validateProfileDefinition at h
  split at h
  next hv =>
    unfold validateProfileImpl at hv
    obtain ⟨_, -, hv⟩ := bind_eq_ok.mp hv
    obtain ⟨_, hprotocol, hv⟩ := bind_eq_ok.mp hv
    obtain ⟨_, -, hv⟩ := bind_eq_ok.mp hv
    obtain ⟨_, -, hv⟩ := bind_eq_ok.mp hv
    obtain ⟨_, hbase, hv⟩ := bind_eq_ok.mp hv
    obtain ⟨_, hrequest, hv⟩ := bind_eq_ok.mp hv
    obtain ⟨_, husage, hv⟩ := bind_eq_ok.mp hv
    refine ⟨length_getD_le fun url hurl => ?_, ?_, fun protocol hp => ?_⟩
    · have hchecked := checkOptional_ok hbase hurl
      exact length_of_validateBaseUrl hchecked
    · cases kind with
      | request =>
        refine length_getD_le fun path hpath => ?_
        obtain ⟨_, hc, -⟩ := checkRoute_ok hrequest hpath
        exact length_of_canonicalize hc
      | usage =>
        refine length_getD_le fun path hpath => ?_
        obtain ⟨_, hc, -⟩ := checkRoute_ok husage hpath
        exact length_of_canonicalize hc
    · have hid := check_eq_ok.mp hprotocol
      rw [hp] at hid
      exact length_of_stableId hid
  · cases h

/-- The routes of a runtime that was compiled, and the settings it was compiled with. -/
lemma bounds_of_compile {c : RuntimeCompiler} {d : ConfigDocument}
    {options : RuntimeCompileOptions} {snapshot : RuntimeSnapshot}
    (h : c.compile d options = .ok snapshot) :
    validateSettingsImpl d.application = .ok () ∧ ∀ m p e canonical,
      snapshot.routes.lookup m p = .matched e canonical → RouteBounds e ∧ canonical.length ≤ 2048 := by
  constructor
  · unfold RuntimeCompiler.compile at h
    split at h
    · cases h
    · split at h
      · cases h
      · cases h
      · obtain ⟨_, hdocument, -⟩ := bind_eq_ok.mp h
        unfold validateConfigDocument at hdocument
        split at hdocument
        next hvalid => exact (validateDocument_parts hvalid).1
        · cases hdocument
  · intro m p e canonical hlookup
    obtain ⟨protocols, rules, selected, s, -, -, -, hempty, hcompiled⟩ := RuntimeCompiler.compile_ok h
    have hserves : Serves s.routes (fun _ => False) := by
      intro m c e
      simp [hempty, RouteTable.entryAt, Json.find]
    obtain ⟨hc, hentry⟩ := RouteTable.lookup_matched.mp hlookup
    obtain ⟨hfalse | ⟨⟨id, d⟩, -, kind, hroute⟩, -, -⟩ :=
      ((compileProfiles_serves hserves hcompiled).1 _ _ _).mp hentry
    · exact hfalse.elim
    · have hprofile := hroute.profile_eq
      have hvalid := compileProfile_valid hprofile
      obtain ⟨-, -, -, hupstream⟩ := (isRoute_iff hprofile).mp hroute
      obtain ⟨hid, hprotocol, -⟩ := compileProfile_complete hprofile
      obtain ⟨hbase, hpath, hlength⟩ := upstreamTarget_bounds hvalid kind
      refine ⟨⟨?_, hlength _ hprotocol, by rw [hupstream]; exact hbase,
        by rw [hupstream]; exact hpath⟩, length_of_canonicalize_right hc⟩
      rw [hid]
      exact length_of_stableId (validateProfileDefinition_ok hvalid).1

/-- What the log leaves for a record. -/
lemma room_of_settings {a : ApplicationSettings} (h : validateSettingsImpl a = .ok ()) :
    6 * a.logging.bodyLimit.toNat + 1048576 ≤ a.logging.maxTotalSize.toNat := by
  have hlimit := (settingsOk h).bodyLimit.2
  simp only [validateSettingsImpl, checkStageTimeout, check_bind_eq_ok, check_eq_ok,
    decide_eq_true_eq] at h
  obtain ⟨-, -, -, -, -, -, -, -, -, -, -, -, -, -, -, -, -, -, -, -, -, -, hroom⟩ := h
  have hmax : (a.logging.bodyLimit * kJsonEscapeExpansion + kLogRecordHeadroom).toNat ≤
      a.logging.maxTotalSize.toNat := by
    rw [show ∀ x y : UInt64, max x y = if x ≤ y then y else x from fun _ _ => rfl] at hroom
    split_ifs at hroom with hle
    · exact UInt64.le_iff_toNat_le.mp hroom
    · rw [UInt64.le_iff_toNat_le] at hle hroom
      omega
  have hsix : kJsonEscapeExpansion.toNat = 6 := rfl
  have hheadroom : kLogRecordHeadroom.toNat = 1048576 := rfl
  have hbuffer : kMaxLogBufferSize.toNat = 1073741824 := rfl
  rw [UInt64.le_iff_toNat_le, hbuffer] at hlimit
  rw [UInt64.toNat_add, UInt64.toNat_mul, hsix, hheadroom] at hmax
  omega

/-! ### The two records -/

section Records

variable {g : Generation} {n : Names} {route : RouteEntry} {request : HttpRequest}

/-- What bounds the records of a request. -/
structure RequestBounds (g : Generation) (n : Names) (request : HttpRequest) : Prop where
  room : 6 * g.logging.bodyLimit.toNat + 1048576 ≤ g.logging.maxTotalSize.toNat
  proxyMode : g.proxyMode.length ≤ 17
  requestId : n.requestId.length ≤ 54
  profileId : n.profileId.length ≤ 64
  protocolId : n.protocolId.length ≤ 64
  routeKind : n.routeKind.length ≤ 7
  head : request.method.length + request.query.length + headerBytes request.headers ≤ kHeaderLimit
  clientIp : request.clientIp.length ≤ kMaxHost

lemma sum_bodyFields_le (g : Generation) (body : Bytes) :
    ((bodyFields g body).map fieldBound).sum ≤ 486 + 6 * g.logging.bodyLimit.toNat := by
  have htake : (body.take g.logging.bodyLimit.toNat).length ≤ g.logging.bodyLimit.toNat := by
    rw [List.length_take]
    omega
  unfold bodyFields
  split_ifs
  · simp only [List.map_cons, List.map_nil, List.sum_cons, List.sum_nil, fieldBound, fieldNumber,
      fieldString, fieldBool]
    omega
  · simp only [List.map_cons, List.map_nil, List.sum_cons, List.sum_nil, fieldBound, fieldNumber]
    omega

lemma sum_names_le (h : RequestBounds g n request) : (n.fields.map fieldBound).sum ≤ 1902 := by
  obtain ⟨-, -, hrequest, hprofile, hprotocol, hkind, -, -⟩ := h
  simp only [Names.fields, List.map_cons, List.map_nil, List.sum_cons, List.sum_nil, fieldBound,
    fieldNumber, fieldString]
  omega

lemma Named.append {fields fields' : List LogField} (h : Named fields) (h' : Named fields') :
    Named (fields ++ fields') := List.forall_mem_append.mpr ⟨h, h'⟩

lemma named_names (n : Names) : Named n.fields := by
  simp only [Named, Names.fields, fieldString, fieldNumber, List.forall_mem_cons]
  decide

lemma named_bodyFields (g : Generation) (body : Bytes) : Named (bodyFields g body) := by
  have hsize : (str "body_size").length ≤ 24 := by decide
  unfold bodyFields
  refine List.forall_mem_cons.mpr ⟨hsize, ?_⟩
  split_ifs
  · simp only [fieldString, fieldBool, List.forall_mem_cons]
    decide
  · exact List.forall_mem_nil _

/-- A record that is small enough is taken. -/
lemma fits_of_sum_le (h : RequestBounds g n request) {level event : Bytes} {fields : List LogField}
    (hlevel : level.length ≤ 4) (hevent : event.length ≤ 16) (hnamed : Named fields)
    (hsum : (fields.map fieldBound).sum ≤ 1000000 + 6 * g.logging.bodyLimit.toNat) :
    Fits g (.log ⟨level, event, fields⟩) := by
  intro _ hprinted timestamp hlength hplain
  have hsize := renderedLineSize_le hprinted hnamed
  have hroom := h.room
  dsimp only at hsize
  rw [writeRefusal, length_renderLine hlength hplain, if_neg]
  omega

/-- The record of what has come in. -/
lemma fits_requestReceived (h : RequestBounds g n request) {canonicalPath : Bytes}
    (hpath : canonicalPath.length ≤ 2048) :
    Fits g (.log ⟨str "info", str "request_received", n.fields ++
      [fieldString (str "method") request.method, fieldString (str "local_path") canonicalPath,
       fieldString (str "query") request.query, fieldString (str "client_ip") request.clientIp,
       fieldHeaders (str "headers") request.headers g.logging.redactSensitive] ++
      bodyFields g request.body⟩) := by
  have hnames := sum_names_le h
  have hbody := sum_bodyFields_le g request.body
  have hhead := h.head
  have hclient := h.clientIp
  refine fits_of_sum_le h (by decide) (by decide) ?_ ?_
  · refine ((named_names n).append ?_).append (named_bodyFields g request.body)
    simp only [Named, fieldString, fieldHeaders, List.forall_mem_cons]
    decide
  · simp only [List.map_append, List.sum_append, List.map_cons, List.map_nil, List.sum_cons,
      List.sum_nil]
    simp only [fieldBound, fieldString, fieldHeaders, kHeaderLimit, kMaxHost] at *
    omega

/-- The record of what goes out. -/
lemma fits_upstreamRequest (h : RequestBounds g n request) (hroute : RouteBounds route)
    (result : RulePipelineResult) :
    Fits g (.log ⟨str "info", str "upstream_request", n.fields ++
      [fieldString (str "method") request.method,
       fieldString (str "upstream_url") route.upstream.baseUrl,
       fieldString (str "upstream_path") route.upstream.path,
       fieldString (str "query") request.query, fieldString (str "upstream_proxy_mode") g.proxyMode,
       fieldBool (str "rewrite_modified") result.modified,
       fieldNumber (str "rule_count") result.traces.length,
       fieldNumber (str "json_parse_count") result.parseCount,
       fieldNumber (str "json_serialize_count") result.serializeCount,
       fieldNumber (str "original_body_size") result.originalBodySize,
       fieldNumber (str "rewritten_body_size") result.outputBodySize,
       fieldHeaders (str "headers") request.headers g.logging.redactSensitive] ++
      bodyFields g request.body⟩) := by
  have hnames := sum_names_le h
  have hbody := sum_bodyFields_le g request.body
  have hhead := h.head
  have hproxy := h.proxyMode
  have hbase := hroute.baseUrl
  have hpath := hroute.path
  refine fits_of_sum_le h (by decide) (by decide) ?_ ?_
  · refine ((named_names n).append ?_).append (named_bodyFields g request.body)
    simp only [Named, fieldString, fieldHeaders, fieldNumber, fieldBool, List.forall_mem_cons]
    decide
  · simp only [List.map_append, List.sum_append, List.map_cons, List.map_nil, List.sum_cons,
      List.sum_nil]
    simp only [fieldBound, fieldString, fieldHeaders, fieldNumber, fieldBool, kHeaderLimit,
      kMaxUrlBytes] at *
    omega

end Records

/-! ### What the server logs -/

section Programs

variable {g : Generation} {n : Names}

/-- Another record. -/
lemma only_log {level event : String} {fields : List LogField}
    (h : str event ≠ requestReceived ∧ str event ≠ upstreamRequest) :
    Only (Fits g) (log g level event fields) := by
  unfold log
  split_ifs
  · refine only_bind (only_op fun hevent => ?_) fun _ => only_pure _
    rcases hevent with hevent | hevent
    · exact absurd hevent h.1
    · exact absurd hevent h.2
  · exact only_pure _

/-- A record that fits. -/
lemma only_log_of_fits {level event : String} {fields : List LogField}
    (h : Fits g (.log ⟨str level, str event, fields⟩)) :
    Only (Fits g) (log g level event fields) := by
  unfold log
  split_ifs
  · exact only_bind (only_op h) fun _ => only_pure _
  · exact only_pure _

lemma only_reserve (bytes : ℕ) : Only (Fits g) (reserve bytes) := only_op trivial
lemma only_release (bytes : ℕ) : Only (Fits g) (release bytes) := only_op trivial
lemma only_elapsed : Only (Fits g) elapsed := only_op trivial
lemma only_send (part : Part) : Only (Fits g) (send part) := only_op trivial

lemma only_orThrow (response : Option HttpResponse) : Only (Fits g) (orThrow response) := by
  cases response with
  | none => exact only_throw _
  | some response => exact only_pure _

lemma only_reserveHead (response : HttpResponse) (includeContentLength budgeted : Bool) :
    Only (Fits g) (reserveHead response includeContentLength budgeted) := by
  unfold reserveHead
  split_ifs
  · refine only_bind (only_reserve _) fun granted => ?_
    split_ifs
    · exact only_pure _
    · exact only_throw _
  · exact only_pure _

lemma only_sendResponse (response : HttpResponse) (budgeted : Bool) :
    Only (Fits g) (sendResponse response budgeted) := by
  unfold sendResponse
  refine only_bind (only_reserveHead _ _ _) fun memory => only_bind (only_send _) fun sent => ?_
  dsimp only
  split_ifs
  · exact only_bind (only_send _) fun _ => only_bind (only_release _) fun _ => only_pure _
  · exact only_bind (only_pure _) fun _ => only_bind (only_release _) fun _ => only_pure _

/-! The pipeline writes no record. -/

lemma only_allocate (held : ℕ) (as : List Allocation) : Only (Fits g) (allocate held as) := by
  induction as generalizing held with
  | nil => exact only_pure _
  | cons a as ih =>
    cases a with
    | acquire bytes =>
      refine only_bind (only_reserve _) fun granted => ?_
      split_ifs
      · exact ih _
      · exact only_pure _
    | free bytes => exact only_bind (only_release _) fun _ => ih _

lemma only_runRulesIn (a : Allocations) (i held : ℕ) (p : Progress) (rules : List CompiledRule) :
    Only (Fits g) (runRulesIn a i held p rules) := by
  induction rules generalizing i held p with
  | nil => exact only_pure _
  | cons rule rules ih =>
    refine only_bind (only_allocate _ _) fun ⟨granted, held⟩ => ?_
    dsimp only
    split
    · exact ih _ _ _
    · exact only_pure _
    · exact only_pure _

variable [Library]

lemma only_serializeIn (a : Allocations) (held : ℕ) (result : RulePipelineResult)
    (candidate : Value) : Only (Fits g) (serializeIn a held result candidate) := by
  refine only_bind (only_allocate _ _) fun ⟨granted, held⟩ => ?_
  dsimp only
  split
  · refine only_bind (only_reserve _) fun granted => ?_
    split_ifs
    · exact only_pure _
    · exact only_pure _
  · exact only_pure _

lemma only_runPipelineIn (rules : List CompiledRule) (a : Allocations) (body : Bytes) :
    Only (Fits g) (runPipelineIn rules a body) := by
  refine only_bind (only_allocate _ _) fun ⟨granted, held⟩ => ?_
  dsimp only
  split
  · exact only_pure _
  · exact only_pure _
  · refine only_bind (only_runRulesIn _ _ _ _ _) fun ⟨outcome, held⟩ => ?_
    cases outcome with
    | error e => exact only_pure _
    | ok p =>
      dsimp only
      split_ifs
      · exact only_pure _
      · exact only_serializeIn _ _ _ _

lemma only_applyPipelineIn (rules : List CompiledRule) (a : Allocations) (body : Bytes) :
    Only (Fits g) (applyPipelineIn rules a body) := by
  unfold applyPipelineIn
  split_ifs
  · exact only_pure _
  · exact only_bind (only_runPipelineIn _ _ _) fun x => only_bind (only_release _) fun _ => only_pure _

/-! The callbacks, and what follows the transport. -/

omit [Library] in
lemma only_answer (s : Stream) (o : TransportOp) : Only (Fits g) (answer g n s o) := by
  have hcaught {p : Program Bool} (hp : Only (Fits g) p) : Only (Fits g) (caught p) :=
    only_tryCatch (only_bind hp fun _ => only_pure _) fun _ => only_pure _
  cases o with
  | reserve bytes => exact only_bind (only_reserve _) fun _ => only_pure _
  | release bytes => exact only_bind (only_release _) fun _ => only_pure _
  | onHeaders response =>
    refine only_bind (hcaught ?_) fun _ => only_pure _
    exact only_bind (only_log (by decide)) fun _ => only_bind (only_reserveHead _ _ _) fun _ =>
      only_bind (only_send _) fun _ => only_bind (only_release _) fun _ => only_pure _
  | onChunk chunk =>
    refine only_bind (hcaught ?_) fun _ => only_pure _
    exact only_bind (only_log (by decide)) fun _ => only_send _

omit [Library] in
lemma only_answerPlain (s : Unit) (o : TransportOp) : Only (Fits g) (answerPlain s o) := by
  cases o with
  | reserve bytes => exact only_bind (only_reserve _) fun _ => only_pure _
  | release bytes => exact only_bind (only_release _) fun _ => only_pure _
  | onHeaders response => exact only_pure _
  | onChunk chunk => exact only_pure _

omit [Library] in
lemma only_finishResponse (s : Stream) (response : HttpResponse) :
    Only (Fits g) (finishResponse g n s response) := by
  unfold finishResponse
  extract_lets response' jp
  have hend : ∀ u, Only (Fits g) (jp u) := by
    intro u
    refine only_bind only_elapsed fun ms => only_bind (only_log (by decide)) fun _ => ?_
    split_ifs
    · exact only_pure _
    · exact only_sendResponse _ _
  split_ifs
  · exact only_bind (only_log (by decide)) hend
  · exact hend ()

lemma only_proxyFailed (handler : ProtocolDescriptor) (s : Stream) (e : ProxyError) :
    Only (Fits g) (proxyFailed g n handler s e) := by
  unfold proxyFailed
  refine only_bind only_elapsed fun ms => ?_
  split_ifs
  · exact only_bind (only_log (by decide)) fun _ => only_pure _
  · refine only_bind (only_log (by decide)) fun _ => only_pure _
  · exact only_bind (only_log (by decide)) fun _ => only_bind (only_orThrow _) fun _ =>
      only_finishResponse _ _

lemma only_relay {route : RouteEntry} {request : HttpRequest} (h : RequestBounds g n request)
    (hroute : RouteBounds route) (result : RulePipelineResult) (t : Exchange) :
    Only (Fits g) (relay g n route request result t) := by
  refine only_bind (only_log_of_fits (fits_upstreamRequest h hroute result)) fun _ =>
    only_bind (only_drive only_answer t _) fun x => ?_
  split
  · exact only_finishResponse _ _
  · exact only_proxyFailed _ _ _
  · exact only_throw _

lemma only_pipelineFailed (handler : ProtocolDescriptor) (result : RulePipelineResult) :
    Only (Fits g) (pipelineFailed g n handler result) :=
  only_bind (only_log (by decide)) fun _ => only_bind (only_orThrow _) fun _ =>
    only_bind only_elapsed fun _ => only_bind (only_log (by decide)) fun _ => only_sendResponse _ _

omit [Library] in
lemma only_logTraces (traces : List RuleTrace) : Only (Fits g) (logTraces g n traces) := by
  induction traces with
  | nil => exact only_pure _
  | cons trace traces ih =>
    exact only_bind only_elapsed fun _ => only_bind (only_log (by decide)) fun _ => ih

lemma only_serveRequest {route : RouteEntry} {request : HttpRequest} (h : RequestBounds g n request)
    (hroute : RouteBounds route) {canonicalPath : Bytes} (hpath : canonicalPath.length ≤ 2048)
    (requestMemory requestBodyMemory : ℕ) (a : Allocations) (t : Exchange) :
    Only (Fits g) (serveRequest g n route canonicalPath request requestMemory requestBodyMemory a t) := by
  refine only_bind (only_log_of_fits (fits_requestReceived h hpath)) fun _ =>
    only_bind (only_applyPipelineIn _ _ _) fun result => only_bind (only_logTraces _) fun _ => ?_
  split_ifs
  · exact only_pipelineFailed _ _
  · split
    · -- the body is another one, and the rest of the request the same
      next body _ =>
      have hrewritten : RequestBounds g n { request with body } :=
        ⟨h.room, h.proxyMode, h.requestId, h.profileId, h.protocolId, h.routeKind, h.head, h.clientIp⟩
      exact only_bind (only_release _) fun _ => only_relay hrewritten hroute _ _
    · exact only_relay h hroute _ _

lemma only_serveUsage (route : RouteEntry) (t : Exchange) :
    Only (Fits g) (serveUsage g n route t) := by
  have hresponse : Only (Fits g) (handleUsageRequest g n route t) := by
    refine only_bind (only_drive only_answerPlain t _) fun x => ?_
    split
    · exact only_pure _
    · split_ifs
      · exact only_throw _
      · exact only_bind (only_log (by decide)) fun _ => only_bind (only_orThrow _) fun _ => only_pure _
    · exact only_throw _
  exact only_bind hresponse fun _ => only_bind only_elapsed fun _ =>
    only_bind (only_log (by decide)) fun _ => only_sendResponse _ _

lemma only_serveRouteError (lookup : RouteLookup) (request : HttpRequest) :
    Only (Fits g) (serveRouteError g n lookup request) :=
  only_bind (only_orThrow _) fun _ => only_bind only_elapsed fun _ =>
    only_bind (only_log (by decide)) fun _ => only_bind (only_log (by decide)) fun _ =>
      only_sendResponse _ _

lemma only_failed (handler : Option ProtocolDescriptor) (e : Exception) :
    Only (Fits g) (failed g n handler e) := by
  have hanswered {fields : List LogField} {response : Option HttpResponse} {budgeted : Bool} :
      Only (Fits g) (do
        log g "error" "request_error" fields
        let response ← orThrow response
        sendResponse response budgeted) :=
    only_bind (only_log (by decide)) fun _ => only_bind (only_orThrow _) fun _ =>
      only_sendResponse _ _
  cases e with
  | invalidHttpRequest what => exact hanswered
  | proxyError e =>
    unfold failed
    dsimp only
    split_ifs
    · exact only_bind only_elapsed fun _ => only_bind (only_log (by decide)) fun _ => only_pure _
    · exact only_throw _
  | inflightBudgetExceeded => exact hanswered
  | std what => exact hanswered
  | unknown => exact only_throw _

end Programs

/-! ### Whole runs -/

lemma length_hexadecimal_le (n : UInt64) : (hexadecimal n).length ≤ 16 := by
  rw [hexadecimal, List.length_map]
  exact Nat.toDigits_length 16 n.toNat 16 (by decide) n.toNat_lt

lemma length_makeRequestId_le (millis thread seq : UInt64) :
    (makeRequestId millis thread seq).length ≤ 54 := by
  have hmillis := length_hexadecimal_le millis
  have hthread := length_hexadecimal_le thread
  have hseq := length_hexadecimal_le seq
  have hstart : (str "req_").length = 4 := rfl
  have hbetween : (str "_").length = 1 := rfl
  simp only [makeRequestId, List.length_append]
  omega

/-- A request as the server processes it: its head was read and has at most 64 KiB, and its identifier,
the address of its client and the name of the proxy mode are what they can be. -/
structure Received (g : Generation) (j : Job) : Prop where
  head : ∃ rawHead request, rawHead.length ≤ kHeaderLimit ∧
    parseRequestHead rawHead j.request.clientIp = .ok request ∧
    j.request = { request with body := j.request.body }
  clientIp : j.request.clientIp.length < kMaxHost
  requestId : ∃ millis thread seq, j.requestId = makeRequestId millis thread seq
  proxyMode : g.proxyMode ∈ proxyModes

lemma Received.bounds {g : Generation} {j : Job} (h : Received g j) {route : RouteEntry}
    (hroute : RouteBounds route)
    (hroom : 6 * g.logging.bodyLimit.toNat + 1048576 ≤ g.logging.maxTotalSize.toNat) :
    RequestBounds g (namesOf j.requestId g route) j.request := by
  obtain ⟨rawHead, request, hlength, hparse, hrequest⟩ := h.head
  obtain ⟨millis, thread, seq, hid⟩ := h.requestId
  obtain ⟨hhead, -⟩ := length_of_parse hparse
  refine ⟨hroom, ?_, ?_, hroute.profile, hroute.protocol, ?_, ?_, h.clientIp.le⟩
  · have hall : ∀ mode ∈ proxyModes, mode.length ≤ 17 := by decide
    exact hall _ h.proxyMode
  · rw [namesOf, hid]
    exact length_makeRequestId_le millis thread seq
  · have hall : ∀ kind : RouteKind, (routeKindName kind).length ≤ 7 := by
      intro kind
      cases kind <;> decide
    exact hall route.kind
  · rw [hrequest]
    exact hhead.trans hlength

/-- **The records of a request fit the log.** For every document that is compiled, every request whose
head has at most 64 KiB, whatever its body, its rules, the memory and the transport do: each
record of what has come in or of what goes out is one that the log takes. -/
theorem request_records_fit [Library] {c : RuntimeCompiler} {d : ConfigDocument}
    {options : RuntimeCompileOptions} {snapshot : RuntimeSnapshot} {g : Generation} {j : Job}
    (hcompile : c.compile d options = .ok snapshot) (hroutes : g.routes = snapshot.routes)
    (hlogging : g.logging = d.application.logging) (hj : Received g j)
    {h : List (Event Op Ans)} {r : Except Exception Bool}
    (hway : Way (processParsedWithGeneration g j) h r) :
    ∀ record taken, (⟨.log record, taken⟩ : Event Op Ans) ∈ h →
      record.event = requestReceived ∨ record.event = upstreamRequest → Printed record →
      ∀ timestamp : Bytes, timestamp.length = timestampSize →
        (∀ b ∈ timestamp, escapedByteSize b = 1) →
        writeRefusal d.application.logging.maxTotalSize (renderLine timestamp record) = none := by
  obtain ⟨hsettings, hbounds⟩ := bounds_of_compile hcompile
  have hroom := room_of_settings hsettings
  rw [← hlogging] at hroom ⊢
  have honly : Only (Fits g) (processParsedWithGeneration g j) := by
    unfold processParsedWithGeneration
    split
    next route canonicalPath hlookup =>
      rw [hroutes] at hlookup
      obtain ⟨hroute, hpath⟩ := hbounds _ _ _ _ hlookup
      refine only_tryCatch ?_ (only_failed _)
      split
      · exact only_serveUsage _ _
      · exact only_serveRequest (hj.bounds hroute hroom) hroute hpath _ _ _ _
    · exact only_tryCatch (only_serveRouteError _ _) (only_failed _)
  intro record taken hmem
  exact honly.way hway _ hmem

section Examples

attribute [local instance] bitLibrary

def recordedProtocols : Option ProtocolRegistry := builtinProtocolRegistry.toOption

def recordedCompiler : RuntimeCompiler :=
  ⟨str "/opt/ccs-trans", recordedProtocols, builtinRuleRegistry.toOption⟩

def recordedDocument : ConfigDocument := { profiles := [(str "a", sampleProfile (str "/a"))] }

def recordedHead : Bytes := str "POST /a?x=1 HTTP/1.1\r\nAccept: *"

def recordedRequest : HttpRequest where
  method := str "POST"
  target := str "/a?x=1"
  path := str "/a"
  query := str "x=1"
  version := str "HTTP/1.1"
  headers := [(str "Accept", str "*")]

def recordedJob : Job where
  requestId := makeRequestId 1 2 3
  request := recordedRequest
  requestMemory := 0
  requestBodyMemory := 0
  allocations := {}
  transport := ⟨.ret {}, .ret {}⟩

/-- The one route of the document is for a request of its own. -/
lemma recordedRoute_matched : (recordedCompiler.compile recordedDocument {}).toOption.map (fun s =>
    match s.routes.lookup (str "POST") (str "/a") with
    | .matched e _ => decide (e.kind = .request)
    | _ => false) = some true := by decide

/-- The first record of a request for the one route of a document. -/
theorem request_records_fit_sample : ∃ snapshot h r record taken,
    recordedCompiler.compile recordedDocument {} = .ok snapshot ∧
    Way (processParsedWithGeneration
      { id := 1, routes := snapshot.routes, logging := recordedDocument.application.logging,
        proxyMode := str "windows_system" } recordedJob) h r ∧
    (⟨.log record, taken⟩ : Event Op Ans) ∈ h ∧ record.event = requestReceived ∧
    ∀ timestamp : Bytes, timestamp.length = timestampSize →
      (∀ b ∈ timestamp, escapedByteSize b = 1) →
      writeRefusal recordedDocument.application.logging.maxTotalSize (renderLine timestamp record) = none := by
  have hrun : (recordedCompiler.compile recordedDocument {}).toOption.isSome = true := by
    decide
  have hmatched := recordedRoute_matched
  obtain ⟨snapshot, hs⟩ := Option.isSome_iff_exists.mp hrun
  rw [hs, Option.map_some, Option.some.injEq] at hmatched
  have hs := toOption_eq_some.mp hs
  split at hmatched
  next e canonical hlookup =>
    have hkind := of_decide_eq_true hmatched
    let g : Generation :=
      { id := 1, routes := snapshot.routes, logging := recordedDocument.application.logging,
        proxyMode := str "windows_system" }
    have hparse : parseRequestHead recordedHead [] = .ok recordedRequest :=
      toOption_eq_some.mp (by decide)
    have hreceived : Received g recordedJob :=
      ⟨⟨recordedHead, recordedRequest, by decide, hparse, rfl⟩, by decide, ⟨1, 2, 3, rfl⟩,
        List.mem_cons_self⟩
    have hprogram : ∃ k, processParsedWithGeneration g recordedJob =
        .call (.log ⟨str "info", requestReceived, (namesOf recordedJob.requestId g e).fields ++
          [fieldString (str "method") (str "POST"), fieldString (str "local_path") canonical,
           fieldString (str "query") (str "x=1"), fieldString (str "client_ip") [],
           fieldHeaders (str "headers") recordedRequest.headers g.logging.redactSensitive] ++
          bodyFields g []⟩) k := by
      have hlookup' : g.routes.lookup recordedJob.request.method recordedJob.request.path =
          .matched e canonical := hlookup
      have hlevel : levelValue (str "info") ≥ levelValue recordedDocument.application.logging.level := by
        decide
      unfold processParsedWithGeneration
      rw [hlookup']
      dsimp only
      rw [hkind]
      dsimp only
      unfold serveRequest log
      rw [if_pos hlevel]
      exact ⟨_, rfl⟩
    obtain ⟨k, hk⟩ := hprogram
    obtain ⟨h, r, hway⟩ := exists_way (k default)
    have hwhole : Way (processParsedWithGeneration g recordedJob) _ r := hk ▸ Way.call default hway
    have hfits := request_records_fit hs rfl rfl hreceived hwhole
    refine ⟨snapshot, _, r, _, default, hs, hwhole, List.mem_cons_self, rfl,
      hfits _ _ List.mem_cons_self (.inl rfl) ?_⟩
    intro field hmem text htext
    have hnumber : (decimal 1).length ≤ 20 ∧ (decimal 0).length ≤ 20 := by decide
    have hbool : ∀ value : Bool, (if value then str "true" else str "false").length ≤ 20 := by decide
    have hbody : g.logging.body = true := rfl
    simp only [Names.fields, bodyFields, hbody, if_true, List.mem_append, List.mem_cons,
      List.not_mem_nil, or_false, fieldString, fieldHeaders, fieldNumber, fieldBool] at hmem
    rcases hmem with ((rfl | rfl | rfl | rfl | rfl) | rfl | rfl | rfl | rfl | rfl) | rfl | rfl | rfl <;>
      cases htext
    · exact hnumber.1
    · exact hnumber.2
    · exact hbool _
  all_goals cases hmatched

end Examples

end CcsTrans.Server
