import CcsTrans.Config.Settings
import CcsTrans.Logging.Record
import CcsTrans.Procs
import CcsTrans.Rules.Pipeline
import CcsTrans.Server.Responses

/-!
How the server processes a request.

The program of a request reserves memory, writes records to the log and hands parts of a response
to the sender, and each of them may fail. It calls a transport, which is a program of its own: it
reserves memory too, and calls back with the head of a stream and with its pieces.
-/

namespace CcsTrans.Server

open CcsTrans.Text CcsTrans.Config CcsTrans.Json CcsTrans.Protocols CcsTrans.Routing CcsTrans.Rules
open CcsTrans.Logging CcsTrans.Procs

/-! ### Operations and exceptions -/

structure ProxyError where
  statusCode : ℕ
  type : Bytes
  message : Bytes

inductive Exception where
  | invalidHttpRequest (what : Bytes)
  | proxyError (e : ProxyError)
  | inflightBudgetExceeded
  /-- Any other `std::exception`. -/
  | std (what : Bytes)
  /-- What is not a `std::exception`. -/
  | unknown

inductive Op where
  | reserve (bytes : ℕ)
  | release (bytes : ℕ)
  | log (record : LogRecord)
  | elapsed
  | send (part : Part)

/-- Whether there is memory, whether a record was taken, the time, whether a part was sent. -/
abbrev Ans : Op → Type
  | .reserve _ => Bool
  | .release _ => Unit
  | .log _ => Bool
  | .elapsed => ℕ
  | .send _ => Bool

abbrev Program := Proc Op Ans Exception

/-- What has been handed to the sender. -/
def handed (h : List (Event Op Ans)) : List Part :=
  h.filterMap fun e => match e.1 with
    | .send part => some part
    | _ => none

/-! ### Transports -/

inductive TransportOp where
  | reserve (bytes : ℕ)
  | release (bytes : ℕ)
  | onHeaders (response : HttpResponse)
  | onChunk (chunk : Bytes)

/-- A callback returns, or throws. -/
abbrev TransportAns : TransportOp → Type
  | .reserve _ => Bool
  | .release _ => Unit
  | .onHeaders _ => Except Exception Bool
  | .onChunk _ => Except Exception Bool

/-- What a call of a transport does. -/
abbrev Exchange := Proc TransportOp TransportAns Exception HttpResponse

/-- `UpstreamTransport`, as it behaves for a request. -/
structure Transport where
  forward : Exchange
  forwardStreaming : Exchange

/-! ### Memory, records and responses -/

def reserve (bytes : ℕ) : Program Bool := Proc.op (Op.reserve bytes)
def release (bytes : ℕ) : Program Unit := Proc.op (Op.release bytes)
def elapsed : Program ℕ := Proc.op Op.elapsed
def send (part : Part) : Program Bool := Proc.op (Op.send part)

structure Generation where
  id : ℕ
  routes : RouteTable
  logging : LoggingSettings := {}
  proxyMode : Bytes := str "system"

/-- `Logger::log`, of a level that may not be enabled. -/
def log (g : Generation) (level event : String) (fields : List LogField) : Program Unit :=
  if levelValue (str level) ≥ levelValue g.logging.level then
    (Proc.op (Op.log ⟨str level, str event, fields⟩) : Program Bool) >>= fun _ => pure ()
  else pure ()

/-- `append_body_fields`. -/
def bodyFields (g : Generation) (body : Bytes) : List LogField :=
  fieldNumber (str "body_size") body.length ::
    if g.logging.body then
      [fieldString (str "body") (body.take g.logging.bodyLimit.toNat),
       fieldBool (str "body_truncated") (body.length > g.logging.bodyLimit.toNat)]
    else []

/-- What the records of a request begin with. -/
structure Names where
  requestId : Bytes
  generationId : ℕ
  profileId : Bytes := str "unknown"
  protocolId : Bytes := str "unknown"
  routeKind : Bytes := str "unknown"

def Names.fields (n : Names) : List LogField :=
  [fieldString (str "request_id") n.requestId, fieldNumber (str "generation_id") n.generationId,
   fieldString (str "profile_id") n.profileId, fieldString (str "protocol") n.protocolId,
   fieldString (str "route_kind") n.routeKind]

def routeKindName : RouteKind → Bytes
  | .request => str "request"
  | .usage => str "usage"

def namesOf (requestId : Bytes) (g : Generation) (route : RouteEntry) : Names :=
  ⟨requestId, g.id, route.profile.id, route.profile.handler.id, routeKindName route.kind⟩

/-- A JSON text cannot be written. -/
def dumpError : Bytes := str "[json.exception.type_error.316] invalid UTF-8 byte"

def orThrow : Option HttpResponse → Program HttpResponse
  | some response => pure response
  | none => throw (.std dumpError)

/-- The memory of `build_response_head`, which there is a budget for or not. -/
def reserveHead (response : HttpResponse) (includeContentLength budgeted : Bool) : Program ℕ :=
  if budgeted then do
    let size := headSize response includeContentLength
    if ← reserve size then pure size else throw .inflightBudgetExceeded
  else pure 0

/-- `send_response`. -/
def sendResponse (response : HttpResponse) (budgeted : Bool) : Program Bool := do
  let memory ← reserveHead response true budgeted
  let sent ← send (.head response true)
  let sent ← if sent && response.body ≠ [] then send (.body response) else pure sent
  release memory
  pure sent

/-! ### The pipeline -/

/-- What the allocator of the pipeline is asked for. -/
inductive Allocation where
  | acquire (bytes : ℕ)
  | free (bytes : ℕ)

/-- The allocations of a run of the pipeline, and what else may happen to it. -/
structure Allocations where
  parse : List Allocation := []
  rule : ℕ → List Allocation := fun _ => []
  serialize : List Allocation := []
  faults : Interruptions := {}

/-- Allocations, up to one that is refused; with the bytes that are held. -/
def allocate (held : ℕ) : List Allocation → Program (Bool × ℕ)
  | [] => pure (true, held)
  | .acquire bytes :: as => do
    if ← reserve bytes then allocate (held + bytes) as else pure (false, held)
  | .free bytes :: as => do
    release (min bytes held)
    allocate (held - min bytes held) as

/-- What interrupts a part of the run. -/
def interruption (granted : Bool) (fault : Option Thrown) : Option Thrown :=
  if granted then fault else some .inflightBudgetExceeded

/-- The loop over the rules. -/
def runRulesIn (a : Allocations) (i : ℕ) (held : ℕ) (p : Progress) :
    List CompiledRule → Program (Except (RulePipelineError × List RuleTrace) Progress × ℕ)
  | [] => pure (.ok p, held)
  | rule :: rules => do
    let (granted, held) ← allocate held (a.rule i)
    match interruption granted (a.faults.rule i), rule.apply p.candidate with
    | none, (.ok r, candidate) =>
      runRulesIn a (i + 1) held
        ⟨candidate, p.modified || r.modified, p.traces ++ [makeTrace rule r]⟩ rules
    | some e, _ | none, (.error e, _) =>
      pure (.error (ruleFailure rule e, p.traces ++ [failureTrace rule (ruleFailure rule e)]), held)

section

variable [Library]

/-- The end of the pipeline: the document is written again. -/
def serializeIn (a : Allocations) (held : ℕ) (result : RulePipelineResult) (candidate : Value) :
    Program (RulePipelineResult × ℕ) := do
  let (granted, held) ← allocate held a.serialize
  match interruption granted a.faults.serialize, dump candidate with
  | none, some text =>
    if ← reserve text.length then
      pure ({ result with modified := true, rewrittenBody := some text,
                          outputBodySize := text.length }, held)
    else pure ({ result with ok := false,
                             error := some (serializeFailure (some .inflightBudgetExceeded)) }, held)
  | e, _ => pure ({ result with ok := false, error := some (serializeFailure e) }, held)

/-- `CompiledPipeline::apply`, up to the release of its memory. -/
def runPipelineIn (rules : List CompiledRule) (a : Allocations) (body : Bytes) :
    Program (RulePipelineResult × ℕ) := do
  let result : RulePipelineResult :=
    { originalBodySize := body.length, outputBodySize := body.length, parseCount := 1 }
  let (granted, held) ← allocate 0 a.parse
  match interruption granted a.faults.parse, parse body with
  | some e, _ => pure ({ result with ok := false, error := some (parseFailure (.inl e)) }, held)
  | none, .error e => pure ({ result with ok := false, error := some (parseFailure (.inr e)) }, held)
  | none, .ok dom =>
    match ← runRulesIn a 0 held ⟨dom, false, []⟩ rules with
    | (.error (e, traces), held) =>
      pure ({ result with ok := false, error := some e, traces := traces }, held)
    | (.ok p, held) =>
      let result := { result with traces := p.traces }
      if !p.modified then pure (result, held)
      else serializeIn a held { result with serializeCount := 1 } p.candidate

/-- `CompiledPipeline::apply`. What the allocator has reserved is released at the end, and the
memory of the rewritten body is kept. -/
def applyPipelineIn (rules : List CompiledRule) (a : Allocations) (body : Bytes) :
    Program RulePipelineResult :=
  if rules.isEmpty then
    pure { originalBodySize := body.length, outputBodySize := body.length }
  else do
    let (result, held) ← runPipelineIn rules a body
    release held
    pure result

/-! ### Streams -/

/-- The variables that the callbacks set. -/
structure Stream where
  streamed : Bool := false
  streamChunkCount : ℕ := 0
  streamedBodySize : ℕ := 0

variable (g : Generation) (n : Names)

/-- The callback for the head of a stream. -/
def onHeaders (response : HttpResponse) : Program Bool := do
  log g "info" "upstream_response" (n.fields ++
    [fieldNumber (str "status_code") response.statusCode, fieldBool (str "streaming") true,
     fieldHeaders (str "headers") response.headers g.logging.redactSensitive,
     fieldNumber (str "body_size") 0])
  let memory ← reserveHead response false true
  let sent ← send (.head response false)
  release memory
  pure sent

/-- The callback for a piece of a stream. -/
def onChunk (s : Stream) (chunk : Bytes) : Program Bool := do
  log g "info" "stream_chunk" (n.fields ++
    [fieldNumber (str "chunk_sequence") s.streamChunkCount,
     fieldNumber (str "chunk_size") chunk.length] ++ bodyFields g chunk)
  send (.chunk chunk)

/-- What a callback comes to. -/
def caught (p : Program Bool) : Program (Except Exception Bool) :=
  tryCatch (p >>= fun b => pure (.ok b)) fun e => pure (.error e)

/-- The server answers a transport that streams. -/
def answer (s : Stream) : (o : TransportOp) → Program (Stream × TransportAns o)
  | .reserve bytes => reserve bytes >>= fun b => pure (s, b)
  | .release bytes => release bytes >>= fun _ => pure (s, ())
  | .onHeaders response => caught (onHeaders g n response) >>= fun a =>
      pure ({ s with streamed := true }, a)
  | .onChunk chunk => caught (onChunk g n s chunk) >>= fun a =>
      pure ({ s with
        streamChunkCount := s.streamChunkCount + 1
        streamedBodySize := s.streamedBodySize + chunk.length }, a)

/-- The server answers a transport that has no callbacks. -/
def answerPlain (s : Unit) : (o : TransportOp) → Program (Unit × TransportAns o)
  | .reserve bytes => reserve bytes >>= fun b => pure (s, b)
  | .release bytes => release bytes >>= fun _ => pure (s, ())
  | .onHeaders _ => pure (s, .ok true)
  | .onChunk _ => pure (s, .ok true)

/-! ### Processing -/

def clientCancelled : Bytes := str "client_cancelled"

def Stream.fields (s : Stream) : List LogField :=
  [fieldBool (str "streaming") s.streamed,
   fieldNumber (str "stream_chunk_count") s.streamChunkCount,
   fieldNumber (str "streamed_body_size") s.streamedBodySize]

/-- After the transport: the response is sent, unless it was streamed. -/
def finishResponse (s : Stream) (response : HttpResponse) : Program Bool := do
  let response := if !s.streamed && levelValue (str "info") ≥ levelValue g.logging.level &&
      response.reason = [] then
    { response with reason := reasonPhrase response.statusCode } else response
  if !s.streamed then
    log g "info" "upstream_response" (n.fields ++
      [fieldNumber (str "status_code") response.statusCode, fieldBool (str "streaming") false,
       fieldHeaders (str "headers") response.headers g.logging.redactSensitive] ++
      bodyFields g response.body)
  let ms ← elapsed
  log g "info" "response_sent" (n.fields ++
    [fieldNumber (str "status_code") response.statusCode, fieldNumber (str "duration_ms") ms] ++
    s.fields ++ [fieldHeaders (str "headers") response.headers g.logging.redactSensitive] ++
    if s.streamed then [] else bodyFields g response.body)
  if s.streamed then pure true else sendResponse response true

/-- The handler of a `ProxyError` of the transport. -/
def proxyFailed (handler : ProtocolDescriptor) (s : Stream) (e : ProxyError) : Program Bool := do
  let ms ← elapsed
  if e.type = clientCancelled then
    log g "info" "request_cancelled" (n.fields ++ [fieldNumber (str "duration_ms") ms] ++ s.fields)
    pure false
  else
    log g "error" "request_error" (n.fields ++
      [fieldString (str "message") e.message, fieldString (str "type") e.type,
       fieldNumber (str "status_code") e.statusCode, fieldNumber (str "duration_ms") ms] ++ s.fields)
    if s.streamed then pure true
    else
      let response ← orThrow (localError handler e.statusCode e.type e.message)
      finishResponse g n s response

/-- The call of the transport, and what follows. -/
def relay (route : RouteEntry) (request : HttpRequest) (result : RulePipelineResult)
    (t : Exchange) : Program Bool := do
  log g "info" "upstream_request" (n.fields ++
    [fieldString (str "method") request.method,
     fieldString (str "upstream_url") route.upstream.baseUrl,
     fieldString (str "upstream_path") route.upstream.path,
     fieldString (str "query") request.query, fieldString (str "upstream_proxy_mode") g.proxyMode,
     fieldBool (str "rewrite_modified") result.modified,
     fieldNumber (str "rule_count") result.traces.length,
     fieldNumber (str "json_parse_count") result.parseCount,
     fieldNumber (str "json_serialize_count") result.serializeCount,
     fieldNumber (str "original_body_size") result.originalBodySize,
     fieldNumber (str "rewritten_body_size") result.outputBodySize,
     fieldHeaders (str "headers") request.headers g.logging.redactSensitive] ++
    bodyFields g request.body)
  match ← t.drive (answer g n) {} with
  | (s, .ok response) => finishResponse g n s response
  | (s, .error (.proxyError e)) => proxyFailed g n route.profile.handler s e
  | (_, .error e) => throw e

/-- The pipeline has failed. -/
def pipelineFailed (handler : ProtocolDescriptor) (result : RulePipelineResult) : Program Bool := do
  let error := result.error.getD
    { statusCode := 500, type := str "server_error", message := str "request rule pipeline failed",
      reason := str "pipeline_failed" }
  log g "error" "request_error" (n.fields ++
    [fieldString (str "rule_id") error.ruleId, fieldString (str "rule_type") error.ruleType,
     fieldString (str "reason") error.reason, fieldString (str "message") error.message,
     fieldString (str "type") error.type, fieldNumber (str "status_code") error.statusCode])
  let response ← orThrow (localError handler error.statusCode error.type error.message)
  let ms ← elapsed
  log g "info" "response_sent" (n.fields ++
    [fieldNumber (str "status_code") response.statusCode, fieldNumber (str "duration_ms") ms,
     fieldBool (str "streaming") false] ++ bodyFields g response.body)
  sendResponse response (error.statusCode ≠ 503)

/-- The records of the rules. -/
def logTraces : List RuleTrace → Program Unit
  | [] => pure ()
  | trace :: traces => do
    let us ← elapsed
    log g "info" "request_rule" (n.fields ++
      [fieldString (str "rule_id") trace.ruleId, fieldString (str "rule_type") trace.ruleType,
       fieldBool (str "matched") trace.matched, fieldBool (str "modified") trace.modified,
       fieldString (str "reason") trace.reason, fieldString (str "target") trace.summary.target,
       fieldNumber (str "affected_count") trace.summary.affectedCount,
       fieldNumber (str "duration_us") us])
    logTraces traces

/-- A request that is forwarded. -/
def serveRequest (route : RouteEntry) (canonicalPath : Bytes) (request : HttpRequest)
    (requestMemory requestBodyMemory : ℕ) (a : Allocations) (t : Exchange) : Program Bool := do
  log g "info" "request_received" (n.fields ++
    [fieldString (str "method") request.method, fieldString (str "local_path") canonicalPath,
     fieldString (str "query") request.query, fieldString (str "client_ip") request.clientIp,
     fieldHeaders (str "headers") request.headers g.logging.redactSensitive] ++
    bodyFields g request.body)
  let result ← applyPipelineIn route.profile.requestPipeline a request.body
  logTraces g n result.traces
  if !result.ok then pipelineFailed g n route.profile.handler result
  else match result.rewrittenBody with
    | some body => do
      release (min requestBodyMemory requestMemory)
      relay g n route { request with body } result t
    | none => relay g n route request result t

/-- `Server::handle_usage_request`. -/
def handleUsageRequest (route : RouteEntry) (t : Exchange) : Program (HttpResponse × Bool) := do
  match ← t.drive answerPlain () with
  | (_, .ok response) =>
    pure (if response.reason = [] then
      { response with reason := reasonPhrase response.statusCode } else response, true)
  | (_, .error (.proxyError e)) =>
    if e.type = clientCancelled then throw (.proxyError e)
    else
      log g "error" "request_error" (n.fields ++
        [fieldString (str "message") e.message, fieldString (str "type") e.type,
         fieldNumber (str "status_code") e.statusCode])
      let response ← orThrow (localError route.profile.handler e.statusCode e.type e.message)
      pure (response, false)
  | (_, .error e) => throw e

/-- A request for the usage. -/
def serveUsage (route : RouteEntry) (t : Exchange) : Program Bool := do
  let (response, forwarded) ← handleUsageRequest g n route t
  let ms ← elapsed
  log g "info" "usage_completed" (n.fields ++
    [fieldBool (str "forwarded") forwarded,
     fieldString (str "upstream_url") route.upstream.baseUrl,
     fieldString (str "upstream_path") route.upstream.path,
     fieldNumber (str "status_code") response.statusCode, fieldNumber (str "duration_ms") ms])
  sendResponse response true

def routeErrorMessage : RouteLookup → Bytes
  | .methodNotAllowed _ _ => str "method not allowed"
  | .invalidPath _ => str "invalid request path"
  | _ => str "unsupported route"

/-- A request without a route. -/
def serveRouteError (lookup : RouteLookup) (request : HttpRequest) : Program Bool := do
  let response ← orThrow (handleLocalRouteError lookup)
  let ms ← elapsed
  log g "error" "request_error"
    [fieldString (str "request_id") n.requestId, fieldNumber (str "generation_id") n.generationId,
     fieldString (str "method") request.method, fieldString (str "local_path") request.path,
     fieldString (str "message") (routeErrorMessage lookup),
     fieldString (str "type") (str "invalid_request_error"),
     fieldNumber (str "status_code") response.statusCode, fieldNumber (str "duration_ms") ms]
  log g "info" "response_sent" (n.fields ++
    [fieldNumber (str "status_code") response.statusCode, fieldNumber (str "duration_ms") ms,
     fieldBool (str "streaming") false])
  sendResponse response true

/-- A response to an exception, in the words of a protocol if there is one. -/
def exceptionResponse (handler : Option ProtocolDescriptor) (statusCode : ℕ) (message : Bytes) :
    Option HttpResponse :=
  match handler with
  | some handler => localError handler statusCode (str "server_error") message
  | none => serverError statusCode message (str "server_error")

/-- The handlers of `process_parsed_with_generation`. -/
def failed (handler : Option ProtocolDescriptor) : Exception → Program Bool
  | .invalidHttpRequest what => do
    log g "error" "request_error" (n.fields ++
      [fieldString (str "message") what, fieldString (str "type") (str "invalid_request_error"),
       fieldNumber (str "status_code") 400])
    let response ← orThrow (serverError 400 what (str "invalid_request_error"))
    sendResponse response false
  | .proxyError e =>
    if e.type = clientCancelled then do
      let ms ← elapsed
      log g "info" "request_cancelled" (n.fields ++ [fieldNumber (str "duration_ms") ms])
      pure false
    else throw (.proxyError e)
  | .inflightBudgetExceeded => do
    log g "error" "request_error" (n.fields ++
      [fieldString (str "reason") (str "inflight_budget_exhausted"),
       fieldString (str "message") (str "inflight memory budget exhausted"),
       fieldString (str "type") (str "server_error"), fieldNumber (str "status_code") 503])
    let response ← orThrow (exceptionResponse handler 503 (str "inflight memory budget exhausted"))
    sendResponse response false
  | .std what => do
    log g "error" "request_error" (n.fields ++
      [fieldString (str "message") what, fieldString (str "type") (str "server_error"),
       fieldNumber (str "status_code") 500])
    let response ← orThrow (exceptionResponse handler 500 (str "internal server error"))
    sendResponse response false
  | .unknown => throw .unknown

end

/-- A request as it has been received, and what the surroundings make of it. -/
structure Job where
  requestId : Bytes
  request : HttpRequest
  requestMemory : ℕ
  requestBodyMemory : ℕ
  allocations : Allocations
  transport : Transport

/-- `Server::process_parsed_with_generation`. -/
def processParsedWithGeneration [Library] (g : Generation) (j : Job) : Program Bool :=
  match g.routes.lookup j.request.method j.request.path with
  | .matched route canonicalPath =>
    let n := namesOf j.requestId g route
    tryCatch
      (match route.kind with
        | .usage => serveUsage g n route j.transport.forward
        | .request => serveRequest g n route canonicalPath j.request j.requestMemory
            j.requestBodyMemory j.allocations j.transport.forwardStreaming)
      (failed g n (some route.profile.handler))
  | lookup =>
    let n : Names := { requestId := j.requestId, generationId := g.id }
    tryCatch (serveRouteError g n lookup j.request) (failed g n none)

end CcsTrans.Server
