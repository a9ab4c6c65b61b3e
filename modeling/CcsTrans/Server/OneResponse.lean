import CcsTrans.Server.Ways

/-!
Whether a client gets one response.

The callback for the head of a stream notes that there is a stream before the head is sent, and
the handler of a `ProxyError` looks at that note. The handlers of the other exceptions do not: an
exception that is none, after the head has been sent, is answered with a second head.
-/

namespace CcsTrans.Server

open CcsTrans.Text CcsTrans.Config CcsTrans.Json CcsTrans.Protocols CcsTrans.Routing CcsTrans.Rules
open CcsTrans.Logging CcsTrans.Procs

/-! ### What is asked -/

/-- The pieces that a transport has called back with. -/
def chunksOf (th : List (Event TransportOp TransportAns)) : List Bytes :=
  th.filterMap fun e => match e.1 with
    | .onChunk chunk => some chunk
    | _ => none

/-- The parts are the first of one response: of a head with one length, which is that of the body,
and the body, or of the head of a stream, without a length, and its pieces. -/
inductive OneResponse (t : Exchange) (parts : List Part) : Prop
  | whole (r : HttpResponse) (unmeasured : Unmeasured r.headers)
      (sent : parts <+: [.head r true, .body r])
  | stream (th : List (Event TransportOp TransportAns)) (out : Except Exception HttpResponse)
      (way : Way t th out) (r : HttpResponse) (b : Bool) (called : ⟨.onHeaders r, .ok b⟩ ∈ th)
      (unmeasured : Unmeasured r.headers)
      (sent : parts <+: .head r false :: (chunksOf th).map .chunk)

/-! ### What transports do -/

/-- An event that is not a callback. -/
def Memory (e : Event TransportOp TransportAns) : Prop :=
  match e.1 with
  | .reserve _ | .release _ => True
  | _ => False

def NotHeaders (e : Event TransportOp TransportAns) : Prop := ∀ r, e.1 ≠ .onHeaders r

/-- `on_headers` is called once at most, and all calls of `on_chunk` come after it. -/
def Shaped (th : List (Event TransportOp TransportAns)) : Prop :=
  ∃ before after, (∀ e ∈ before, Memory e) ∧ (∀ e ∈ after, NotHeaders e) ∧
    (th = before ++ after ∨ ∃ r a, th = before ++ ⟨.onHeaders r, a⟩ :: after)

/-- Any behaviour of a transport. Its exceptions are its own: that of a request which is not
HTTP is known to the server alone. -/
structure Behaves (t : Exchange) : Prop where
  shape : ∀ th out, Way t th out → Shaped th
  foreign : ∀ th what, ¬ Way t th (.error (.invalidHttpRequest what))

/-- What a transport can come to see: its callbacks only throw for want of memory, and only that
for a head does. -/
inductive Possible : Event TransportOp TransportAns → Prop
  | reserve (bytes : ℕ) (b : Bool) : Possible ⟨.reserve bytes, b⟩
  | release (bytes : ℕ) (u : Unit) : Possible ⟨.release bytes, u⟩
  | headers (r : HttpResponse) (b : Bool) : Possible ⟨.onHeaders r, .ok b⟩
  | refused (r : HttpResponse) : Possible ⟨.onHeaders r, .error .inflightBudgetExceeded⟩
  | chunk (c : Bytes) (b : Bool) : Possible ⟨.onChunk c, .ok b⟩

/-- What a transport without callbacks can come to see. -/
def PossiblePlain : Event TransportOp TransportAns → Prop
  | ⟨.onHeaders _, a⟩ => a = .ok true
  | ⟨.onChunk _, a⟩ => a = .ok true
  | _ => True

/-- An exception that is not answered once a stream has begun. -/
def Quiet : Exception → Prop
  | .proxyError _ | .unknown => True
  | _ => False

/-- A call of a transport is orderly: it has no callbacks; or a head is handed over, pieces follow,
and it ends with a quiet exception if it throws; or there is no memory for the head, and no
pieces follow. A response has no length. -/
inductive Orderly : List (Event TransportOp TransportAns) → Except Exception HttpResponse → Prop
  | buffered {th : List (Event TransportOp TransportAns)} {out : Except Exception HttpResponse}
      (memory : ∀ e ∈ th, Memory e) (unmeasured : ∀ r, out = .ok r → Unmeasured r.headers) :
      Orderly th out
  | streamed {before after : List (Event TransportOp TransportAns)} {r : HttpResponse} {b : Bool}
      {out : Except Exception HttpResponse} (memory : ∀ e ∈ before, Memory e)
      (pieces : ∀ e ∈ after, NotHeaders e) (unmeasured : Unmeasured r.headers)
      (quiet : ∀ e, out = .error e → Quiet e) :
      Orderly (before ++ ⟨.onHeaders r, .ok b⟩ :: after) out
  | refused {before after : List (Event TransportOp TransportAns)} {r : HttpResponse} {e : Exception}
      {out : Except Exception HttpResponse} (memory : ∀ e ∈ before, Memory e)
      (rest : ∀ e ∈ after, Memory e) : Orderly (before ++ ⟨.onHeaders r, .error e⟩ :: after) out

def OrderlyTransport (t : Exchange) : Prop :=
  ∀ th out, Way t th out → (∀ e ∈ th, Possible e) → Orderly th out

/-- Whenever the request is forwarded, the transport is orderly. -/
def OrderlyFor [Library] (g : Generation) (j : Job) : Prop :=
  match g.routes.lookup j.request.method j.request.path with
  | .matched route _ => match route.kind with
    | .usage => ∀ th r, Way j.transport.forward th (.ok r) → (∀ e ∈ th, PossiblePlain e) →
        Unmeasured r.headers
    | .request => (applyPipeline route.profile.requestPipeline j.allocations.faults j.request.body).ok →
        OrderlyTransport j.transport.forwardStreaming
  | _ => True

/-! ### The callbacks -/

/-- What is seen of an event of a transport. -/
def marksOf : Event TransportOp TransportAns → List Mark
  | ⟨.reserve _, granted⟩ => (refusal granted).toList
  | ⟨.release _, _⟩ => []
  | ⟨.onHeaders r, .ok b⟩ => [.sent (.head r false) b]
  | ⟨.onHeaders _, .error _⟩ => [.refused]
  | ⟨.onChunk c, .ok b⟩ => [.sent (.chunk c) b]
  | ⟨.onChunk _, .error _⟩ => []

/-- The variables of the callbacks after an event. -/
def Stream.next (s : Stream) : Event TransportOp TransportAns → Stream
  | ⟨.onHeaders _, _⟩ => { s with streamed := true }
  | ⟨.onChunk c, _⟩ =>
    { s with
      streamChunkCount := s.streamChunkCount + 1
      streamedBodySize := s.streamedBodySize + c.length }
  | _ => s

section Callbacks

variable {g : Generation} {n : Names} {seen : List Mark}

lemma seen_caught_iff {p : Program Bool} {r : Except Exception (Except Exception Bool)} :
    Seen view (caught p) seen r ↔ ∃ x, Seen view p seen x ∧ r = .ok x := by
  rw [caught, seen_tryCatch_iff]
  simp only [seen_bind_iff, seen_pure_iff]
  constructor
  · rintro (⟨a, rfl, ⟨before, b, after, rfl, hp, rfl, ha⟩ | ⟨e, he, _⟩⟩ |
      ⟨before, e, after, rfl, ⟨_, _, _, _, _, _, he⟩ | ⟨e', he, hp⟩, rfl, rfl⟩)
    · cases ha
      exact ⟨.ok b, by rwa [List.append_nil], rfl⟩
    · cases he
    · cases he
    · cases he
      exact ⟨.error e, by rwa [List.append_nil], rfl⟩
  · rintro ⟨x, hp, rfl⟩
    cases x with
    | ok b => exact .inl ⟨.ok b, rfl, .inl ⟨seen, b, [], (List.append_nil _).symm, hp, rfl, rfl⟩⟩
    | error e =>
      exact .inr ⟨seen, e, [], (List.append_nil _).symm, .inr ⟨e, rfl, hp⟩, rfl, rfl⟩

lemma seen_caught_bind_iff {β : Type} {p : Program Bool} {f : Except Exception Bool → Program β}
    {r : Except Exception β} : Seen view (caught p >>= f) seen r ↔ ∃ before x after,
      seen = before ++ after ∧ Seen view p before x ∧ Seen view (f x) after r := by
  rw [seen_bind_iff]
  simp only [seen_caught_iff]
  constructor
  · rintro (⟨before, x, after, rfl, ⟨_, hp, hx⟩, hrest⟩ | ⟨e, rfl, _, _, hx⟩)
    · cases hx
      exact ⟨before, x, after, rfl, hp, hrest⟩
    · cases hx
  · rintro ⟨before, x, after, rfl, hp, hrest⟩
    exact .inl ⟨before, x, after, rfl, ⟨x, hp, rfl⟩, hrest⟩

lemma seen_onHeaders_iff {response : HttpResponse} {r : Except Exception Bool} :
    Seen view (onHeaders g n response) seen r ↔
      (∃ ok, seen = [.sent (.head response false) ok] ∧ r = .ok ok) ∨
      seen = [.refused] ∧ r = .error .inflightBudgetExceeded := by
  rw [onHeaders, seen_log_bind_iff, seen_reserveHead_bind_iff, seen_send_bind_iff]
  simp only [seen_release_bind_iff, seen_pure_iff]
  refine or_congr_left ⟨?_, ?_⟩
  · rintro ⟨ok, rest, rfl, rfl, rfl⟩
    exact ⟨ok, rfl, rfl⟩
  · rintro ⟨ok, rfl, rfl⟩
    exact ⟨ok, [], rfl, rfl, rfl⟩

lemma seen_onChunk_iff {s : Stream} {chunk : Bytes} {r : Except Exception Bool} :
    Seen view (onChunk g n s chunk) seen r ↔ ∃ ok, seen = [.sent (.chunk chunk) ok] ∧ r = .ok ok := by
  rw [onChunk, seen_log_bind_iff, seen_send_iff]

/-- What a transport is answered. -/
lemma seen_answer_iff (s : Stream) (o : TransportOp) (seen : List Mark)
    (r : Except Exception (Stream × TransportAns o)) : Seen view (answer g n s o) seen r ↔
    ∃ a, Possible ⟨o, a⟩ ∧ seen = marksOf ⟨o, a⟩ ∧ r = .ok (s.next ⟨o, a⟩, a) := by
  cases o with
  | reserve bytes =>
    change Seen view (reserve bytes >>= fun b => pure (s, b)) seen r ↔ _
    simp only [seen_reserve_bind_iff, seen_pure_iff]
    constructor
    · rintro (⟨rfl, rfl⟩ | ⟨rest, rfl, rfl, rfl⟩)
      · exact ⟨true, .reserve bytes true, rfl, rfl⟩
      · exact ⟨false, .reserve bytes false, rfl, rfl⟩
    · rintro ⟨a, _, rfl, rfl⟩
      cases a
      · exact .inr ⟨[], rfl, rfl, rfl⟩
      · exact .inl ⟨rfl, rfl⟩
  | release bytes =>
    change Seen view (release bytes >>= fun _ => pure (s, ())) seen r ↔ _
    rw [seen_release_bind_iff, seen_pure_iff]
    constructor
    · rintro ⟨rfl, rfl⟩
      exact ⟨(), .release bytes (), rfl, rfl⟩
    · rintro ⟨a, _, rfl, rfl⟩
      exact ⟨rfl, rfl⟩
  | onHeaders response =>
    change Seen view (caught (onHeaders g n response) >>= fun a => pure (_, a)) seen r ↔ _
    rw [seen_caught_bind_iff]
    simp only [seen_onHeaders_iff, seen_pure_iff]
    constructor
    · rintro ⟨before, x, after, rfl, (⟨ok, rfl, rfl⟩ | ⟨rfl, rfl⟩), rfl, rfl⟩
      · exact ⟨.ok ok, .headers response ok, rfl, rfl⟩
      · exact ⟨.error _, .refused response, rfl, rfl⟩
    · rintro ⟨a, hpossible, rfl, rfl⟩
      cases hpossible with
      | headers _ ok => exact ⟨_, .ok ok, [], rfl, .inl ⟨ok, rfl, rfl⟩, rfl, rfl⟩
      | refused => exact ⟨_, .error .inflightBudgetExceeded, [], rfl, .inr ⟨rfl, rfl⟩, rfl, rfl⟩
  | onChunk chunk =>
    change Seen view (caught (onChunk g n s chunk) >>= fun a => pure (_, a)) seen r ↔ _
    rw [seen_caught_bind_iff]
    simp only [seen_onChunk_iff, seen_pure_iff]
    constructor
    · rintro ⟨before, x, after, rfl, ⟨ok, rfl, rfl⟩, rfl, rfl⟩
      exact ⟨.ok ok, .chunk chunk ok, rfl, rfl⟩
    · rintro ⟨a, hpossible, rfl, rfl⟩
      cases hpossible with
      | chunk _ ok => exact ⟨_, .ok ok, [], rfl, ⟨ok, rfl, rfl⟩, rfl, rfl⟩

end Callbacks

/-! ### After the transport -/

section Concluded

variable {g : Generation} {n : Names} {seen : List Mark} {r : Except Exception Bool}

/-- The response that is sent, which has a reason if it is logged. -/
def HttpResponse.named (g : Generation) (response : HttpResponse) : HttpResponse :=
  if levelValue (str "info") ≥ levelValue g.logging.level && response.reason = [] then
    { response with reason := reasonPhrase response.statusCode }
  else response

@[simp] lemma headers_named (g : Generation) (response : HttpResponse) :
    (response.named g).headers = response.headers := by
  unfold HttpResponse.named
  split <;> rfl

@[simp] lemma statusCode_named (g : Generation) (response : HttpResponse) :
    (response.named g).statusCode = response.statusCode := by
  unfold HttpResponse.named
  split <;> rfl

lemma seen_finishResponse_streamed {s : Stream} (hs : s.streamed = true) {response : HttpResponse} :
    Seen view (finishResponse g n s response) seen r ↔ seen = [] ∧ r = .ok true := by
  unfold finishResponse
  simp only [hs, Bool.not_true, Bool.false_and, Bool.false_eq_true, if_false, if_true]
  change Seen view (elapsed >>= fun _ => _) seen r ↔ _
  simp only [seen_elapsed_bind_iff, seen_log_bind_iff, seen_pure_iff, exists_const]

lemma seen_finishResponse_buffered {s : Stream} (hs : s.streamed = false) {response : HttpResponse} :
    Seen view (finishResponse g n s response) seen r ↔
      Seen view (sendResponse (response.named g) true) seen r := by
  unfold finishResponse
  simp only [hs, Bool.not_false, Bool.true_and, Bool.false_eq_true, if_false, if_true]
  change Seen view (log g "info" "upstream_response" _ >>= fun _ => elapsed >>= fun _ => _) seen r ↔ _
  simp only [seen_elapsed_bind_iff, seen_log_bind_iff, exists_const]
  rfl

variable [Library]

/-- What follows on the call of the transport. -/
def concluded (g : Generation) (n : Names) (handler : ProtocolDescriptor) (s : Stream) :
    Except Exception HttpResponse → Program Bool
  | .ok response => finishResponse g n s response
  | .error (.proxyError e) => proxyFailed g n handler s e
  | .error e => throw e

lemma seen_proxyFailed_streamed {handler : ProtocolDescriptor} {s : Stream} (hs : s.streamed = true)
    {e : ProxyError} (h : Seen view (proxyFailed g n handler s e) seen r) :
    seen = [] ∧ ∃ ok, r = .ok ok := by
  unfold proxyFailed at h
  obtain ⟨ms, h⟩ := seen_elapsed_bind_iff.mp h
  by_cases htype : e.type = clientCancelled
  · rw [if_pos htype, seen_log_bind_iff, seen_pure_iff] at h
    exact ⟨h.1, _, h.2⟩
  · rw [if_neg htype, seen_log_bind_iff, if_pos hs, seen_pure_iff] at h
    exact ⟨h.1, _, h.2⟩

lemma seen_proxyFailed_buffered {handler : ProtocolDescriptor} {s : Stream} (hs : s.streamed = false)
    {e : ProxyError} : Seen view (proxyFailed g n handler s e) seen r ↔
      e.type = clientCancelled ∧ seen = [] ∧ r = .ok false ∨ e.type ≠ clientCancelled ∧
        ((∃ response, localError handler e.statusCode e.type e.message = some response ∧
          Seen view (sendResponse (response.named g) true) seen r) ∨
        localError handler e.statusCode e.type e.message = none ∧ seen = [] ∧
          r = .error (.std dumpError)) := by
  unfold proxyFailed
  rw [seen_elapsed_bind_iff]
  by_cases htype : e.type = clientCancelled
  · simp only [htype, if_true, seen_log_bind_iff, seen_pure_iff, exists_const, true_and, ne_eq,
      not_true_eq_false, false_and, or_false]
  · simp only [htype, if_false, seen_log_bind_iff, hs, Bool.false_eq_true, seen_orThrow_bind_iff,
      seen_finishResponse_buffered, exists_const, false_and, ne_eq, not_false_eq_true, true_and, false_or]

lemma seen_relay_iff {route : RouteEntry} {request : HttpRequest} {result : RulePipelineResult}
    {t : Exchange} : Seen view (relay g n route request result t) seen r ↔
    ∃ th out rest, Way t th out ∧ (∀ e ∈ th, Possible e) ∧ seen = th.flatMap marksOf ++ rest ∧
      Seen view (concluded g n route.profile.handler (th.foldl Stream.next {}) out) rest r := by
  rw [relay, seen_log_bind_iff, seen_bind_iff]
  simp only [seen_drive_iff (seen_answer_iff (g := g) (n := n))]
  constructor
  · rintro (⟨before, x, after, rfl, ⟨th, out, hway, hth, rfl, hx⟩, hrest⟩ | ⟨e, rfl, _, _, _, _, _, hx⟩)
    · cases hx
      refine ⟨th, out, after, hway, hth, rfl, ?_⟩
      rcases out with (_ | _ | _ | _ | _) | response <;> exact hrest
    · cases hx
  · rintro ⟨th, out, rest, hway, hth, rfl, hrest⟩
    refine .inl ⟨_, (_, out), rest, rfl, ⟨th, out, hway, hth, rfl, rfl⟩, ?_⟩
    rcases out with (_ | _ | _ | _ | _) | response <;> exact hrest

end Concluded

/-! ### What is handed over for a transport -/

section Handed

variable {th before after : List (Event TransportOp TransportAns)} {r : HttpResponse}

@[simp] lemma chunksOf_append : chunksOf (before ++ after) = chunksOf before ++ chunksOf after := by
  simp [chunksOf]

lemma chunksOf_memory (h : ∀ e ∈ th, Memory e) : chunksOf th = [] := by
  rw [chunksOf, List.filterMap_eq_nil_iff]
  rintro ⟨o, a⟩ he
  have hmemory := h _ he
  cases o with
  | onHeaders response => exact absurd hmemory id
  | onChunk chunk => exact absurd hmemory id
  | _ => rfl

lemma partsOf_refusal (granted : Bool) : partsOf (refusal granted).toList = [] := by
  cases granted <;> rfl

lemma partsOf_memory (h : ∀ e ∈ th, Memory e) : partsOf (th.flatMap marksOf) = [] := by
  induction th with
  | nil => rfl
  | cons e th ih =>
    obtain ⟨he, hth⟩ := List.forall_mem_cons.mp h
    rw [List.flatMap_cons, partsOf_append, ih hth, List.append_nil]
    obtain ⟨o, a⟩ := e
    cases o with
    | reserve bytes => exact partsOf_refusal a
    | release bytes => rfl
    | onHeaders response => exact absurd he id
    | onChunk chunk => exact absurd he id

lemma partsOf_pieces (h : ∀ e ∈ th, NotHeaders e) (hth : ∀ e ∈ th, Possible e) :
    partsOf (th.flatMap marksOf) = (chunksOf th).map .chunk := by
  induction th with
  | nil => rfl
  | cons e th ih =>
    obtain ⟨he, hrest⟩ := List.forall_mem_cons.mp h
    obtain ⟨hpossible, hpossibles⟩ := List.forall_mem_cons.mp hth
    rw [List.flatMap_cons, partsOf_append, ih hrest hpossibles]
    cases hpossible with
    | reserve bytes granted => rw [marksOf, partsOf_refusal]; rfl
    | release bytes u => rfl
    | headers response ok => exact absurd rfl (he response)
    | refused response => exact absurd rfl (he response)
    | chunk c ok => rfl

/-- A callback has noted the stream. -/
lemma streamed_foldl (s : Stream) : (th.foldl Stream.next s).streamed =
    (s.streamed || th.any fun e => match e.1 with | .onHeaders _ => true | _ => false) := by
  induction th generalizing s with
  | nil => simp
  | cons e th ih =>
    rw [List.foldl_cons, ih, List.any_cons]
    obtain ⟨o, a⟩ := e
    cases o with
    | onHeaders response => simp [Stream.next]
    | _ => simp [Stream.next]

lemma streamed_notHeaders (h : ∀ e ∈ th, NotHeaders e) : (th.foldl Stream.next {}).streamed = false := by
  rw [streamed_foldl, Bool.false_or, List.any_eq_false]
  rintro ⟨o, a⟩ he
  cases o with
  | onHeaders response => exact absurd rfl (h _ he response)
  | _ => exact Bool.false_ne_true

lemma Memory.notHeaders {e : Event TransportOp TransportAns} (h : Memory e) : NotHeaders e := by
  obtain ⟨o, a⟩ := e
  cases o with
  | onHeaders response => exact absurd h id
  | _ => exact fun _ => nofun

lemma streamed_headers {a : Except Exception Bool} :
    ((before ++ ⟨.onHeaders r, a⟩ :: after).foldl Stream.next {}).streamed = true := by
  rw [streamed_foldl, List.any_append, List.any_cons]
  simp

end Handed

/-! ### Every response of the server is one -/

/-- What a program has handed over when it ends. -/
inductive Outcome (t : Exchange) : List Part → Except Exception Bool → Prop
  | nothing (r : Except Exception Bool) : Outcome t [] r
  | whole {parts : List Part} (response : HttpResponse) (unmeasured : Unmeasured response.headers)
      (sent : parts <+: [.head response true, .body response]) (ok : Bool) : Outcome t parts (.ok ok)
  | stream {th : List (Event TransportOp TransportAns)} {out : Except Exception HttpResponse}
      {parts : List Part} {r : Except Exception Bool} (way : Way t th out) (response : HttpResponse)
      (b : Bool) (called : ⟨.onHeaders response, .ok b⟩ ∈ th) (unmeasured : Unmeasured response.headers)
      (sent : parts <+: .head response false :: (chunksOf th).map .chunk)
      (quiet : ∀ e, r = .error e → e = .unknown) : Outcome t parts r

section Outcomes

variable {t : Exchange} {g : Generation} {n : Names} {seen : List Mark} {r : Except Exception Bool}

lemma Outcome.one {parts : List Part} (h : Outcome t parts r) : OneResponse t parts := by
  cases h with
  | nothing _ => exact .whole {} (fun _ => nofun) List.nil_prefix
  | whole response unmeasured sent _ => exact .whole response unmeasured sent
  | stream way response b called unmeasured sent _ =>
    exact .stream _ _ way response b called unmeasured sent

lemma unmeasured_json : Unmeasured [jsonContent] := by
  intro header hmem
  rw [List.mem_singleton.mp hmem]
  decide

lemma outcome_sendResponse {response : HttpResponse} {budgeted : Bool}
    (hresponse : Unmeasured response.headers)
    (h : Seen view (sendResponse response budgeted) seen r) : Outcome t (partsOf seen) r := by
  rcases seen_sendResponse_iff.mp h with ⟨ok, hdelivers, rfl⟩ | ⟨_, rfl, rfl⟩
  · exact .whole response hresponse hdelivers.prefix ok
  · exact .nothing _

/-- A local response, or an exception where there cannot be one. -/
lemma outcome_orThrow {o : Option HttpResponse} {f : HttpResponse → Program Bool}
    (hf : ∀ response, o = some response → Seen view (f response) seen r → Outcome t (partsOf seen) r)
    (h : Seen view (orThrow o >>= f) seen r) : Outcome t (partsOf seen) r := by
  rcases seen_orThrow_bind_iff.mp h with ⟨response, ho, hrest⟩ | ⟨_, rfl, _⟩
  · exact hf response ho hrest
  · exact .nothing _

variable [Library]

lemma unmeasured_localError {handler : ProtocolDescriptor} {statusCode : ℕ} {type message : Bytes}
    {response : HttpResponse} (h : localError handler statusCode type message = some response) :
    Unmeasured response.headers := by
  obtain ⟨body, _, rfl⟩ := Option.map_eq_some_iff.mp h
  exact unmeasured_json

lemma unmeasured_serverError {statusCode : ℕ} {type message : Bytes} {response : HttpResponse}
    (h : serverError statusCode message type = some response) : Unmeasured response.headers := by
  obtain ⟨body, _, rfl⟩ := Option.map_eq_some_iff.mp h
  exact unmeasured_json

lemma unmeasured_handleLocalRouteError {lookup : RouteLookup} {response : HttpResponse}
    (h : handleLocalRouteError lookup = some response) : Unmeasured response.headers := by
  cases lookup with
  | methodNotAllowed methods path =>
    rw [handleLocalRouteError, Option.map_eq_some_iff] at h
    obtain ⟨plain, hplain, rfl⟩ := h
    intro header hmem
    rcases List.mem_cons.mp hmem with rfl | hmem
    · exact (by decide : lowerCopy (str "Allow") ≠ str "content-length")
    · exact unmeasured_serverError hplain header hmem
  | _ => exact unmeasured_serverError h

lemma unmeasured_exceptionResponse {handler : Option ProtocolDescriptor} {statusCode : ℕ}
    {message : Bytes} {response : HttpResponse}
    (h : exceptionResponse handler statusCode message = some response) :
    Unmeasured response.headers := by
  cases handler with
  | none => exact unmeasured_serverError h
  | some handler => exact unmeasured_localError h

/-- The handlers send a whole response, if nothing has been sent. -/
lemma outcome_failed {handler : Option ProtocolDescriptor} {e : Exception}
    (h : Seen view (failed g n handler e) seen r) : Outcome t (partsOf seen) r := by
  cases e with
  | invalidHttpRequest what =>
    rw [failed, seen_log_bind_iff] at h
    exact outcome_orThrow (fun _ ho => outcome_sendResponse (unmeasured_serverError ho)) h
  | proxyError e =>
    rw [failed] at h
    split at h
    · obtain ⟨_, h⟩ := seen_elapsed_bind_iff.mp h
      rw [seen_log_bind_iff, seen_pure_iff] at h
      rw [h.1]
      exact .nothing _
    · rw [(seen_throw_iff.mp h).1]
      exact .nothing _
  | inflightBudgetExceeded =>
    rw [failed, seen_log_bind_iff] at h
    exact outcome_orThrow (fun _ ho => outcome_sendResponse (unmeasured_exceptionResponse ho)) h
  | std what =>
    rw [failed, seen_log_bind_iff] at h
    exact outcome_orThrow (fun _ ho => outcome_sendResponse (unmeasured_exceptionResponse ho)) h
  | unknown =>
    rw [failed, seen_throw_iff] at h
    rw [h.1]
    exact .nothing _

/-- An exception is answered where nothing has been sent, and the one that comes later is not. -/
lemma outcome_guarded {p : Program Bool} {handler : Option ProtocolDescriptor}
    (hp : ∀ seen r, Seen view p seen r → Outcome t (partsOf seen) r)
    (h : Seen view (tryCatch p (failed g n handler)) seen r) : Outcome t (partsOf seen) r := by
  rcases seen_tryCatch_iff.mp h with ⟨a, rfl, hfirst⟩ | ⟨before, e, after, rfl, hfirst, hrest⟩
  · exact hp _ _ hfirst
  · rw [partsOf_append]
    generalize hparts : partsOf before = parts
    have houtcome := hp _ _ hfirst
    rw [hparts] at houtcome
    cases houtcome with
    | nothing _ => exact outcome_failed hrest
    | stream way response b called unmeasured sent quiet =>
      have he : e = .unknown := quiet e rfl
      subst he
      rw [failed, seen_throw_iff] at hrest
      rw [hrest.1, partsOf_nil, List.append_nil, hrest.2]
      exact .stream way response b called unmeasured sent quiet

/-! ### An orderly transport -/

/-- Once there is a stream, nothing follows on the transport; an exception goes on unless it is
a `ProxyError`. -/
lemma seen_concluded_streamed {handler : ProtocolDescriptor} {s : Stream} (hs : s.streamed = true)
    {out : Except Exception HttpResponse} (h : Seen view (concluded g n handler s out) seen r) :
    seen = [] ∧ ∀ e, r = .error e → out = .error e ∧ ∀ e', e ≠ .proxyError e' := by
  cases out with
  | ok response =>
    rw [concluded, seen_finishResponse_streamed hs] at h
    refine ⟨h.1, fun e he => ?_⟩
    rw [h.2] at he
    cases he
  | error e =>
    cases e with
    | proxyError e =>
      obtain ⟨hseen, ok, rfl⟩ := seen_proxyFailed_streamed hs h
      exact ⟨hseen, fun e he => by cases he⟩
    | _ =>
      obtain ⟨hseen, rfl⟩ := seen_throw_iff.mp h
      refine ⟨hseen, fun e he => ?_⟩
      cases he
      exact ⟨rfl, fun _ => nofun⟩

/-- An exception before a stream is answered as a whole, or goes on. -/
lemma outcome_concluded_buffered {handler : ProtocolDescriptor} {s : Stream} (hs : s.streamed = false)
    {e : Exception} (h : Seen view (concluded g n handler s (.error e)) seen r) :
    Outcome t (partsOf seen) r := by
  cases e with
  | proxyError e =>
    rcases (seen_proxyFailed_buffered hs).mp h with
      ⟨_, rfl, _⟩ | ⟨_, ⟨response, hlocal, hsend⟩ | ⟨_, rfl, _⟩⟩
    · exact .nothing _
    · refine outcome_sendResponse ?_ hsend
      rw [headers_named]
      exact unmeasured_localError hlocal
    · exact .nothing _
  | _ =>
    obtain ⟨rfl, _⟩ := seen_throw_iff.mp h
    exact .nothing _

lemma outcome_relay (ht : OrderlyTransport t) {route : RouteEntry} {request : HttpRequest}
    {result : RulePipelineResult} (h : Seen view (relay g n route request result t) seen r) :
    Outcome t (partsOf seen) r := by
  obtain ⟨th, out, rest, hway, hth, rfl, hrest⟩ := seen_relay_iff.mp h
  rw [partsOf_append]
  cases ht th out hway hth with
  | buffered hmemory hunmeasured =>
    have hs := streamed_notHeaders fun e he => (hmemory e he).notHeaders
    rw [partsOf_memory hmemory, List.nil_append]
    cases out with
    | ok response =>
      rw [concluded, seen_finishResponse_buffered hs] at hrest
      refine outcome_sendResponse ?_ hrest
      rw [headers_named]
      exact hunmeasured response rfl
    | error e => exact outcome_concluded_buffered hs hrest
  | @streamed before after response b _ hmemory hpieces hunmeasured hquiet =>
    obtain ⟨rfl, hr⟩ := seen_concluded_streamed streamed_headers hrest
    have hafter : ∀ e ∈ after, Possible e := fun e he =>
      hth e (List.mem_append_right _ (List.mem_cons_of_mem _ he))
    refine .stream hway response b (List.mem_append_right _ List.mem_cons_self) hunmeasured ?_ ?_
    · rw [List.flatMap_append, List.flatMap_cons, partsOf_append, partsOf_append, partsOf_memory hmemory,
        partsOf_pieces hpieces hafter, chunksOf_append, chunksOf_memory hmemory, partsOf_nil,
        List.append_nil, List.nil_append, List.nil_append]
      exact List.prefix_refl _
    · intro e he
      obtain ⟨hout, hproxy⟩ := hr e he
      have hquiet' := hquiet e hout
      cases e with
      | unknown => rfl
      | proxyError e => exact absurd rfl (hproxy e)
      | _ => exact absurd hquiet' id
  | @refused before after response e _ hmemory hrest' =>
    obtain ⟨rfl, _⟩ := seen_concluded_streamed streamed_headers hrest
    rw [List.flatMap_append, List.flatMap_cons, partsOf_append, partsOf_append, partsOf_memory hmemory,
      partsOf_memory hrest']
    exact .nothing _

/-! ### Every request -/

omit [Library] in
lemma seen_logTraces_iff {traces : List RuleTrace} {r : Except Exception Unit} :
    Seen view (logTraces g n traces) seen r ↔ seen = [] ∧ ∃ a, r = .ok a := by
  induction traces with
  | nil =>
    rw [logTraces, seen_pure_iff]
    exact ⟨fun ⟨hnil, hok⟩ => ⟨hnil, _, hok⟩, fun ⟨hnil, _, hok⟩ => ⟨hnil, hok⟩⟩
  | cons trace traces ih =>
    rw [logTraces, seen_elapsed_bind_iff]
    simp only [seen_log_bind_iff, ih, exists_const]

omit [Library] in
lemma seen_logTraces_bind_iff {traces : List RuleTrace} {f : Unit → Program Bool} :
    Seen view (logTraces g n traces >>= f) seen r ↔ Seen view (f ()) seen r := by
  rw [seen_bind_of_unseen fun _ _ => seen_logTraces_iff]
  exact ⟨fun ⟨_, hrest⟩ => hrest, fun hrest => ⟨(), hrest⟩⟩

/-- What follows on the pipeline. -/
def piped (g : Generation) (n : Names) (route : RouteEntry) (request : HttpRequest)
    (requestMemory requestBodyMemory : ℕ) (t : Exchange) (result : RulePipelineResult) : Program Bool :=
  if !result.ok then pipelineFailed g n route.profile.handler result
  else match result.rewrittenBody with
    | some body => release (min requestBodyMemory requestMemory) >>= fun _ =>
        relay g n route { request with body } result t
    | none => relay g n route request result t

lemma seen_serveRequest_iff {route : RouteEntry} {canonicalPath : Bytes} {request : HttpRequest}
    {requestMemory requestBodyMemory : ℕ} {a : Allocations} :
    Seen view (serveRequest g n route canonicalPath request requestMemory requestBodyMemory a t) seen r ↔
    Seen view (applyPipelineIn route.profile.requestPipeline a request.body >>=
      piped g n route request requestMemory requestBodyMemory t) seen r := by
  rw [serveRequest, seen_log_bind_iff, seen_bind_iff, seen_bind_iff]
  simp only [seen_logTraces_bind_iff]
  rfl

lemma outcome_pipelineFailed {handler : ProtocolDescriptor} {result : RulePipelineResult}
    (h : Seen view (pipelineFailed g n handler result) seen r) : Outcome t (partsOf seen) r := by
  rw [pipelineFailed, seen_log_bind_iff] at h
  refine outcome_orThrow (fun response hlocal hrest => ?_) h
  obtain ⟨_, hrest⟩ := seen_elapsed_bind_iff.mp hrest
  rw [seen_log_bind_iff] at hrest
  exact outcome_sendResponse (unmeasured_localError hlocal) hrest

lemma outcome_serveRequest {route : RouteEntry} {canonicalPath : Bytes} {request : HttpRequest}
    {requestMemory requestBodyMemory : ℕ} {a : Allocations}
    (ht : (applyPipeline route.profile.requestPipeline a.faults request.body).ok → OrderlyTransport t)
    (h : Seen view (serveRequest g n route canonicalPath request requestMemory requestBodyMemory a t)
      seen r) : Outcome t (partsOf seen) r := by
  rw [seen_serveRequest_iff, seen_bind_iff] at h
  rcases h with ⟨before, result, after, rfl, hpipeline, hrest⟩ | ⟨e, rfl, hpipeline⟩
  · rw [partsOf_append]
    rcases seen_applyPipelineIn hpipeline with ⟨rfl, hresult⟩ | ⟨_, rfl, hresult, hexhausted⟩
    · cases hresult
      rw [partsOf_nil, List.nil_append]
      unfold piped at hrest
      cases hok : (applyPipeline route.profile.requestPipeline a.faults request.body).ok with
      | false =>
        rw [hok, Bool.not_false, if_pos rfl] at hrest
        exact outcome_pipelineFailed hrest
      | true =>
        rw [hok, Bool.not_true, if_neg Bool.false_ne_true] at hrest
        split at hrest
        · rw [seen_release_bind_iff] at hrest
          exact outcome_relay (ht hok) hrest
        · exact outcome_relay (ht hok) hrest
    · cases hresult
      rw [partsOf_refused, partsOf_nil, List.nil_append]
      rw [piped, hexhausted.1, Bool.not_false, if_pos rfl] at hrest
      exact outcome_pipelineFailed hrest
  · rcases seen_applyPipelineIn hpipeline with ⟨_, hresult⟩ | ⟨_, _, hresult, _⟩ <;> cases hresult

/-- What is seen of an event of a transport without callbacks. -/
def marksPlain : Event TransportOp TransportAns → List Mark
  | ⟨.reserve _, granted⟩ => (refusal granted).toList
  | _ => []

/-- There is nothing to remember of a call without callbacks. -/
def unchanged (s : Unit) (_ : Event TransportOp TransportAns) : Unit := s

omit [Library] in
lemma seen_answerPlain_iff (s : Unit) (o : TransportOp) (seen : List Mark)
    (r : Except Exception (Unit × TransportAns o)) : Seen view (answerPlain s o) seen r ↔
    ∃ a, PossiblePlain ⟨o, a⟩ ∧ seen = marksPlain ⟨o, a⟩ ∧ r = .ok (unchanged s ⟨o, a⟩, a) := by
  cases o with
  | reserve bytes =>
    change Seen view (reserve bytes >>= fun b => pure (s, b)) seen r ↔ _
    simp only [seen_reserve_bind_iff, seen_pure_iff]
    constructor
    · rintro (⟨rfl, rfl⟩ | ⟨rest, rfl, rfl, rfl⟩)
      · exact ⟨true, trivial, rfl, rfl⟩
      · exact ⟨false, trivial, rfl, rfl⟩
    · rintro ⟨a, _, rfl, rfl⟩
      cases a
      · exact .inr ⟨[], rfl, rfl, rfl⟩
      · exact .inl ⟨rfl, rfl⟩
  | release bytes =>
    change Seen view (release bytes >>= fun _ => pure (s, ())) seen r ↔ _
    rw [seen_release_bind_iff, seen_pure_iff]
    constructor
    · rintro ⟨rfl, rfl⟩
      exact ⟨(), trivial, rfl, rfl⟩
    · rintro ⟨a, _, rfl, rfl⟩
      exact ⟨rfl, rfl⟩
  | onHeaders response =>
    rw [answerPlain, seen_pure_iff]
    constructor
    · rintro ⟨rfl, rfl⟩
      exact ⟨.ok true, rfl, rfl, rfl⟩
    · rintro ⟨a, rfl, rfl, rfl⟩
      exact ⟨rfl, rfl⟩
  | onChunk chunk =>
    rw [answerPlain, seen_pure_iff]
    constructor
    · rintro ⟨rfl, rfl⟩
      exact ⟨.ok true, rfl, rfl, rfl⟩
    · rintro ⟨a, rfl, rfl, rfl⟩
      exact ⟨rfl, rfl⟩

omit [Library] in
lemma partsOf_plain (th : List (Event TransportOp TransportAns)) :
    partsOf (th.flatMap marksPlain) = [] := by
  induction th with
  | nil => rfl
  | cons e th ih =>
    rw [List.flatMap_cons, partsOf_append, ih, List.append_nil]
    obtain ⟨o, a⟩ := e
    cases o with
    | reserve bytes => exact partsOf_refusal a
    | _ => rfl

/-- What follows on the call of the transport for the usage. -/
def usageConcluded (g : Generation) (n : Names) (route : RouteEntry) :
    Except Exception HttpResponse → Program (HttpResponse × Bool)
  | .ok response => pure (if response.reason = [] then
      { response with reason := reasonPhrase response.statusCode } else response, true)
  | .error (.proxyError e) =>
    if e.type = clientCancelled then throw (.proxyError e)
    else do
      log g "error" "request_error" (n.fields ++
        [fieldString (str "message") e.message, fieldString (str "type") e.type,
         fieldNumber (str "status_code") e.statusCode])
      let response ← orThrow (localError route.profile.handler e.statusCode e.type e.message)
      pure (response, false)
  | .error e => throw e

lemma seen_handleUsageRequest_iff {route : RouteEntry} {r : Except Exception (HttpResponse × Bool)} :
    Seen view (handleUsageRequest g n route t) seen r ↔ ∃ th out rest, Way t th out ∧
      (∀ e ∈ th, PossiblePlain e) ∧ seen = th.flatMap marksPlain ++ rest ∧
      Seen view (usageConcluded g n route out) rest r := by
  rw [handleUsageRequest, seen_bind_iff]
  simp only [seen_drive_iff seen_answerPlain_iff]
  constructor
  · rintro (⟨before, x, after, rfl, ⟨th, out, hway, hth, rfl, hx⟩, hrest⟩ | ⟨e, rfl, _, _, _, _, _, hx⟩)
    · cases hx
      refine ⟨th, out, after, hway, hth, rfl, ?_⟩
      rcases out with (_ | _ | _ | _ | _) | response <;> exact hrest
    · cases hx
  · rintro ⟨th, out, rest, hway, hth, rfl, hrest⟩
    refine .inl ⟨_, (_, out), rest, rfl, ⟨th, out, hway, hth, rfl, rfl⟩, ?_⟩
    rcases out with (_ | _ | _ | _ | _) | response <;> exact hrest

/-- Nothing is sent for the usage before its response is known. -/
lemma seen_usageConcluded {route : RouteEntry} {out : Except Exception HttpResponse}
    {r : Except Exception (HttpResponse × Bool)} (h : Seen view (usageConcluded g n route out) seen r) :
    seen = [] ∧ ∀ response forwarded, r = .ok (response, forwarded) →
      (∀ response', out = .ok response' → response.headers = response'.headers) ∧
      ((∀ response', out ≠ .ok response') → Unmeasured response.headers) := by
  cases out with
  | ok response' =>
    obtain ⟨rfl, rfl⟩ := seen_pure_iff.mp h
    refine ⟨rfl, fun response forwarded hr => ⟨fun _ heq => ?_, fun hne => absurd rfl (hne response')⟩⟩
    cases heq
    cases hr
    split <;> rfl
  | error e =>
    cases e with
    | proxyError e =>
      rw [usageConcluded] at h
      split at h
      · obtain ⟨rfl, rfl⟩ := seen_throw_iff.mp h
        exact ⟨rfl, fun _ _ hr => by cases hr⟩
      · rw [seen_log_bind_iff, seen_orThrow_bind_iff] at h
        rcases h with ⟨response, hlocal, hpure⟩ | ⟨_, rfl, rfl⟩
        · obtain ⟨rfl, rfl⟩ := seen_pure_iff.mp hpure
          refine ⟨rfl, fun _ _ hr => ?_⟩
          cases hr
          exact ⟨fun _ => nofun, fun _ => unmeasured_localError hlocal⟩
        · exact ⟨rfl, fun _ _ hr => by cases hr⟩
    | _ =>
      obtain ⟨rfl, rfl⟩ := seen_throw_iff.mp h
      exact ⟨rfl, fun _ _ hr => by cases hr⟩

lemma outcome_serveUsage {route : RouteEntry} {t' : Exchange}
    (ht : ∀ th r, Way t th (.ok r) → (∀ e ∈ th, PossiblePlain e) → Unmeasured r.headers)
    (h : Seen view (serveUsage g n route t) seen r) : Outcome t' (partsOf seen) r := by
  rw [serveUsage, seen_bind_iff] at h
  rcases h with ⟨before, ⟨response, forwarded⟩, after, rfl, husage, hrest⟩ | ⟨e, rfl, husage⟩
  · obtain ⟨th, out, rest, hway, hth, rfl, hconcluded⟩ := seen_handleUsageRequest_iff.mp husage
    obtain ⟨rfl, hresponse⟩ := seen_usageConcluded hconcluded
    obtain ⟨hkept, hlocal⟩ := hresponse response forwarded rfl
    obtain ⟨_, hrest⟩ := seen_elapsed_bind_iff.mp hrest
    rw [seen_log_bind_iff] at hrest
    rw [List.append_nil, partsOf_append, partsOf_plain, List.nil_append]
    refine outcome_sendResponse ?_ hrest
    cases out with
    | ok response' =>
      rw [hkept response' rfl]
      exact ht th response' hway hth
    | error e => exact hlocal fun _ => nofun
  · obtain ⟨th, out, rest, hway, hth, rfl, hconcluded⟩ := seen_handleUsageRequest_iff.mp husage
    obtain ⟨rfl, _⟩ := seen_usageConcluded hconcluded
    rw [List.append_nil, partsOf_plain]
    exact .nothing _

lemma outcome_serveRouteError {lookup : RouteLookup} {request : HttpRequest}
    (h : Seen view (serveRouteError g n lookup request) seen r) : Outcome t (partsOf seen) r := by
  refine outcome_orThrow (fun response hlocal hrest => ?_) h
  obtain ⟨_, hrest⟩ := seen_elapsed_bind_iff.mp hrest
  rw [seen_log_bind_iff, seen_log_bind_iff] at hrest
  exact outcome_sendResponse (unmeasured_handleLocalRouteError hlocal) hrest

/-- Where transports are orderly, a client gets one response. -/
lemma outcome_processParsed {j : Job} (hj : OrderlyFor g j)
    (h : Seen view (processParsedWithGeneration g j) seen r) :
    Outcome j.transport.forwardStreaming (partsOf seen) r := by
  unfold processParsedWithGeneration at h
  unfold OrderlyFor at hj
  cases hlookup : g.routes.lookup j.request.method j.request.path with
  | matched route canonicalPath =>
    simp only [hlookup] at h hj
    refine outcome_guarded (fun seen r hserve => ?_) h
    cases hkind : route.kind with
    | usage =>
      simp only [hkind] at hserve hj
      exact outcome_serveUsage hj hserve
    | request =>
      simp only [hkind] at hserve hj
      exact outcome_serveRequest hj hserve
  | _ =>
    simp only [hlookup] at h
    exact outcome_guarded (fun _ _ => outcome_serveRouteError) h

end Outcomes

/-! ### A transport that is not orderly -/

section Converse

variable {t : Exchange} {parts : List Part}

lemma OneResponse.unmeasured {response : HttpResponse} {b : Bool}
    (h : OneResponse t (.head response b :: parts)) : Unmeasured response.headers := by
  cases h with
  | whole r unmeasured sent =>
    cases (List.cons_prefix_cons.mp sent).1
    exact unmeasured
  | stream th out way r b called unmeasured sent =>
    cases (List.cons_prefix_cons.mp sent).1
    exact unmeasured

lemma OneResponse.not_chunk {c : Bytes} : ¬ OneResponse t (.chunk c :: parts) := by
  intro h
  cases h with
  | whole r unmeasured sent => cases (List.cons_prefix_cons.mp sent).1
  | stream th out way r b called unmeasured sent => cases (List.cons_prefix_cons.mp sent).1

/-- The head of a stream is followed by pieces. -/
lemma OneResponse.pieces {response : HttpResponse} (h : OneResponse t (.head response false :: parts)) :
    ∀ part ∈ parts, ∃ c, part = .chunk c := by
  intro part hpart
  cases h with
  | whole r unmeasured sent => cases (List.cons_prefix_cons.mp sent).1
  | stream th out way r b called unmeasured sent =>
    obtain ⟨c, _, rfl⟩ := List.mem_map.mp ((List.cons_prefix_cons.mp sent).2.subset hpart)
    exact ⟨c, rfl⟩

variable {g : Generation} {n : Names}

lemma exists_seen {α : Type} (p : Program α) : ∃ seen r, Seen view p seen r := by
  obtain ⟨h, r, hway⟩ := exists_way p
  exact ⟨_, r, h, hway, rfl⟩

variable [Library]

omit [Library] in
lemma writable_errorMembers {message type : Bytes} (hmessage : validUtf8 message = true)
    (htype : validUtf8 type = true) : Writable (errorMembers message type) := by
  refine proper_of_names [str "message", str "type"] rfl (by decide) (by decide) ?_
  intro m hm
  simp only [List.mem_cons, List.not_mem_nil, or_false] at hm
  rcases hm with rfl | rfl
  · exact hmessage
  · exact htype

/-- A text that is UTF-8 has a local response. -/
lemma exists_localError (handler : ProtocolDescriptor) (statusCode : ℕ) {type message : Bytes}
    (htype : validUtf8 type = true) (hmessage : validUtf8 message = true) :
    ∃ response, localError handler statusCode type message = some response := by
  have hmembers := writable_errorMembers hmessage htype
  unfold localError
  cases handler.errorEnvelope with
  | openAI =>
    have hobj : Writable (.obj [(str "error", errorMembers message type)]) := by
      refine proper_of_names [str "error"] rfl (by decide) (by decide) ?_
      simpa using hmembers
    obtain ⟨body, hbody⟩ := dumpAt_writable hobj none 0
    exact ⟨_, Option.map_eq_some_iff.mpr ⟨body, hbody, rfl⟩⟩
  | anthropic =>
    have hobj : Writable (.obj [(str "error", errorMembers message type),
        (str "type", .str (str "error"))]) := by
      refine proper_of_names [str "error", str "type"] rfl (by decide) (by decide) ?_
      intro m hm
      simp only [List.mem_cons, List.not_mem_nil, or_false] at hm
      rcases hm with rfl | rfl
      · exact hmembers
      · exact (by decide : validUtf8 (str "error") = true)
    obtain ⟨body, hbody⟩ := dumpAt_writable hobj none 0
    exact ⟨_, Option.map_eq_some_iff.mpr ⟨body, hbody, rfl⟩⟩

/-- An exception that is not quiet is answered with a head. -/
lemma exists_seen_failed (handler : ProtocolDescriptor) {e : Exception} (he : ¬ Quiet e)
    (hforeign : ∀ what, e ≠ .invalidHttpRequest what) : ∃ response r,
    Seen view (failed g n (some handler) e) [.sent (.head response true) false] r := by
  cases e with
  | invalidHttpRequest what => exact absurd rfl (hforeign what)
  | proxyError e => exact absurd trivial he
  | unknown => exact absurd trivial he
  | inflightBudgetExceeded =>
    obtain ⟨response, hresponse⟩ := exists_localError handler 503
      (by decide : validUtf8 (str "server_error") = true)
      (by decide : validUtf8 (str "inflight memory budget exhausted") = true)
    refine ⟨response, .ok false, ?_⟩
    rw [failed, seen_log_bind_iff, seen_orThrow_bind_iff]
    exact .inl ⟨response, hresponse, seen_sendResponse_iff.mpr (.inl ⟨false, .lost, rfl⟩)⟩
  | std what =>
    obtain ⟨response, hresponse⟩ := exists_localError handler 500
      (by decide : validUtf8 (str "server_error") = true)
      (by decide : validUtf8 (str "internal server error") = true)
    refine ⟨response, .ok false, ?_⟩
    rw [failed, seen_log_bind_iff, seen_orThrow_bind_iff]
    exact .inl ⟨response, hresponse, seen_sendResponse_iff.mpr (.inl ⟨false, .lost, rfl⟩)⟩

/-- A request that passes the pipeline reaches the transport. -/
lemma seen_serveRequest_of_way {route : RouteEntry} {canonicalPath : Bytes} {request : HttpRequest}
    {requestMemory requestBodyMemory : ℕ} {a : Allocations}
    (hok : (applyPipeline route.profile.requestPipeline a.faults request.body).ok = true)
    {th : List (Event TransportOp TransportAns)} {out : Except Exception HttpResponse}
    (hway : Way t th out) (hth : ∀ e ∈ th, Possible e) {rest : List Mark} {r : Except Exception Bool}
    (hrest : Seen view (concluded g n route.profile.handler (th.foldl Stream.next {}) out) rest r) :
    Seen view (serveRequest g n route canonicalPath request requestMemory requestBodyMemory a t)
      (th.flatMap marksOf ++ rest) r := by
  rw [seen_serveRequest_iff, seen_bind_iff]
  refine .inl ⟨[], _, _, rfl, exists_seen_applyPipelineIn _ a request.body, ?_⟩
  unfold piped
  rw [hok, Bool.not_true, if_neg Bool.false_ne_true]
  split
  · rw [seen_release_bind_iff]
    exact seen_relay_iff.mpr ⟨th, out, rest, hway, hth, rfl, hrest⟩
  · exact seen_relay_iff.mpr ⟨th, out, rest, hway, hth, rfl, hrest⟩

/-- Whatever a guarded program has handed over, some way through it has handed over first. -/
lemma exists_seen_guarded (handler : Option ProtocolDescriptor) {p : Program Bool} {seen : List Mark}
    {r : Except Exception Bool} (hp : Seen view p seen r) :
    ∃ rest r', Seen view (tryCatch p (failed g n handler)) (seen ++ rest) r' := by
  cases r with
  | ok b => exact ⟨[], .ok b, seen_tryCatch_iff.mpr (.inl ⟨b, rfl, by rwa [List.append_nil]⟩)⟩
  | error e =>
    obtain ⟨rest, r', hrest⟩ := exists_seen (failed g n handler e)
    exact ⟨rest, r', seen_tryCatch_iff.mpr (.inr ⟨seen, e, rest, rfl, hp, hrest⟩)⟩

section Unorderly

variable {route : RouteEntry} {canonicalPath : Bytes} {request : HttpRequest}
  {requestMemory requestBodyMemory : ℕ} {a : Allocations}
  {th before after : List (Event TransportOp TransportAns)} {out : Except Exception HttpResponse}

/-- The program of a request that is forwarded, with its handlers. -/
abbrev guarded (g : Generation) (n : Names) (route : RouteEntry) (canonicalPath : Bytes)
    (request : HttpRequest) (requestMemory requestBodyMemory : ℕ) (a : Allocations) (t : Exchange) :
    Program Bool :=
  tryCatch (serveRequest g n route canonicalPath request requestMemory requestBodyMemory a t)
    (failed g n (some route.profile.handler))

variable
  (hone : ∀ seen r, Seen view (guarded g n route canonicalPath request requestMemory requestBodyMemory a t)
    seen r → OneResponse t (partsOf seen))
  (hok : (applyPipeline route.profile.requestPipeline a.faults request.body).ok = true)

include hone hok

/-- What is handed over during the call of the transport is the first part of a response. -/
lemma one_of_way (hway : Way t th out) (hth : ∀ e ∈ th, Possible e) :
    ∃ rest, OneResponse t (partsOf (th.flatMap marksOf) ++ rest) := by
  obtain ⟨rest, r, hrest⟩ := exists_seen
    (concluded g n route.profile.handler (th.foldl Stream.next {}) out)
  obtain ⟨rest', r', hall⟩ := exists_seen_guarded (some route.profile.handler)
    (seen_serveRequest_of_way hok hway hth hrest)
  have h := hone _ _ hall
  rw [partsOf_append, partsOf_append, List.append_assoc] at h
  exact ⟨_, h⟩

/-- No piece is handed over before the head. -/
lemma memory_of_pieces (hway : Way t th out) (hth : ∀ e ∈ th, Possible e)
    (hparts : partsOf (th.flatMap marksOf) = (chunksOf after).map .chunk)
    (hafter : ∀ e ∈ after, NotHeaders e) : ∀ e ∈ after, Memory e := by
  obtain ⟨rest, hrest⟩ := one_of_way hone hok hway hth
  rw [hparts] at hrest
  rintro ⟨o, x⟩ he
  cases o with
  | onHeaders response => exact absurd rfl (hafter _ he response)
  | onChunk chunk =>
    have hmem : chunk ∈ chunksOf after := List.mem_filterMap.mpr ⟨_, he, rfl⟩
    cases hchunks : chunksOf after with
    | nil => rw [hchunks] at hmem; cases hmem
    | cons c cs =>
      rw [hchunks] at hrest
      exact absurd hrest OneResponse.not_chunk
  | _ => trivial

/-- A response that is returned has no length. -/
lemma unmeasured_of_returned {response : HttpResponse} (hway : Way t th (.ok response))
    (hth : ∀ e ∈ th, Possible e) (hmemory : ∀ e ∈ th, Memory e) : Unmeasured response.headers := by
  have hs := streamed_notHeaders fun e he => (hmemory e he).notHeaders
  have hrest : Seen view (concluded g n route.profile.handler (th.foldl Stream.next {}) (.ok response))
      [.sent (.head (response.named g) true) false] (.ok false) := by
    rw [concluded, seen_finishResponse_buffered hs, seen_sendResponse_iff]
    exact .inl ⟨false, .lost, rfl⟩
  obtain ⟨rest, r, hall⟩ := exists_seen_guarded (some route.profile.handler)
    (seen_serveRequest_of_way hok hway hth hrest)
  have h := hone _ _ hall
  rw [partsOf_append, partsOf_append, partsOf_memory hmemory] at h
  have hunmeasured := OneResponse.unmeasured h
  rwa [headers_named] at hunmeasured

/-- After the head of a stream, an exception is quiet. -/
lemma quiet_of_streamed {response : HttpResponse} {b : Bool} {e : Exception}
    (hforeign : ∀ what, e ≠ .invalidHttpRequest what)
    (hway : Way t (before ++ ⟨.onHeaders response, .ok b⟩ :: after) (.error e))
    (hth : ∀ e ∈ before ++ ⟨.onHeaders response, .ok b⟩ :: after, Possible e)
    (hparts : ∃ parts, partsOf ((before ++ ⟨.onHeaders response, .ok b⟩ :: after).flatMap marksOf) =
      .head response false :: parts) : Quiet e := by
  by_contra hquiet
  have hrest : Seen view (concluded g n route.profile.handler
      ((before ++ ⟨.onHeaders response, .ok b⟩ :: after).foldl Stream.next {}) (.error e)) []
      (.error e) := by
    cases e with
    | proxyError e => exact absurd trivial hquiet
    | _ => exact seen_throw_iff.mpr ⟨rfl, rfl⟩
  obtain ⟨response', r, hfailed⟩ := exists_seen_failed (g := g) (n := n) route.profile.handler hquiet hforeign
  have hall : Seen view (guarded g n route canonicalPath request requestMemory requestBodyMemory a t)
      _ r := seen_tryCatch_iff.mpr (.inr ⟨_, e, _, rfl,
        seen_serveRequest_of_way hok hway hth hrest, hfailed⟩)
  have h := hone _ _ hall
  obtain ⟨parts, hparts⟩ := hparts
  rw [List.append_nil, partsOf_append, hparts, List.cons_append] at h
  obtain ⟨c, hc⟩ := h.pieces (.head response' true) (List.mem_append_right _ (List.mem_singleton.mpr rfl))
  cases hc

/-- A transport that leaves clients one response is orderly. -/
lemma orderlyTransport_of_one (ht : Behaves t) : OrderlyTransport t := by
  intro th out hway hth
  obtain ⟨before, after, hbefore, hafter, rfl | ⟨response, x, rfl⟩⟩ := ht.shape th out hway
  · have hparts : partsOf ((before ++ after).flatMap marksOf) = (chunksOf after).map .chunk := by
      rw [List.flatMap_append, partsOf_append, partsOf_memory hbefore,
        partsOf_pieces hafter fun e he => hth e (List.mem_append_right _ he), List.nil_append]
    have hmemory := memory_of_pieces hone hok hway hth hparts hafter
    have hall : ∀ e ∈ before ++ after, Memory e := List.forall_mem_append.mpr ⟨hbefore, hmemory⟩
    refine .buffered hall fun response hout => ?_
    subst hout
    exact unmeasured_of_returned hone hok hway hth hall
  · have hpossible : ∀ e ∈ after, Possible e := fun e he =>
      hth e (List.mem_append_right _ (List.mem_cons_of_mem _ he))
    have hparts : partsOf ((before ++ ⟨.onHeaders response, x⟩ :: after).flatMap marksOf) =
        partsOf (marksOf ⟨.onHeaders response, x⟩) ++ (chunksOf after).map .chunk := by
      rw [List.flatMap_append, List.flatMap_cons, partsOf_append, partsOf_append, partsOf_memory hbefore,
        partsOf_pieces hafter hpossible, List.nil_append]
    have hx := hth _ (List.mem_append_right _ List.mem_cons_self)
    cases hx with
    | headers _ b =>
      refine .streamed hbefore hafter ?_ fun e hout => ?_
      · obtain ⟨rest, hrest⟩ := one_of_way hone hok hway hth
        rw [hparts] at hrest
        exact OneResponse.unmeasured hrest
      · subst hout
        have hforeign : ∀ what, e ≠ .invalidHttpRequest what := by
          rintro what rfl
          exact ht.foreign _ what hway
        exact quiet_of_streamed hone hok hforeign hway hth ⟨_, hparts⟩
    | refused =>
      exact .refused hbefore (memory_of_pieces hone hok hway hth hparts hafter)

end Unorderly

/-- Where clients are left one response, the transport is orderly. -/
lemma orderlyFor_of_one {j : Job} (ht : Behaves j.transport.forwardStreaming)
    (hone : ∀ seen r, Seen view (processParsedWithGeneration g j) seen r →
      OneResponse j.transport.forwardStreaming (partsOf seen)) : OrderlyFor g j := by
  unfold processParsedWithGeneration at hone
  unfold OrderlyFor
  cases hlookup : g.routes.lookup j.request.method j.request.path with
  | matched route canonicalPath =>
    simp only [hlookup] at hone ⊢
    cases hkind : route.kind with
    | request =>
      simp only [hkind] at hone ⊢
      exact fun hok => orderlyTransport_of_one hone hok ht
    | usage =>
      simp only [hkind] at hone ⊢
      intro th response hway hth
      -- the response is sent with a head, up to which everything is granted
      obtain ⟨named, hnamed, husage⟩ : ∃ named : HttpResponse, named.headers = response.headers ∧
          Seen view (handleUsageRequest g (namesOf j.requestId g route) route j.transport.forward)
            (th.flatMap marksPlain) (.ok (named, true)) := by
        refine ⟨_, ?_, seen_handleUsageRequest_iff.mpr ⟨th, .ok response, [], hway, hth,
          (List.append_nil _).symm, seen_pure_iff.mpr ⟨rfl, rfl⟩⟩⟩
        split <;> rfl
      have hserve : Seen view (serveUsage g (namesOf j.requestId g route) route j.transport.forward)
          (th.flatMap marksPlain ++ [.sent (.head named true) false]) (.ok false) := by
        refine seen_bind_iff.mpr (.inl ⟨_, _, _, rfl, husage, ?_⟩)
        refine seen_elapsed_bind_iff.mpr ⟨0, seen_log_bind_iff.mpr ?_⟩
        exact seen_sendResponse_iff.mpr (.inl ⟨false, .lost, rfl⟩)
      obtain ⟨rest, r, hall⟩ := exists_seen_guarded (some route.profile.handler) hserve
      have h := hone _ _ hall
      rw [partsOf_append, partsOf_append, partsOf_plain, List.nil_append, partsOf_sent,
        List.cons_append] at h
      rw [← hnamed]
      exact h.unmeasured
  | _ => trivial

end Converse

/-! ### One response -/

/-- A client is handed one response, whatever comes of sending and of asking for memory, exactly
when the transport is orderly. -/
theorem one_iff_orderly [Library] (g : Generation) (j : Job) (ht : Behaves j.transport.forwardStreaming) :
    (∀ h r, Way (processParsedWithGeneration g j) h r →
      OneResponse j.transport.forwardStreaming (handed h)) ↔ OrderlyFor g j := by
  constructor
  · intro hone
    refine orderlyFor_of_one ht ?_
    rintro seen r ⟨h, hway, rfl⟩
    rw [partsOf_filterMap_view]
    exact hone h r hway
  · intro hj h r hway
    rw [← partsOf_filterMap_view]
    exact (outcome_processParsed hj ⟨h, hway, rfl⟩).one

section Examples

attribute [local instance] bitLibrary

def theRoute : RouteEntry where
  profile := ⟨str "main", responsesHandler, true, []⟩
  kind := .request
  method := str "POST"
  localPath := str "/v1"
  upstream := ⟨str "https://example.com", str "/v1"⟩

def theGeneration : Generation where
  id := 1
  routes := ⟨[(str "/v1", ⟨[(str "POST", theRoute)], [str "POST"]⟩)], 1⟩

def streamHead : HttpResponse := { headers := [(str "Content-Type", str "text/event-stream")] }

/-- The transport hands over the head of a stream, and ends in some way. -/
def theJob (out : Exchange) : Job where
  requestId := str "r1"
  request := { method := str "POST", path := str "/v1", body := str "1" }
  requestMemory := 1
  requestBodyMemory := 1
  allocations := {}
  transport := ⟨.ret {}, .call (.onHeaders streamHead) fun _ => out⟩

lemma way_theJob {out : Exchange} {th : List (Event TransportOp TransportAns)}
    {r : Except Exception HttpResponse} (h : Way (theJob out).transport.forwardStreaming th r) :
    ∃ a rest, th = ⟨.onHeaders streamHead, a⟩ :: rest ∧ Way out rest r := way_call_iff.mp h

/-- Nothing comes after the head, and the end is the transport's own. -/
lemma behaves_theJob {out : Exchange} (hout : ∀ th r, Way out th r →
    th = [] ∧ ∀ what, r ≠ .error (.invalidHttpRequest what)) :
    Behaves (theJob out).transport.forwardStreaming where
  shape th r hway := by
    obtain ⟨a, rest, rfl, hrest⟩ := way_theJob hway
    obtain ⟨rfl, -⟩ := hout rest r hrest
    exact ⟨[], [], List.forall_mem_nil _, List.forall_mem_nil _, .inr ⟨streamHead, a, rfl⟩⟩
  foreign th what hway := by
    obtain ⟨a, rest, rfl, hrest⟩ := way_theJob hway
    exact (hout rest _ hrest).2 what rfl

theorem one_iff_orderly_returned : Behaves (theJob (.ret streamHead)).transport.forwardStreaming ∧
    ∀ h r, Way (processParsedWithGeneration theGeneration (theJob (.ret streamHead))) h r →
      OneResponse (theJob (.ret streamHead)).transport.forwardStreaming (handed h) := by
  have ht : Behaves (theJob (.ret streamHead)).transport.forwardStreaming := by
    refine behaves_theJob fun th r hway => ?_
    cases hway
    exact ⟨rfl, nofun⟩
  refine ⟨ht, (one_iff_orderly _ _ ht).mpr ?_⟩
  change _ → OrderlyTransport _
  intro _ th out hway hth
  obtain ⟨a, rest, rfl, hrest⟩ := way_theJob hway
  cases hrest
  have hunmeasured : Unmeasured streamHead.headers := by
    intro header hmem
    rw [List.mem_singleton.mp hmem]
    decide
  cases hth _ List.mem_cons_self with
  | headers _ b =>
    have h : Orderly ([] ++ ⟨.onHeaders streamHead, .ok b⟩ :: []) (.ok streamHead) :=
      .streamed (List.forall_mem_nil _) (List.forall_mem_nil _) hunmeasured nofun
    exact h
  | refused =>
    have h : Orderly ([] ++ ⟨.onHeaders streamHead, .error .inflightBudgetExceeded⟩ :: []) (.ok streamHead) :=
      .refused (List.forall_mem_nil _) (List.forall_mem_nil _)
    exact h

/-- When the budget is exhausted after the head of a stream, a second head follows. -/
theorem one_fails : Behaves (theJob (.throw .inflightBudgetExceeded)).transport.forwardStreaming ∧
    ¬ ∀ h r, Way (processParsedWithGeneration theGeneration (theJob (.throw .inflightBudgetExceeded))) h r →
      OneResponse (theJob (.throw .inflightBudgetExceeded)).transport.forwardStreaming (handed h) := by
  constructor
  · refine behaves_theJob fun th r hway => ?_
    cases hway
    exact ⟨rfl, nofun⟩
  · intro hone
    have hway : Way (theJob (.throw .inflightBudgetExceeded)).transport.forwardStreaming
        ([] ++ ⟨.onHeaders streamHead, .ok true⟩ :: []) (.error .inflightBudgetExceeded) :=
      way_call_iff.mpr ⟨.ok true, [], rfl, .throw _⟩
    have hseen : ∀ seen r, Seen view (guarded theGeneration (namesOf (str "r1") theGeneration theRoute)
        theRoute (str "/v1") (theJob (.throw .inflightBudgetExceeded)).request 1 1 {}
        (theJob (.throw .inflightBudgetExceeded)).transport.forwardStreaming) seen r →
        OneResponse (theJob (.throw .inflightBudgetExceeded)).transport.forwardStreaming (partsOf seen) := by
      rintro seen r ⟨h, hseen, rfl⟩
      rw [partsOf_filterMap_view]
      exact hone h r hseen
    have hquiet : Quiet .inflightBudgetExceeded := by
      refine quiet_of_streamed hseen rfl (fun _ => nofun) hway ?_ ⟨[], rfl⟩
      intro e he
      rw [List.mem_singleton.mp he]
      exact .headers streamHead true
    exact hquiet

end Examples

end CcsTrans.Server
