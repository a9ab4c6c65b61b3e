import CcsTrans.Server.HttpRequest
import CcsTrans.Protocols.Registry
import CcsTrans.Routing.RouteTable

/-!
Responses: the local ones, the headers that are kept of an upstream one, and how a head is
written.
-/

namespace CcsTrans.Server

open CcsTrans.Text CcsTrans.Json CcsTrans.Protocols CcsTrans.Routing

structure HttpResponse where
  statusCode : ℕ := 200
  reason : Bytes := str "OK"
  headers : Headers := []
  body : Bytes := []

/-! ### Local responses -/

/-- `reason_phrase` of the server. -/
def reasonPhrase (statusCode : ℕ) : Bytes :=
  match statusCode with
  | 200 => str "OK"
  | 400 => str "Bad Request"
  | 404 => str "Not Found"
  | 405 => str "Method Not Allowed"
  | 413 => str "Payload Too Large"
  | 503 => str "Service Unavailable"
  | 502 => str "Bad Gateway"
  | 504 => str "Gateway Timeout"
  | 500 => str "Internal Server Error"
  | _ => str "Error"

/-- `reason_phrase` of the protocols, which knows one status more and one less. -/
def protocolReasonPhrase (statusCode : ℕ) : Bytes :=
  match statusCode with
  | 400 => str "Bad Request"
  | 404 => str "Not Found"
  | 405 => str "Method Not Allowed"
  | 413 => str "Payload Too Large"
  | 429 => str "Too Many Requests"
  | 500 => str "Internal Server Error"
  | 502 => str "Bad Gateway"
  | 503 => str "Service Unavailable"
  | 504 => str "Gateway Timeout"
  | _ => str "Error"

def jsonContent : Bytes × Bytes := (str "Content-Type", str "application/json")

/-- The members of an error, in the order of their names. -/
def errorMembers (message type : Bytes) : Value :=
  .obj [(str "message", .str message), (str "type", .str type)]

section Local

variable [Library]

/-- `error_json`, which throws for a text that is not UTF-8. -/
def errorJson (message type : Bytes) : Option Bytes :=
  dump (.obj [(str "error", errorMembers message type)])

/-- A response of the server itself. -/
def serverError (statusCode : ℕ) (message type : Bytes) : Option HttpResponse :=
  (errorJson message type).map fun body =>
    { statusCode, reason := reasonPhrase statusCode, headers := [jsonContent], body }

/-- `ProtocolHandler::local_error`. -/
def localError (handler : ProtocolDescriptor) (statusCode : ℕ) (type message : Bytes) :
    Option HttpResponse :=
  (dump (match handler.errorEnvelope with
    | .anthropic => .obj [(str "error", errorMembers message type), (str "type", .str (str "error"))]
    | .openAI => .obj [(str "error", errorMembers message type)])).map fun body =>
    { statusCode, reason := protocolReasonPhrase statusCode, headers := [jsonContent], body }

/-- `Server::handle_local_route_error`. -/
def handleLocalRouteError (route : RouteLookup) : Option HttpResponse :=
  match route with
  | .invalidPath _ => serverError 400 (str "invalid request path") (str "invalid_request_error")
  | .methodNotAllowed allowedMethods _ =>
    (serverError 405 (str "method not allowed") (str "invalid_request_error")).map fun response =>
      { response with
        headers := (str "Allow", List.intercalate (str ", ") allowedMethods) :: response.headers }
  | _ => serverError 404 (str "unsupported route") (str "invalid_request_error")

end Local

/-! ### The headers of an upstream response -/

/-- `is_standard_hop_by_hop_name`, of a response. -/
def isStandardHopByHopName (name : Bytes) : Bool :=
  [str "content-length", str "connection", str "keep-alive", str "proxy-authenticate",
    str "proxy-authorization", str "proxy-connection", str "te", str "trailer",
    str "transfer-encoding", str "upgrade"].contains name

/-- `connection_nominates`. -/
def connectionNominates (headers : Headers) (normalizedName : Bytes) : Bool :=
  headers.any fun header => lowerCopy header.1 = str "connection" &&
    (splitOn (ch ',') header.2).any fun token => lowerCopy (trim token) = lowerCopy normalizedName

def filterResponseHeaders (headers : Headers) : Headers :=
  headers.filter fun header => !isStandardHopByHopName (lowerCopy header.1) &&
    !connectionNominates headers (lowerCopy header.1)

/-- `is_event_stream`. -/
def isEventStream (headers : Headers) : Bool :=
  headers.any fun header => lowerCopy header.1 = str "content-type" &&
    (cut (str "text/event-stream") (lowerCopy header.2)).isSome

/-- No header declares a length. -/
def Unmeasured (headers : Headers) : Prop :=
  ∀ header ∈ headers, lowerCopy header.1 ≠ str "content-length"

lemma unmeasured_filterResponseHeaders (headers : Headers) :
    Unmeasured (filterResponseHeaders headers) := by
  intro header hmem heq
  have hkept := (List.mem_filter.mp hmem).2
  rw [heq] at hkept
  exact absurd hkept (by simp [isStandardHopByHopName])

/-! ### Heads -/

/-- The reason that is written. -/
def HttpResponse.shownReason (response : HttpResponse) : Bytes :=
  if response.reason = [] then reasonPhrase response.statusCode else response.reason

/-- The size that `build_response_head` computes. -/
def headSize (response : HttpResponse) (includeContentLength : Bool) : ℕ :=
  9 + (decimal response.statusCode).length + 1 + response.shownReason.length + 2 +
    (response.headers.map fun header => header.1.length + 2 + header.2.length + 2).sum +
    (if includeContentLength then 16 + (decimal response.body.length).length + 2 else 0) + (19 + 2)

/-- The text that `build_response_head` makes. -/
def headText (response : HttpResponse) (includeContentLength : Bool) : Bytes :=
  str "HTTP/1.1 " ++ decimal response.statusCode ++ str " " ++ response.shownReason ++ str "\r\n" ++
    (response.headers.flatMap fun header => header.1 ++ str ": " ++ header.2 ++ str "\r\n") ++
    (if includeContentLength then
      str "Content-Length: " ++ decimal response.body.length ++ str "\r\n" else []) ++
    str "Connection: close\r\n\r\n"

/-- The memory that is reserved for a head is its size. -/
lemma length_headText (response : HttpResponse) (includeContentLength : Bool) :
    (headText response includeContentLength).length = headSize response includeContentLength := by
  have hheaders : (response.headers.flatMap fun header =>
      header.1 ++ str ": " ++ header.2 ++ str "\r\n").length =
      (response.headers.map fun header => header.1.length + 2 + header.2.length + 2).sum := by
    rw [List.length_flatMap]
    refine congrArg List.sum (List.map_congr_left fun header _ => ?_)
    simp only [List.length_append]
    rfl
  have h₁ : (str "HTTP/1.1 ").length = 9 := rfl
  have h₂ : (str " ").length = 1 := rfl
  have h₃ : (str "\r\n").length = 2 := rfl
  have h₄ : (str "Content-Length: ").length = 16 := rfl
  have h₅ : (str "Connection: close\r\n\r\n").length = 21 := rfl
  cases includeContentLength with
  | false =>
    simp only [headText, headSize, List.length_append, hheaders, Bool.false_eq_true, if_false,
      List.length_nil]
    omega
  | true =>
    simp only [headText, headSize, List.length_append, hheaders, if_true]
    omega

/-- What is handed to the sender, with what it is: a head, with its length or without, the body
of a response, or a piece of a stream. -/
inductive Part where
  | head (response : HttpResponse) (includeContentLength : Bool)
  | body (response : HttpResponse)
  | chunk (data : Bytes)

/-- The bytes of a part. -/
def Part.data : Part → Bytes
  | .head response includeContentLength => headText response includeContentLength
  | .body response => response.body
  | .chunk data => data

end CcsTrans.Server
