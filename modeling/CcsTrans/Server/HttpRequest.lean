import CcsTrans.Text
import CcsTrans.Fallible

/-!
How the server reads a request from a client.

The bytes of a request arrive in pieces, as the network divides them. The reader collects them
until it has the head, and then until it has the body that the head declares. What is sent
after the body is tolerated or not, as far as it has been received by then.
-/

namespace CcsTrans.Server

open CcsTrans.Text

/-! ### Requests -/

abbrev Headers := List (Bytes × Bytes)

structure HttpRequest where
  method : Bytes := []
  target : Bytes := []
  path : Bytes := []
  query : Bytes := []
  version : Bytes := []
  headers : Headers := []
  body : Bytes := []
  clientIp : Bytes := []
  deriving DecidableEq

/-- The exceptions of the reader. -/
inductive RequestError where
  | invalidHttpRequest (message : Bytes)
  | inflightBudgetExceeded
  | runtimeError (what : Bytes)

/-- The status that a client is answered with, if it is answered at all (`handle_client`). -/
def RequestError.status : RequestError → Option ℕ
  | .invalidHttpRequest _ => some 400
  | .inflightBudgetExceeded => some 503
  | .runtimeError what =>
    if what = str "client disconnected before request" then none
    else if what = str "request headers too large" ∨ what = str "request body too large" ∨
        what = str "request too large" then some 413
    else some 500

def lowerCopy (s : Bytes) : Bytes := s.map toLower

/-- `trim`, and `trim_view`. -/
def trim (s : Bytes) : Bytes := ((s.dropWhile isSpace).reverse.dropWhile isSpace).reverse

/-- `is_header_name_char`: the letters, the digits and the signs that a token may have. -/
def isHeaderNameChar (b : UInt8) : Bool :=
  isAlnum b || [33, 35, 36, 37, 38, 39, 42, 43, 45, 46, 94, 95, 96, 124, 126].contains b

/-- `content_length`. -/
def contentLength (headers : Headers) : Except RequestError ℕ := do
  let result ← headers.foldlM (fun (result : Option ℕ) (header : Bytes × Bytes) =>
    let name := lowerCopy header.1
    if name = str "transfer-encoding" then
      .error (.invalidHttpRequest (str "request Transfer-Encoding is not supported"))
    else if name ≠ str "content-length" then .ok result
    else if result.isSome then
      .error (.invalidHttpRequest (str "request contains duplicate Content-Length headers"))
    else
      let value := trim header.2
      if value = [] ∨ !value.all isDigit ∨ digitsValue value ≥ 2 ^ 64 then
        .error (.invalidHttpRequest (str "request Content-Length is invalid"))
      else .ok (some (digitsValue value))) none
  pure (result.getD 0)

/-- `has_json_content_type`. -/
def hasJsonContentType (headers : Headers) : Bool :=
  headers.any fun header => lowerCopy header.1 = str "content-type" &&
    (cut (str "application/json") (lowerCopy header.2)).isSome

/-- `split_target`. -/
def splitTarget (request : HttpRequest) : HttpRequest :=
  match cut (str "?") request.target with
  | none => { request with path := request.target, query := [] }
  | some (path, query) => { request with path, query }

/-- The lines of a head. -/
def headLines : Bytes → List Bytes
  | [] => [[]]
  | [b] => [[b]]
  | b :: c :: t =>
    if b = 13 ∧ c = 10 then [] :: headLines t
    else match headLines (c :: t) with
      | [] => [[b]]
      | line :: lines => (b :: line) :: lines

/-- The headers, up to an empty line. -/
def parseHeaders : List Bytes → Except RequestError Headers
  | [] => .ok []
  | line :: lines =>
    if line = [] then .ok []
    else match cut (str ":") line with
      | none => .error (.invalidHttpRequest (str "request contains a malformed HTTP header"))
      | some (name, rest) =>
        let value := trim rest
        if name = [] ∨ !name.all isHeaderNameChar ∨ value.any (fun b => (b < 32 && b != 9) || b == 127) then
          .error (.invalidHttpRequest (str "request contains a malformed HTTP header"))
        else (parseHeaders lines).map ((name, value) :: ·)

/-- `parse_request_head`. -/
def parseRequestHead (rawHead clientIp : Bytes) : Except RequestError HttpRequest :=
  let malformed : RequestError := .invalidHttpRequest
    (str "request line is malformed or uses an unsupported HTTP version")
  match headLines rawHead with
  | [] => .error (.invalidHttpRequest (str "request is missing the HTTP request line"))
  | first :: lines =>
    match splitOn 32 first with
    | [method, target, version] =>
      if method = [] ∨ target = [] ∨ version = [] then .error malformed
      else if version ≠ str "HTTP/1.1" ∧ version ≠ str "HTTP/1.0" then .error malformed
      else (parseHeaders lines).map fun headers =>
        splitTarget { method, target, version, headers, clientIp }
    | _ => .error malformed

/-! ### Reading -/

def kHeaderLimit : ℕ := 64 * 1024

/-- The size of the buffer of one `recv`. -/
def kReceiveSize : ℕ := 8192

/-- What ends a head, and what the reader skips before a body. -/
def terminator : Bytes := str "\r\n\r\n"

/-- `grow_request_memory`, where the request may hold `room` bytes of the budget. -/
def growRequestMemory (room held bytes : ℕ) : Except RequestError ℕ :=
  if bytes ≠ 0 ∧ room < held + bytes then .error .inflightBudgetExceeded else .ok (held + bytes)

structure ReceivedRequest where
  request : HttpRequest
  /-- The bytes of the budget that the request holds. -/
  memory : ℕ
  bodyMemoryBytes : ℕ
  deriving DecidableEq

/-- What has been received, the head of it, and what is still to come. -/
structure HeadRead where
  memory : ℕ
  buffer : Bytes
  head : Bytes
  pieces : List Bytes

variable (maxBodySize room : ℕ)

/-- The pieces up to the one with the end of the head. -/
def readHead (memory : ℕ) (buffer : Bytes) : List Bytes → Except RequestError HeadRead
  | [] => .error (.runtimeError (if buffer = [] then str "client disconnected before request"
      else str "failed to read request"))
  | piece :: pieces =>
    if piece.length > kHeaderLimit + maxBodySize - min (kHeaderLimit + maxBodySize) buffer.length then
      .error (.runtimeError (str "request too large"))
    else match growRequestMemory room memory piece.length with
      | .error e => .error e
      | .ok memory =>
        match cut terminator (buffer ++ piece) with
        | none =>
          if (buffer ++ piece).length > kHeaderLimit then
            .error (.runtimeError (str "request headers too large"))
          else readHead memory (buffer ++ piece) pieces
        | some (head, _) =>
          if head.length + 4 > kHeaderLimit then
            .error (.runtimeError (str "request headers too large"))
          else .ok ⟨memory, buffer ++ piece, head, pieces⟩

/-- The pieces up to the one with the end of the body, which is at `stop`. -/
def readBody (stop memory : ℕ) (buffer : Bytes) (pieces : List Bytes) :
    Except RequestError (ℕ × Bytes) :=
  if stop ≤ buffer.length then .ok (memory, buffer)
  else match pieces with
    | [] => .error (.runtimeError (str "failed to read request body"))
    | piece :: pieces =>
      if piece.length > stop + 4 - min (stop + 4) buffer.length then
        .error (.runtimeError (str "request too large"))
      else match growRequestMemory room memory piece.length with
        | .error e => .error e
        | .ok memory => readBody stop memory (buffer ++ piece) pieces

/-- Where the body starts: the reader skips a second terminator when all of the body is there
without it. -/
def actualBodyStart (request : HttpRequest) (start expected : ℕ) (buffer : Bytes) : ℕ :=
  if expected > 0 ∧ hasJsonContentType request.headers ∧ buffer.length ≥ start + 4 ∧
      (buffer.drop start).take 4 = terminator ∧ buffer.length ≥ start + 4 + expected then start + 4
  else start

/-- `recv_request`, of a stream that comes in pieces. -/
def recvRequest (clientIp : Bytes) (pieces : List Bytes) : Except RequestError ReceivedRequest := do
  let read ← readHead maxBodySize room 0 [] pieces
  let memory ← growRequestMemory room read.memory read.head.length
  let request ← parseRequestHead read.head clientIp
  let expected ← contentLength request.headers
  if expected > maxBodySize then .error (.runtimeError (str "request body too large"))
  else
    let memory ← growRequestMemory room memory expected
    let start := read.head.length + 4
    let (memory, buffer) ← readBody room (start + expected) memory read.buffer read.pieces
    let body := (buffer.drop (actualBodyStart request start expected buffer)).take expected
    pure ⟨{ request with body }, memory - buffer.length, expected⟩

/-- What becomes of a client: its request, or the status it is answered with. -/
def received (clientIp : Bytes) (pieces : List Bytes) : Except (Option ℕ) ReceivedRequest :=
  (recvRequest maxBodySize room clientIp pieces).mapError RequestError.status

/-- A stream as it may come in: in pieces that are not empty and fit into the buffer of `recv`. -/
structure Divides (pieces : List Bytes) (stream : Bytes) : Prop where
  whole : pieces.flatten = stream
  fit : ∀ piece ∈ pieces, piece ≠ [] ∧ piece.length ≤ kReceiveSize

end CcsTrans.Server
