import CcsTrans.Core.LeaseCalls
import CcsTrans.Server.Processing
import CcsTrans.Server.ResponseHead
import CcsTrans.Transport.HeaderFilter

/-!
The memory that an upstream response takes while it arrives.

Libcurl hands a response over in two callbacks, line by line of its heads and piece by piece of
its body. There may be more than one head, and lines after the body. One lease stands for the
bytes of the last head and for the body together. WinHTTP is asked for the body in a loop, and the
lease stands for the body alone.
-/

namespace CcsTrans.Transport

open CcsTrans.Text CcsTrans.Core
open CcsTrans.Server (Headers isEventStream trim ProxyError)
open CcsTrans.Server.Heads (HttpResponse)

/-! ### What both transports share -/

/-- `std::string::size`. -/
def size (s : Bytes) : UInt64 := UInt64.ofNat s.length

/-- How much more of a body may be buffered. -/
def remaining (limit : UInt64) (body : Bytes) : UInt64 := limit - min limit (size body)

lemma toNat_size {s : Bytes} {limit : UInt64} (h : s.length ≤ limit.toNat) :
    (size s).toNat = s.length := by
  have hlt := limit.toNat_lt
  rw [size, UInt64.toNat_ofNat', Nat.mod_eq_of_lt (by omega)]

lemma toNat_remaining {body : Bytes} {limit : UInt64} (h : body.length ≤ limit.toNat) :
    (remaining limit body).toNat = limit.toNat - body.length := by
  have hsize := toNat_size h
  have hmin : min limit (size body) = size body := by
    rw [← UInt64.toNat_inj, Budget.toNat_min]
    omega
  rw [remaining, hmin, UInt64.toNat_sub_of_le _ _ (UInt64.le_iff_toNat_le.mpr (by omega)), hsize]

/-- How a callback of the caller ends. -/
inductive Answer where
  | goOn
  | stop
  | throws
  deriving DecidableEq

/-- What the standard library throws. -/
inductive Fault where
  | badAlloc
  | other
  deriving DecidableEq

/-! ### The callbacks of libcurl -/

namespace Curl

def kResponseHeaderLimit : UInt64 := 64 * 1024

/-- The reasons that a callback may have. -/
inductive AbortReason where
  | none
  | cancelled
  | responseTooLarge
  | responseHeadersTooLarge
  | inflightBudgetExceeded
  | allocationFailed
  | callbackException
  | callbackStopped
  deriving DecidableEq

structure RequestContext where
  maxResponseBodySize : UInt64
  /-- The capacity of the budget, if there is one. -/
  inflightBudget : Option UInt64
  responseBodyMemory : BodyMemory
  responseHeaderBytes : UInt64 := 0
  callbackExceptionAfterHeaders : Bool := false
  /-- Whether the caller takes the head of a stream, and its pieces. -/
  onHeaders : Bool
  onChunk : Bool
  response : HttpResponse := {}
  responseHeaders : Headers := []
  abortReason : AbortReason := .none
  headersComplete : Bool := false
  streaming : Bool := false

/-- What a callback is given: `count` items of `size` bytes. -/
structure Buffer where
  size : UInt64
  count : UInt64
  data : Bytes
  length_data : size.toNat * count.toNat < 2 ^ 64 → data.length = size.toNat * count.toNat

def Buffer.bytes (b : Buffer) : UInt64 := b.size * b.count

/-- The product is no `size_t`. -/
def Buffer.overflows (b : Buffer) : Bool := b.size ≠ 0 && b.count > 0xFFFFFFFFFFFFFFFF / b.size

structure HeaderCall where
  buffer : Buffer
  /-- What other leases hold when bytes are reserved, and when the filter gets its memory. -/
  others : ℕ := 0
  filterOthers : ℕ := 0
  fault : Option Fault := none
  onHeaders : Answer := .goOn

structure BodyCall where
  buffer : Buffer
  cancelled : Bool := false
  others : ℕ := 0
  fault : Option Fault := none
  onChunk : Answer := .goOn

inductive Callback where
  | header (h : HeaderCall)
  | body (b : BodyCall)

/-! ### Lines of a head -/

def trimHeaderValue (value : Bytes) : Bytes :=
  trim (value.reverse.dropWhile fun b => b == 13 || b == 10).reverse

/-- `line >> value` for an `int`, and what is left of the line unless that fails. A line that is
over leaves the value as it is. -/
def extractInt (line : Bytes) (value : Int32) : Int32 × Bytes :=
  match line.dropWhile isSpace with
  | [] => (value, [])
  | b :: rest =>
    let digits := if b = ch '-' ∨ b = ch '+' then rest else b :: rest
    let number : ℤ := digitsValue (digits.takeWhile isDigit)
    let number := if b = ch '-' then -number else number
    if digits.takeWhile isDigit = [] then (0, [])
    else if number < -2147483648 then (-2147483648, [])
    else if 2147483647 < number then (2147483647, [])
    else (Int32.ofInt number, digits.dropWhile isDigit)

/-- The status and the reason of a line that begins with a version. -/
def readStatusLine (raw : Bytes) (response : HttpResponse) : HttpResponse :=
  let (statusCode, rest) := extractInt (raw.dropWhile fun b => !isSpace b) response.statusCode
  { response with statusCode := statusCode, reason := trimHeaderValue (rest.takeWhile (· != 10)) }

namespace RequestContext

/-- The context with which `send` starts. -/
def start (maxResponseBodySize : UInt64) (inflightBudget : Option UInt64) (onHeaders onChunk : Bool) :
    RequestContext where
  maxResponseBodySize := maxResponseBodySize
  inflightBudget := inflightBudget
  responseBodyMemory := { lease := inflightBudget.map fun _ => ⟨true, 0⟩ }
  onHeaders := onHeaders
  onChunk := onChunk

variable (c : RequestContext)

/-- A callback that returns zero. -/
def abort (reason : AbortReason) : Except RequestContext RequestContext :=
  .error { c with abortReason := reason }

def recordCallbackException (afterHeaders : Bool) : Except RequestContext RequestContext :=
  .error { c with callbackExceptionAfterHeaders := afterHeaders, abortReason := .callbackException }

/-- The handlers at the end of a callback. -/
def caught (afterHeaders : Bool) : Fault → Except RequestContext RequestContext
  | .badAlloc => c.abort .allocationFailed
  | .other => c.recordCallbackException afterHeaders

/-- `try_grow` of the lease of the response, if there is one. -/
def tryGrow (others : ℕ) (bytes : UInt64) : Option RequestContext :=
  (c.responseBodyMemory.tryGrow (c.inflightBudget.getD 0) others bytes).map fun memory =>
    { c with responseBodyMemory := memory }

def shrink (bytes : UInt64) : RequestContext :=
  { c with responseBodyMemory := c.responseBodyMemory.shrink bytes }

/-- A lease apart from that of the response is to be had, if there is a budget at all. -/
def tryAcquire (others : ℕ) (bytes : UInt64) : Bool :=
  c.inflightBudget.all fun capacity =>
    tryAcquireInflight capacity (others + c.responseBodyMemory.held) bytes

def resetResponseAccounting : RequestContext :=
  let c := if c.responseHeaderBytes ≠ 0 then c.shrink c.responseHeaderBytes else c
  let c := { c with responseHeaderBytes := 0 }
  if c.response.body ≠ [] then c.shrink (size c.response.body) else c

def reserveResponseHeaderBytes (others : ℕ) (bytes : UInt64) : Except RequestContext RequestContext :=
  if c.responseHeaderBytes > kResponseHeaderLimit ∨
      bytes > kResponseHeaderLimit - c.responseHeaderBytes then c.abort .responseHeadersTooLarge
  else match c.tryGrow others bytes with
    | none => c.abort .inflightBudgetExceeded
    | some c => .ok { c with responseHeaderBytes := c.responseHeaderBytes + bytes }

/-- A line with a version: a new response begins. The body of the last one is let go only after
the bytes of the line are reserved. -/
def beginResponse (h : HeaderCall) : Except RequestContext RequestContext := do
  let c := { c.resetResponseAccounting with responseHeaders := [] }
  let c ← c.reserveResponseHeaderBytes h.others h.buffer.bytes
  let c := { c with response := { reason := [] }, headersComplete := false, streaming := false }
  match h.fault with
  | some fault => c.caught false fault
  | none => .ok { c with response := readStatusLine h.buffer.data c.response }

/-- An empty line: the head is complete, unless the status is a 1xx. -/
def completeHeaders (h : HeaderCall) : Except RequestContext RequestContext :=
  if 100 ≤ c.response.statusCode ∧ c.response.statusCode < 200 then .ok c
  else if c.responseHeaderBytes ≠ 0 ∧ !c.tryAcquire h.filterOthers c.responseHeaderBytes then
    c.abort .inflightBudgetExceeded
  else match h.fault with
    | some fault => c.caught false fault
    | none =>
      let headers := filterResponseHeaders c.responseHeaders
      let c := { c with
        response.headers := headers, responseHeaders := [], headersComplete := true,
        streaming := isEventStream headers && c.onChunk }
      if c.streaming && c.onHeaders then
        match h.onHeaders with
        | .goOn => .ok c
        | .stop => c.abort .callbackStopped
        | .throws => c.recordCallbackException false
      else .ok c

/-- Any other line. -/
def addHeader (h : HeaderCall) : Except RequestContext RequestContext :=
  match h.buffer.data.findIdx? (· == ch ':') with
  | some colon =>
    if colon = 0 then .ok c
    else match h.fault with
      | some fault => c.caught false fault
      | none => .ok { c with responseHeaders := c.responseHeaders ++
          [(trimHeaderValue (h.buffer.data.take colon), trimHeaderValue (h.buffer.data.drop (colon + 1)))] }
  | none => .ok c

/-- `response_header_callback`. -/
def responseHeaderCallback (h : HeaderCall) : Except RequestContext RequestContext :=
  if h.buffer.overflows then c.abort .responseHeadersTooLarge
  else if startsWith (str "HTTP/") h.buffer.data then c.beginResponse h
  else do
    let c ← c.reserveResponseHeaderBytes h.others h.buffer.bytes
    if c.headersComplete then .ok c
    else if h.buffer.data = str "\r\n" ∨ h.buffer.data = str "\n" then c.completeHeaders h
    else c.addHeader h

/-- A piece of a stream. -/
def passChunk (b : BodyCall) : Except RequestContext RequestContext :=
  if !c.tryAcquire b.others b.buffer.bytes then c.abort .inflightBudgetExceeded
  else match b.fault with
    | some fault => c.caught c.streaming fault
    | none => match b.onChunk with
      | .goOn => .ok c
      | .stop => c.abort .callbackStopped
      | .throws => c.recordCallbackException true

/-- A piece of a body that is buffered. -/
def bufferPiece (b : BodyCall) : Except RequestContext RequestContext :=
  if b.buffer.bytes > remaining c.maxResponseBodySize c.response.body then c.abort .responseTooLarge
  else match c.tryGrow b.others b.buffer.bytes with
    | none => c.abort .inflightBudgetExceeded
    | some c => match b.fault with
      | some fault => (c.shrink b.buffer.bytes).caught c.streaming fault
      | none => .ok { c with response.body := c.response.body ++ b.buffer.data }

/-- `response_body_callback`. -/
def responseBodyCallback (b : BodyCall) : Except RequestContext RequestContext :=
  if b.buffer.overflows then c.abort .responseTooLarge
  else if b.cancelled then c.abort .cancelled
  else if c.streaming then c.passChunk b
  else c.bufferPiece b

def callback : Callback → Except RequestContext RequestContext
  | .header h => c.responseHeaderCallback h
  | .body b => c.responseBodyCallback b

/-- The callbacks of a transfer, up to the first that aborts it. -/
def transfer (callbacks : List Callback) : Except RequestContext RequestContext :=
  callbacks.foldlM callback c

end RequestContext

/-! ### The account of a transfer -/

/-- A piece that is taken has the length that its size says. -/
lemma Buffer.length_of_fits (b : Buffer) (h : b.overflows = false) :
    b.data.length = b.bytes.toNat := by
  have hlt : b.size.toNat * b.count.toNat < 2 ^ 64 := by
    by_cases hzero : b.size = 0
    · rw [hzero]
      simp
    · have hpos : 0 < b.size.toNat := Nat.pos_of_ne_zero fun heq => hzero (UInt64.toNat_inj.mp heq)
      have hcount : ¬ b.count > 0xFFFFFFFFFFFFFFFF / b.size := by simpa [overflows, hzero] using h
      rw [gt_iff_lt, UInt64.lt_iff_toNat_lt, UInt64.toNat_div, not_lt, Nat.le_div_iff_mul_le hpos,
        mul_comm] at hcount
      exact lt_of_le_of_lt hcount (by decide)
  rw [b.length_data hlt, bytes, UInt64.toNat_mul, Nat.mod_eq_of_lt hlt]

/-- The bounds that hold after every callback, also one that aborts the transfer. -/
structure Bounded (limit : UInt64) (c : RequestContext) : Prop where
  asserted : c.responseBodyMemory.asserted = true
  headers : c.responseHeaderBytes.toNat ≤ kResponseHeaderLimit.toNat
  body : c.response.body.length ≤ limit.toNat

/-- **The account**: the lease holds the bytes of the head and of the body. -/
structure Accounted (limit : UInt64) (budget : Option UInt64) (c : RequestContext) : Prop where
  maxResponseBodySize : c.maxResponseBodySize = limit
  present : c.responseBodyMemory.lease.isSome = budget.isSome
  holds : c.responseBodyMemory.Holds (c.responseHeaderBytes.toNat + c.response.body.length)
  headers : c.responseHeaderBytes.toNat ≤ kResponseHeaderLimit.toNat
  body : c.response.body.length ≤ limit.toNat
  going : c.abortReason = .none

/-- What a callback may lead to. -/
inductive Fine (limit : UInt64) (budget : Option UInt64) : Except RequestContext RequestContext → Prop
  | going {c : RequestContext} (h : Accounted limit budget c) : Fine limit budget (.ok c)
  | aborted {c : RequestContext} (h : Bounded limit c) (hreason : c.abortReason ≠ .none) :
      Fine limit budget (.error c)

variable {limit : UInt64} {budget : Option UInt64} {c : RequestContext}

lemma Accounted.bounded (h : Accounted limit budget c) : Bounded limit c :=
  ⟨h.holds.asserted, h.headers, h.body⟩

lemma Bounded.abort (h : Bounded limit c) {reason : AbortReason} (hreason : reason ≠ .none) :
    Fine limit budget (c.abort reason) :=
  .aborted ⟨h.asserted, h.headers, h.body⟩ hreason

lemma Bounded.recorded (h : Bounded limit c) (afterHeaders : Bool) :
    Fine limit budget (c.recordCallbackException afterHeaders) :=
  .aborted ⟨h.asserted, h.headers, h.body⟩ nofun

lemma Bounded.caught (h : Bounded limit c) (afterHeaders : Bool) (fault : Fault) :
    Fine limit budget (c.caught afterHeaders fault) := by
  cases fault with
  | badAlloc => exact h.abort nofun
  | other => exact h.recorded afterHeaders

lemma Fine.bind {x : Except RequestContext RequestContext}
    {f : RequestContext → Except RequestContext RequestContext} (h : Fine limit budget x)
    (hf : ∀ c, Accounted limit budget c → Fine limit budget (f c)) : Fine limit budget (x >>= f) := by
  cases h with
  | going h => exact hf _ h
  | aborted h hreason => exact .aborted h hreason

/-- What is done before the bytes of a new status line are reserved. The body is still there. -/
lemma Accounted.reset (h : Accounted limit budget c) :
    ∃ memory : BodyMemory, memory.Holds 0 ∧ memory.lease.isSome = budget.isSome ∧
      c.resetResponseAccounting =
        { c with responseBodyMemory := memory, responseHeaderBytes := 0 } := by
  have hsize := toNat_size h.body
  obtain ⟨memory, hholds, hpresent, hfirst⟩ : ∃ memory : BodyMemory,
      memory.Holds c.response.body.length ∧ memory.lease.isSome = budget.isSome ∧
      (if c.responseHeaderBytes ≠ 0 then c.shrink c.responseHeaderBytes else c) =
        { c with responseBodyMemory := memory } := by
    split_ifs with hzero
    · obtain ⟨hholds, hpresent⟩ := h.holds.shrink c.responseHeaderBytes (by omega)
      rw [Nat.add_sub_cancel_left] at hholds
      exact ⟨_, hholds, hpresent.trans h.present, rfl⟩
    · have hholds := h.holds
      rw [not_ne_iff.mp hzero, UInt64.toNat_zero, Nat.zero_add] at hholds
      exact ⟨_, hholds, h.present, rfl⟩
  rw [RequestContext.resetResponseAccounting, hfirst]
  simp only []
  split_ifs with hempty
  · obtain ⟨hholds', hpresent'⟩ := hholds.shrink (size c.response.body) (by omega)
    rw [hsize, Nat.sub_self] at hholds'
    exact ⟨_, hholds', hpresent'.trans hpresent, rfl⟩
  · rw [not_ne_iff.mp hempty] at hholds
    exact ⟨_, hholds, hpresent, rfl⟩

/-- What a reservation of bytes for a line does. -/
lemma reserve_cases {n : ℕ} (others : ℕ) (bytes : UInt64) (hholds : c.responseBodyMemory.Holds n)
    (hheaders : c.responseHeaderBytes.toNat ≤ kResponseHeaderLimit.toNat) :
    (∃ reason ≠ AbortReason.none, c.reserveResponseHeaderBytes others bytes = c.abort reason) ∨
    ∃ memory : BodyMemory, memory.Holds (n + bytes.toNat) ∧
      memory.lease.isSome = c.responseBodyMemory.lease.isSome ∧
      (c.responseHeaderBytes + bytes).toNat = c.responseHeaderBytes.toNat + bytes.toNat ∧
      (c.responseHeaderBytes + bytes).toNat ≤ kResponseHeaderLimit.toNat ∧
      c.reserveResponseHeaderBytes others bytes = .ok { c with
        responseBodyMemory := memory, responseHeaderBytes := c.responseHeaderBytes + bytes } := by
  have hlimit : kResponseHeaderLimit.toNat = 65536 := rfl
  unfold RequestContext.reserveResponseHeaderBytes
  split_ifs with hlarge
  · exact .inl ⟨.responseHeadersTooLarge, nofun, rfl⟩
  · have hroom : bytes.toNat ≤ kResponseHeaderLimit.toNat - c.responseHeaderBytes.toNat := by
      have hle := UInt64.not_lt.mp (not_or.mp hlarge).2
      rw [UInt64.le_iff_toNat_le,
        UInt64.toNat_sub_of_le _ _ (UInt64.le_iff_toNat_le.mpr hheaders)] at hle
      exact hle
    have hsum : (c.responseHeaderBytes + bytes).toNat = c.responseHeaderBytes.toNat + bytes.toNat := by
      rw [UInt64.toNat_add, Nat.mod_eq_of_lt (by omega)]
    unfold RequestContext.tryGrow
    cases hgrown : c.responseBodyMemory.tryGrow (c.inflightBudget.getD 0) others bytes with
    | none => exact .inl ⟨.inflightBudgetExceeded, nofun, rfl⟩
    | some memory =>
      obtain ⟨hholds', hpresent⟩ := hholds.tryGrow hgrown
      exact .inr ⟨memory, hholds', hpresent, hsum, by omega, rfl⟩

lemma Accounted.reserve (h : Accounted limit budget c) (others : ℕ) (bytes : UInt64) :
    Fine limit budget (c.reserveResponseHeaderBytes others bytes) := by
  rcases reserve_cases others bytes h.holds h.headers with
    ⟨reason, hreason, heq⟩ | ⟨memory, hholds, hpresent, hsum, hheaders, heq⟩
  · rw [heq]
    exact h.bounded.abort hreason
  · rw [heq]
    refine .going ⟨h.maxResponseBodySize, hpresent.trans h.present, ?_, hheaders, h.body, h.going⟩
    change memory.Holds ((c.responseHeaderBytes + bytes).toNat + c.response.body.length)
    rw [hsum, Nat.add_right_comm]
    exact hholds

lemma Accounted.beginResponse (h : Accounted limit budget c) (call : HeaderCall) :
    Fine limit budget (c.beginResponse call) := by
  obtain ⟨memory, hholds, hpresent, hreset⟩ := h.reset
  unfold RequestContext.beginResponse
  rw [hreset]
  simp only []
  rcases reserve_cases
    (c := { c with responseBodyMemory := memory, responseHeaderBytes := 0, responseHeaders := [] })
    call.others call.buffer.bytes hholds (Nat.zero_le _) with ⟨reason, hreason, heq⟩ | ⟨memory', hholds', hpresent', hsum, hheaders, heq⟩
  · rw [heq]
    exact .aborted ⟨hholds.asserted, Nat.zero_le _, h.body⟩ hreason
  · rw [heq]
    simp only [bind, Except.bind]
    have hbytes : (0 + call.buffer.bytes).toNat = 0 + call.buffer.bytes.toNat := hsum
    rw [← hbytes] at hholds'
    cases call.fault with
    | some fault =>
      have hbounded : Bounded limit { c with
          responseBodyMemory := memory', responseHeaderBytes := 0 + call.buffer.bytes,
          responseHeaders := [], response := { reason := [] }, headersComplete := false,
          streaming := false } := ⟨hholds'.asserted, hheaders, Nat.zero_le _⟩
      exact hbounded.caught false fault
    | none =>
      exact .going ⟨h.maxResponseBodySize, hpresent'.trans hpresent, hholds', hheaders, Nat.zero_le _, h.going⟩

lemma Accounted.completeHeaders (h : Accounted limit budget c) (call : HeaderCall) :
    Fine limit budget (c.completeHeaders call) := by
  unfold RequestContext.completeHeaders
  split_ifs with hinformational hfull
  · exact .going h
  · exact h.bounded.abort nofun
  · cases call.fault with
    | some fault => exact h.bounded.caught false fault
    | none =>
      have hcomplete : Accounted limit budget { c with
          response.headers := filterResponseHeaders c.responseHeaders, responseHeaders := [],
          headersComplete := true,
          streaming := isEventStream (filterResponseHeaders c.responseHeaders) && c.onChunk } :=
        ⟨h.maxResponseBodySize, h.present, h.holds, h.headers, h.body, h.going⟩
      simp only []
      split_ifs
      · cases call.onHeaders with
        | goOn => exact .going hcomplete
        | stop => exact hcomplete.bounded.abort nofun
        | throws => exact hcomplete.bounded.recorded false
      · exact .going hcomplete

lemma Accounted.addHeader (h : Accounted limit budget c) (call : HeaderCall) :
    Fine limit budget (c.addHeader call) := by
  unfold RequestContext.addHeader
  cases call.buffer.data.findIdx? (· == ch ':') with
  | none => exact .going h
  | some colon =>
    simp only []
    split_ifs
    · exact .going h
    · cases call.fault with
      | some fault => exact h.bounded.caught false fault
      | none =>
        exact .going ⟨h.maxResponseBodySize, h.present, h.holds, h.headers, h.body, h.going⟩

lemma Accounted.passChunk (h : Accounted limit budget c) (call : BodyCall) :
    Fine limit budget (c.passChunk call) := by
  unfold RequestContext.passChunk
  split_ifs
  · exact h.bounded.abort nofun
  · cases call.fault with
    | some fault => exact h.bounded.caught c.streaming fault
    | none =>
      cases call.onChunk with
      | goOn => exact .going h
      | stop => exact h.bounded.abort nofun
      | throws => exact h.bounded.recorded true

lemma Accounted.bufferPiece (h : Accounted limit budget c) (call : BodyCall)
    (hlength : call.buffer.data.length = call.buffer.bytes.toNat) :
    Fine limit budget (c.bufferPiece call) := by
  unfold RequestContext.bufferPiece
  split_ifs with hlarge
  · exact h.bounded.abort nofun
  · have hroom := UInt64.not_lt.mp hlarge
    rw [UInt64.le_iff_toNat_le, h.maxResponseBodySize, toNat_remaining h.body] at hroom
    have hbody := h.body
    unfold RequestContext.tryGrow
    cases hgrown : c.responseBodyMemory.tryGrow (c.inflightBudget.getD 0) call.others call.buffer.bytes with
    | none => exact h.bounded.abort nofun
    | some memory =>
      obtain ⟨hholds, hpresent⟩ := h.holds.tryGrow hgrown
      cases call.fault with
      | some fault =>
        have hshrunk := (hholds.shrink call.buffer.bytes (by omega)).1
        have hbounded : Bounded limit { c with
            responseBodyMemory := memory.shrink call.buffer.bytes } :=
          ⟨hshrunk.asserted, h.headers, h.body⟩
        exact hbounded.caught c.streaming fault
      | none =>
        have hsum : (c.response.body ++ call.buffer.data).length =
            c.response.body.length + call.buffer.bytes.toNat := by
          rw [List.length_append, hlength]
        refine .going ⟨h.maxResponseBodySize, hpresent.trans h.present, ?_, h.headers, ?_, h.going⟩
        · change memory.Holds (c.responseHeaderBytes.toNat + (c.response.body ++ call.buffer.data).length)
          rw [hsum, ← Nat.add_assoc]
          exact hholds
        · change (c.response.body ++ call.buffer.data).length ≤ limit.toNat
          omega

/-- Every callback keeps the account, or aborts the transfer. -/
lemma Accounted.callback (h : Accounted limit budget c) (call : Callback) :
    Fine limit budget (c.callback call) := by
  cases call with
  | header call =>
    change Fine limit budget (c.responseHeaderCallback call)
    unfold RequestContext.responseHeaderCallback
    split
    · exact h.bounded.abort nofun
    · split
      · exact h.beginResponse call
      · refine (h.reserve call.others call.buffer.bytes).bind fun c h => ?_
        split_ifs
        · exact .going h
        · exact h.completeHeaders call
        · exact h.addHeader call
  | body call =>
    change Fine limit budget (c.responseBodyCallback call)
    unfold RequestContext.responseBodyCallback
    split_ifs with hoverflows
    · exact h.bounded.abort nofun
    · exact h.bounded.abort nofun
    · exact h.passChunk call
    · exact h.bufferPiece call (call.buffer.length_of_fits (by simpa using hoverflows))

lemma Accounted.transfer (h : Accounted limit budget c) (callbacks : List Callback) :
    Fine limit budget (c.transfer callbacks) := by
  induction callbacks generalizing c with
  | nil => exact .going h
  | cons call callbacks ih =>
    rw [RequestContext.transfer, List.foldlM_cons]
    exact (h.callback call).bind fun c h => ih h

lemma accounted_start (limit : UInt64) (budget : Option UInt64) (onHeaders onChunk : Bool) :
    Accounted limit budget (.start limit budget onHeaders onChunk) where
  maxResponseBodySize := rfl
  present := by simp [RequestContext.start]
  holds := ⟨rfl, fun lease heq => by
    obtain ⟨_, _, rfl⟩ := Option.map_eq_some_iff.mp heq
    exact ⟨rfl, rfl⟩⟩
  headers := Nat.zero_le _
  body := Nat.zero_le _
  going := rfl

end Curl

/-! ### The loop of WinHTTP -/

namespace WinHttp

def kReadChunkSize : UInt32 := 64 * 1024

/-- `ERROR_WINHTTP_TIMEOUT`. -/
def errorWinhttpTimeout : UInt32 := 12002

/-- What is known when a call has failed. -/
structure Failure where
  totalTimedOut : Bool := false
  operationTimedOut : Bool := false
  cancelled : Bool := false
  lastError : UInt32 := 0

def winhttpErrorMessage (what : Bytes) (lastError : UInt32) : Bytes :=
  what ++ str " (winhttp error " ++ decimal lastError.toNat ++ str ")"

/-- The exception after a call that has failed. -/
def Failure.error (f : Failure) (timeoutType what : Bytes) : ProxyError :=
  if f.totalTimedOut then
    ⟨504, str "upstream_total_timeout", str "upstream request total timeout exceeded"⟩
  else if f.operationTimedOut then ⟨504, timeoutType, str "upstream response timed out"⟩
  else if f.cancelled then ⟨499, str "client_cancelled", str "client disconnected"⟩
  else if f.lastError = errorWinhttpTimeout then ⟨504, timeoutType, str "upstream response timed out"⟩
  else ⟨502, str "upstream_error", winhttpErrorMessage what f.lastError⟩

inductive Thrown where
  | proxyError (e : ProxyError)
  | std (fault : Fault)
  /-- What the callback of the caller throws. -/
  | onChunk

/-- What `read_body` is given, with the body of the response and its lease. -/
structure ReadBody where
  maxBufferedSize : UInt64
  inflightBudget : Option UInt64
  onChunk : Bool
  timeoutType : Bytes
  body : Bytes := []
  bodyMemory : BodyMemory := {}

/-- What happens in one round of the loop. No more is read than was asked for. -/
structure Round where
  available : Except Failure UInt32
  others : ℕ := 0
  fault : Option Fault := none
  read : Except Failure Bytes
  onChunk : Answer := .goOn
  cancelled : Bool := false
  length_read : ∀ n data, available = .ok n → read = .ok data →
    data.length ≤ (min n kReadChunkSize).toNat

/-- How a round ends: the next one follows, the loop is left, or an exception is thrown. -/
inductive Outcome where
  | next (s : ReadBody)
  | done (s : ReadBody)
  | thrown (e : Thrown) (s : ReadBody)

def Outcome.state : Outcome → ReadBody
  | .next s => s
  | .done s => s
  | .thrown _ s => s

namespace ReadBody

/-- What precedes the loop. -/
def start (maxBufferedSize : UInt64) (inflightBudget : Option UInt64) (onChunk : Bool)
    (timeoutType : Bytes) : ReadBody where
  maxBufferedSize := maxBufferedSize
  inflightBudget := inflightBudget
  onChunk := onChunk
  timeoutType := timeoutType
  bodyMemory := if onChunk then {} else { lease := inflightBudget.map fun _ => ⟨true, 0⟩ }

variable (s : ReadBody)

def shrink (bytes : UInt64) : ReadBody := { s with bodyMemory := s.bodyMemory.shrink bytes }

def exhausted : Outcome :=
  .thrown (.proxyError ⟨503, str "server_error", str "inflight memory budget exhausted"⟩) s

def readFailed (f : Failure) : Outcome :=
  .thrown (.proxyError (f.error s.timeoutType (str "failed to read upstream response data"))) s

/-- A round that passes a piece on. Its lease lives no longer than the round. -/
def passChunk (r : Round) (requested : UInt32) : Outcome :=
  if !s.inflightBudget.all fun capacity => tryAcquireInflight capacity r.others requested.toUInt64 then
    s.exhausted
  else match r.fault with
    | some fault => .thrown (.std fault) s
    | none => match r.read with
      | .error f => s.readFailed f
      | .ok data =>
        if data = [] then .done s
        else match r.onChunk with
          | .goOn => .next s
          | .stop =>
            if r.cancelled then
              .thrown (.proxyError ⟨499, str "client_cancelled", str "client disconnected"⟩) s
            else .done s
          | .throws => .thrown .onChunk s

/-- A round that buffers a piece: the body and the lease take what is asked for, and give back
what was not read. -/
def bufferPiece (r : Round) (requested : UInt32) : Outcome :=
  match s.bodyMemory.tryGrow (s.inflightBudget.getD 0) r.others requested.toUInt64 with
  | none => s.exhausted
  | some memory =>
    let s := { s with bodyMemory := memory }
    match r.fault with
    | some fault => .thrown (.std fault) (s.shrink requested.toUInt64)
    | none =>
      let previous := s.body.length
      let s := { s with body := s.body ++ List.replicate requested.toNat 0 }
      match r.read with
      | .error f =>
        readFailed ({ s with body := s.body.take previous }.shrink requested.toUInt64) f
      | .ok data =>
        if data = [] then .done ({ s with body := s.body.take previous }.shrink requested.toUInt64)
        else
          let read := UInt32.ofNat data.length
          let body := s.body.take previous ++ data ++ s.body.drop (previous + data.length)
          let s := { s with body := body.take (previous + data.length) }
          .next (if read < requested then s.shrink (requested - read).toUInt64 else s)

/-- One round. -/
def round (r : Round) : Outcome :=
  match r.available with
  | .error f =>
    .thrown (.proxyError (f.error s.timeoutType (str "failed to query upstream response data"))) s
  | .ok available =>
    if available = 0 then .done s
    else if !s.onChunk ∧ available.toUInt64 > remaining s.maxBufferedSize s.body then
      .thrown (.proxyError ⟨502, str "upstream_response_too_large",
        str "upstream response body too large"⟩) s
    else if s.onChunk then s.passChunk r (min available kReadChunkSize)
    else s.bufferPiece r (min available kReadChunkSize)

/-- The loop, as far as it has come. -/
def loop : ReadBody → List Round → Outcome
  | s, [] => .next s
  | s, r :: rounds =>
    match s.round r with
    | .next s => loop s rounds
    | ended => ended

/-- **The account**: the lease holds the bytes of the body, in every round. -/
structure Accounted (limit : UInt64) (present : Bool) (s : ReadBody) : Prop where
  maxBufferedSize : s.maxBufferedSize = limit
  present : s.bodyMemory.lease.isSome = present
  holds : s.bodyMemory.Holds s.body.length
  body : s.body.length ≤ limit.toNat

variable {limit : UInt64} {present : Bool} {s : ReadBody}

lemma Accounted.passChunk (h : Accounted limit present s) (r : Round) (requested : UInt32) :
    Accounted limit present (s.passChunk r requested).state := by
  unfold ReadBody.passChunk
  split
  · exact h
  · cases r.fault with
    | some fault => exact h
    | none =>
      cases r.read with
      | error f => exact h
      | ok data =>
        simp only []
        split
        · exact h
        · cases r.onChunk with
          | goOn => exact h
          | throws => exact h
          | stop =>
            simp only []
            split_ifs <;> exact h

lemma Accounted.bufferPiece (h : Accounted limit present s) (r : Round) (requested : UInt32)
    (hroom : s.body.length + requested.toNat ≤ limit.toNat)
    (hread : ∀ data, r.read = .ok data → data.length ≤ requested.toNat) :
    Accounted limit present (s.bufferPiece r requested).state := by
  unfold ReadBody.bufferPiece
  cases hgrown : s.bodyMemory.tryGrow (s.inflightBudget.getD 0) r.others requested.toUInt64 with
  | none => exact h
  | some memory =>
    obtain ⟨hholds, hpresent⟩ := h.holds.tryGrow hgrown
    rw [UInt32.toNat_toUInt64] at hholds
    -- all of it is given back
    obtain ⟨hback, hpresentBack⟩ := hholds.shrink requested.toUInt64
      (by rw [UInt32.toNat_toUInt64]; omega)
    rw [UInt32.toNat_toUInt64, Nat.add_sub_cancel] at hback
    have hreturned : Accounted limit present { s with
        bodyMemory := memory.shrink requested.toUInt64,
        body := (s.body ++ List.replicate requested.toNat 0).take s.body.length } := by
      rw [List.take_left]
      exact ⟨h.maxBufferedSize, hpresentBack.trans (hpresent.trans h.present), hback, h.body⟩
    cases r.fault with
    | some fault =>
      exact ⟨h.maxBufferedSize, hpresentBack.trans (hpresent.trans h.present), hback, h.body⟩
    | none =>
      cases hdata : r.read with
      | error f => exact hreturned
      | ok data =>
        simp only []
        split_ifs with hempty hshort
        · exact hreturned
        all_goals
          have hlength := hread data hdata
          have hlt := requested.toNat_lt
          have hdataLength : (UInt32.ofNat data.length).toNat = data.length := by
            rw [UInt32.toNat_ofNat', Nat.mod_eq_of_lt (by omega)]
          rw [UInt32.lt_iff_toNat_lt, hdataLength] at hshort
          rw [List.take_left]
          have hbody : ((s.body ++ data ++ (s.body ++ List.replicate requested.toNat 0).drop
              (s.body.length + data.length)).take (s.body.length + data.length)) = s.body ++ data := by
            rw [← List.length_append, List.take_left]
          rw [hbody]
          have hsum : (s.body ++ data).length = s.body.length + data.length := List.length_append
        · -- the rest is given back
          have hrest : (requested - UInt32.ofNat data.length).toUInt64.toNat =
              requested.toNat - data.length := by
            rw [UInt32.toNat_toUInt64, UInt32.toNat_sub_of_le _ _
              (UInt32.le_iff_toNat_le.mpr (by omega)), hdataLength]
          obtain ⟨hkept, hpresentKept⟩ := hholds.shrink
            ((requested - UInt32.ofNat data.length).toUInt64) (by omega)
          have heq : s.body.length + requested.toNat -
              (requested - UInt32.ofNat data.length).toUInt64.toNat = (s.body ++ data).length := by
            omega
          rw [heq] at hkept
          exact ⟨h.maxBufferedSize, hpresentKept.trans (hpresent.trans h.present), hkept, by
            change (s.body ++ data).length ≤ limit.toNat
            omega⟩
        · have heq : s.body.length + requested.toNat = (s.body ++ data).length := by omega
          rw [heq] at hholds
          exact ⟨h.maxBufferedSize, hpresent.trans h.present, hholds, by
            change (s.body ++ data).length ≤ limit.toNat
            omega⟩

lemma toNat_min (x y : UInt32) : (min x y).toNat = min x.toNat y.toNat := by
  change (if x ≤ y then x else y).toNat = _
  split_ifs with hle
  · rw [UInt32.le_iff_toNat_le] at hle
    omega
  · rw [UInt32.le_iff_toNat_le] at hle
    omega

/-- Every round keeps the account. -/
lemma Accounted.round (h : Accounted limit present s) (r : Round) :
    Accounted limit present (s.round r).state := by
  unfold ReadBody.round
  cases havailable : r.available with
  | error f => exact h
  | ok available =>
    simp only []
    split_ifs with hover hlarge hchunk
    · exact h
    · exact h
    · exact h.passChunk r _
    · refine h.bufferPiece r _ ?_ fun data hdata => r.length_read available data havailable hdata
      have hroom : available.toUInt64 ≤ remaining s.maxBufferedSize s.body := by
        refine UInt64.not_lt.mp fun hgt => hlarge ⟨by simpa using hchunk, hgt⟩
      rw [UInt64.le_iff_toNat_le, UInt32.toNat_toUInt64, h.maxBufferedSize,
        toNat_remaining h.body] at hroom
      have hbody := h.body
      rw [toNat_min]
      omega

lemma Accounted.loop (h : Accounted limit present s) (rounds : List Round) :
    Accounted limit present (s.loop rounds).state := by
  induction rounds generalizing s with
  | nil => exact h
  | cons r rounds ih =>
    have hround := h.round r
    rw [ReadBody.loop]
    cases houtcome : s.round r with
    | next s' =>
      rw [houtcome] at hround
      exact ih hround
    | done s' =>
      rw [houtcome] at hround
      exact hround
    | thrown e s' =>
      rw [houtcome] at hround
      exact hround

lemma accounted_start (limit : UInt64) (budget : Option UInt64) (onChunk : Bool) (timeoutType : Bytes) :
    Accounted limit (budget.isSome && !onChunk) (.start limit budget onChunk timeoutType) where
  maxBufferedSize := rfl
  present := by cases onChunk <;> simp [start]
  holds := by
    cases onChunk with
    | true => exact ⟨rfl, nofun⟩
    | false =>
      refine ⟨rfl, fun lease heq => ?_⟩
      obtain ⟨_, _, rfl⟩ := Option.map_eq_some_iff.mp heq
      exact ⟨rfl, rfl⟩
  body := Nat.zero_le _

end ReadBody

end WinHttp

/-- **The lease of a response holds what has been received, and no more.** -/
theorem response_accounting :
    (∀ (limit : UInt64) (budget : Option UInt64) (onHeaders onChunk : Bool)
        (callbacks : List Curl.Callback),
      match (Curl.RequestContext.start limit budget onHeaders onChunk).transfer callbacks with
      | .ok c => c.abortReason = .none ∧ c.responseBodyMemory.lease.isSome = budget.isSome ∧
          (∀ lease, c.responseBodyMemory.lease = some lease →
            lease.bytes.toNat = c.responseHeaderBytes.toNat + c.response.body.length) ∧
          c.responseHeaderBytes.toNat ≤ 64 * 1024 ∧ c.response.body.length ≤ limit.toNat ∧
          c.responseBodyMemory.asserted = true
      | .error c => c.abortReason ≠ .none ∧
          c.responseHeaderBytes.toNat ≤ 64 * 1024 ∧ c.response.body.length ≤ limit.toNat ∧
          c.responseBodyMemory.asserted = true) ∧
    ∀ (limit : UInt64) (budget : Option UInt64) (onChunk : Bool) (timeoutType : Bytes)
        (rounds : List WinHttp.Round),
      let s := ((WinHttp.ReadBody.start limit budget onChunk timeoutType).loop rounds).state
      s.bodyMemory.lease.isSome = (budget.isSome && !onChunk) ∧
      (∀ lease, s.bodyMemory.lease = some lease → lease.bytes.toNat = s.body.length) ∧
      s.body.length ≤ limit.toNat ∧ s.bodyMemory.asserted = true := by
  constructor
  · intro limit budget onHeaders onChunk callbacks
    have hfine := (Curl.accounted_start limit budget onHeaders onChunk).transfer callbacks
    generalize (Curl.RequestContext.start limit budget onHeaders onChunk).transfer callbacks = result at hfine ⊢
    cases hfine with
    | going h =>
      exact ⟨h.going, h.present, fun lease hlease => (h.holds.bytes lease hlease).2, h.headers, h.body,
        h.holds.asserted⟩
    | aborted h hreason => exact ⟨hreason, h.headers, h.body, h.asserted⟩
  · intro limit budget onChunk timeoutType rounds s
    have h := (WinHttp.ReadBody.accounted_start limit budget onChunk timeoutType).loop rounds
    exact ⟨h.present, fun lease hlease => (h.holds.bytes lease hlease).2, h.body, h.holds.asserted⟩

-- The body that came with the first head is given back with it.
example :
    ((Curl.RequestContext.start 100 (some 1000) false false).transfer
      [.header { buffer := ⟨1, 23, str "HTTP/1.1 100 Continue\r\n", fun _ => rfl⟩ },
        .body { buffer := ⟨1, 5, str "early", fun _ => rfl⟩ },
        .header { buffer := ⟨1, 17, str "HTTP/1.1 200 OK\r\n", fun _ => rfl⟩ },
        .body { buffer := ⟨2, 2, str "body", fun _ => rfl⟩ }]).toOption.map
      (fun c => (c.responseBodyMemory.held, c.response.statusCode)) = some (21, 200) := by decide

end CcsTrans.Transport
