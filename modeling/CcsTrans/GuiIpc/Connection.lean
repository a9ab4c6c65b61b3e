import CcsTrans.GuiIpc.ServerSession
import CcsTrans.GuiIpc.Client

/-!
The tray's end of the pipe.

A reader takes the messages of the window. A writer takes the jobs of the outbound channel and
numbers each message, but for the answer to the hello, when it is about to be written. Other
threads publish states and send completions for as long as they find the session authenticated.

When the reader is done it disconnects the session, and only then has the channel drained or
stopped.
-/

namespace CcsTrans.GuiIpc

open CcsTrans.Text
open CcsTrans.Gui (MessageKind ResultCode ErrorCode Snapshot CommandStatus GuiOutboundChannel Job
  Payload Codec)

/-! ### The connection -/

/-- The texts of the payloads, as far as they have one. -/
structure PayloadTexts extends Codec where
  helloResult : HelloResult → Except Bytes Bytes
  commandStatus : CommandStatus → Except Bytes Bytes
  payload : Payload → Bytes

/-- What the reader does next. -/
inductive Reader where
  | reading
  /-- A hello was looked at: its answer is to be queued. -/
  | answering (response : Gui.Envelope) (accepted : Bool) (snapshot : Snapshot)
  /-- A hello was accepted: the other threads are to know. -/
  | admitting (snapshot : Snapshot)
  /-- A message is to be queued, which may be the last one. -/
  | queueing (job : Job) (last : Bool)
  /-- The loop was left. -/
  | leaving (drain : Bool)
  | disconnecting (drain : Bool)
  | closing (drain : Bool)
  | ended
  deriving DecidableEq

/-- What other threads send. -/
inductive Post where
  | state (snapshot : Snapshot)
  | completion (requestId : Bytes) (status : CommandStatus) (baseRevision : Bytes)
  | activate
  | shutdown

/-- A message with its number, which the writer is about to write. -/
structure Drawn where
  message : Gui.Envelope
  sequence : UInt64
  baseline : Option Snapshot

/-- `GuiIpcConnection`. -/
structure GuiIpcConnection where
  sessionId : Bytes
  sourceCommit : Bytes
  clientProcessId : UInt64
  session : ServerSession
  outbound : GuiOutboundChannel
  authenticated : Bool := false
  reader : Reader := .reading
  /-- What other threads have found the session authenticated for. -/
  posts : List Post := []
  drawn : Option Drawn := none
  /-- What is on the pipe. -/
  written : List Envelope := []
  /-- How many numbers the session had given when it was disconnected. -/
  forgotten : UInt64 := 0

/-- What comes through the pipe. -/
inductive Frame where
  /-- The frame is not an envelope. -/
  | unreadable
  /-- An envelope, with the hello that its payload may be. For a command there may be something
  that keeps it from the handler. -/
  | message (e : Envelope) (hello : Option Hello) (refusal : Option (ErrorCode × Bytes))

namespace GuiIpcConnection

/-- A connection for a window that was started with a policy. -/
def opened (policy : ServerSessionPolicy) (clientProcessId : UInt64) (capacity : ℕ) :
    GuiIpcConnection where
  sessionId := policy.sessionId
  sourceCommit := policy.sourceCommit
  clientProcessId := clientProcessId
  session := { policy := policy }
  outbound := { capacity := capacity }

/-- `send_command_completion`, up to the queue: the envelope, if the status has a text. -/
def completion (texts : PayloadTexts) (requestId : Bytes) (status : CommandStatus)
    (baseRevision : Bytes) : Option Gui.Envelope :=
  match texts.commandStatus status with
  | .error _ => none
  | .ok payload => some
    { kind := .commandStatus
      requestId := requestId
      baseRevision := baseRevision
      result := some status.outcome
      errorCode := some status.error
      payload := .text payload }

/-- `send_protocol_rejection`, up to the queue. -/
def rejecting (texts : PayloadTexts) (e : Envelope) (error : ErrorCode) (detail : Bytes)
    (last : Bool) : Reader :=
  let status : CommandStatus :=
    { sequence := e.sequence.toNat, command := str "ipc", outcome := .rejected, error := error,
      detail := detail }
  match completion texts e.requestId status e.baseRevision with
  | none => .leaving last
  | some envelope => .queueing (.envelope envelope) last

/-- `handle_hello`, up to the queue. -/
def handleHello (texts : PayloadTexts) (c : GuiIpcConnection) (e : Envelope) (hello : Option Hello)
    (snapshot : Snapshot) : GuiIpcConnection :=
  match hello with
  | none => { c with reader := .leaving false }
  | some hello =>
    if e.kind ≠ .hello then { c with reader := .leaving false }
    else
      let r := c.session.acceptHello e hello c.clientProcessId snapshot.revision.toUInt64
      match texts.helloResult r.2.1 with
      | .error _ => { c with session := r.2.2, reader := .leaving false }
      | .ok payload =>
        let response : Gui.Envelope :=
          { kind := .helloResult
            requestId := e.requestId
            result := some (if r.1.accepted then .accepted else .rejected)
            errorCode := some r.2.1.error
            payload := .text payload }
        { c with session := r.2.2, reader := .answering response r.1.accepted snapshot }

/-- A job for a snapshot, by `enqueue_snapshot`. -/
def snapshotJob (requestId : Bytes) (s : Snapshot) : Job :=
  .snapshot { kind := .snapshot, requestId := requestId, baseRevision := s.draft.baseRevision } s

/-- `handle_authenticated`, up to the queue. -/
def handleAuthenticated (texts : PayloadTexts) (e : Envelope)
    (refusal : Option (ErrorCode × Bytes)) (snapshot : Snapshot) : Reader :=
  match e.kind with
  | .command =>
    match refusal with
    | some (error, detail) => rejecting texts e error detail false
    | none => .reading
  | .snapshotRequest => .queueing (snapshotJob e.requestId snapshot) false
  | .ping => .queueing (.envelope { kind := .pong, requestId := e.requestId }) false
  | _ => rejecting texts e .malformedMessage (str "message kind is not valid from a GUI client") false

/-- `handle_frame`, up to the queue. The snapshot is the current one. -/
def handleFrame (texts : PayloadTexts) (c : GuiIpcConnection) (snapshot : Snapshot) :
    Frame → GuiIpcConnection
  | .unreadable => { c with reader := .leaving false }
  | .message e hello refusal =>
    if !c.authenticated then c.handleHello texts e hello snapshot
    else
      let r := c.session.acceptMessage e
      let c := { c with session := r.2 }
      if !r.1.accepted then { c with reader := rejecting texts e r.1.error r.1.detail true }
      else { c with reader := handleAuthenticated texts e refusal snapshot }

/-- The reader goes on, when it is not reading. -/
def advance (c : GuiIpcConnection) : GuiIpcConnection :=
  match c.reader with
  | .reading | .ended => c
  | .answering response accepted snapshot =>
    let r := c.outbound.enqueue response
    { c with
      outbound := r.2
      reader := if !r.1 then .leaving false
        else if accepted then .admitting snapshot else .leaving true }
  | .admitting snapshot =>
    { c with
      authenticated := true
      reader := .queueing (snapshotJob (str "initial-snapshot") snapshot) false }
  | .queueing job last =>
    let r := c.outbound.pushJob job
    { c with
      outbound := r.2
      reader := if last then .leaving true else if r.1 then .reading else .leaving false }
  | .leaving drain => { c with authenticated := false, reader := .disconnecting drain }
  | .disconnecting drain =>
    { c with
      session := c.session.disconnect
      forgotten := c.session.nextServerSequence - 1
      reader := .closing drain }
  | .closing drain =>
    { c with
      outbound := if drain then c.outbound.closeAfterDrain else c.outbound.stop
      reader := .ended }

/-- A thread queues what it has found the session authenticated for. -/
def push (texts : PayloadTexts) (c : GuiIpcConnection) : Post → GuiIpcConnection
  | .state snapshot => { c with outbound := (c.outbound.publishState snapshot).2 }
  | .completion requestId status baseRevision =>
    match completion texts requestId status baseRevision with
    | none => c
    | some envelope => { c with outbound := (c.outbound.enqueue envelope).2 }
  | .activate =>
    { c with outbound := (c.outbound.enqueue { kind := .activate, requestId := str "activate" }).2 }
  | .shutdown =>
    { c with outbound := (c.outbound.enqueue { kind := .shutdown, requestId := str "shutdown" }).2 }

/-- The writer prepares the job that it holds, and numbers it. -/
def draw (texts : PayloadTexts) (c : GuiIpcConnection) : GuiIpcConnection :=
  match c.outbound.writer, c.drawn with
  | .holding job, none =>
    match c.outbound.prepareJob texts.toCodec job with
    | .nothing => { c with outbound := { c.outbound with writer := .idle } }
    | .failed e => { c with outbound := c.outbound.reportFailure e }
    | .ready e baseline =>
      if e.kind = .helloResult then { c with drawn := some ⟨e, 0, baseline⟩ }
      else
        let r := c.session.drawServerSequence
        { c with session := r.2, drawn := some ⟨e, r.1, baseline⟩ }
  | _, _ => c

/-- The envelope of a message with its number. -/
def wire (texts : PayloadTexts) (c : GuiIpcConnection) (d : Drawn) : Envelope where
  kind := d.message.kind
  requestId := d.message.requestId
  sessionId := c.sessionId
  sequence := d.sequence
  baseRevision := d.message.baseRevision
  sourceCommit := c.sourceCommit
  result := d.message.result
  errorCode := d.message.errorCode
  payloadJson := texts.payload d.message.payload

/-- The writer writes what it has numbered. The envelope may be invalid, and there may be no text
or frame for it, or the pipe may be broken. -/
def write (texts : PayloadTexts) (c : GuiIpcConnection) (writeError : Option Bytes) :
    GuiIpcConnection :=
  match c.drawn with
  | none => c
  | some d =>
    match (validateEnvelope (c.wire texts d)).or writeError with
    | some detail =>
      { c with drawn := none, outbound := c.outbound.reportFailure (.write detail) }
    | none =>
      { c with
        drawn := none
        written := c.written ++ [c.wire texts d]
        outbound := { c.outbound with
          writer := .idle
          written := c.outbound.written ++ [d.message]
          sentState := d.baseline.orElse fun _ => c.outbound.sentState } }

end GuiIpcConnection

/-! ### Runs -/

namespace Connection

/-- A step of one of the threads. -/
inductive Step where
  /-- The reader has a frame, and the snapshot is the current one. -/
  | frame (f : Frame) (snapshot : Snapshot)
  /-- The reader can not read any more. -/
  | lost
  | advance
  /-- A thread asks whether the session is authenticated. -/
  | post (p : Post)
  /-- One of the threads that have asked queues its message. -/
  | push (i : ℕ)
  /-- The writer takes a job. -/
  | take
  | draw
  | write (writeError : Option Bytes)
  | stop

end Connection

open Connection

namespace GuiIpcConnection

def step (texts : PayloadTexts) (c : GuiIpcConnection) : Step → GuiIpcConnection
  | .frame f snapshot => if c.reader = .reading then c.handleFrame texts snapshot f else c
  | .lost => if c.reader = .reading then { c with reader := .leaving false } else c
  | .advance => c.advance
  | .post p => if c.authenticated then { c with posts := c.posts ++ [p] } else c
  | .push i =>
    match c.posts[i]? with
    | none => c
    | some p => { c.push texts p with posts := c.posts.eraseIdx i }
  | .take => { c with outbound := c.outbound.take }
  | .draw => c.draw texts
  | .write writeError => c.write texts writeError
  | .stop => { c with outbound := c.outbound.stop }

/-- No message is numbered once the session has forgotten the numbers that it gave. -/
def Recalls (texts : PayloadTexts) (c : GuiIpcConnection) : Step → Prop
  | .draw => ∀ job e baseline, c.outbound.writer = .holding job → c.drawn = none →
      c.outbound.prepareJob texts.toCodec job = .ready e baseline → c.forgotten = 0
  | _ => True

end GuiIpcConnection

end CcsTrans.GuiIpc
