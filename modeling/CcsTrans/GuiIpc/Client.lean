import CcsTrans.GuiIpc.JsonCodec
import CcsTrans.GuiIpc.ServerSession

/-!
The window's end of the pipe.

The window sends commands, and requests for a snapshot when it cannot follow a delta. Every
message that it sends after the hello gets the next number. The pipe takes what it has room
for in its queue, and works the queue off as the tray reads.
-/

namespace CcsTrans.GuiIpc

open CcsTrans.Text CcsTrans.Json
open CcsTrans.Gui (MessageKind ResultCode ErrorCode ClientStateTracker)

/-! ### The client -/

structure LaunchBootstrap where
  pipeNameUtf8 : Bytes := []
  version : Bytes := []
  sourceCommit : Bytes := []
  instanceIdentity : Bytes := []
  handshakeToken : Bytes := []
  sessionId : Bytes := []
  deriving DecidableEq

def kMaximumQueuedClientBytes : ℕ := 1024 * 1024

/-- `GuiIpcClient`, with its socket. -/
structure GuiIpcClient where
  bootstrap : LaunchBootstrap
  tracker : ClientStateTracker := {}
  nextClientSequence : UInt64 := 1
  nextRequestId : UInt64 := 1
  nextServerSequence : UInt64 := 1
  authenticated : Bool := false
  /-- The state is `Ready`. -/
  ready : Bool := false
  /-- The socket is connected. -/
  connected : Bool := false
  /-- `bytesToWrite()` of the socket. -/
  bytesToWrite : ℕ := 0
  /-- The messages that the socket has taken, but for the hello. -/
  sent : List Envelope := []
  deriving DecidableEq

namespace GuiIpcClient

/-- The envelope as `sendEnvelope` completes it. -/
def stamp (c : GuiIpcClient) (e : Envelope) : Envelope :=
  if e.kind = .hello then
    { e with protocol := kProtocol, sourceCommit := c.bootstrap.sourceCommit }
  else
    { e with
      protocol := kProtocol
      sourceCommit := c.bootstrap.sourceCommit
      sessionId := c.bootstrap.sessionId
      sequence := c.nextClientSequence }

/-- The client, once the envelope has its number. -/
def draw (c : GuiIpcClient) (e : Envelope) : GuiIpcClient :=
  if e.kind = .hello then c else { c with nextClientSequence := c.nextClientSequence + 1 }

section Sending

variable [Library]

/-- The frame of an envelope, as far as there is one. -/
def frame (e : Envelope) : Except Bytes Bytes :=
  match serializeEnvelope e with
  | .error error => .error error
  | .ok content =>
    match encodeFrame content with
    | .error e => .error (str "failed to frame GUI IPC message: " ++ frameErrorName e)
    | .ok encoded => .ok encoded

/-- `sendEnvelope`: the error, if any. The socket may fail to take what it has room for. -/
def sendEnvelope (c : GuiIpcClient) (e : Envelope) (taken : Bool) : Option Bytes × GuiIpcClient :=
  if !c.connected then (some (str "GUI IPC pipe is not connected"), c)
  else match frame (c.stamp e) with
    | .error error => (some error, c.draw e)
    | .ok encoded =>
      if c.bytesToWrite + encoded.length > kMaximumQueuedClientBytes then
        (some (str "GUI IPC client write queue is full"), c.draw e)
      else if !taken then (some (str "failed to queue GUI IPC message"), c.draw e)
      else (none,
        { c.draw e with
          bytesToWrite := c.bytesToWrite + encoded.length
          sent := if e.kind = .hello then c.sent else c.sent ++ [c.stamp e] })

/-- The command with the revisions that `sendCommand` expects of the tray. -/
def expecting (c : GuiIpcClient) (command : Command) : Command :=
  match c.tracker.snapshot with
  | none => command
  | some s =>
    { command with
      expectedDraftRevision := command.expectedDraftRevision.or (some s.draft.revision.toUInt64)
      expectedBaseRevision := command.expectedBaseRevision.or
        (if s.draft.baseRevision ≠ [] then some s.draft.baseRevision else none) }

/-- The envelope of a command, before its payload. -/
def commandEnvelope (c : GuiIpcClient) : Envelope where
  kind := .command
  requestId := str "command-" ++ decimal c.nextRequestId.toNat
  baseRevision := (c.tracker.snapshot.map (·.draft.baseRevision)).getD []

/-- A request id is given away. -/
def drawRequestId (c : GuiIpcClient) : GuiIpcClient :=
  { c with nextRequestId := c.nextRequestId + 1 }

/-- `sendCommand`. -/
def sendCommand (c : GuiIpcClient) (command : Command) (taken : Bool) :
    Option Bytes × GuiIpcClient :=
  if !c.ready then (some (str "GUI IPC session is not ready"), c)
  else match serializeCommand (c.expecting command) with
    | .error error => (some error, c.drawRequestId)
    | .ok payload =>
      c.drawRequestId.sendEnvelope { c.commandEnvelope with payloadJson := payload } taken

/-- `sendSnapshotRequest`. -/
def sendSnapshotRequest (c : GuiIpcClient) (taken : Bool) : Option Bytes × GuiIpcClient :=
  c.drawRequestId.sendEnvelope
    { kind := .snapshotRequest, requestId := str "snapshot-" ++ decimal c.nextRequestId.toNat } taken

end Sending

/-- `handleHelloResult`, for an envelope and its payload. -/
def handleHelloResult (c : GuiIpcClient) (e : Envelope) (result : HelloResult) :
    Option Bytes × GuiIpcClient :=
  if e.kind ≠ .helloResult ∨ e.requestId ≠ str "hello" ∨ e.protocol ≠ kProtocol ∨
      e.sourceCommit ≠ c.bootstrap.sourceCommit ∨ e.sessionId ≠ c.bootstrap.sessionId then
    (some (str "tray returned an invalid GUI hello response"), c)
  else if !result.accepted ∨ result.version ≠ c.bootstrap.version ∨
      result.sourceCommit ≠ c.bootstrap.sourceCommit ∨
      result.sessionId ≠ c.bootstrap.sessionId then
    (some (if result.detail = [] then str "tray rejected the GUI session" else result.detail), c)
  else (none,
    { c with
      authenticated := true
      bootstrap := { c.bootstrap with handshakeToken := [] }
      nextServerSequence := 1 })

/-- `validateServerEnvelope`. -/
def validateServerEnvelope (c : GuiIpcClient) (e : Envelope) : Option Bytes × GuiIpcClient :=
  if e.protocol ≠ kProtocol ∨ e.sourceCommit ≠ c.bootstrap.sourceCommit ∨
      e.sessionId ≠ c.bootstrap.sessionId then
    (some (str "GUI IPC server identity changed during the session"), c)
  else if e.sequence ≠ c.nextServerSequence then
    (some (str "GUI IPC server sequence is not contiguous"), c)
  else (none, { c with nextServerSequence := c.nextServerSequence + 1 })

end GuiIpcClient

/-! ### Sessions -/

/-- What happens at the window's end after the hello. -/
inductive Sending where
  | command (command : Command) (taken : Bool)
  | snapshotRequest (taken : Bool)
  /-- A message of the tray: what it makes of the snapshot and the state of the client. -/
  | receive (tracker : ClientStateTracker) (ready : Bool)
  /-- The socket has worked off some of its queue. -/
  | written (bytes : ℕ)
  | disconnected

def GuiIpcClient.step [Library] (c : GuiIpcClient) : Sending → GuiIpcClient
  | .command command taken => (c.sendCommand command taken).2
  | .snapshotRequest taken => (c.sendSnapshotRequest taken).2
  | .receive tracker ready => { c with tracker := tracker, ready := ready }
  | .written bytes => { c with bytesToWrite := c.bytesToWrite - bytes }
  | .disconnected => { c with connected := false, ready := false }

/-- The hello of a window that was started with a bootstrap, and what either side has after the
tray has accepted it and the window its answer. -/
def handshake (bootstrap : LaunchBootstrap) (policy : ServerSessionPolicy)
    (processId actualProcessId stateRevision : UInt64) : Option (GuiIpcClient × ServerSession) :=
  let client : GuiIpcClient := { bootstrap := bootstrap, connected := true }
  let hello : Hello := ⟨bootstrap.version, bootstrap.sourceCommit, bootstrap.instanceIdentity,
    bootstrap.handshakeToken, processId⟩
  let r := ({ policy := policy } : ServerSession).acceptHello
    (client.stamp { kind := .hello, requestId := str "hello" }) hello actualProcessId stateRevision
  let response : Envelope :=
    { kind := .helloResult, requestId := str "hello", sessionId := policy.sessionId,
      sourceCommit := policy.sourceCommit, result := some .accepted, errorCode := some .none }
  let h := client.handleHelloResult response r.2.1
  if r.1.accepted ∧ h.1 = none then some (h.2, r.2.2) else none

namespace ServerSession

/-- The session after messages were delivered in order. -/
def after (s : ServerSession) (es : List Envelope) : ServerSession :=
  es.foldl (fun s e => (s.acceptMessage e).2) s

/-- The session accepts each of the messages when they are delivered in order. -/
def AcceptsAll (s : ServerSession) (es : List Envelope) : Prop :=
  ∀ before e rest, es = before ++ e :: rest → ((s.after before).acceptMessage e).1.accepted = true

end ServerSession

namespace GuiIpcClient

variable [Library]

/-- The message goes out if the socket is connected: it has a frame, the frame has room in the
queue, and the socket takes it. -/
def Goes (c : GuiIpcClient) (e : Envelope) (taken : Bool) : Prop :=
  c.connected = true → taken = true ∧ ∃ encoded, frame (c.stamp e) = .ok encoded ∧
    c.bytesToWrite + encoded.length ≤ kMaximumQueuedClientBytes

/-- No number is drawn for a message that does not go out. -/
def Spares (c : GuiIpcClient) : Sending → Prop
  | .command command taken => ∀ payload, c.ready = true →
      serializeCommand (c.expecting command) = .ok payload →
      c.drawRequestId.Goes { c.commandEnvelope with payloadJson := payload } taken
  | .snapshotRequest taken => c.drawRequestId.Goes
      { kind := .snapshotRequest, requestId := str "snapshot-" ++ decimal c.nextRequestId.toNat }
      taken
  | _ => True

end GuiIpcClient

/-! ### Numbers agree -/

namespace ServerSession

lemma acceptsAll_nil (s : ServerSession) : s.AcceptsAll [] := by
  intro before e rest h
  simp at h

lemma acceptsAll_append {s : ServerSession} {es : List Envelope} {e : Envelope}
    (hes : s.AcceptsAll es) (he : ((s.after es).acceptMessage e).1.accepted = true) :
    s.AcceptsAll (es ++ [e]) := by
  intro before e' rest h
  rcases List.eq_nil_or_concat rest with rfl | ⟨rest, last, rfl⟩
  · obtain ⟨rfl, hlast⟩ := List.append_inj' h rfl
    cases hlast
    exact he
  · rw [List.concat_eq_append, ← List.cons_append, ← List.append_assoc] at h
    exact hes before e' rest (List.append_inj' h rfl).1

lemma after_append (s : ServerSession) (es : List Envelope) (e : Envelope) :
    s.after (es ++ [e]) = ((s.after es).acceptMessage e).2 := by
  rw [after, List.foldl_append]
  rfl

end ServerSession

/-- The tray expects the number that the window gives next. -/
structure Agree (s : ServerSession) (c : GuiIpcClient) : Prop where
  accepts : s.AcceptsAll c.sent
  authenticated : (s.after c.sent).authenticated = true
  commit : (s.after c.sent).policy.sourceCommit = c.bootstrap.sourceCommit
  session : (s.after c.sent).policy.sessionId = c.bootstrap.sessionId
  next : (s.after c.sent).lastClientSequence + 1 = c.nextClientSequence

section Agreement

variable [Library] {s : ServerSession} {c : GuiIpcClient} {e : Envelope} {taken : Bool}

lemma validateEnvelope_of_frame {encoded : Bytes} (h : GuiIpcClient.frame e = .ok encoded) :
    validateEnvelope e = none := by
  unfold GuiIpcClient.frame serializeEnvelope at h
  cases hvalid : validateEnvelope e with
  | none => rfl
  | some error => simp [hvalid] at h

/-- A message that goes out is the one that the tray expects. -/
lemma agree_sendEnvelope (h : Agree s c) (hkind : e.kind ≠ .hello) (hgoes : c.Goes e taken) :
    Agree s (c.sendEnvelope e taken).2 := by
  unfold GuiIpcClient.sendEnvelope
  by_cases hconnected : c.connected = true
  swap
  · rw [if_pos (by simpa using hconnected)]
    exact h
  obtain ⟨rfl, encoded, hframe, hroom⟩ := hgoes hconnected
  have hvalid := validateEnvelope_of_frame hframe
  have hrefusal : (s.after c.sent).messageRefusal (c.stamp e) = none := by
    unfold ServerSession.messageRefusal
    rw [hvalid]
    simp [h.authenticated, GuiIpcClient.stamp, hkind, h.commit, h.session, h.next]
  have haccept : (s.after c.sent).acceptMessage (c.stamp e) =
      (⟨true, .none, []⟩, { s.after c.sent with lastClientSequence := c.nextClientSequence }) := by
    rw [ServerSession.acceptMessage, hrefusal]
    simp [GuiIpcClient.stamp, hkind]
  simp only [hconnected, hframe, not_lt.mpr hroom, hkind, GuiIpcClient.draw, Bool.not_true,
    Bool.false_eq_true, if_false]
  constructor
  · exact ServerSession.acceptsAll_append h.accepts (by rw [haccept])
  all_goals rw [ServerSession.after_append, haccept]
  · exact h.authenticated
  · exact h.commit
  · exact h.session

lemma agree_step (a : Sending) (hspares : c.Spares a) (h : Agree s c) : Agree s (c.step a) := by
  cases a with
  | command command taken =>
    change Agree s (c.sendCommand command taken).2
    unfold GuiIpcClient.sendCommand
    split_ifs with hready
    · exact h
    cases hpayload : serializeCommand (c.expecting command) with
    | error error => exact ⟨h.accepts, h.authenticated, h.commit, h.session, h.next⟩
    | ok payload =>
      have h' : Agree s c.drawRequestId :=
        ⟨h.accepts, h.authenticated, h.commit, h.session, h.next⟩
      exact agree_sendEnvelope h' nofun (hspares payload (by simpa using hready) hpayload)
  | snapshotRequest taken =>
    have h' : Agree s c.drawRequestId :=
      ⟨h.accepts, h.authenticated, h.commit, h.session, h.next⟩
    exact agree_sendEnvelope h' nofun hspares
  | receive tracker ready => exact ⟨h.accepts, h.authenticated, h.commit, h.session, h.next⟩
  | written bytes => exact ⟨h.accepts, h.authenticated, h.commit, h.session, h.next⟩
  | disconnected => exact ⟨h.accepts, h.authenticated, h.commit, h.session, h.next⟩

end Agreement

end CcsTrans.GuiIpc
