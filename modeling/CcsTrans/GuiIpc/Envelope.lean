import CcsTrans.Gui.Outbound

/-!
The messages of the pipe between the tray and the window, as either side frames them.

Every message travels in an envelope: which protocol and kind it is of, which session and
source commit it belongs to, and its number among the messages of its direction.
-/

namespace CcsTrans.GuiIpc

open CcsTrans.Text
open CcsTrans.Gui (MessageKind ResultCode ErrorCode)

def kProtocol : Bytes := str "ccs-trans.gui-ipc/v1"
def kMaintenanceProtocol : Bytes := str "ccs-trans.maintenance-ipc/v1"
def kMaximumFrameBytes : ℕ := 16 * 1024 * 1024

structure Envelope where
  protocol : Bytes := kProtocol
  kind : MessageKind := .ping
  requestId : Bytes := []
  sessionId : Bytes := []
  sequence : UInt64 := 0
  baseRevision : Bytes := []
  sourceCommit : Bytes := []
  result : Option ResultCode := none
  errorCode : Option ErrorCode := none
  payloadJson : Bytes := str "\x7b\x7d"
  deriving DecidableEq

structure Hello where
  version : Bytes := []
  sourceCommit : Bytes := []
  instanceIdentity : Bytes := []
  handshakeToken : Bytes := []
  processId : UInt64 := 0
  deriving DecidableEq

structure HelloResult where
  accepted : Bool := false
  version : Bytes := []
  sourceCommit : Bytes := []
  sessionId : Bytes := []
  stateRevision : UInt64 := 0
  error : ErrorCode := .none
  detail : Bytes := []

/-- The kinds that carry a result. -/
def needsResult (kind : MessageKind) : Bool :=
  kind = .helloResult || kind = .commandStatus || kind = .maintenanceResult

/-- `validate_envelope`: the error, if any. -/
def validateEnvelope (e : Envelope) : Option Bytes :=
  let maintenance := e.kind = .maintenanceRequest ∨ e.kind = .maintenanceResult
  let expectedProtocol := if maintenance then kMaintenanceProtocol else kProtocol
  if e.protocol ≠ expectedProtocol then some (str "unsupported IPC protocol")
  else if e.requestId = [] then some (str "IPC request_id must not be empty")
  else if e.payloadJson = [] then some (str "IPC payload must not be empty")
  else if e.kind = .hello then
    if e.sessionId ≠ [] ∨ e.sequence ≠ 0 then
      some (str "hello must not claim a session or sequence")
    else none
  else if e.sessionId = [] then some (str "IPC session_id must not be empty after hello")
  else if e.kind ≠ .helloResult ∧ e.sequence = 0 then
    some (str "IPC sequence must be positive after hello")
  else if needsResult e.kind ∧ e.result = none then
    some (str "IPC result message is missing result")
  else none

end CcsTrans.GuiIpc
