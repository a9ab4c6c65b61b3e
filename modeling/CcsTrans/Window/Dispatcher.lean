import CcsTrans.GuiIpc.JsonCodec

/-!
What the controllers of the window share: the state that the tray has shown last, and the
dispatcher of their commands.

The dispatcher has one command under way at a time. It knows the command by the id of its
request, which the client gives when it sends it.
-/

namespace CcsTrans.Window

open CcsTrans.Text
open CcsTrans.Gui (Snapshot CommandStatus ResultCode ErrorCode)
open CcsTrans.GuiIpc (errorCodeName resultCodeName)

/-! ### The state of the tray -/

/-- `GuiStateStore`: the snapshot that was shown last. -/
structure GuiStateStore where
  snapshot : Option Snapshot := none

namespace GuiStateStore

def revision (s : GuiStateStore) : ℕ := (s.snapshot.map (·.revision)).getD 0

def draftPhase (s : GuiStateStore) : Bytes := (s.snapshot.map (·.draft.phase)).getD (str "unloaded")

def draftDirty (s : GuiStateStore) : Bool :=
  s.draftPhase = str "dirty" || s.draftPhase = str "validating" || s.draftPhase = str "applying"

def commandPending (s : GuiStateStore) : Bool := s.snapshot.any (·.commandPending)

def lightweightMode (s : GuiStateStore) : Bool := s.snapshot.all (·.lightweightMode)

end GuiStateStore

/-! ### The dispatcher -/

/-- `CommandDispatcher`. -/
structure CommandDispatcher where
  pendingRequest : Bytes := []
  busy : Bool := false
  localError : Bytes := []
  lastErrorCode : Bytes := []
  lastErrorField : Bytes := []
  lastErrorDetail : Bytes := []
  lastOutcome : Bytes := []
  errorVisible : Bool := false

/-- What `commandFinished` says. -/
structure CommandFinished where
  command : Bytes
  outcome : Bytes
  errorCode : Bytes
  field : Bytes
  detail : Bytes
  deriving DecidableEq

namespace CommandDispatcher

/-- `setErrorState`. -/
def setErrorState (d : CommandDispatcher) (code field detail outcome : Bytes) : CommandDispatcher :=
  { d with
    lastErrorCode := code
    lastErrorField := field
    lastErrorDetail := detail
    lastOutcome := outcome
    errorVisible := code ≠ [] }

/-- `submit`: whether the command is under way. The client gives the id of the request, or what
keeps it from sending. -/
def submit (d : CommandDispatcher) (sent : Except Bytes Bytes) : Bool × CommandDispatcher :=
  if d.busy then
    let detail := str "Wait for the current command to finish."
    (false, { d with localError := detail }.setErrorState (str "busy") [] detail (str "rejected"))
  else match sent with
    | .error error =>
      (false, { d with localError := error }.setErrorState (str "disconnected") [] error
        (str "failed"))
    | .ok requestId =>
      (true, { { d with pendingRequest := requestId, localError := [] }.setErrorState [] [] [] []
        with busy := true })

/-- `handleCommandStatus`: the signal, and the dispatcher. -/
def handleCommandStatus (d : CommandDispatcher) (requestId : Bytes) (status : CommandStatus) :
    Option CommandFinished × CommandDispatcher :=
  if d.pendingRequest ≠ [] ∧ requestId ≠ d.pendingRequest then (none, d)
  else
    let errorCode := errorCodeName status.error
    let d := { d with
      pendingRequest := []
      busy := false
      localError := if status.error = ErrorCode.none then [] else status.detail }
    (some ⟨status.command, resultCodeName status.outcome, errorCode, status.field, status.detail⟩,
      d.setErrorState (if status.error = ErrorCode.none then [] else errorCode) status.field status.detail
        (resultCodeName status.outcome))

/-- `handleSessionLost`. -/
def handleSessionLost (d : CommandDispatcher) : CommandDispatcher :=
  { d with
    pendingRequest := []
    busy := false
    localError := str "The tray connection was lost." }.setErrorState (str "disconnected") []
      (str "The tray connection was lost.") (str "failed")

/-! What the operations can do. -/

inductive Submitted (d : CommandDispatcher) (sent : Except Bytes Bytes) :
    Bool × CommandDispatcher → Prop
  | refused {d' : CommandDispatcher} (hwhy : d.busy = true ∨ ∃ error, sent = .error error)
      (hpending : d'.pendingRequest = d.pendingRequest) (hbusy : d'.busy = d.busy) :
      Submitted d sent (false, d')
  | taken {d' : CommandDispatcher} {requestId : Bytes} (hidle : d.busy = false)
      (hsent : sent = .ok requestId) (hpending : d'.pendingRequest = requestId)
      (hbusy : d'.busy = true) : Submitted d sent (true, d')

lemma submitted (d : CommandDispatcher) (sent : Except Bytes Bytes) :
    Submitted d sent (d.submit sent) := by
  unfold submit
  dsimp only
  split_ifs with hbusy
  · exact .refused (.inl hbusy) rfl rfl
  · split
    · exact .refused (.inr ⟨_, rfl⟩) rfl rfl
    · exact .taken (by simpa using hbusy) rfl rfl rfl

inductive Answered (d : CommandDispatcher) (requestId : Bytes) (status : CommandStatus) :
    Option CommandFinished × CommandDispatcher → Prop
  /-- Another command is under way. -/
  | ignored (hother : d.pendingRequest ≠ []) (hne : requestId ≠ d.pendingRequest) :
      Answered d requestId status (none, d)
  | finished {d' : CommandDispatcher} (hown : d.pendingRequest ≠ [] → requestId = d.pendingRequest)
      (hpending : d'.pendingRequest = []) (hbusy : d'.busy = false) :
      Answered d requestId status
        (some ⟨status.command, resultCodeName status.outcome, errorCodeName status.error,
          status.field, status.detail⟩, d')

lemma answered (d : CommandDispatcher) (requestId : Bytes) (status : CommandStatus) :
    Answered d requestId status (d.handleCommandStatus requestId status) := by
  unfold handleCommandStatus
  dsimp only
  split_ifs with hother
  all_goals first
    | exact .ignored hother.1 hother.2
    | exact .finished (fun hne => by_contra fun h => hother ⟨hne, h⟩) rfl rfl

end CommandDispatcher

end CcsTrans.Window
