import CcsTrans.GuiIpc.JsonCodec
import CcsTrans.Presentation.Contract

/-!
How the commands of the window reach the view model, and how their results come back.

The reader of the pipe submits a command through the router. The router looks at the view
model, remembers the request as pending and submits it. The command then runs on the
executor, and its result is shown in a state of the view model that the host observes later.
The host has commands of its own for the same view model. The router is not told the number
that the view model gives to its command: it takes the first result with a number greater
than the one it has seen before.
-/

namespace CcsTrans.Host

open CcsTrans.Text
open CcsTrans.Gui (ErrorCode ResultCode CommandStatus FieldValue)
open CcsTrans.GuiIpc (Envelope Command GuiCommand UnsavedDecision guiCommandName)
open CcsTrans.Presentation (MainWindowCommand MainWindowCommandRequest MainWindowError
  CommandOutcome CommandResult ExecutionResult UnsavedChangesDecision ConfigurationFieldEdit)
open CcsTrans.Config (ConfigurationFieldValue)

/-! ### The commands of the window as commands of the view model -/

/-- `mapped_command`, where the command is supported. -/
def mappedCommand : GuiCommand → Option MainWindowCommand
  | .refresh => some .refresh
  | .startService => some .startService
  | .stopService => some .stopService
  | .reloadService => some .reloadService
  | .quitApplication => some .quitApplication
  | .applyDraft => some .applyDraft
  | .discardDraft => some .discardDraft
  | .reloadDraft => some .reloadDraft
  | .selectProfile => some .selectProfile
  | .createProfile => some .createProfile
  | .removeProfile => some .removeProfile
  | .saveProfile => some .saveProfile
  | .setProfileEnabled => some .setProfileEnabled
  | .moveProfile => some .moveProfile
  | .replaceRulesText => some .replaceRulesText
  | .formatRulesText => some .formatRulesText
  | .updateApplicationFields => some .updateApplicationFields
  | .setLightweightMode => some .setLightweightMode
  | .storageStatus => some .storageStatus
  | .migrateStorage => some .migrateStorage
  | .addRule => none
  | .removeRule => none
  | .setRuleEnabled => none
  | .moveRule => none
  | .updateRuleOptions => none
  | .previewRules => none

/-- `mapped_decision`. -/
def mappedDecision : UnsavedDecision → UnsavedChangesDecision
  | .apply => .apply
  | .discard => .discard
  | .cancel => .cancel

/-- `mapped_value`. -/
def mappedValue : FieldValue → ConfigurationFieldValue
  | .text s => .text s
  | .number n => .number n
  | .boolean b => .flag b

/-- `translate_gui_command`. -/
def translateGuiCommand (command : Command) : Except (ErrorCode × Bytes) MainWindowCommandRequest :=
  match mappedCommand command.command with
  | none => .error (.invalidArgument,
      str "the GUI command is reserved for a later feature controller")
  | some mapped => .ok {
      command := mapped
      source := .guiIpc
      profileId := command.profileId
      replacementProfileId := command.replacementProfileId
      profileKey := command.profileKey.map (·.toInt)
      enabled := command.enabled
      position := command.position.toNat
      text := command.text
      expectedDraftRevision := command.expectedDraftRevision.map (·.toNat)
      expectedBaseRevision := command.expectedBaseRevision
      unsavedChangesDecision := command.unsavedDecision.map mappedDecision
      replaceExistingStorage := command.replaceExistingStorage
      replacementConfirmation := command.replacementConfirmation
      fieldEdits := command.fieldEdits.map fun e => ⟨e.key, e.value.map mappedValue⟩ }

/-- The request of a command, with the revision that its envelope expects. -/
def requestOf (envelope : Envelope) (command : Command) :
    Except (ErrorCode × Bytes) MainWindowCommandRequest :=
  match translateGuiCommand command with
  | .error e => .error e
  | .ok request =>
    if envelope.baseRevision = [] then .ok request
    else if request.expectedBaseRevision.any (· ≠ envelope.baseRevision) then
      .error (.malformedMessage, str "command base revisions disagree")
    else .ok { request with expectedBaseRevision := some envelope.baseRevision }

/-! ### The results as the window reads them -/

/-- `main_window_command_name`. -/
def mainWindowCommandName : MainWindowCommand → Bytes
  | .openWindow => str "open_window"
  | .closeWindow => str "close_window"
  | .quitApplication => str "quit_application"
  | .refresh => str "refresh"
  | .startService => str "start_service"
  | .stopService => str "stop_service"
  | .reloadService => str "reload_service"
  | .selectProfile => str "select_profile"
  | .loadDraft => str "load_draft"
  | .reloadDraft => str "reload_draft"
  | .createProfile => str "create_profile"
  | .renameProfile => str "rename_profile"
  | .removeProfile => str "remove_profile"
  | .moveProfile => str "move_profile"
  | .setProfileEnabled => str "set_profile_enabled"
  | .saveProfile => str "save_profile"
  | .updateProfileFields => str "update_profile_fields"
  | .updateApplicationFields => str "update_application_fields"
  | .replaceRulesText => str "replace_rules_text"
  | .formatRulesText => str "format_rules_text"
  | .applyDraft => str "apply_draft"
  | .discardDraft => str "discard_draft"
  | .setLightweightMode => str "set_lightweight_mode"
  | .storageStatus => str "storage_status"
  | .migrateStorage => str "migrate_storage"

/-- `gui_error_code`. -/
def guiErrorCode : MainWindowError → ErrorCode
  | .none => .none
  | .busy => .busy
  | .invalidArgument => .invalidArgument
  | .profileNotFound => .profileNotFound
  | .profileAlreadyExists => .profileAlreadyExists
  | .validationFailed => .validationFailed
  | .routeCollision => .routeCollision
  | .repositoryStale => .repositoryStale
  | .draftStale => .draftStale
  | .persistenceFailed => .persistenceFailed
  | .runtimeApplyFailed => .runtimeApplyFailed
  | .serviceUnavailable => .serviceUnavailable
  | .unsavedChangesDecisionRequired => .unsavedChangesDecisionRequired
  | .migrationRequired => .migrationRequired
  | .replacementConfirmationRequired => .replacementConfirmationRequired
  | .cancelled => .none
  | .internal => .internal

/-- `gui_result_code`. -/
def guiResultCode : CommandOutcome → ResultCode
  | .succeeded => .succeeded
  | .rejected => .rejected
  | .failed => .failed
  | .cancelled => .cancelled
  | .savedPendingRuntimeApply => .savedPendingRuntimeApply

/-- `build_gui_command_status`. -/
def buildGuiCommandStatus (result : CommandResult) (clientSequence : UInt64) : CommandStatus where
  sequence := clientSequence.toNat
  command := mainWindowCommandName result.command
  outcome := guiResultCode result.outcome
  error := guiErrorCode result.error
  profileId := result.profileId
  field := result.field
  detail := result.detail
  recoveryCommand := result.recoveryCommand.map mainWindowCommandName

/-! ### The view model, as far as its commands go -/

/-- Who has submitted a command to the view model: the window, whose commands are numbered in
the order in which they come in, or the host itself. -/
inductive Issuer where
  | gui (ticket : ℕ)
  | native
  deriving DecidableEq

/-- A command that the view model has given a number to. -/
structure Task where
  sequence : ℕ
  request : MainWindowCommandRequest
  issuer : Issuer
  deriving DecidableEq

/-- The result of a command, and whose command it was. -/
structure Finished where
  result : CommandResult
  issuer : Issuer
  deriving DecidableEq

namespace Task

/-- What `submit` says of a command while another one is pending. -/
def busy (t : Task) : Finished where
  result := {
    sequence := t.sequence
    command := t.request.command
    outcome := .rejected
    error := .busy
    profileId := t.request.profileId
    detail := str "another control command is already in progress"
    source := t.request.source }
  issuer := t.issuer

/-- What `submit` says of a command that the executor does not take. The request has been moved
into the task by then, but its source is a plain value. -/
def unposted (t : Task) : Finished where
  result := {
    sequence := t.sequence
    command := t.request.command
    outcome := .failed
    error := .internal
    profileId := t.request.profileId
    detail := str "control executor rejected the command"
    source := t.request.source }
  issuer := t.issuer

/-- What `execute` says of a command. -/
def executed (t : Task) (e : ExecutionResult) : Finished where
  result := {
    sequence := t.sequence
    command := t.request.command
    outcome := e.outcome
    error := e.error
    profileId := if e.profileId = [] then t.request.profileId else e.profileId
    field := e.field
    detail := e.detail
    recoveryCommand := e.recoveryCommand
    source := t.request.source }
  issuer := t.issuer

end Task

/-- What the router reads of a state of the view model. -/
structure ViewState where
  commandPending : Bool := false
  lastCommand : Option Finished := none

/-- The number of the last command of a state. -/
def ViewState.sequence (s : ViewState) : ℕ := (s.lastCommand.map (·.result.sequence)).getD 0

/-- `MainWindowViewModel`. -/
structure ViewModel where
  accepting : Bool := true
  nextSequence : ℕ := 1
  state : ViewState := {}

/-! ### The router -/

/-- `GuiCommandRouter::Pending`, with the number of the command. -/
structure Pending where
  requestId : Bytes
  clientSequence : UInt64
  previousModelSequence : ℕ
  ticket : ℕ

/-- The result that a state has for the pending request. -/
def Pending.foundIn (p : Pending) (s : ViewState) : Option Finished :=
  if s.commandPending then none
  else match s.lastCommand with
    | none => none
    | some f => if f.result.sequence ≤ p.previousModelSequence then none else some f

/-- `GuiCommandCompletion`, with the number of the command and the result it was built from; the
router may also answer a command by itself. -/
structure Completion where
  requestId : Bytes
  clientSequence : UInt64
  status : CommandStatus
  ticket : ℕ
  built : Option Finished
  deriving DecidableEq

/-- A command of the window, as it is submitted. -/
structure Job where
  ticket : ℕ
  envelope : Envelope
  command : Command
  deriving DecidableEq

namespace Job

/-- `immediate_failure`. -/
def immediateFailure (j : Job) (error : ErrorCode) (detail : Bytes) : Completion where
  requestId := j.envelope.requestId
  clientSequence := j.envelope.sequence
  status := {
    sequence := j.envelope.sequence.toNat
    command := guiCommandName j.command.command
    outcome := .rejected
    error := error
    profileId := j.command.profileId
    detail := detail }
  ticket := j.ticket
  built := none

/-- The answer to the command that ends the application. -/
def acceptedQuit (j : Job) : Completion where
  requestId := j.envelope.requestId
  clientSequence := j.envelope.sequence
  status := {
    sequence := j.envelope.sequence.toNat
    command := guiCommandName j.command.command
    outcome := .accepted }
  ticket := j.ticket
  built := none

/-- A completion with the result of the view model. -/
def completed (j : Job) (f : Finished) : Completion where
  requestId := j.envelope.requestId
  clientSequence := j.envelope.sequence
  status := buildGuiCommandStatus f.result j.envelope.sequence
  ticket := j.ticket
  built := some f

/-- What the router remembers of a command. -/
def pending (j : Job) (previous : ℕ) : Pending :=
  ⟨j.envelope.requestId, j.envelope.sequence, previous, j.ticket⟩

end Job

/-- The completion of the pending request. -/
def Pending.completed (p : Pending) (f : Finished) : Completion where
  requestId := p.requestId
  clientSequence := p.clientSequence
  status := buildGuiCommandStatus f.result p.clientSequence
  ticket := p.ticket
  built := some f

/-! ### The tray -/

/-- Where the reader of the pipe stands in `GuiCommandRouter::submit`. -/
inductive Reader where
  | waiting
  /-- The view model was seen idle, with this number as the last one. -/
  | looked (job : Job) (request : MainWindowCommandRequest) (previous : ℕ)
  /-- The request is pending, and not yet submitted. -/
  | holding (job : Job) (request : MainWindowCommandRequest) (previous : ℕ)
  /-- The view model has taken the command, which is not yet with the executor. -/
  | posting (job : Job) (previous : ℕ) (task : Task)
  /-- The view model has refused the command. -/
  | refused (job : Job) (previous : ℕ)
  /-- The view model was looked at again. -/
  | answering (job : Job) (completion : Completion)
  deriving DecidableEq

def Reader.job : Reader → Option Job
  | .waiting => none
  | .looked job _ _ => some job
  | .holding job _ _ => some job
  | .posting job _ _ => some job
  | .refused job _ => some job
  | .answering job _ => some job

/-- The task that the reader has for the executor. -/
def Reader.task : Reader → Option Task
  | .posting _ _ task => some task
  | _ => none

/-- The tray, as far as commands go. -/
structure Tray where
  viewModel : ViewModel := {}
  /-- The command of the host that the view model has taken, on its way to the executor. -/
  native : Option Task := none
  queue : List Task := []
  /-- The states that were published and are not yet observed. -/
  published : List ViewState := []
  pending : Option Pending := none
  reader : Reader := .waiting
  connected : Bool := false
  /-- The commands of the window so far. -/
  submitted : List (Envelope × Command) := []
  /-- The completions that were sent. -/
  completions : List Completion := []
  /-- The commands whose connection has ended before they were completed. -/
  dropped : List ℕ := []

/-- What can happen next. -/
inductive Step where
  | connect
  | submit (envelope : Envelope) (command : Command)
  | claim
  | enter
  | post (taken : Bool)
  | lookAgain
  | release
  | nativeSubmit (request : MainWindowCommandRequest)
  | nativePost (taken : Bool)
  /-- The executor has run its next task. -/
  | run (result : ExecutionResult)
  /-- A state is published that is the same as far as commands go. -/
  | republish
  /-- One of the published states is observed. -/
  | observe (i : ℕ)
  | disconnect
  | stop

namespace Tray

/-- The state of the view model is published. -/
def publish (h : Tray) : Tray := { h with published := h.published ++ [h.viewModel.state] }

def setState (h : Tray) (s : ViewState) : Tray := { h with viewModel.state := s }

/-- A command is done, and its result is published. -/
def finish (h : Tray) (f : Finished) : Tray :=
  (h.setState { commandPending := false, lastCommand := some f }).publish

def complete (h : Tray) (c : Completion) : Tray := { h with completions := h.completions ++ [c] }

/-- The next command of the view model. -/
def task (h : Tray) (request : MainWindowCommandRequest) (issuer : Issuer) : Task :=
  ⟨h.viewModel.nextSequence, request, issuer⟩

/-- The next number is given away. -/
def number (h : Tray) : Tray := { h with viewModel.nextSequence := h.viewModel.nextSequence + 1 }

/-- `MainWindowViewModel::submit`, under its lock: the task, if it is to be posted. -/
def take (h : Tray) (request : MainWindowCommandRequest) (issuer : Issuer) : Option Task × Tray :=
  let task := h.task request issuer
  if !h.viewModel.accepting then (none, h)
  else if h.viewModel.state.commandPending then
    (none, (h.number.setState { h.viewModel.state with lastCommand := some task.busy }).publish)
  else (some task, (h.number.setState { h.viewModel.state with commandPending := true }).publish)

/-- `handle_gui_command`, to the point where the router has looked at the view model. -/
def submit (h : Tray) (envelope : Envelope) (command : Command) : Tray :=
  let job : Job := ⟨h.submitted.length, envelope, command⟩
  let h := { h with submitted := h.submitted ++ [(envelope, command)] }
  if command.command = .quitApplication then h.complete job.acceptedQuit
  else match requestOf envelope command with
    | .error (code, detail) => h.complete (job.immediateFailure code detail)
    | .ok request =>
      if h.viewModel.state.commandPending then
        h.complete (job.immediateFailure .busy
          (str "another control command is already in progress"))
      else { h with reader := .looked job request h.viewModel.state.sequence }

/-- The router remembers the request. -/
def claim (h : Tray) : Tray :=
  match h.reader with
  | .looked job request previous =>
    if h.pending.isSome then
      { h with reader := .waiting }.complete (job.immediateFailure .busy
        (str "another GUI command is awaiting completion"))
    else { h with pending := some (job.pending previous), reader := .holding job request previous }
  | _ => h

/-- The router submits the request to the view model. -/
def enter (h : Tray) : Tray :=
  match h.reader with
  | .holding job request previous =>
    match h.take request (.gui job.ticket) with
    | (some task, h) => { h with reader := .posting job previous task }
    | (none, h) => { h with reader := .refused job previous }
  | _ => h

/-- The executor takes the task of the reader, or rejects it. -/
def post (h : Tray) (taken : Bool) : Tray :=
  match h.reader with
  | .posting job previous task =>
    if taken then { h with queue := h.queue ++ [task], reader := .waiting }
    else { h with reader := .refused job previous }.finish task.unposted
  | _ => h

/-- The router looks at the view model again, after it was refused. -/
def lookAgain (h : Tray) : Tray :=
  match h.reader with
  | .refused job previous =>
    let unavailable := job.immediateFailure .serviceUnavailable
      (str "the GUI command service is not accepting requests")
    let completion := match h.viewModel.state.lastCommand with
      | some f => if f.result.sequence > previous then job.completed f else unavailable
      | none => unavailable
    { h with reader := .answering job completion }
  | _ => h

/-- The router forgets the request, and its answer is sent. -/
def release (h : Tray) : Tray :=
  match h.reader with
  | .answering _ completion => { h with pending := none, reader := .waiting }.complete completion
  | _ => h

/-- A command of the host. -/
def nativeSubmit (h : Tray) (request : MainWindowCommandRequest) : Tray :=
  if h.native.isSome then h
  else
    let (task, h) := h.take request .native
    { h with native := task }

def nativePost (h : Tray) (taken : Bool) : Tray :=
  match h.native with
  | some task =>
    if taken then { h with queue := h.queue ++ [task], native := none }
    else { h with native := none }.finish task.unposted
  | none => h

/-- The executor runs the first task. -/
def run (h : Tray) (result : ExecutionResult) : Tray :=
  match h.queue with
  | task :: queue => { h with queue }.finish (task.executed result)
  | [] => h

/-- `GuiCommandRouter::observe`, of one of the published states. -/
def observe (h : Tray) (i : ℕ) : Tray :=
  match h.published[i]? with
  | some state =>
    let h := { h with published := h.published.eraseIdx i }
    match h.pending with
    | none => h
    | some p =>
      match p.foundIn state with
      | none => h
      | some f => { h with pending := none }.complete (p.completed f)
  | none => h

/-- `disconnect`, by the reader of the pipe. -/
def disconnect (h : Tray) : Tray :=
  { h with
    connected := false
    pending := none
    dropped := h.dropped ++ (h.pending.map (·.ticket)).toList }

/-- A step, if it can be taken. -/
def step (h : Tray) : Step → Tray
  | .connect => { h with connected := true }
  | .submit envelope command =>
    if h.connected ∧ h.reader = .waiting then h.submit envelope command else h
  | .claim => h.claim
  | .enter => h.enter
  | .post taken => h.post taken
  | .lookAgain => h.lookAgain
  | .release => h.release
  | .nativeSubmit request => h.nativeSubmit request
  | .nativePost taken => h.nativePost taken
  | .run result => h.run result
  | .republish => h.publish
  | .observe i => h.observe i
  | .disconnect => if h.reader = .waiting then h.disconnect else h
  -- the host stops the view model after the last connection
  | .stop => if h.connected then h else { h with viewModel.accepting := false }

end Tray

end CcsTrans.Host
