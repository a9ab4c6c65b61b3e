import CcsTrans.GuiIpc.FrameCodec
import CcsTrans.Json.Document

/-!
Messages as JSON texts.

A payload is a JSON object of its own; the envelope has it as one of its members. The library
keeps the members of an object in the order of their names, and so do the definitions here.
-/

namespace CcsTrans.GuiIpc

open CcsTrans.Text CcsTrans.Json
open CcsTrans.Gui (MessageKind ResultCode ErrorCode FieldValue)

abbrev Members := List (Bytes × Value)

/-! ### Names -/

def messageKindName : MessageKind → Bytes
  | .hello => str "hello"
  | .helloResult => str "hello_result"
  | .activate => str "activate"
  | .shutdown => str "shutdown"
  | .ping => str "ping"
  | .pong => str "pong"
  | .snapshotRequest => str "snapshot_request"
  | .snapshot => str "snapshot"
  | .stateChanged => str "state_changed"
  | .command => str "command"
  | .commandStatus => str "command_status"
  | .maintenanceRequest => str "maintenance_request"
  | .maintenanceResult => str "maintenance_result"

def resultCodeName : ResultCode → Bytes
  | .accepted => str "accepted"
  | .succeeded => str "succeeded"
  | .rejected => str "rejected"
  | .failed => str "failed"
  | .cancelled => str "cancelled"
  | .savedPendingRuntimeApply => str "saved_pending_runtime_apply"

def errorCodeName : ErrorCode → Bytes
  | .none => str "none"
  | .malformedFrame => str "malformed_frame"
  | .malformedMessage => str "malformed_message"
  | .unsupportedProtocol => str "unsupported_protocol"
  | .versionMismatch => str "version_mismatch"
  | .sourceMismatch => str "source_mismatch"
  | .authenticationFailed => str "authentication_failed"
  | .sessionMismatch => str "session_mismatch"
  | .sequenceRejected => str "sequence_rejected"
  | .revisionStale => str "revision_stale"
  | .busy => str "busy"
  | .invalidArgument => str "invalid_argument"
  | .profileNotFound => str "profile_not_found"
  | .profileAlreadyExists => str "profile_already_exists"
  | .validationFailed => str "validation_failed"
  | .routeCollision => str "route_collision"
  | .repositoryStale => str "repository_stale"
  | .draftStale => str "draft_stale"
  | .persistenceFailed => str "persistence_failed"
  | .runtimeApplyFailed => str "runtime_apply_failed"
  | .serviceUnavailable => str "service_unavailable"
  | .unsavedChangesDecisionRequired => str "unsaved_changes_decision_required"
  | .migrationRequired => str "migration_required"
  | .replacementConfirmationRequired => str "replacement_confirmation_required"
  | .ipcBackpressure => str "ipc_backpressure"
  | .disconnected => str "disconnected"
  | .internal => str "internal"

/-! ### Commands -/

inductive GuiCommand where
  | refresh
  | startService
  | stopService
  | reloadService
  | quitApplication
  | applyDraft
  | discardDraft
  | reloadDraft
  | selectProfile
  | createProfile
  | removeProfile
  | saveProfile
  | setProfileEnabled
  | moveProfile
  | replaceRulesText
  | formatRulesText
  | updateApplicationFields
  | setLightweightMode
  | storageStatus
  | migrateStorage
  | addRule
  | removeRule
  | setRuleEnabled
  | moveRule
  | updateRuleOptions
  | previewRules
  deriving DecidableEq

inductive UnsavedDecision where
  | apply
  | discard
  | cancel
  deriving DecidableEq

def guiCommandName : GuiCommand → Bytes
  | .refresh => str "refresh"
  | .startService => str "start"
  | .stopService => str "stop"
  | .reloadService => str "reload"
  | .quitApplication => str "quit_application"
  | .applyDraft => str "apply"
  | .discardDraft => str "discard"
  | .reloadDraft => str "reload_draft"
  | .selectProfile => str "select"
  | .createProfile => str "create"
  | .removeProfile => str "remove"
  | .saveProfile => str "save"
  | .setProfileEnabled => str "set_enabled"
  | .moveProfile => str "move"
  | .replaceRulesText => str "replace_text"
  | .formatRulesText => str "format_text"
  | .updateApplicationFields => str "update_application_fields"
  | .setLightweightMode => str "set_lightweight_mode"
  | .storageStatus => str "storage_status"
  | .migrateStorage => str "migrate"
  | .addRule => str "add_rule"
  | .removeRule => str "remove_rule"
  | .setRuleEnabled => str "set_rule_enabled"
  | .moveRule => str "move_rule"
  | .updateRuleOptions => str "update_rule_options"
  | .previewRules => str "preview_rules"

def unsavedDecisionName : UnsavedDecision → Bytes
  | .apply => str "apply"
  | .discard => str "discard"
  | .cancel => str "cancel"

structure FieldEdit where
  key : Bytes := []
  value : Option FieldValue := none
  deriving DecidableEq

structure Command where
  command : GuiCommand := .refresh
  profileId : Bytes := []
  replacementProfileId : Bytes := []
  profileKey : Option Int64 := none
  enabled : Bool := false
  position : UInt64 := 0
  fieldEdits : List FieldEdit := []
  text : Bytes := []
  expectedDraftRevision : Option UInt64 := none
  expectedBaseRevision : Option Bytes := none
  unsavedDecision : Option UnsavedDecision := none
  replaceExistingStorage : Bool := false
  replacementConfirmation : Bytes := []
  deriving DecidableEq

/-! ### Texts -/

section Texts

variable [Library]

/-- `parse_json`. -/
def parseJson (content : Bytes) : Except Bytes Value :=
  if content = [] then .error (str "IPC JSON is empty")
  else if content.length > kMaximumFrameBytes then .error (str "IPC JSON exceeds 16 MiB")
  else if !GuiIpc.validUtf8 content then .error (str "IPC JSON is not valid UTF-8")
  else match parseTree false content with
    | .error e => .error (str "failed to parse IPC JSON: " ++ Library.what e)
    | .ok tree =>
      match duplicateKey tree with
      | some key => .error (str "IPC JSON contains duplicate object key: " ++ key)
      | none => .ok (toDom tree)

/-- `serialize_with`. -/
def serializeWith (root : Value) : Except Bytes Bytes :=
  match dump root with
  | none => .error (str "failed to serialize IPC JSON: " ++ Library.whatDump root)
  | some content =>
    if content.length > kMaximumFrameBytes then .error (str "serialized IPC JSON exceeds 16 MiB")
    else .ok content

end Texts

/-- A value that may be missing. -/
def nullable {α : Type} (f : α → Value) (value : Option α) : Value := (value.map f).getD .null

/-- A member that may be missing. -/
def optionalMember {α : Type} (name : String) (f : α → Value) (value : Option α) : Members :=
  (value.map fun v => (str name, f v)).toList

def fieldValueJson : FieldValue → Value
  | .text value => .str value
  | .number value => .uint value
  | .boolean value => .bool value

def fieldEditJson (edit : FieldEdit) : Value :=
  .obj [(str "key", .str edit.key), (str "value", nullable fieldValueJson edit.value)]

def commandJson (value : Command) : Value :=
  .obj [(str "command", .str (guiCommandName value.command)),
    (str "enabled", .bool value.enabled),
    (str "expected_base_revision", nullable .str value.expectedBaseRevision),
    (str "expected_draft_revision", nullable .uint value.expectedDraftRevision),
    (str "field_edits", .arr (value.fieldEdits.map fieldEditJson)),
    (str "position", .uint value.position),
    (str "profile_id", .str value.profileId),
    (str "profile_key", nullable .int value.profileKey),
    (str "replace_existing_storage", .bool value.replaceExistingStorage),
    (str "replacement_confirmation", .str value.replacementConfirmation),
    (str "replacement_profile_id", .str value.replacementProfileId),
    (str "text", .str value.text),
    (str "unsaved_decision", nullable (.str ∘ unsavedDecisionName) value.unsavedDecision)]

def envelopeJson (e : Envelope) (payload : Value) : Value :=
  .obj ([(str "base_revision", .str e.baseRevision)] ++
    optionalMember "error_code" (.str ∘ errorCodeName) e.errorCode ++
    [(str "kind", .str (messageKindName e.kind)),
      (str "payload", payload),
      (str "protocol", .str e.protocol),
      (str "request_id", .str e.requestId)] ++
    optionalMember "result" (.str ∘ resultCodeName) e.result ++
    [(str "sequence", .uint e.sequence),
      (str "session_id", .str e.sessionId),
      (str "source_commit", .str e.sourceCommit)])

section Messages

variable [Library]

/-- `serialize_command`. -/
def serializeCommand (value : Command) : Except Bytes Bytes := serializeWith (commandJson value)

/-- `serialize_envelope`. -/
def serializeEnvelope (e : Envelope) : Except Bytes Bytes :=
  match validateEnvelope e with
  | some error => .error error
  | none =>
    match parseJson e.payloadJson with
    | .error error => .error error
    | .ok (.obj ms) => serializeWith (envelopeJson e (.obj ms))
    | .ok _ => .error (str "IPC payload must be a JSON object")

end Messages

end CcsTrans.GuiIpc
