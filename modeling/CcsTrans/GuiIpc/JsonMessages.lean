import CcsTrans.GuiIpc.Client
import CcsTrans.GuiIpc.StateReadBack

/-!
Messages that were written are read as they were.

The readers of envelopes, of the payloads of the hello and of commands, and what they make of the
texts of their writers. The payload of an envelope is read as a document and written again, so that
it comes back as the text that the library gives it.
-/

namespace CcsTrans.GuiIpc

open CcsTrans.Text CcsTrans.Json CcsTrans.Fallible
open CcsTrans.Config (member checkObjectKeys_ok)
open CcsTrans.Gui (MessageKind ResultCode ErrorCode)
open CcsTrans.Host (MaintenanceCommand maintenanceCommandName)

/-! ### The hello -/

def helloKeys : List Bytes :=
  [str "version", str "source_commit", str "instance_identity", str "handshake_token", str "process_id"]

def helloJson (value : Hello) : Value :=
  .obj [(str "handshake_token", .str value.handshakeToken),
    (str "instance_identity", .str value.instanceIdentity),
    (str "process_id", .uint value.processId),
    (str "source_commit", .str value.sourceCommit),
    (str "version", .str value.version)]

def parseHelloJson (root : Value) (path : Bytes) : Except Bytes Hello := do
  let ms ← checkKeys root helloKeys helloKeys path
  let version ← readString (member ms "version") (str "$.version")
  let sourceCommit ← readString (member ms "source_commit") (str "$.source_commit")
  let instanceIdentity ← readString (member ms "instance_identity") (str "$.instance_identity")
  let handshakeToken ← readString (member ms "handshake_token") (str "$.handshake_token")
  let processId ← readUInt64 (member ms "process_id") (str "$.process_id")
  return { version, sourceCommit, instanceIdentity, handshakeToken, processId }

def helloResultKeys : List Bytes :=
  [str "accepted", str "version", str "source_commit", str "session_id", str "state_revision", str "error",
    str "detail"]

def helloResultJson (value : HelloResult) : Value :=
  .obj [(str "accepted", .bool value.accepted),
    (str "detail", .str value.detail),
    (str "error", .str (errorCodeName value.error)),
    (str "session_id", .str value.sessionId),
    (str "source_commit", .str value.sourceCommit),
    (str "state_revision", .uint value.stateRevision),
    (str "version", .str value.version)]

def parseHelloResultJson (root : Value) (path : Bytes) : Except Bytes HelloResult := do
  let ms ← checkKeys root helloResultKeys helloResultKeys path
  let accepted ← readBool (member ms "accepted") (str "$.accepted")
  let version ← readString (member ms "version") (str "$.version")
  let sourceCommit ← readString (member ms "source_commit") (str "$.source_commit")
  let sessionId ← readString (member ms "session_id") (str "$.session_id")
  let stateRevision ← readUInt64 (member ms "state_revision") (str "$.state_revision")
  let error ← readName parseErrorCode (str "$.error contains an unknown error code")
    (member ms "error") (str "$.error")
  let detail ← readString (member ms "detail") (str "$.detail")
  return { accepted, version, sourceCommit, sessionId, stateRevision, error, detail }

def launchBootstrapKeys : List Bytes :=
  [str "pipe_name", str "version", str "source_commit", str "instance_identity", str "handshake_token",
    str "session_id"]

def launchBootstrapJson (value : LaunchBootstrap) : Value :=
  .obj [(str "handshake_token", .str value.handshakeToken),
    (str "instance_identity", .str value.instanceIdentity),
    (str "pipe_name", .str value.pipeNameUtf8),
    (str "session_id", .str value.sessionId),
    (str "source_commit", .str value.sourceCommit),
    (str "version", .str value.version)]

def parseLaunchBootstrapJson (root : Value) (path : Bytes) : Except Bytes LaunchBootstrap := do
  let ms ← checkKeys root launchBootstrapKeys launchBootstrapKeys path
  let pipeNameUtf8 ← readString (member ms "pipe_name") (str "$.pipe_name")
  let version ← readString (member ms "version") (str "$.version")
  let sourceCommit ← readString (member ms "source_commit") (str "$.source_commit")
  let instanceIdentity ← readString (member ms "instance_identity") (str "$.instance_identity")
  let handshakeToken ← readString (member ms "handshake_token") (str "$.handshake_token")
  let sessionId ← readString (member ms "session_id") (str "$.session_id")
  return { pipeNameUtf8, version, sourceCommit, instanceIdentity, handshakeToken, sessionId }

/-! ### Commands -/

def fieldEditKeys : List Bytes := [str "key", str "value"]

def parseFieldEdit (item : Value) (path : Bytes) : Except Bytes FieldEdit := do
  let ms ← checkKeys item fieldEditKeys fieldEditKeys path
  let key ← readString (member ms "key") (path ++ str ".key")
  let value ← readNullable parseFieldValue (member ms "value") (path ++ str ".value")
  return { key, value }

def commandKeys : List Bytes :=
  [str "command", str "profile_id", str "replacement_profile_id", str "profile_key", str "enabled",
    str "position", str "field_edits", str "text", str "expected_draft_revision",
    str "expected_base_revision", str "unsaved_decision", str "replace_existing_storage",
    str "replacement_confirmation"]

/-- `parse_command`: the members that are always there come first, then those that may be `null`, and
the edits last. -/
def parseCommandJson (root : Value) (path : Bytes) : Except Bytes Command := do
  let ms ← checkKeys root commandKeys commandKeys path
  let command ← readName parseGuiCommand (str "$.command contains an unknown GUI command")
    (member ms "command") (str "$.command")
  let profileId ← readString (member ms "profile_id") (str "$.profile_id")
  let replacementProfileId ← readString (member ms "replacement_profile_id") (str "$.replacement_profile_id")
  let enabled ← readBool (member ms "enabled") (str "$.enabled")
  let position ← readUInt64 (member ms "position") (str "$.position")
  let items ← readArray (member ms "field_edits") (str "$.field_edits must be a JSON array")
  let text ← readString (member ms "text") (str "$.text")
  let replaceExistingStorage ←
    readBool (member ms "replace_existing_storage") (str "$.replace_existing_storage")
  let replacementConfirmation ←
    readString (member ms "replacement_confirmation") (str "$.replacement_confirmation")
  let profileKey ← readNullable readInt64 (member ms "profile_key") (str "$.profile_key")
  let expectedDraftRevision ←
    readNullable readUInt64 (member ms "expected_draft_revision") (str "$.expected_draft_revision")
  let expectedBaseRevision ←
    readNullable readString (member ms "expected_base_revision") (str "$.expected_base_revision")
  let unsavedDecision ←
    readNullable (readName parseUnsavedDecision (str "$.unsaved_decision is unknown"))
      (member ms "unsaved_decision") (str "$.unsaved_decision")
  let fieldEdits ← readItems parseFieldEdit (str "$.field_edits") 0 items
  return { command, profileId, replacementProfileId, profileKey, enabled, position, fieldEdits, text,
           expectedDraftRevision, expectedBaseRevision, unsavedDecision, replaceExistingStorage,
           replacementConfirmation }

/-! ### Maintenance -/

structure MaintenanceRequest where
  command : MaintenanceCommand := .queryVersion
  timeoutMs : UInt32 := 0

def maintenanceRequestKeys : List Bytes := [str "command", str "timeout_ms"]

def maintenanceRequestJson (value : MaintenanceRequest) : Value :=
  .obj [(str "command", .str (maintenanceCommandName value.command)),
    (str "timeout_ms", .uint value.timeoutMs.toUInt64)]

def parseMaintenanceRequestJson (root : Value) (path : Bytes) : Except Bytes MaintenanceRequest := do
  let ms ← checkKeys root maintenanceRequestKeys maintenanceRequestKeys path
  let command ← readName parseMaintenanceCommand (str "$.command contains an unknown maintenance command")
    (member ms "command") (str "$.command")
  let timeoutMs ← readUInt32 (member ms "timeout_ms") (str "$.timeout_ms")
  return { command, timeoutMs }

def maintenanceResultKeys : List Bytes :=
  [str "succeeded", str "version", str "source_commit", str "state", str "detail"]

def maintenanceResultJson (value : Host.MaintenanceResult) : Value :=
  .obj [(str "detail", .str value.detail),
    (str "source_commit", .str value.sourceCommit),
    (str "state", .str value.state),
    (str "succeeded", .bool value.succeeded),
    (str "version", .str value.version)]

def parseMaintenanceResultJson (root : Value) (path : Bytes) : Except Bytes Host.MaintenanceResult := do
  let ms ← checkKeys root maintenanceResultKeys maintenanceResultKeys path
  let succeeded ← readBool (member ms "succeeded") (str "$.succeeded")
  let version ← readString (member ms "version") (str "$.version")
  let sourceCommit ← readString (member ms "source_commit") (str "$.source_commit")
  let state ← readString (member ms "state") (str "$.state")
  let detail ← readString (member ms "detail") (str "$.detail")
  return { succeeded, version, sourceCommit, state, detail }

/-! ### Envelopes -/

def envelopeKeys : List Bytes :=
  [str "protocol", str "kind", str "request_id", str "session_id", str "sequence", str "base_revision",
    str "source_commit", str "result", str "error_code", str "payload"]

def envelopeRequired : List Bytes :=
  [str "protocol", str "kind", str "request_id", str "session_id", str "sequence", str "base_revision",
    str "source_commit", str "payload"]

/-- An object. -/
def readObject (value : Value) (error : Bytes) : Except Bytes Members :=
  match value with
  | .obj ms => .ok ms
  | _ => .error error

section Texts

variable [Library]

/-- `parse_envelope`, for a document. What was read has a text. -/
def parseEnvelopeJson (root : Value) (path : Bytes) : Except Bytes Envelope := do
  let ms ← checkKeys root envelopeKeys envelopeRequired path
  let protocol ← readString (member ms "protocol") (str "$.protocol")
  let kind ← readName parseMessageKind (str "$.kind contains an unknown message kind")
    (member ms "kind") (str "$.kind")
  let requestId ← readString (member ms "request_id") (str "$.request_id")
  let sessionId ← readString (member ms "session_id") (str "$.session_id")
  let sequence ← readUInt64 (member ms "sequence") (str "$.sequence")
  let baseRevision ← readString (member ms "base_revision") (str "$.base_revision")
  let sourceCommit ← readString (member ms "source_commit") (str "$.source_commit")
  let payload ← readObject (member ms "payload") (str "$.payload must be a JSON object")
  let result ←
    readOptional (readName parseResultCode (str "$.result contains an unknown result code")) ms "result"
  let errorCode ←
    readOptional (readName parseErrorCode (str "$.error_code contains an unknown error code")) ms "error_code"
  let parsed : Envelope :=
    { protocol, kind, requestId, sessionId, sequence, baseRevision, sourceCommit, result, errorCode,
      payloadJson := (dump (.obj payload)).getD [] }
  match validateEnvelope parsed with
  | some error => .error error
  | none => .ok parsed

/-- `parse_envelope`. -/
def parseEnvelope (content : Bytes) : Except Bytes Envelope := parsePayload parseEnvelopeJson content

/-- `serialize_hello`. -/
def serializeHello (value : Hello) : Except Bytes Bytes := serializeWith (helloJson value)

/-- `parse_hello`. -/
def parseHello (content : Bytes) : Except Bytes Hello := parsePayload parseHelloJson content

/-- `serialize_hello_result`. -/
def serializeHelloResult (value : HelloResult) : Except Bytes Bytes := serializeWith (helloResultJson value)

/-- `parse_hello_result`. -/
def parseHelloResult (content : Bytes) : Except Bytes HelloResult := parsePayload parseHelloResultJson content

/-- `serialize_launch_bootstrap`. -/
def serializeLaunchBootstrap (value : LaunchBootstrap) : Except Bytes Bytes :=
  serializeWith (launchBootstrapJson value)

/-- `parse_launch_bootstrap`. -/
def parseLaunchBootstrap (content : Bytes) : Except Bytes LaunchBootstrap :=
  parsePayload parseLaunchBootstrapJson content

/-- `parse_command`. -/
def parseCommand (content : Bytes) : Except Bytes Command := parsePayload parseCommandJson content

/-- `serialize_maintenance_request`. -/
def serializeMaintenanceRequest (value : MaintenanceRequest) : Except Bytes Bytes :=
  serializeWith (maintenanceRequestJson value)

/-- `parse_maintenance_request`. -/
def parseMaintenanceRequest (content : Bytes) : Except Bytes MaintenanceRequest :=
  parsePayload parseMaintenanceRequestJson content

/-- `serialize_maintenance_result`. -/
def serializeMaintenanceResult (value : Host.MaintenanceResult) : Except Bytes Bytes :=
  serializeWith (maintenanceResultJson value)

/-- `parse_maintenance_result`. -/
def parseMaintenanceResult (content : Bytes) : Except Bytes Host.MaintenanceResult :=
  parsePayload parseMaintenanceResultJson content

end Texts

/-! ### Payloads are read as they were -/

lemma document_helloJson (v : Hello) : Document (helloJson v) :=
  document_obj ((members (helloJson {})).map Prod.fst) rfl (by decide) (by simp [document_str, document_uint])

lemma document_helloResultJson (v : HelloResult) : Document (helloResultJson v) :=
  document_obj ((members (helloResultJson {})).map Prod.fst) rfl (by decide)
    (by simp [document_str, document_bool, document_uint])

lemma document_launchBootstrapJson (v : LaunchBootstrap) : Document (launchBootstrapJson v) :=
  document_obj ((members (launchBootstrapJson {})).map Prod.fst) rfl (by decide) (by simp [document_str])

lemma document_maintenanceRequestJson (v : MaintenanceRequest) : Document (maintenanceRequestJson v) :=
  document_obj ((members (maintenanceRequestJson {})).map Prod.fst) rfl (by decide)
    (by simp [document_str, document_uint])

lemma document_maintenanceResultJson (v : Host.MaintenanceResult) : Document (maintenanceResultJson v) :=
  document_obj ((members (maintenanceResultJson {})).map Prod.fst) rfl (by decide)
    (by simp [document_str, document_bool])

lemma document_fieldEditJson (v : FieldEdit) : Document (fieldEditJson v) :=
  document_obj ((members (fieldEditJson {})).map Prod.fst) rfl (by decide)
    (by simp [document_str, document_nullable document_fieldValueJson])

lemma document_int (n : Int64) : Document (.int n) := trivial
lemma document_decision (d : UnsavedDecision) : Document ((.str ∘ unsavedDecisionName) d) := trivial

lemma document_commandJson (v : Command) : Document (commandJson v) := by
  refine document_obj ((members (commandJson {})).map Prod.fst) rfl (by decide) ?_
  simp only [List.forall_mem_cons, document_str, document_bool, document_uint,
    document_nullable document_str, document_nullable document_uint, document_arr document_fieldEditJson,
    document_nullable document_int, document_nullable document_decision, true_and]
  simp

lemma parseHelloJson_canon (v : Hello) (path : Bytes) : parseHelloJson (canon (helloJson v)) path = .ok v :=
  then_ok (checkObjectKeys_ok rfl rfl) <| then_ok rfl <| then_ok rfl <| then_ok rfl <| then_ok rfl <|
    then_ok (readUInt64_uint v.processId _) rfl

lemma parseHelloResultJson_canon (v : HelloResult) (path : Bytes) :
    parseHelloResultJson (canon (helloResultJson v)) path = .ok v :=
  then_ok (checkObjectKeys_ok rfl rfl) <| then_ok rfl <| then_ok rfl <| then_ok rfl <| then_ok rfl <|
    then_ok (readUInt64_uint v.stateRevision _) <| then_ok (readName_name parseErrorCode_iff _ v.error _) <|
    then_ok rfl rfl

lemma parseLaunchBootstrapJson_canon (v : LaunchBootstrap) (path : Bytes) :
    parseLaunchBootstrapJson (canon (launchBootstrapJson v)) path = .ok v :=
  then_ok (checkObjectKeys_ok rfl rfl) <| then_ok rfl <| then_ok rfl <| then_ok rfl <| then_ok rfl <|
    then_ok rfl <| then_ok rfl rfl

lemma parseMaintenanceRequestJson_canon (v : MaintenanceRequest) (path : Bytes) :
    parseMaintenanceRequestJson (canon (maintenanceRequestJson v)) path = .ok v :=
  then_ok (checkObjectKeys_ok rfl rfl) <|
    then_ok (readName_name parseMaintenanceCommand_iff _ v.command _) <|
    then_ok (readUInt32_uint v.timeoutMs _) rfl

lemma parseMaintenanceResultJson_canon (v : Host.MaintenanceResult) (path : Bytes) :
    parseMaintenanceResultJson (canon (maintenanceResultJson v)) path = .ok v :=
  then_ok (checkObjectKeys_ok rfl rfl) <| then_ok rfl <| then_ok rfl <| then_ok rfl <| then_ok rfl <|
    then_ok rfl rfl

lemma parseFieldEdit_canon (v : FieldEdit) (path : Bytes) : parseFieldEdit (canon (fieldEditJson v)) path = .ok v :=
  then_ok (checkObjectKeys_ok rfl rfl) <| then_ok rfl <|
    then_ok (readNullable_canon _ (fun a _ => parseFieldValue_canon a _) fieldValueJson_ne_null) rfl

lemma parseCommandJson_canon (v : Command) (path : Bytes) :
    parseCommandJson (canon (commandJson v)) path = .ok v :=
  then_ok (checkObjectKeys_ok rfl rfl) <| then_ok (readName_name parseGuiCommand_iff _ v.command _) <|
    then_ok rfl <| then_ok rfl <| then_ok rfl <| then_ok (readUInt64_uint v.position _) <| then_ok rfl <|
    then_ok rfl <| then_ok rfl <| then_ok rfl <|
    then_ok (readNullable_canon _ (fun n _ => readInt64_int n _) canon_int_ne_null) <|
    then_ok (readNullable_uint v.expectedDraftRevision _) <|
    then_ok (readNullable_str v.expectedBaseRevision _) <|
    then_ok (readNullable_canon _ (fun d _ => readName_name parseUnsavedDecision_iff _ d _)
      (by simp [canon])) <|
    then_ok (readItems_canon _ (fun e _ => parseFieldEdit_canon e) 0) rfl

end CcsTrans.GuiIpc
