import CcsTrans.GuiIpc.Readers

/-!
The states of the tray as JSON.

A snapshot has all parts of a state, and a delta those that have changed. Every part has a writer
and a reader; a writer gives its members in the order of their names, as the library keeps them.
-/

namespace CcsTrans.GuiIpc

open CcsTrans.Text CcsTrans.Json CcsTrans.Fallible
open CcsTrans.Config (member)
open CcsTrans.Gui

/-- A number of the states, which has no sign. -/
def natJson (n : ℕ) : Value := .uint n.toUInt64

/-- A number of the states that may have a sign. -/
def intJson (n : ℤ) : Value := .int (Int64.ofInt n)

/-! ### Parts of a state -/

def diagnosticKeys : List Bytes :=
  [str "message", str "line", str "column", str "rule_id", str "rule_type", str "option"]

def diagnosticJson (value : RulesDiagnostic) : Value :=
  .obj [(str "column", natJson value.column),
    (str "line", natJson value.line),
    (str "message", .str value.message),
    (str "option", .str value.option),
    (str "rule_id", .str value.ruleId),
    (str "rule_type", .str value.ruleType)]

def parseDiagnostic (root : Value) (path : Bytes) : Except Bytes RulesDiagnostic := do
  let ms ← checkKeys root diagnosticKeys diagnosticKeys path
  let message ← readString (member ms "message") (path ++ str ".message")
  let line ← readNat (member ms "line") (path ++ str ".line")
  let column ← readNat (member ms "column") (path ++ str ".column")
  let ruleId ← readString (member ms "rule_id") (path ++ str ".rule_id")
  let ruleType ← readString (member ms "rule_type") (path ++ str ".rule_type")
  let option ← readString (member ms "option") (path ++ str ".option")
  return { message, line, column, ruleId, ruleType, option }

def applicationKeys : List Bytes :=
  [str "state", str "listener_host", str "listener_port", str "last_error", str "last_exit_code"]

def applicationJson (value : ApplicationStatus) : Value :=
  .obj [(str "last_error", .str value.lastError),
    (str "last_exit_code", intJson value.lastExitCode),
    (str "listener_host", .str value.listenerHost),
    (str "listener_port", .uint value.listenerPort.toUInt64),
    (str "state", .str value.state)]

def parseApplication (root : Value) (path : Bytes) : Except Bytes ApplicationStatus := do
  let ms ← checkKeys root applicationKeys applicationKeys path
  let state ← readString (member ms "state") (path ++ str ".state")
  let listenerHost ← readString (member ms "listener_host") (path ++ str ".listener_host")
  let listenerPort ← readUInt16 (member ms "listener_port") (path ++ str ".listener_port")
  let lastError ← readString (member ms "last_error") (path ++ str ".last_error")
  let lastExitCode ← readInteger .int32 (member ms "last_exit_code") (path ++ str ".last_exit_code")
  return { state, listenerHost, listenerPort, lastError, lastExitCode }

def storageKeys : List Bytes :=
  [str "state", str "database_exists", str "detail", str "database_path", str "backup_directory"]

def storageJson (value : StorageStatus) : Value :=
  .obj [(str "backup_directory", .str value.backupDirectory),
    (str "database_exists", .bool value.databaseExists),
    (str "database_path", .str value.databasePath),
    (str "detail", .str value.detail),
    (str "state", .str value.state)]

def parseStorage (root : Value) (path : Bytes) : Except Bytes StorageStatus := do
  let ms ← checkKeys root storageKeys storageKeys path
  let state ← readString (member ms "state") (path ++ str ".state")
  let databaseExists ← readBool (member ms "database_exists") (path ++ str ".database_exists")
  let detail ← readString (member ms "detail") (path ++ str ".detail")
  let databasePath ← readString (member ms "database_path") (path ++ str ".database_path")
  let backupDirectory ← readString (member ms "backup_directory") (path ++ str ".backup_directory")
  return { state, databaseExists, detail, databasePath, backupDirectory }

def fieldStateKeys : List Bytes :=
  [str "key", str "scope", str "input_kind", str "required", str "minimum", str "maximum",
    str "enum_values", str "display_name_key", str "apply_impact", str "value"]

def fieldStateJson (value : FieldState) : Value :=
  .obj [(str "apply_impact", .str value.applyImpact),
    (str "display_name_key", .str value.displayNameKey),
    (str "enum_values", .arr (value.enumValues.map .str)),
    (str "input_kind", .str value.inputKind),
    (str "key", .str value.key),
    (str "maximum", nullable .uint value.maximum),
    (str "minimum", nullable .uint value.minimum),
    (str "required", .bool value.required),
    (str "scope", .str value.scope),
    (str "value", nullable fieldValueJson value.value)]

/-- `parse_field_state`: the array is looked for before the members behind it are read, and its
items are read after all of them. -/
def parseFieldState (root : Value) (path : Bytes) : Except Bytes FieldState := do
  let ms ← checkKeys root fieldStateKeys fieldStateKeys path
  let key ← readString (member ms "key") (path ++ str ".key")
  let scope ← readString (member ms "scope") (path ++ str ".scope")
  let inputKind ← readString (member ms "input_kind") (path ++ str ".input_kind")
  let required ← readBool (member ms "required") (path ++ str ".required")
  let minimum ← readNullable readUInt64 (member ms "minimum") (path ++ str ".minimum")
  let maximum ← readNullable readUInt64 (member ms "maximum") (path ++ str ".maximum")
  let values ← readArray (member ms "enum_values") (path ++ str ".enum_values must be a JSON array")
  let displayNameKey ← readString (member ms "display_name_key") (path ++ str ".display_name_key")
  let applyImpact ← readString (member ms "apply_impact") (path ++ str ".apply_impact")
  let enumValues ← readItems readString (path ++ str ".enum_values") 0 values
  let value ← readNullable parseFieldValue (member ms "value") (path ++ str ".value")
  return { key, scope, inputKind, required, minimum, maximum, enumValues, displayNameKey, applyImpact,
           value }

def profileSummaryKeys : List Bytes :=
  [str "key", str "id", str "enabled", str "protocol", str "readiness", str "status_detail",
    str "rule_count", str "enabled_rule_count"]

def profileSummaryJson (value : ProfileSummary) : Value :=
  .obj [(str "enabled", .bool value.enabled),
    (str "enabled_rule_count", natJson value.enabledRuleCount),
    (str "id", .str value.id),
    (str "key", intJson value.key),
    (str "protocol", nullable .str value.protocol),
    (str "readiness", .str value.readiness),
    (str "rule_count", natJson value.ruleCount),
    (str "status_detail", .str value.statusDetail)]

def parseProfileSummary (root : Value) (path : Bytes) : Except Bytes ProfileSummary := do
  let ms ← checkKeys root profileSummaryKeys profileSummaryKeys path
  let key ← readInteger .int64 (member ms "key") (path ++ str ".key")
  let id ← readString (member ms "id") (path ++ str ".id")
  let enabled ← readBool (member ms "enabled") (path ++ str ".enabled")
  let readiness ← readString (member ms "readiness") (path ++ str ".readiness")
  let statusDetail ← readString (member ms "status_detail") (path ++ str ".status_detail")
  let ruleCount ← readNat (member ms "rule_count") (path ++ str ".rule_count")
  let enabledRuleCount ← readNat (member ms "enabled_rule_count") (path ++ str ".enabled_rule_count")
  let protocol ← readNullable readString (member ms "protocol") (path ++ str ".protocol")
  return { key, id, enabled, protocol, readiness, statusDetail, ruleCount, enabledRuleCount }

def profileEditorKeys : List Bytes := [str "key", str "profile_id", str "fields"]

def profileEditorJson (value : ProfileEditor) : Value :=
  .obj [(str "fields", .arr (value.fields.map fieldStateJson)),
    (str "key", intJson value.key),
    (str "profile_id", .str value.profileId)]

def parseProfileEditor (root : Value) (path : Bytes) : Except Bytes ProfileEditor := do
  let ms ← checkKeys root profileEditorKeys profileEditorKeys path
  let key ← readInteger .int64 (member ms "key") (path ++ str ".key")
  let profileId ← readString (member ms "profile_id") (path ++ str ".profile_id")
  let items ← readArray (member ms "fields") (path ++ str ".fields must be a JSON array")
  let fields ← readItems parseFieldState (path ++ str ".fields") 0 items
  return { key, profileId, fields }

def rulesEditorKeys : List Bytes := [str "profile_key", str "profile_id", str "text", str "diagnostic"]

def rulesEditorJson (value : RulesEditor) : Value :=
  .obj [(str "diagnostic", nullable diagnosticJson value.diagnostic),
    (str "profile_id", .str value.profileId),
    (str "profile_key", intJson value.profileKey),
    (str "text", .str value.text)]

def parseRulesEditor (root : Value) (path : Bytes) : Except Bytes RulesEditor := do
  let ms ← checkKeys root rulesEditorKeys rulesEditorKeys path
  let profileKey ← readInteger .int64 (member ms "profile_key") (path ++ str ".profile_key")
  let profileId ← readString (member ms "profile_id") (path ++ str ".profile_id")
  let text ← readString (member ms "text") (path ++ str ".text")
  let diagnostic ← readNullable parseDiagnostic (member ms "diagnostic") (path ++ str ".diagnostic")
  return { profileKey, profileId, text, diagnostic }

def draftKeys : List Bytes :=
  [str "phase", str "runtime_apply_pending", str "revision", str "base_revision"]

def draftJson (value : DraftStatus) : Value :=
  .obj [(str "base_revision", .str value.baseRevision),
    (str "phase", .str value.phase),
    (str "revision", natJson value.revision),
    (str "runtime_apply_pending", .bool value.runtimeApplyPending)]

def parseDraft (root : Value) (path : Bytes) : Except Bytes DraftStatus := do
  let ms ← checkKeys root draftKeys draftKeys path
  let phase ← readString (member ms "phase") (path ++ str ".phase")
  let runtimeApplyPending ←
    readBool (member ms "runtime_apply_pending") (path ++ str ".runtime_apply_pending")
  let revision ← readNat (member ms "revision") (path ++ str ".revision")
  let baseRevision ← readString (member ms "base_revision") (path ++ str ".base_revision")
  return { phase, runtimeApplyPending, revision, baseRevision }

def commandStatusKeys : List Bytes :=
  [str "sequence", str "command", str "outcome", str "error", str "profile_id", str "field",
    str "detail", str "recovery_command"]

def commandStatusJson (value : CommandStatus) : Value :=
  .obj [(str "command", .str value.command),
    (str "detail", .str value.detail),
    (str "error", .str (errorCodeName value.error)),
    (str "field", .str value.field),
    (str "outcome", .str (resultCodeName value.outcome)),
    (str "profile_id", .str value.profileId),
    (str "recovery_command", nullable .str value.recoveryCommand),
    (str "sequence", natJson value.sequence)]

/-- `parse_command_status_json`: one error stands for both names. -/
def parseCommandStatusJson (root : Value) (path : Bytes) : Except Bytes CommandStatus := do
  let ms ← checkKeys root commandStatusKeys commandStatusKeys path
  let unknown := path ++ str " contains an unknown outcome or error code"
  let sequence ← readNat (member ms "sequence") (path ++ str ".sequence")
  let command ← readString (member ms "command") (path ++ str ".command")
  let outcome ← readName parseResultCode unknown (member ms "outcome") (path ++ str ".outcome")
  let error ← readName parseErrorCode unknown (member ms "error") (path ++ str ".error")
  let profileId ← readString (member ms "profile_id") (path ++ str ".profile_id")
  let field ← readString (member ms "field") (path ++ str ".field")
  let detail ← readString (member ms "detail") (path ++ str ".detail")
  let recoveryCommand ←
    readNullable readString (member ms "recovery_command") (path ++ str ".recovery_command")
  return { sequence, command, outcome, error, profileId, field, detail, recoveryCommand }

def selectionKeys : List Bytes := [str "profile_id", str "profile_key"]

def selectionJson (value : Selection) : Value :=
  .obj [(str "profile_id", nullable .str value.profileId),
    (str "profile_key", nullable intJson value.profileKey)]

/-- `parse_selection`: a profile is named by its name and by its key, or not at all. -/
def parseSelection (root : Value) (path : Bytes) : Except Bytes Selection := do
  let ms ← checkKeys root selectionKeys selectionKeys path
  let profileId ← readNullable readString (member ms "profile_id") (path ++ str ".profile_id")
  let profileKey ←
    readNullable (readInteger .int64) (member ms "profile_key") (path ++ str ".profile_key")
  if profileId.isSome ≠ profileKey.isSome then
    throw (path ++ str " must contain both profile_id and profile_key or neither")
  return { profileId, profileKey }

/-! ### States -/

def snapshotKeys : List Bytes :=
  [str "revision", str "application", str "profiles", str "application_fields", str "selection",
    str "profile_editor", str "rules_editor", str "draft", str "last_command", str "storage",
    str "lightweight_mode", str "command_pending"]

def snapshotJson (value : Snapshot) : Value :=
  .obj [(str "application", applicationJson value.application),
    (str "application_fields", .arr (value.applicationFields.map fieldStateJson)),
    (str "command_pending", .bool value.commandPending),
    (str "draft", draftJson value.draft),
    (str "last_command", nullable commandStatusJson value.lastCommand),
    (str "lightweight_mode", .bool value.lightweightMode),
    (str "profile_editor", nullable profileEditorJson value.profileEditor),
    (str "profiles", .arr (value.profiles.map profileSummaryJson)),
    (str "revision", natJson value.revision),
    (str "rules_editor", nullable rulesEditorJson value.rulesEditor),
    (str "selection", selectionJson value.selection),
    (str "storage", storageJson value.storage)]

def parseSnapshotJson (root : Value) (path : Bytes) : Except Bytes Snapshot := do
  let ms ← checkKeys root snapshotKeys snapshotKeys path
  let noArray := path ++ str " contains a non-array profiles or application_fields"
  let revision ← readNat (member ms "revision") (path ++ str ".revision")
  let application ← parseApplication (member ms "application") (path ++ str ".application")
  let profileItems ← readArray (member ms "profiles") noArray
  let fieldItems ← readArray (member ms "application_fields") noArray
  let selection ← parseSelection (member ms "selection") (path ++ str ".selection")
  let draft ← parseDraft (member ms "draft") (path ++ str ".draft")
  let storage ← parseStorage (member ms "storage") (path ++ str ".storage")
  let lightweightMode ← readBool (member ms "lightweight_mode") (path ++ str ".lightweight_mode")
  let commandPending ← readBool (member ms "command_pending") (path ++ str ".command_pending")
  let profiles ← readItems parseProfileSummary (path ++ str ".profiles") 0 profileItems
  let applicationFields ← readItems parseFieldState (path ++ str ".application_fields") 0 fieldItems
  let profileEditor ←
    readNullable parseProfileEditor (member ms "profile_editor") (path ++ str ".profile_editor")
  let rulesEditor ← readNullable parseRulesEditor (member ms "rules_editor") (path ++ str ".rules_editor")
  let lastCommand ←
    readNullable parseCommandStatusJson (member ms "last_command") (path ++ str ".last_command")
  return { revision, application, profiles, applicationFields, selection, profileEditor, rulesEditor,
           draft, lastCommand, storage, lightweightMode, commandPending }

def stateDeltaKeys : List Bytes :=
  [str "from_revision", str "revision", str "application", str "profiles", str "application_fields",
    str "selection", str "profile_editor", str "rules_editor", str "draft", str "last_command",
    str "storage", str "lightweight_mode", str "command_pending"]

/-- A member that is there when the part has changed, and is `null` when the part is gone. -/
def changedMember {α : Type} (name : String) (f : α → Value) (changed : Bool) (value : Option α) : Members :=
  if changed then [(str name, nullable f value)] else []

def stateDeltaJson (value : StateDelta) : Value :=
  .obj (optionalMember "application" applicationJson value.application ++
    optionalMember "application_fields" (.arr ∘ List.map fieldStateJson) value.applicationFields ++
    optionalMember "command_pending" .bool value.commandPending ++
    optionalMember "draft" draftJson value.draft ++
    [(str "from_revision", natJson value.fromRevision)] ++
    changedMember "last_command" commandStatusJson value.lastCommandChanged value.lastCommand ++
    optionalMember "lightweight_mode" .bool value.lightweightMode ++
    changedMember "profile_editor" profileEditorJson value.profileEditorChanged value.profileEditor ++
    optionalMember "profiles" (.arr ∘ List.map profileSummaryJson) value.profiles ++
    [(str "revision", natJson value.revision)] ++
    changedMember "rules_editor" rulesEditorJson value.rulesEditorChanged value.rulesEditor ++
    optionalMember "selection" selectionJson value.selection ++
    optionalMember "storage" storageJson value.storage)

def emptyDelta : Bytes := str "state delta must be non-empty and advance revision"

/-- A member that may be missing. -/
def readOptional {α : Type} (read : Value → Bytes → Except Bytes α) (ms : Members) (name : String) :
    Except Bytes (Option α) :=
  match find (str name) ms with
  | some value => some <$> read value (str "$." ++ str name)
  | none => .ok none

/-- All items of an array. -/
def readList {α : Type} (read : Value → Bytes → Except Bytes α) (value : Value) (path : Bytes) :
    Except Bytes (List α) := do
  let items ← readArray value (path ++ str " must be a JSON array")
  readItems read path 0 items

/-- A part that may be missing, or be there and be gone. -/
def readChanged {α : Type} (read : Value → Bytes → Except Bytes α) (ms : Members) (name : String) :
    Except Bytes (Bool × Option α) := do
  let value ← readOptional (readNullable read) ms name
  return (value.isSome, value.join)

def parseStateDeltaJson (root : Value) (path : Bytes) : Except Bytes StateDelta := do
  let ms ← checkKeys root stateDeltaKeys [str "from_revision", str "revision"] path
  let fromRevision ← readNat (member ms "from_revision") (str "$.from_revision")
  let revision ← readNat (member ms "revision") (str "$.revision")
  let application ← readOptional parseApplication ms "application"
  let profiles ← readOptional (readList parseProfileSummary) ms "profiles"
  let applicationFields ← readOptional (readList parseFieldState) ms "application_fields"
  let selection ← readOptional parseSelection ms "selection"
  let (profileEditorChanged, profileEditor) ← readChanged parseProfileEditor ms "profile_editor"
  let (rulesEditorChanged, rulesEditor) ← readChanged parseRulesEditor ms "rules_editor"
  let draft ← readOptional parseDraft ms "draft"
  let (lastCommandChanged, lastCommand) ← readChanged parseCommandStatusJson ms "last_command"
  let storage ← readOptional parseStorage ms "storage"
  let lightweightMode ← readOptional readBool ms "lightweight_mode"
  let commandPending ← readOptional readBool ms "command_pending"
  let parsed : StateDelta :=
    { fromRevision, revision, application, profiles, applicationFields, selection, profileEditorChanged,
      profileEditor, rulesEditorChanged, rulesEditor, draft, lastCommandChanged, lastCommand, storage,
      lightweightMode, commandPending }
  if parsed.revision ≤ parsed.fromRevision ∨ parsed.empty then throw emptyDelta
  return parsed

section Texts

variable [Library]

/-- `serialize_snapshot`. -/
def serializeSnapshot (value : Snapshot) : Except Bytes Bytes := serializeWith (snapshotJson value)

/-- `parse_snapshot`. -/
def parseSnapshot (content : Bytes) : Except Bytes Snapshot := parsePayload parseSnapshotJson content

/-- `serialize_state_delta`. -/
def serializeStateDelta (value : StateDelta) : Except Bytes Bytes :=
  if value.revision ≤ value.fromRevision ∨ value.empty then .error emptyDelta
  else serializeWith (stateDeltaJson value)

/-- `parse_state_delta`. -/
def parseStateDelta (content : Bytes) : Except Bytes StateDelta := parsePayload parseStateDeltaJson content

/-- `serialize_command_status`. -/
def serializeCommandStatus (value : CommandStatus) : Except Bytes Bytes :=
  serializeWith (commandStatusJson value)

/-- `parse_command_status`. -/
def parseCommandStatus (content : Bytes) : Except Bytes CommandStatus :=
  parsePayload parseCommandStatusJson content

end Texts

end CcsTrans.GuiIpc
