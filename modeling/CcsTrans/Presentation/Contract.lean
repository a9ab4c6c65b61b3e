import CcsTrans.Editor.Editor
import CcsTrans.Repository.Disk

/-!
The state that the main window shows, and the commands it can be given.

The window shows the profiles of a draft as a list, one of them selected, and two editors
for the selected one: one for its fields and one for the text of its rules. The draft has a
phase and a revision, which the sender of a command may expect to be a certain one.
-/

namespace CcsTrans.Presentation

open CcsTrans.Text CcsTrans.Config CcsTrans.Storage CcsTrans.Repository

/-! ### The service -/

inductive ApplicationState where
  | stopped
  | starting
  | running
  | reloading
  | stopping
  | faulted
  | shutdown
  deriving DecidableEq

structure ApplicationStatus where
  state : ApplicationState := .stopped
  listenerHost : Bytes := []
  listenerPort : UInt16 := 0
  lastError : Bytes := []
  lastExitCode : ℤ := 0

/-- `application_state_name`. -/
def applicationStateName : ApplicationState → Bytes
  | .stopped => str "stopped"
  | .starting => str "starting"
  | .running => str "running"
  | .reloading => str "reloading"
  | .stopping => str "stopping"
  | .faulted => str "faulted"
  | .shutdown => str "shutdown"

/-! ### Commands and their results -/

inductive MainWindowCommand where
  | openWindow
  | closeWindow
  | quitApplication
  | refresh
  | startService
  | stopService
  | reloadService
  | selectProfile
  | loadDraft
  | reloadDraft
  | createProfile
  | renameProfile
  | removeProfile
  | moveProfile
  | setProfileEnabled
  | saveProfile
  | updateProfileFields
  | updateApplicationFields
  | replaceRulesText
  | formatRulesText
  | applyDraft
  | discardDraft
  | setLightweightMode
  | storageStatus
  | migrateStorage
  deriving DecidableEq

inductive MainWindowError where
  | none
  | busy
  | invalidArgument
  | profileNotFound
  | profileAlreadyExists
  | validationFailed
  | routeCollision
  | repositoryStale
  | draftStale
  | persistenceFailed
  | runtimeApplyFailed
  | serviceUnavailable
  | unsavedChangesDecisionRequired
  | migrationRequired
  | replacementConfirmationRequired
  | cancelled
  | internal
  deriving DecidableEq

inductive CommandOutcome where
  | succeeded
  | rejected
  | failed
  | cancelled
  | savedPendingRuntimeApply
  deriving DecidableEq

inductive MainWindowCommandSource where
  | nativeHost
  | guiIpc
  deriving DecidableEq

structure CommandResult where
  sequence : ℕ := 0
  command : MainWindowCommand := .refresh
  outcome : CommandOutcome := .succeeded
  error : MainWindowError := .none
  profileId : Bytes := []
  field : Bytes := []
  detail : Bytes := []
  recoveryCommand : Option MainWindowCommand := none
  source : MainWindowCommandSource := .nativeHost
  deriving DecidableEq

/-- What the execution of a command comes to. -/
structure ExecutionResult where
  outcome : CommandOutcome := .succeeded
  error : MainWindowError := .none
  profileId : Bytes := []
  field : Bytes := []
  detail : Bytes := []
  recoveryCommand : Option MainWindowCommand := none

inductive UnsavedChangesDecision where
  | apply
  | discard
  | cancel
  deriving DecidableEq

structure ConfigurationFieldEdit where
  key : Bytes
  value : Option ConfigurationFieldValue
  deriving DecidableEq

structure MainWindowCommandRequest where
  command : MainWindowCommand := .refresh
  profileId : Bytes := []
  replacementProfileId : Bytes := []
  enabled : Bool := false
  unsavedChangesDecision : Option UnsavedChangesDecision := none
  profileKey : Option ℤ := none
  position : ℕ := 0
  fieldEdits : List ConfigurationFieldEdit := []
  text : Bytes := []
  expectedDraftRevision : Option ℕ := none
  expectedBaseRevision : Option Bytes := none
  replaceExistingStorage : Bool := false
  replacementConfirmation : Bytes := []
  source : MainWindowCommandSource := .nativeHost
  deriving DecidableEq

/-! ### What is shown -/

inductive ProfileReadiness where
  | incomplete
  | ready
  | invalid
  deriving DecidableEq

structure ProfileListItem where
  key : ℤ := 0
  id : Bytes := []
  enabled : Bool := false
  protocol : Option Bytes := none
  readiness : ProfileReadiness := .incomplete
  statusDetail : Bytes := []
  ruleCount : ℕ := 0
  enabledRuleCount : ℕ := 0

structure ConfigurationFieldState where
  descriptor : ConfigurationFieldDescriptor
  value : Option ConfigurationFieldValue := none

structure ProfileEditorState where
  key : ℤ := 0
  profileId : Bytes := []
  fields : List ConfigurationFieldState := []

structure RulesEditorState where
  profileKey : ℤ := 0
  profileId : Bytes := []
  text : Bytes := []
  diagnostic : Option RulesTextError := none

inductive DraftPhase where
  | unloaded
  | loading
  | clean
  | dirty
  | validating
  | applying
  | savedPendingRuntimeApply
  deriving DecidableEq

structure DraftState where
  phase : DraftPhase := .unloaded
  runtimeApplyPending : Bool := false
  revision : ℕ := 0
  baseRevision : Bytes := []

/-- `DraftState::dirty`. -/
def DraftPhase.dirtyLike : DraftPhase → Bool
  | .dirty => true
  | .validating => true
  | .applying => true
  | _ => false

inductive MainWindowStorageState where
  | unknown
  | uninitialized
  | migrationRequired
  | ready
  | recoveryRequired
  | invalid
  deriving DecidableEq

structure MainWindowStorageStatus where
  state : MainWindowStorageState := .unknown
  databaseExists : Bool := false
  detail : Bytes := []
  databasePath : Bytes := []
  backupDirectory : Bytes := []

structure MainWindowState where
  revision : ℕ := 0
  application : ApplicationStatus := {}
  profiles : List ProfileListItem := []
  applicationFields : List ConfigurationFieldState := []
  selectedProfileId : Option Bytes := none
  selectedProfileKey : Option ℤ := none
  profileEditor : Option ProfileEditorState := none
  rulesEditor : Option RulesEditorState := none
  draft : DraftState := {}
  lastCommand : Option CommandResult := none
  storage : MainWindowStorageStatus := {}
  lightweightMode : Bool := true
  commandPending : Bool := false

/-! ### Selecting a profile -/

/-- `find_profile_list_item`, by an id. -/
def findProfileListItemById (items : List ProfileListItem) (id : Bytes) : Option ProfileListItem :=
  items.find? fun p => p.id == id

/-- `find_profile_list_item`, by a key. -/
def findProfileListItem (items : List ProfileListItem) (key : ℤ) : Option ProfileListItem :=
  items.find? fun p => p.key == key

/-- The selection of an item of the list. -/
def MainWindowState.select (s : MainWindowState) : Option ProfileListItem → MainWindowState
  | none => s
  | some p => { s with selectedProfileId := some p.id, selectedProfileKey := some p.key }

/-- `clear_profile_selection`. -/
def MainWindowState.clearProfileSelection (s : MainWindowState) : MainWindowState :=
  { s with selectedProfileId := none, selectedProfileKey := none, profileEditor := none,
           rulesEditor := none }

end CcsTrans.Presentation
