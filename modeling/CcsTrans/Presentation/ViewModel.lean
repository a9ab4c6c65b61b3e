import CcsTrans.Core.Sha256
import CcsTrans.Presentation.Panels

/-!
The view model of the main window.

It executes one command after another. A command may use the editor, the repository, the
service and the stored preferences, and publishes the states that the window shows: the
last one when it is done, others on the way. Only the one after a command is looked at
here, but every publication counts in the revision.
-/

namespace CcsTrans.Presentation

open CcsTrans.Text CcsTrans.Core CcsTrans.Config CcsTrans.Storage CcsTrans.Editor
open CcsTrans.Repository CcsTrans.InPlace

/-! ### What the view model works with -/

structure UiPreferences where
  lightweightMode : Bool := true

inductive StorageState where
  | uninitialized
  | migrationRequired
  | ready
  | recoveryRequired
  | invalid
  deriving DecidableEq

structure StorageStatus where
  state : StorageState := .uninitialized
  detail : Bytes := []

/-- `ApplicationControl`. -/
structure ApplicationControl (W : Type) where
  start : EStateM Bytes W Unit
  reload : EStateM Bytes W Unit
  stop : EStateM Bytes W Unit
  shutdown : EStateM Bytes W Unit
  status : W → ApplicationStatus × W

/-- `UiPreferencesRepository`. -/
structure UiPreferencesRepository (W : Type) where
  load : EStateM Bytes W UiPreferences
  save : UiPreferences → EStateM Bytes W Unit

/-- What a `CompositeConfigRepository` does beyond what every repository does. -/
structure StorageControl (W : Type) where
  /-- Whether it succeeds, the status and the text of the error. -/
  inspectStorage : W → (Bool × StorageStatus × Bytes) × W
  /-- The backup of a database that was replaced, if one was. -/
  migrateV2 (replaceExistingDatabase : Bool) : EStateM Bytes W (Option Bytes)

structure Environment (W : Type) where
  repository : ConfigurationRepository W
  lastFailure : W → Option ConfigRepositoryFailure
  /-- Nothing when the repository is of another class. -/
  storage : Option (StorageControl W)
  databasePath : Bytes
  migrationsDirectory : Bytes
  /-- `std::filesystem::exists` of the database. -/
  databaseExists : W → Except Bytes Bool
  application : ApplicationControl W
  preferences : UiPreferencesRepository W

/-- `MainWindowViewModel`. -/
structure MainWindowViewModel (W : Type) where
  state : MainWindowState := {}
  editor : ConfigurationEditor := {}
  world : W
  preferenceValues : UiPreferences := {}
  nextSequence : ℕ := 1
  /-- The snapshot that the draft was begun from. Nothing reads it. -/
  begun : ConfigurationSnapshot := {}

/-- `repository_revision_token`. -/
def repositoryRevisionToken (r : RepositoryRevision) : Bytes :=
  sha256Hex (str "ccs-trans.repository-revision/v1" ++ [0] ++
    (if r.applicationSource.isSome then [ch '1'] else [ch '0']) ++ [0] ++
    decimalInt r.profileRevision ++ [0] ++ r.applicationSource.getD [])

/-- `classify_editor_error`. -/
def classifyEditorError : ConfigurationEditError → MainWindowError
  | .inactive => .serviceUnavailable
  | .profileNotFound => .profileNotFound
  | .profileAlreadyExists => .profileAlreadyExists
  | .routeCollision => .routeCollision
  | .none => .validationFailed
  | .invalidField => .validationFailed
  | .validationFailed => .validationFailed
  | .rulesInvalid => .validationFailed

/-- `classify_repository_error`. -/
def classifyRepositoryError : Option ConfigRepositoryFailure → MainWindowError
  | some .busy => .busy
  | some .stale => .repositoryStale
  | some .invalidDocument => .validationFailed
  | some .migrationRequired => .migrationRequired
  | _ => .persistenceFailed

/-- `storage_state_from`. -/
def storageStateFrom : StorageState → MainWindowStorageState
  | .uninitialized => .uninitialized
  | .migrationRequired => .migrationRequired
  | .ready => .ready
  | .recoveryRequired => .recoveryRequired
  | .invalid => .invalid

/-! ### Publications -/

section Publications

variable {W : Type} (vm : MainWindowViewModel W)

/-- `publish_state_change`. -/
def MainWindowViewModel.publish (update : MainWindowState → MainWindowState) :
    MainWindowViewModel W :=
  { vm with state := { update vm.state with revision := (update vm.state).revision + 1 } }

def setPhase (phase : DraftPhase) (s : MainWindowState) : MainWindowState :=
  { s with draft.phase := phase }

/-- The draft has been edited. -/
def markDirty (s : MainWindowState) : MainWindowState :=
  { s with draft.phase := .dirty, draft.revision := s.draft.revision + 1 }

/-- There is no draft any more. -/
def showNothing (phase : DraftPhase) (baseRevision : Bytes) (s : MainWindowState) :
    MainWindowState :=
  { s with
    draft.phase := phase
    draft.revision := s.draft.revision + 1
    draft.baseRevision := baseRevision
    profiles := []
    applicationFields := [] }.clearProfileSelection

/-- There is a new draft. -/
def showDraft (phase : DraftPhase) (baseRevision : Bytes) (s : MainWindowState) :
    MainWindowState :=
  { s with
    draft.phase := phase
    draft.revision := s.draft.revision + 1
    draft.baseRevision := baseRevision }

/-- The phase of a draft without changes. -/
def cleanPhase (runtimeApplyPending : Bool) : DraftPhase :=
  if runtimeApplyPending then .savedPendingRuntimeApply else .clean

/-- `rebuild_editor_state`. -/
def MainWindowViewModel.rebuildEditorState [TextLibrary] (preferredKey : Option ℤ := none)
    (preferredId : Option Bytes := none) (preserveRulesText : Bool := false) :
    MainWindowViewModel W :=
  vm.publish fun s => s.rebuild vm.editor preferredKey preferredId preserveRulesText

end Publications

/-! ### Commands -/

/-- What a command comes to, and what it leaves. -/
abbrev Executed (W : Type) := ExecutionResult × MainWindowViewModel W

section Commands

variable {W : Type} (env : Environment W) (request : MainWindowCommandRequest)
  (vm : MainWindowViewModel W)

/-- Ask the editor for something. -/
def attempt {α : Type} (m : Edit α)
    (refused : EditError → ConfigurationEditFailure → ExecutionResult)
    (next : α → MainWindowViewModel W → Executed W) : Executed W :=
  match m vm.editor with
  | .ok a editor => next a { vm with editor }
  | .error e editor => (refused e editor.lastFailure, { vm with editor })

/-- Let the editor begin a draft. -/
def beginDraft : Except EditError Unit × MainWindowViewModel W :=
  match Editor.begin env.repository (vm.editor, vm.world) with
  | .ok _ (editor, world) => (.ok (), { vm with editor, world, begun := editor.draft })
  | .error e (editor, world) => (.error e, { vm with editor, world })

/-- `check_draft_precondition`. -/
def checkDraftPrecondition (d : DraftState) : Option ExecutionResult :=
  if request.expectedDraftRevision.any (· ≠ d.revision) then
    some {
      outcome := .rejected
      error := .draftStale
      profileId := request.profileId
      detail := str "draft revision changed"
      recoveryCommand := some .reloadDraft }
  else if request.expectedBaseRevision.any (· ≠ d.baseRevision) then
    some {
      outcome := .rejected
      error := .repositoryStale
      profileId := request.profileId
      detail := str "repository base revision changed"
      recoveryCommand := some .reloadDraft }
  else none

/-- `refresh_storage_status`: whether it succeeds, and the text of the error. -/
def refreshStorageStatus : (Bool × Bytes) × MainWindowViewModel W :=
  let visible : MainWindowStorageStatus :=
    { databasePath := env.databasePath, backupDirectory := env.migrationsDirectory }
  match env.databaseExists vm.world with
  | .error e =>
    let error := str "failed to inspect profiles.db: " ++ e
    ((false, error), vm.publish fun s => { s with storage := { visible with detail := error } })
  | .ok databaseExists =>
    match env.storage with
    | none =>
      let error := str "storage inspection is unavailable for this repository"
      ((false, error), vm.publish fun s => { s with storage :=
        { visible with databaseExists, detail := error } })
    | some control =>
      let ((succeeded, inspected, error), world) := control.inspectStorage vm.world
      let detail := if inspected.detail = [] then error else inspected.detail
      ((succeeded, error), { vm with world }.publish fun s => { s with storage :=
        { visible with databaseExists, detail, state := storageStateFrom inspected.state } })

/-! ### Loading and discarding -/

/-- A draft that could not be loaded. -/
def loadFailed (error : MainWindowError) (detail : Bytes) : Executed W :=
  ({ outcome := .failed
     error := error
     detail := detail
     recoveryCommand := some .reloadDraft },
    (refreshStorageStatus env (vm.publish (showNothing .unloaded []))).2)

section Text

variable [TextLibrary]

/-- The end of `load_draft`, when the repository is loaded. -/
def beginLoaded (preferenceError : Option Bytes) : Executed W :=
  match beginDraft env vm with
  | (.error e, vm) => loadFailed env vm .internal e.error
  | (.ok _, vm) =>
    let vm := vm.publish fun s =>
      { showDraft (cleanPhase s.draft.runtimeApplyPending)
          (repositoryRevisionToken vm.editor.draft.revision) s with
        lightweightMode := vm.preferenceValues.lightweightMode }
    let vm := (refreshStorageStatus env vm.rebuildEditorState).2
    match preferenceError with
    | none => ({}, vm)
    | some e =>
      ({ outcome := .failed
         error := .persistenceFailed
         field := str "main_window.lightweight_mode"
         detail := e
         recoveryCommand := some .reloadDraft }, vm)

/-- The stored preferences, and the text of the error when they cannot be loaded. -/
def loadPreferences : Option Bytes × MainWindowViewModel W :=
  match env.preferences.load vm.world with
  | .ok loaded world => (none, { vm with world, preferenceValues := loaded })
  | .error e world => (some e, { vm with world })

/-- The part of `load_draft` behind the questions about the draft that is there. -/
def loadFresh (forceReload : Bool) : Executed W :=
  let (preferenceError, vm) := loadPreferences env (vm.publish (setPhase .loading))
  if forceReload || !env.repository.loaded vm.world then
    match env.repository.load vm.world with
    | .error e world =>
      let vm := { vm with world }
      loadFailed env vm (classifyRepositoryError (env.lastFailure world)) e
    | .ok _ world => beginLoaded env { vm with world } preferenceError
  else beginLoaded env vm preferenceError

/-- Let go of the draft. -/
def discardEditor : MainWindowViewModel W :=
  { vm with editor := left (Editor.discard vm.editor) }

/-- `load_draft`. -/
def loadDraft (forceReload : Bool) (unsavedDecision : Option UnsavedChangesDecision) :
    Executed W :=
  if vm.editor.active then
    if !forceReload then
      ({ outcome := .rejected
         error := .busy
         detail := str "a draft is already loaded" }, vm)
    else if vm.state.draft.phase.dirtyLike then
      match unsavedDecision with
      | none =>
        ({ outcome := .rejected
           error := .unsavedChangesDecisionRequired
           detail := str "dirty draft requires an explicit Apply, Discard, or Cancel decision" },
          vm)
      | some .cancel =>
        ({ outcome := .cancelled
           error := .cancelled
           detail := str "draft reload was cancelled" }, vm)
      | some .apply =>
        ({ outcome := .rejected
           error := .invalidArgument
           detail := str "apply the draft before reloading it"
           recoveryCommand := some .applyDraft }, vm)
      | some .discard => loadFresh env (discardEditor vm) forceReload
    else loadFresh env (discardEditor vm) forceReload
  else loadFresh env vm forceReload

/-- The answer to a command that needs a draft when there is none. -/
def noDraft (profileId : Bytes) : ExecutionResult where
  outcome := .rejected
  error := .serviceUnavailable
  profileId := profileId
  detail := str "no draft is loaded"
  recoveryCommand := some .loadDraft

/-- `discard_draft`. -/
def discardDraft : Executed W :=
  if !vm.editor.active then (noDraft [], vm)
  else match beginDraft env (discardEditor vm) with
    | (.error e, vm) =>
      ({ outcome := .failed
         error := .internal
         detail := e.error
         recoveryCommand := some .reloadDraft }, vm.publish (showNothing .unloaded []))
    | (.ok _, vm) =>
      let vm := vm.publish fun s => showDraft (cleanPhase s.draft.runtimeApplyPending)
        (repositoryRevisionToken vm.editor.draft.revision) s
      ({}, vm.rebuildEditorState)

/-! ### Editing -/

/-- The end of `mutate_draft`. -/
def finishMutation (before : ConfigurationSnapshot) (preferredKey : Option ℤ)
    (profileId : Bytes) : Executed W :=
  if vm.editor.draft = before then ({ profileId }, vm)
  else ({ profileId }, (vm.publish markDirty).rebuildEditorState preferredKey (some profileId))

/-- `mutate_draft` for `CreateProfile`. -/
def createInDraft : Executed W :=
  let exists_ := (findProfileById vm.editor.draft.profiles request.profileId).isSome
  attempt vm (Editor.createProfile request.profileId)
    (fun e _ =>
      { outcome := .rejected
        error := if exists_ then .profileAlreadyExists else .invalidArgument
        profileId := request.profileId
        field := str "profile_id"
        detail := e.error })
    fun key vm' => finishMutation vm' vm.editor.draft (some key) request.profileId

/-- A field that the failure of the editor may name. -/
def fieldOr (failure : ConfigurationEditFailure) (field : Bytes) : Bytes :=
  if failure.field = [] then field else failure.field

/-- `mutate_draft` for a profile that is in the draft. -/
def changeInDraft (selected : StoredProfile) : Executed W :=
  let before := vm.editor.draft
  let key := selected.key
  let refused (error : MainWindowError) (field : Bytes) (e : EditError) : ExecutionResult :=
    { outcome := .rejected
      error := error
      profileId := selected.profileId
      field := field
      detail := e.error }
  match request.command with
  | .renameProfile =>
    attempt vm (Editor.applyBatch env.repository.root
        [⟨some key, str "id", .text request.replacementProfileId⟩] [] false)
      (fun e failure => refused (classifyEditorError failure.code) (fieldOr failure (str "id")) e)
      fun _ vm => finishMutation vm before (some key) request.replacementProfileId
  | .removeProfile =>
    attempt vm (Editor.removeProfile key) (fun e _ => refused .profileNotFound [] e)
      fun _ vm => finishMutation vm before none selected.profileId
  | .moveProfile =>
    attempt vm (Editor.moveProfile key request.position)
      (fun e _ => refused .invalidArgument (str "position") e)
      fun _ vm => finishMutation vm before (some key) selected.profileId
  | _ =>
    attempt vm (Editor.applyBatch env.repository.root
        [⟨some key, str "enabled", .flag request.enabled⟩] [] true)
      (fun e failure => refused (classifyEditorError failure.code)
        (fieldOr failure (str "enabled")) e)
      fun _ vm => finishMutation vm before (some key) selected.profileId

/-- The profile that a command is about, by its key or by its id. -/
def requestedProfile (profiles : List StoredProfile) : Option StoredProfile :=
  match request.profileKey with
  | some key => findProfile profiles key
  | none => findProfileById profiles request.profileId

/-- `mutate_draft`. -/
def mutateDraft : Executed W :=
  if !vm.editor.active then (noDraft request.profileId, vm)
  else if request.command = .createProfile then createInDraft request vm
  else match requestedProfile request vm.editor.draft.profiles with
    | none =>
      ({ outcome := .rejected
         error := .profileNotFound
         profileId := request.profileId
         field := str "profile_id"
         detail := str "profile does not exist: " ++ request.profileId }, vm)
    | some p => changeInDraft env request vm p

/-- The commands of the edits that set a field, in their order. -/
def setCommands (profileKey : Option ℤ) (edits : List ConfigurationFieldEdit) :
    List SetConfigurationFieldCommand :=
  edits.filterMap fun edit => edit.value.map fun value => ⟨profileKey, edit.key, value⟩

/-- The commands of the edits that reset a field, in their order. -/
def resetCommands (profileKey : Option ℤ) (edits : List ConfigurationFieldEdit) :
    List ResetConfigurationFieldCommand :=
  (edits.filter fun edit => edit.value.isNone).map fun edit => ⟨profileKey, edit.key⟩

/-- The batch of `update_fields`. -/
def applyFields (profileKey : Option ℤ) : Executed W :=
  let before := vm.editor.draft
  attempt vm (Editor.applyBatch env.repository.root (setCommands profileKey request.fieldEdits)
      (resetCommands profileKey request.fieldEdits) true)
    (fun e failure =>
      { outcome := .rejected
        error := classifyEditorError failure.code
        profileId := request.profileId
        field := failure.field
        detail := e.error })
    fun _ vm =>
      let vm := if vm.editor.draft = before then vm else vm.publish markDirty
      let profile := profileKey.bind (findProfile vm.editor.draft.profiles)
      let profileId := (profile.map StoredProfile.profileId).getD request.profileId
      ({ profileId }, vm.rebuildEditorState profileKey (some profileId))

/-- `update_fields`. -/
def updateFields : Executed W :=
  if !vm.editor.active then (noDraft request.profileId, vm)
  else if request.command = .saveProfile ∨ request.command = .updateProfileFields then
    let found := findProfileById vm.editor.draft.profiles request.profileId
    match request.profileKey.or (found.map StoredProfile.key) with
    | none =>
      ({ outcome := .rejected
         error := .profileNotFound
         profileId := request.profileId
         detail := str "selected profile no longer exists" }, vm)
    | some key => applyFields env request vm (some key)
  else applyFields env request vm none

/-- The answer to a text of rules that is not taken. -/
def rulesRefused (e : EditError) : ExecutionResult where
  outcome := .rejected
  error := .validationFailed
  profileId := request.profileId
  field := str "rules"
  detail := e.error

/-- The end of `update_rules`: show the text that was taken. -/
def finishRules (before : ConfigurationSnapshot) (key : ℤ) (displayed : Bytes) : Executed W :=
  let vm := if vm.editor.draft = before then vm else vm.publish (setPhase .dirty)
  let vm := vm.rebuildEditorState (some key) (some request.profileId)
  ({}, vm.publish fun s => { s with
    rulesEditor := s.rulesEditor.map fun r =>
      if r.profileKey = key then { r with text := displayed, diagnostic := none } else r
    draft.revision := s.draft.revision + 1 })

/-- `update_rules`. -/
def updateRules (format : Bool) : Executed W :=
  match request.profileKey with
  | some key =>
    if !vm.editor.active then (unavailable, vm)
    else
      let text := normalizeRulesTextNewlines request.text
      match Editor.replaceRulesText key text vm.editor with
      | .error e editor =>
        (rulesRefused request e, { vm with editor }.publish fun s => { s with
          rulesEditor := some ⟨key, request.profileId, text, some e.diagnostic⟩
          draft.revision := s.draft.revision + 1 })
      | .ok _ editor =>
        let vm' := { vm with editor }
        if format then
          match formattedRules editor key with
          | .error e => (rulesRefused request e, vm')
          | .ok displayed => finishRules request vm' vm.editor.draft key displayed
        else finishRules request vm' vm.editor.draft key text
  | none => (unavailable, vm)
where
  unavailable : ExecutionResult :=
    { outcome := .rejected
      error := .serviceUnavailable
      profileId := request.profileId
      field := str "rules"
      detail := str "no selected Profile draft is available"
      recoveryCommand := some .loadDraft }

/-! ### Applying -/

/-- The states in which the service cannot take a configuration. -/
def ApplicationState.inTransition : ApplicationState → Bool
  | .starting => true
  | .reloading => true
  | .stopping => true
  | .shutdown => true
  | _ => false

/-- The part of `apply_draft` behind the commit. -/
def finishApply (selectedBefore : Option Bytes) (committed : ConfigurationSnapshot)
    (runtimeError : Option Bytes) : Executed W :=
  let pending := runtimeError.isSome
  match beginDraft env vm with
  | (.error e, vm) =>
    ({ outcome := .failed
       error := .internal
       detail := str "configuration saved but the editor could not reload it: " ++ e.error
       recoveryCommand := some .reloadDraft },
      vm.publish fun s =>
        let phase := if pending then DraftPhase.savedPendingRuntimeApply else .unloaded
        { showNothing phase (repositoryRevisionToken committed.revision) s with
          draft.runtimeApplyPending := pending })
  | (.ok _, vm) =>
    let vm := vm.publish fun s =>
      { showDraft (cleanPhase pending) (repositoryRevisionToken vm.editor.draft.revision) s with
        draft.runtimeApplyPending := pending }
    let vm := vm.rebuildEditorState none selectedBefore
    match runtimeError with
    | none => ({}, vm)
    | some e =>
      let (status, world) := env.application.status vm.world
      ({ outcome := .savedPendingRuntimeApply
         error := .runtimeApplyFailed
         detail := e
         recoveryCommand :=
           some (if status.state = .running then .reloadService else .startService) },
        { vm with world })

/-- The part of `apply_draft` from the commit on. -/
def commitDraft (wasRunning : Bool) : Executed W :=
  let selectedBefore := vm.state.selectedProfileId
  match Editor.commit env.repository (vm.editor, vm.world) with
  | .error e (editor, world) =>
    let error := classifyRepositoryError (env.lastFailure world)
    ({ outcome := .failed
       error := error
       detail := e.error
       recoveryCommand := if error = .repositoryStale then some .reloadDraft else none },
      { vm with editor, world }.publish (setPhase .dirty))
  | .ok committed (editor, world) =>
    if wasRunning then
      match env.application.reload world with
      | .ok _ world => finishApply env { vm with editor, world } selectedBefore committed none
      | .error e world =>
        finishApply env { vm with editor, world } selectedBefore committed (some e)
    else finishApply env { vm with editor, world } selectedBefore committed none

/-- `apply_draft`. -/
def applyDraft : Executed W :=
  if !vm.editor.active then (noDraft [], vm)
  else if !vm.state.draft.phase.dirtyLike then
    ({ outcome := .rejected
       error := .invalidArgument
       detail := str "the current draft has no unsaved changes" }, vm)
  else
    let (status, world) := env.application.status vm.world
    let vm := { vm with world }
    if status.state.inTransition then
      ({ outcome := .rejected
         error := .busy
         detail := str "configuration cannot be applied while the service is " ++
           applicationStateName status.state }, vm)
    else
      let vm := vm.publish (setPhase .validating)
      match Editor.validate env.repository.root vm.editor with
      | .error e editor =>
        ({ outcome := .rejected
           error := classifyEditorError editor.lastFailure.code
           field := editor.lastFailure.field
           detail := e.error }, { vm with editor }.publish (setPhase .dirty))
      | .ok _ editor =>
        commitDraft env ({ vm with editor }.publish (setPhase .applying))
          (status.state = .running)

/-! ### The other commands -/

/-- `set_lightweight_mode`. -/
def setLightweightMode (enabled : Bool) : Executed W :=
  let candidate := { vm.preferenceValues with lightweightMode := enabled }
  match env.preferences.save candidate vm.world with
  | .error e world =>
    ({ outcome := .failed
       error := .persistenceFailed
       field := str "main_window.lightweight_mode"
       detail := e }, { vm with world })
  | .ok _ world =>
    ({}, { vm with world, preferenceValues := candidate }.publish fun s =>
      { s with lightweightMode := enabled })

/-- A failure of the storage. -/
def storageResult (outcome : CommandOutcome) (error : MainWindowError) (detail : Bytes) :
    ExecutionResult where
  outcome := outcome
  error := error
  field := str "storage"
  detail := detail

/-- `inspect_storage`. -/
def inspectStorage : Executed W :=
  match refreshStorageStatus env vm with
  | ((true, _), vm) => ({}, vm)
  | ((false, e), vm) => (storageResult .failed .persistenceFailed e, vm)

/-- The part of `migrate_storage` from the migration on. -/
def runMigration (control : StorageControl W) (databaseExists : Bool) : Executed W :=
  match control.migrateV2 request.replaceExistingStorage vm.world with
  | .error e world =>
    let failure := env.lastFailure world
    let error := if failure = some .constraint ∧ databaseExists then
      MainWindowError.replacementConfirmationRequired else classifyRepositoryError failure
    (storageResult .failed error e, (refreshStorageStatus env { vm with world }).2)
  | .ok backup world =>
    let (loaded, vm) := loadDraft env { vm with world } true (some .discard)
    if loaded.error ≠ .none then (loaded, vm)
    else
      let detail := match backup with
        | some path => str "Replaced profiles.db backup: " ++ path
        | none => []
      ({ detail }, (refreshStorageStatus env vm).2)

/-- `migrate_storage`. -/
def migrateStorage : Executed W :=
  match env.storage with
  | none => (storageResult .rejected .serviceUnavailable
      (str "storage migration is unavailable for this repository"), vm)
  | some control =>
    if vm.state.draft.phase.dirtyLike then
      (storageResult .rejected .unsavedChangesDecisionRequired
        (str "apply or discard the current draft before migrating storage"), vm)
    else
      let ((succeeded, status, error), world) := control.inspectStorage vm.world
      let vm := { vm with world }
      if !succeeded then
        (storageResult .failed .persistenceFailed error, (refreshStorageStatus env vm).2)
      else match status.state with
        | .ready => ({}, (refreshStorageStatus env vm).2)
        | .migrationRequired =>
          match env.databaseExists vm.world with
          | .error e => (storageResult .failed .persistenceFailed
              (str "failed to inspect profiles.db: " ++ e), vm)
          | .ok databaseExists =>
            if databaseExists ∧ (request.replaceExistingStorage = false ∨
                request.replacementConfirmation ≠ str "REPLACE") then
              (storageResult .rejected .replacementConfirmationRequired
                (str "profiles.db already exists and requires explicit replacement confirmation"),
                (refreshStorageStatus env vm).2)
            else runMigration env request vm control databaseExists
        | _ => (storageResult .rejected .persistenceFailed
            (if status.detail = [] then str "storage is not ready for migration"
              else status.detail), (refreshStorageStatus env vm).2)

/-- `execute_service_command`, for an operation of the service. -/
def executeServiceCommand (operation : EStateM Bytes W Unit) (applies : Bool) : Executed W :=
  match operation vm.world with
  | .error e world =>
    ({ outcome := .failed
       error := .serviceUnavailable
       detail := e }, { vm with world })
  | .ok _ world =>
    let vm := { vm with world }
    -- a service that was started or reloaded runs what was saved
    if applies then
      ({}, vm.publish fun s => { s with
        draft.runtimeApplyPending := false
        draft.phase := if s.draft.phase = .savedPendingRuntimeApply then .clean
          else s.draft.phase })
    else ({}, vm)

/-- `execute_command` for `SelectProfile`. -/
def selectProfile : Executed W :=
  let (found, missing) := match request.profileKey with
    | some key => (findProfileListItem vm.state.profiles key, str "profile key no longer exists")
    | none => (findProfileListItemById vm.state.profiles request.profileId,
        str "profile does not exist: " ++ request.profileId)
  let preferredId := if request.profileKey.isSome then none else some request.profileId
  match found with
  | none =>
    ({ outcome := .rejected
       error := .profileNotFound
       profileId := request.profileId
       detail := missing }, vm)
  | some item =>
    let vm := vm.publish fun s => s.select (some item)
    ({}, vm.rebuildEditorState request.profileKey preferredId)

/-- `execute_command`, when the draft is the one that is expected. -/
def executeExpected : Executed W :=
  match request.command with
  | .loadDraft => loadDraft env vm false request.unsavedChangesDecision
  | .reloadDraft => loadDraft env vm true request.unsavedChangesDecision
  | .createProfile => mutateDraft env request vm
  | .renameProfile => mutateDraft env request vm
  | .removeProfile => mutateDraft env request vm
  | .moveProfile => mutateDraft env request vm
  | .setProfileEnabled => mutateDraft env request vm
  | .saveProfile => updateFields env request vm
  | .updateProfileFields => updateFields env request vm
  | .updateApplicationFields => updateFields env request vm
  | .replaceRulesText => updateRules request vm false
  | .formatRulesText => updateRules request vm true
  | .applyDraft => applyDraft env vm
  | .discardDraft => discardDraft env vm
  | .setLightweightMode => setLightweightMode env vm request.enabled
  | .storageStatus => inspectStorage env vm
  | .migrateStorage => migrateStorage env request vm
  | .startService => executeServiceCommand vm env.application.start true
  | .stopService => executeServiceCommand vm env.application.stop false
  | .reloadService => executeServiceCommand vm env.application.reload true
  | .quitApplication => executeServiceCommand vm env.application.shutdown false
  | .refresh => ({}, vm.rebuildEditorState none none true)
  | .selectProfile => selectProfile request vm
  | .openWindow => (lifecycle, vm)
  | .closeWindow => (lifecycle, vm)
where
  lifecycle : ExecutionResult :=
    { outcome := .rejected
      error := .invalidArgument
      detail := str "window lifecycle commands belong to the platform host" }

/-- `execute_command`. -/
def executeCommand : Executed W :=
  match checkDraftPrecondition request vm.state.draft with
  | some refused => (refused, vm)
  | none => executeExpected env request vm

/-- `submit` and `execute`: the command is pending until it is done. -/
def execute : MainWindowViewModel W :=
  let sequence := vm.nextSequence
  let vm := { vm with nextSequence := sequence + 1 }.publish fun s =>
    { s with commandPending := true }
  let (executed, vm) := executeCommand env request vm
  let (status, world) := env.application.status vm.world
  { vm with world }.publish fun s => { s with
    commandPending := false
    application := status
    lastCommand := some {
      sequence := sequence
      command := request.command
      outcome := executed.outcome
      error := executed.error
      profileId := if executed.profileId = [] then request.profileId else executed.profileId
      field := executed.field
      detail := executed.detail
      recoveryCommand := executed.recoveryCommand
      source := request.source } }

end Text

end Commands

/-- A view model before its first command. -/
def MainWindowViewModel.fresh {W : Type} (env : Environment W) (world : W) :
    MainWindowViewModel W :=
  let (status, world) := env.application.status world
  { world := world, state := { application := status } }

/-- One command after another. -/
def runCommands [TextLibrary] {W : Type} (env : Environment W) (vm : MainWindowViewModel W)
    (requests : List MainWindowCommandRequest) : MainWindowViewModel W :=
  requests.foldl (fun vm request => execute env request vm) vm

end CcsTrans.Presentation
