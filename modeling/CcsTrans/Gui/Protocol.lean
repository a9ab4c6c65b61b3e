import CcsTrans.Text

/-!
The states that the tray sends to the window, and how the window follows them.

A snapshot is a state of the view model as the window sees it. Between snapshots the tray
sends deltas: the parts of the state that have changed, from one revision to a later one.
-/

namespace CcsTrans.Gui

open CcsTrans.Text

/-! ### Snapshots -/

inductive ResultCode where
  | accepted
  | succeeded
  | rejected
  | failed
  | cancelled
  | savedPendingRuntimeApply
  deriving DecidableEq

inductive ErrorCode where
  | none
  | malformedFrame
  | malformedMessage
  | unsupportedProtocol
  | versionMismatch
  | sourceMismatch
  | authenticationFailed
  | sessionMismatch
  | sequenceRejected
  | revisionStale
  | busy
  | invalidArgument
  | profileNotFound
  | profileAlreadyExists
  | validationFailed
  | routeCollision
  | repositoryStale
  | draftStale
  | persistenceFailed
  | runtimeApplyFailed
  | serviceUnavailable
  | unsavedChangesDecisionRequired
  | migrationRequired
  | replacementConfirmationRequired
  | ipcBackpressure
  | disconnected
  | internal
  deriving DecidableEq

structure ApplicationStatus where
  state : Bytes := []
  listenerHost : Bytes := []
  listenerPort : UInt16 := 0
  lastError : Bytes := []
  lastExitCode : ℤ := 0
  deriving DecidableEq

structure StorageStatus where
  state : Bytes := []
  databaseExists : Bool := false
  detail : Bytes := []
  databasePath : Bytes := []
  backupDirectory : Bytes := []
  deriving DecidableEq

inductive FieldValue where
  | text (value : Bytes)
  | number (value : UInt64)
  | boolean (value : Bool)
  deriving DecidableEq

structure FieldState where
  key : Bytes := []
  scope : Bytes := []
  inputKind : Bytes := []
  required : Bool := true
  minimum : Option UInt64 := none
  maximum : Option UInt64 := none
  enumValues : List Bytes := []
  displayNameKey : Bytes := []
  applyImpact : Bytes := []
  value : Option FieldValue := none
  deriving DecidableEq

structure ProfileSummary where
  key : ℤ := 0
  id : Bytes := []
  enabled : Bool := false
  protocol : Option Bytes := none
  readiness : Bytes := []
  statusDetail : Bytes := []
  ruleCount : ℕ := 0
  enabledRuleCount : ℕ := 0
  deriving DecidableEq

structure ProfileEditor where
  key : ℤ := 0
  profileId : Bytes := []
  fields : List FieldState := []
  deriving DecidableEq

structure RulesDiagnostic where
  message : Bytes := []
  line : ℕ := 1
  column : ℕ := 1
  ruleId : Bytes := []
  ruleType : Bytes := []
  option : Bytes := []
  deriving DecidableEq

structure RulesEditor where
  profileKey : ℤ := 0
  profileId : Bytes := []
  text : Bytes := []
  diagnostic : Option RulesDiagnostic := none
  deriving DecidableEq

structure DraftStatus where
  phase : Bytes := []
  runtimeApplyPending : Bool := false
  revision : ℕ := 0
  baseRevision : Bytes := []
  deriving DecidableEq

structure CommandStatus where
  sequence : ℕ := 0
  command : Bytes := []
  outcome : ResultCode := .succeeded
  error : ErrorCode := .none
  profileId : Bytes := []
  field : Bytes := []
  detail : Bytes := []
  recoveryCommand : Option Bytes := none
  deriving DecidableEq

structure Selection where
  profileId : Option Bytes := none
  profileKey : Option ℤ := none
  deriving DecidableEq

structure Snapshot where
  revision : ℕ := 0
  application : ApplicationStatus := {}
  profiles : List ProfileSummary := []
  applicationFields : List FieldState := []
  selection : Selection := {}
  profileEditor : Option ProfileEditor := none
  rulesEditor : Option RulesEditor := none
  draft : DraftStatus := {}
  lastCommand : Option CommandStatus := none
  storage : StorageStatus := {}
  lightweightMode : Bool := true
  commandPending : Bool := false
  deriving DecidableEq

/-! ### Deltas -/

structure StateDelta where
  fromRevision : ℕ := 0
  revision : ℕ := 0
  application : Option ApplicationStatus := none
  profiles : Option (List ProfileSummary) := none
  applicationFields : Option (List FieldState) := none
  selection : Option Selection := none
  profileEditorChanged : Bool := false
  profileEditor : Option ProfileEditor := none
  rulesEditorChanged : Bool := false
  rulesEditor : Option RulesEditor := none
  draft : Option DraftStatus := none
  lastCommandChanged : Bool := false
  lastCommand : Option CommandStatus := none
  storage : Option StorageStatus := none
  lightweightMode : Option Bool := none
  commandPending : Option Bool := none
  deriving DecidableEq

/-- `StateDelta::empty`. -/
def StateDelta.empty (d : StateDelta) : Bool :=
  d.application.isNone && d.profiles.isNone && d.applicationFields.isNone && d.selection.isNone &&
  !d.profileEditorChanged && !d.rulesEditorChanged && d.draft.isNone &&
  !d.lastCommandChanged && d.storage.isNone && d.lightweightMode.isNone &&
  d.commandPending.isNone

/-- What a delta says of a part: nothing, unless it has changed. -/
def changed {α : Type} [DecidableEq α] (previous current : α) : Option α :=
  if previous ≠ current then some current else none

/-- What a delta says of an optional part, once it is known to have changed. -/
def changedPart {α : Type} [DecidableEq α] (previous current : Option α) : Option α :=
  if previous ≠ current then current else none

/-- `build_gui_state_delta`. -/
def buildGuiStateDelta (previous current : Snapshot) : StateDelta where
  fromRevision := previous.revision
  revision := current.revision
  application := changed previous.application current.application
  profiles := changed previous.profiles current.profiles
  applicationFields := changed previous.applicationFields current.applicationFields
  selection := changed previous.selection current.selection
  profileEditorChanged := previous.profileEditor ≠ current.profileEditor
  profileEditor := changedPart previous.profileEditor current.profileEditor
  rulesEditorChanged := previous.rulesEditor ≠ current.rulesEditor
  rulesEditor := changedPart previous.rulesEditor current.rulesEditor
  draft := changed previous.draft current.draft
  lastCommandChanged := previous.lastCommand ≠ current.lastCommand
  lastCommand := changedPart previous.lastCommand current.lastCommand
  storage := changed previous.storage current.storage
  lightweightMode := changed previous.lightweightMode current.lightweightMode
  commandPending := changed previous.commandPending current.commandPending

/-- The snapshot with the parts of a delta. -/
def StateDelta.apply (d : StateDelta) (s : Snapshot) : Snapshot where
  revision := d.revision
  application := d.application.getD s.application
  profiles := d.profiles.getD s.profiles
  applicationFields := d.applicationFields.getD s.applicationFields
  selection := d.selection.getD s.selection
  profileEditor := if d.profileEditorChanged then d.profileEditor else s.profileEditor
  rulesEditor := if d.rulesEditorChanged then d.rulesEditor else s.rulesEditor
  draft := d.draft.getD s.draft
  lastCommand := if d.lastCommandChanged then d.lastCommand else s.lastCommand
  storage := d.storage.getD s.storage
  lightweightMode := d.lightweightMode.getD s.lightweightMode
  commandPending := d.commandPending.getD s.commandPending

/-! ### The follower -/

/-- `ClientStateTracker`. -/
structure ClientStateTracker where
  snapshot : Option Snapshot := none
  connected : Bool := false
  snapshotRequired : Bool := true
  deriving DecidableEq

/-- `accept_snapshot`: the error, if any, and the tracker. -/
def ClientStateTracker.acceptSnapshot (t : ClientStateTracker) (s : Snapshot) :
    Option Bytes × ClientStateTracker :=
  if s.revision = 0 then
    (some (str "GUI IPC snapshot revision must be positive"), { t with snapshotRequired := true })
  else (none, ⟨some s, true, false⟩)

/-- `apply_delta`. -/
def ClientStateTracker.applyDelta (t : ClientStateTracker) (d : StateDelta) :
    Option Bytes × ClientStateTracker :=
  match t.snapshot with
  | some s =>
    if t.snapshotRequired then
      (some (str "a complete GUI IPC snapshot is required before state deltas"), t)
    else if d.fromRevision ≠ s.revision ∨ d.revision ≤ d.fromRevision ∨ d.empty then
      (some (str "GUI IPC state revision gap requires a new snapshot"),
        { t with snapshotRequired := true })
    else (none, { t with snapshot := some (d.apply s) })
  | none => (some (str "a complete GUI IPC snapshot is required before state deltas"),
      { t with snapshotRequired := true })

/-! ### Deltas lead where they were made for -/

/-- The snapshots say the same, at whatever revisions. -/
def Snapshot.Same (s t : Snapshot) : Prop := { s with revision := t.revision } = t

instance (s t : Snapshot) : Decidable (s.Same t) := inferInstanceAs (Decidable (_ = _))

lemma Snapshot.Same.refl (s : Snapshot) : s.Same s := rfl

lemma Snapshot.Same.trans {s t u : Snapshot} (h : s.Same t) (h' : t.Same u) : s.Same u := by
  unfold Snapshot.Same at *
  rw [← h', ← h]

section Changes

variable {α : Type} [DecidableEq α]

lemma changed_getD (a b : α) : (changed a b).getD a = b := by
  unfold changed
  split_ifs with h
  · rfl
  · exact not_not.mp h

lemma changed_isNone (a b : α) : (changed a b).isNone = true ↔ a = b := by
  unfold changed
  split_ifs with h
  · simpa using h
  · simpa using h

lemma changedPart_eq (a b : Option α) : (if a ≠ b then changedPart a b else a) = b := by
  unfold changedPart
  split_ifs with h
  · rfl
  · exact not_not.mp h

end Changes

/-- **A delta leads from its snapshot to the other.** -/
theorem apply_buildGuiStateDelta (s t : Snapshot) : (buildGuiStateDelta s t).apply s = t := by
  simp only [StateDelta.apply, buildGuiStateDelta, changed_getD, decide_eq_true_eq, changedPart_eq]

/-- A delta is empty when nothing but the revision differs. -/
theorem empty_buildGuiStateDelta (s t : Snapshot) :
    (buildGuiStateDelta s t).empty = true ↔ s.Same t := by
  obtain ⟨_, _, _, _, _, _, _, _, _, _, _, _⟩ := s
  obtain ⟨_, _, _, _, _, _, _, _, _, _, _, _⟩ := t
  simp only [StateDelta.empty, buildGuiStateDelta, Bool.and_eq_true, changed_isNone,
    Bool.not_eq_true', decide_eq_false_iff_not, ne_eq, not_not, Snapshot.Same, Snapshot.mk.injEq,
    true_and, and_assoc]

end CcsTrans.Gui
