import CcsTrans.Gui.Protocol
import CcsTrans.Rows

/-!
The lists of the window: profiles, fields that are shown, and fields that are edited.

The three models are brought to what the tray sends in one way. They differ in what a row is
made of and in which of its roles are announced when it is updated.
-/

namespace CcsTrans.Window

open CcsTrans.Text CcsTrans.Gui CcsTrans.Rows CcsTrans.Runs

/-- Of two values that are one, it is all the same which is shown. -/
lemma refreshed {ρ α : Type} [DecidableEq ρ] {roles : List ρ} {role : ρ} {old new : α}
    (h : role ∈ roles ↔ old ≠ new) : (if role ∈ roles then new else old) = new := by
  split_ifs with hrole
  · rfl
  · exact not_ne_iff.mp (mt h.mpr hrole)

/-! ### Profiles -/

namespace ProfileSummaryModel

inductive Role where
  | stableKey
  | profileId
  | enabled
  | protocol
  | readiness
  | statusDetail
  | ruleCount
  | enabledRuleCount
  deriving DecidableEq

/-- The roles that `updateItem` announces. -/
def changed (current profile : ProfileSummary) : List Role :=
  (if current.id ≠ profile.id then [Role.profileId] else []) ++
  (if current.enabled ≠ profile.enabled then [Role.enabled] else []) ++
  (if current.protocol ≠ profile.protocol then [Role.protocol] else []) ++
  (if current.readiness ≠ profile.readiness then [Role.readiness] else []) ++
  (if current.statusDetail ≠ profile.statusDetail then [Role.statusDetail] else []) ++
  (if current.ruleCount ≠ profile.ruleCount then [Role.ruleCount] else []) ++
  (if current.enabledRuleCount ≠ profile.enabledRuleCount then [Role.enabledRuleCount] else [])

def updateItem (current profile : ProfileSummary) : ProfileSummary × List Role :=
  if (changed current profile).isEmpty then (current, [])
  else (profile, changed current profile)

/-- A row of which some roles are read again. -/
def refresh (roles : List Role) (row item : ProfileSummary) : ProfileSummary where
  key := if .stableKey ∈ roles then item.key else row.key
  id := if .profileId ∈ roles then item.id else row.id
  enabled := if .enabled ∈ roles then item.enabled else row.enabled
  protocol := if .protocol ∈ roles then item.protocol else row.protocol
  readiness := if .readiness ∈ roles then item.readiness else row.readiness
  statusDetail := if .statusDetail ∈ roles then item.statusDetail else row.statusDetail
  ruleCount := if .ruleCount ∈ roles then item.ruleCount else row.ruleCount
  enabledRuleCount := if .enabledRuleCount ∈ roles then item.enabledRuleCount else row.enabledRuleCount

lemma refresh_changed {current profile : ProfileSummary} (h : current.key = profile.key) :
    refresh (changed current profile) current profile = profile := by
  have hkey : (if Role.stableKey ∈ changed current profile then profile.key else current.key) =
      profile.key := by
    rw [h, ite_self]
  unfold refresh
  rw [hkey, refreshed (by simp [changed]), refreshed (by simp [changed]),
    refreshed (by simp [changed]), refreshed (by simp [changed]), refreshed (by simp [changed]),
    refreshed (by simp [changed]), refreshed (by simp [changed])]

lemma refresh_nil (row item : ProfileSummary) : refresh [] row item = row := by
  simp [refresh]

/-- Where no role is another one, the profile is the same. -/
lemma eq_of_changed {current profile : ProfileSummary} (h : current.key = profile.key)
    (hchanged : (changed current profile).isEmpty = true) : current = profile := by
  have hshown := refresh_changed h
  rwa [List.isEmpty_iff.mp hchanged, refresh_nil] at hshown

/-- The rows of profiles. -/
def rows : Model ProfileSummary ProfileSummary ℤ Role where
  server := id
  key := ProfileSummary.key
  make := id
  update := updateItem
  refresh := refresh
  server_make _ := rfl
  server_update current profile h := by
    unfold updateItem
    split_ifs with hchanged
    · exact eq_of_changed h hchanged
    · rfl
  refresh_update current profile h := by
    unfold updateItem
    split_ifs with hchanged
    · exact refresh_nil _ _
    · exact refresh_changed h
  unchanged current profile h hnone := by
    unfold updateItem at hnone ⊢
    split_ifs at hnone ⊢ with hchanged
    · rfl
    · exact absurd (List.isEmpty_iff.mpr hnone) hchanged

def apply (items profiles : List ProfileSummary) : State ProfileSummary Role :=
  rows.apply items profiles

end ProfileSummaryModel

/-! ### Fields that are shown -/

namespace ConfigurationFieldModel

inductive Role where
  | key
  | scope
  | inputKind
  | required
  | minimum
  | maximum
  | enumValues
  | displayName
  | applyImpact
  | value
  | valueText
  deriving DecidableEq

/-- The roles that `updateItem` announces. -/
def updated : List Role :=
  [.scope, .inputKind, .required, .minimum, .maximum, .enumValues, .displayName, .applyImpact, .value,
   .valueText]

def updateItem (current field : FieldState) : FieldState × List Role :=
  if current = field then (current, []) else (field, updated)

def refresh (roles : List Role) (row item : FieldState) : FieldState where
  key := if .key ∈ roles then item.key else row.key
  scope := if .scope ∈ roles then item.scope else row.scope
  inputKind := if .inputKind ∈ roles then item.inputKind else row.inputKind
  required := if .required ∈ roles then item.required else row.required
  minimum := if .minimum ∈ roles then item.minimum else row.minimum
  maximum := if .maximum ∈ roles then item.maximum else row.maximum
  enumValues := if .enumValues ∈ roles then item.enumValues else row.enumValues
  displayNameKey := if .displayName ∈ roles then item.displayNameKey else row.displayNameKey
  applyImpact := if .applyImpact ∈ roles then item.applyImpact else row.applyImpact
  value := if .value ∈ roles then item.value else row.value

lemma refresh_nil (row item : FieldState) : refresh [] row item = row := by
  simp [refresh]

lemma refresh_updated {current field : FieldState} (h : current.key = field.key) :
    refresh updated current field = field := by
  have hkey : Role.key ∉ updated := by decide
  unfold refresh
  rw [if_neg hkey, h]
  rfl

/-- The rows of fields that are shown. -/
def rows : Model FieldState FieldState Bytes Role where
  server := id
  key := FieldState.key
  make := id
  update := updateItem
  refresh := refresh
  server_make _ := rfl
  server_update current field _ := by
    unfold updateItem
    split_ifs with hsame
    · exact hsame
    · rfl
  refresh_update current field h := by
    unfold updateItem
    split_ifs with hsame
    · exact refresh_nil _ _
    · exact refresh_updated h
  unchanged current field h hnone := by
    unfold updateItem at hnone ⊢
    split_ifs at hnone ⊢ with hsame
    · rfl
    · exact absurd hnone (List.cons_ne_nil _ _)

def apply (items fields : List FieldState) : State FieldState Role :=
  rows.apply items fields

end ConfigurationFieldModel

/-! ### Fields that are edited -/

namespace EditableFieldModel

inductive Role where
  | key
  | scope
  | inputKind
  | required
  | minimum
  | maximum
  | enumValues
  | displayName
  | applyImpact
  | serverValue
  | draftValue
  | valueText
  | draftText
  | hasValue
  | dirty
  | error
  deriving DecidableEq

/-- A field as the tray has it, and what was made of it in the window. -/
structure Item where
  server : FieldState
  draft : Option FieldValue := none
  editText : Bytes := []
  locallyDirty : Bool := false
  error : Bytes := []
  editRevision : UInt64 := 0

def valueText : Option FieldValue → Bytes
  | none => []
  | some (.text value) => value
  | some (.number value) => decimal value.toNat
  | some (.boolean value) => if value then str "On" else str "Off"

/-- What an item is when its field is another one. -/
def updated (item : Item) (field : FieldState) (preserveLocal : Bool) : Item :=
  if !preserveLocal then
    { item with
      server := field
      draft := field.value
      editText := valueText field.value
      locallyDirty := false
      error := [] }
  else if item.error = [] then
    { item with
      server := field
      editText := if item.draft = field.value then valueText field.value else item.editText
      locallyDirty := item.draft ≠ field.value }
  else { item with server := field, locallyDirty := true }

/-- The roles that `updateItem` announces. -/
def changed (old item : Item) : List Role :=
  (if old.server.scope ≠ item.server.scope then [Role.scope] else []) ++
  (if old.server.inputKind ≠ item.server.inputKind then [Role.inputKind] else []) ++
  (if old.server.required ≠ item.server.required then [Role.required] else []) ++
  (if old.server.minimum ≠ item.server.minimum then [Role.minimum] else []) ++
  (if old.server.maximum ≠ item.server.maximum then [Role.maximum] else []) ++
  (if old.server.enumValues ≠ item.server.enumValues then [Role.enumValues] else []) ++
  (if old.server.displayNameKey ≠ item.server.displayNameKey then [Role.displayName] else []) ++
  (if old.server.applyImpact ≠ item.server.applyImpact then [Role.applyImpact] else []) ++
  (if old.server.value ≠ item.server.value then [Role.serverValue, Role.valueText] else []) ++
  (if old.draft ≠ item.draft then [Role.draftValue, Role.hasValue] else []) ++
  (if old.editText ≠ item.editText then [Role.draftText] else []) ++
  (if old.locallyDirty ≠ item.locallyDirty then [Role.dirty] else []) ++
  (if old.error ≠ item.error then [Role.error] else [])

def updateItem (item : Item) (field : FieldState) (preserveLocal : Bool) : Item × List Role :=
  let item' := updated item field preserveLocal
  (item', changed item item')

/-- A row of which some roles are read again. What no role shows stays as it is. -/
def refresh (roles : List Role) (row item : Item) : Item where
  server :=
    { key := if .key ∈ roles then item.server.key else row.server.key
      scope := if .scope ∈ roles then item.server.scope else row.server.scope
      inputKind := if .inputKind ∈ roles then item.server.inputKind else row.server.inputKind
      required := if .required ∈ roles then item.server.required else row.server.required
      minimum := if .minimum ∈ roles then item.server.minimum else row.server.minimum
      maximum := if .maximum ∈ roles then item.server.maximum else row.server.maximum
      enumValues := if .enumValues ∈ roles then item.server.enumValues else row.server.enumValues
      displayNameKey := if .displayName ∈ roles then item.server.displayNameKey else row.server.displayNameKey
      applyImpact := if .applyImpact ∈ roles then item.server.applyImpact else row.server.applyImpact
      value := if .serverValue ∈ roles then item.server.value else row.server.value }
  draft := if .draftValue ∈ roles then item.draft else row.draft
  editText := if .draftText ∈ roles then item.editText else row.editText
  locallyDirty := if .dirty ∈ roles then item.locallyDirty else row.locallyDirty
  error := if .error ∈ roles then item.error else row.error
  editRevision := row.editRevision

lemma refresh_nil (row item : Item) : refresh [] row item = row := by
  simp [refresh]

lemma refresh_changed (old item : Item) (hkey : old.server.key = item.server.key)
    (hrevision : old.editRevision = item.editRevision) : refresh (changed old item) old item = item := by
  have hshown : (if Role.key ∈ changed old item then item.server.key else old.server.key) =
      item.server.key := by
    rw [hkey, ite_self]
  unfold refresh
  rw [hshown, hrevision, refreshed (by simp [changed]), refreshed (by simp [changed]),
    refreshed (by simp [changed]), refreshed (by simp [changed]), refreshed (by simp [changed]),
    refreshed (by simp [changed]), refreshed (by simp [changed]), refreshed (by simp [changed]),
    refreshed (by simp [changed]), refreshed (by simp [changed]), refreshed (by simp [changed]),
    refreshed (by simp [changed]), refreshed (by simp [changed])]

lemma updated_server (item : Item) (field : FieldState) (preserveLocal : Bool) :
    (updated item field preserveLocal).server = field := by
  unfold updated
  split_ifs <;> rfl

lemma updated_editRevision (item : Item) (field : FieldState) (preserveLocal : Bool) :
    (updated item field preserveLocal).editRevision = item.editRevision := by
  unfold updated
  split_ifs <;> rfl

/-- Whether what was made of a field in the window stays. -/
def preserveLocal (preserveDirty : Bool) (preserveEditsAfter : Option UInt64) (item : Item) : Bool :=
  preserveDirty && item.locallyDirty || preserveEditsAfter.any fun revision => item.editRevision > revision

/-- The rows of fields that are edited. -/
def rows (preserveDirty : Bool) (preserveEditsAfter : Option UInt64) :
    Model Item FieldState Bytes Role where
  server := Item.server
  key := FieldState.key
  make field := { server := field, draft := field.value, editText := valueText field.value }
  update item field := updateItem item field (preserveLocal preserveDirty preserveEditsAfter item)
  refresh := refresh
  server_make _ := rfl
  server_update _ _ _ := updated_server _ _ _
  refresh_update item field h := by
    refine refresh_changed _ _ ?_ (updated_editRevision _ _ _).symm
    rw [updated_server]
    exact h
  unchanged item field h hnone := by
    have hshown := refresh_changed item
      (updated item field (preserveLocal preserveDirty preserveEditsAfter item))
      (by rw [updated_server]; exact h) (updated_editRevision _ _ _).symm
    have hnone : changed item (updated item field _) = [] := hnone
    rw [hnone, refresh_nil] at hshown
    exact hshown.symm

end EditableFieldModel

/-- `EditableFieldModel`. -/
structure EditableFieldModel where
  items : List EditableFieldModel.Item := []
  dirty : Bool := false
  valid : Bool := true

namespace EditableFieldModel

def calculateDirty (items : List Item) : Bool := items.any (·.locallyDirty)

def calculateValid (items : List Item) : Bool := items.all (·.error = [])

/-- What is announced of the whole list. -/
inductive Signal where
  | dirtyChanged
  | validityChanged
  deriving DecidableEq

def apply (f : EditableFieldModel) (fields : List FieldState) (preserveDirty : Bool)
    (preserveEditsAfter : Option UInt64) : EditableFieldModel × List (Change Item Role) × List Signal :=
  let s := (rows preserveDirty preserveEditsAfter).apply f.items fields
  let dirty := calculateDirty s.items
  let valid := calculateValid s.items
  (⟨s.items, dirty, valid⟩, s.announced,
    (if f.dirty ≠ dirty then [Signal.dirtyChanged] else []) ++
      if f.valid ≠ valid then [Signal.validityChanged] else [])

end EditableFieldModel

/-! ### What the views are told -/

/-- The rows are those that are wanted; every announced change is in range, moves a row where it may
be moved, removes no row that is wanted and inserts none that was there; and whoever makes the
announced changes of the old rows has the new ones. -/
structure Converges {ι δ κ ρ : Type} (m : Model ι δ κ ρ) (old : List ι) (desired : List δ)
    (s : State ι ρ) : Prop where
  wanted : s.items.map m.server = desired
  proper : Along m.replay (m.Proper old desired) old s.announced
  replayed : s.announced.foldl m.replay old = s.items

lemma converges_apply {ι δ κ ρ : Type} [DecidableEq κ] {m : Model ι δ κ ρ} {old : List ι}
    {desired : List δ} (hold : (m.keys old).Nodup) (hdesired : (desired.map m.key).Nodup) :
    Converges m old desired (m.apply old desired) := by
  obtain ⟨hgood, hwanted⟩ := Model.apply_good hold hdesired
  exact ⟨hwanted, hgood.proper, hgood.shown⟩

/-- **The lists of the window converge.** From any rows with distinct keys to any that are sent with
distinct keys: the models have what was sent, and their views, which follow what is announced, have it
too. Of a field that is edited this is said of what the tray has, and of the order. -/
theorem list_models_converge :
    (∀ items profiles : List ProfileSummary, (items.map (·.key)).Nodup → (profiles.map (·.key)).Nodup →
      (ProfileSummaryModel.apply items profiles).items = profiles ∧
      Converges ProfileSummaryModel.rows items profiles (ProfileSummaryModel.apply items profiles)) ∧
    (∀ items fields : List FieldState, (items.map (·.key)).Nodup → (fields.map (·.key)).Nodup →
      (ConfigurationFieldModel.apply items fields).items = fields ∧
      Converges ConfigurationFieldModel.rows items fields (ConfigurationFieldModel.apply items fields)) ∧
    ∀ (f : EditableFieldModel) (fields : List FieldState) (preserveDirty : Bool)
      (preserveEditsAfter : Option UInt64),
      (f.items.map (·.server.key)).Nodup → (fields.map (·.key)).Nodup →
      let (f', announced, _) := f.apply fields preserveDirty preserveEditsAfter
      f'.items.map (·.server) = fields ∧
      Converges (EditableFieldModel.rows preserveDirty preserveEditsAfter) f.items fields
        ⟨f'.items, announced⟩ := by
  refine ⟨fun items profiles hitems hprofiles => ?_, fun items fields hitems hfields => ?_,
    fun f fields preserveDirty preserveEditsAfter hitems hfields => ?_⟩
  · have h := converges_apply (m := ProfileSummaryModel.rows) hitems hprofiles
    exact ⟨(List.map_id _).symm.trans h.wanted, h⟩
  · have h := converges_apply (m := ConfigurationFieldModel.rows) hitems hfields
    exact ⟨(List.map_id _).symm.trans h.wanted, h⟩
  · have h := converges_apply (m := EditableFieldModel.rows preserveDirty preserveEditsAfter) hitems hfields
    exact ⟨h.wanted, h⟩

section Examples

/-- One profile goes, one comes, one is moved and is enabled. -/
def shownProfiles : List ProfileSummary :=
  [{ key := 1, id := str "a" }, { key := 2, id := str "b" }, { key := 3, id := str "c" }]

def sentProfiles : List ProfileSummary :=
  [{ key := 3, id := str "c", enabled := true }, { key := 4, id := str "d" }, { key := 1, id := str "a" }]

def editedFields : EditableFieldModel where
  items := [{ server := { key := str "id" } }, { server := { key := str "protocol" } }]

theorem list_models_converge_sample :
    (ProfileSummaryModel.apply shownProfiles sentProfiles).items = sentProfiles ∧
    (ProfileSummaryModel.apply shownProfiles sentProfiles).announced =
      [.remove 1, .count, .move 1 0, .data 0 { key := 3, id := str "c", enabled := true } [.enabled],
       .insert 1 { key := 4, id := str "d" }, .count] ∧
    (ConfigurationFieldModel.apply [{ key := str "id" }] [{ key := str "protocol" }]).items =
      [{ key := str "protocol" }] ∧
    (editedFields.apply [{ key := str "protocol" }, { key := str "id" }] true none).1.items.map (·.server) =
      [{ key := str "protocol" }, { key := str "id" }] :=
  ⟨(list_models_converge.1 shownProfiles sentProfiles (by decide) (by decide)).1, rfl,
    (list_models_converge.2.1 [{ key := str "id" }] [{ key := str "protocol" }] (by decide) (by decide)).1,
    (list_models_converge.2.2 editedFields [{ key := str "protocol" }, { key := str "id" }] true none
      (by decide) (by decide)).1⟩

end Examples

end CcsTrans.Window
