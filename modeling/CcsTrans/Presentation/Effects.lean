import CcsTrans.Presentation.Coherence

/-!
What a command can do.

Of a view model only a few things matter here: the draft of the editor and the snapshot it
was begun from, the phase and the revision of the draft, and the panels. A command keeps the
draft, edits it, or lets it go for a new one or for none. Two things that commands on the
text of rules can do are told apart: a text that is refused is shown where it came from, and
a text that is taken but cannot be formatted is refused when the draft has already changed.
-/

namespace CcsTrans.Presentation

open CcsTrans.Text CcsTrans.Config CcsTrans.Storage CcsTrans.Editor CcsTrans.InPlace

/-- The draft, which only an active editor has. -/
def theDraft (e : ConfigurationEditor) : Option ConfigurationSnapshot :=
  if e.active then some e.draft else none

lemma theDraft_active {e : ConfigurationEditor} (h : e.active = true) :
    theDraft e = some e.draft := if_pos h

lemma theDraft_inactive {e : ConfigurationEditor} (h : e.active = false) : theDraft e = none := by
  simp [theDraft, h]

lemma theDraft_of_kept {e e' : ConfigurationEditor} (h : kept e' = kept e) :
    theDraft e' = theDraft e := by
  simp only [kept, ConfigurationEditor.mk.injEq] at h
  rw [theDraft, theDraft, h.1, h.2.2.2.1]

/-- What is looked at. -/
structure View where
  draft : Option ConfigurationSnapshot
  begun : ConfigurationSnapshot
  phase : DraftPhase
  revision : ℕ
  panels : Panels

def view {W : Type} (vm : MainWindowViewModel W) : View where
  draft := theDraft vm.editor
  begun := vm.begun
  phase := vm.state.draft.phase
  revision := vm.state.draft.revision
  panels := vm.state.panels

/-- The panels are those of the draft, if there is one. -/
def View.Shows (v : View) : Prop := ∀ d, v.draft = some d → Coherent v.panels d

/-- The phase stays what it is, but for the intermediate ones, or the service has taken what
was saved. -/
def Settles (before after : DraftPhase) : Prop :=
  after = before ∨ (before.dirtyLike = true ∧ after = .dirty) ∨
    (before = .savedPendingRuntimeApply ∧ after = .clean)

/-- The commands that let go of a draft. -/
def MainWindowCommand.releases : MainWindowCommand → Bool
  | .loadDraft => true
  | .reloadDraft => true
  | .applyDraft => true
  | .discardDraft => true
  | .migrateStorage => true
  | _ => false

/-- The draft was let go of: there is a new one, or none. -/
inductive Renewed (revision : ℕ) (v' : View) : CommandOutcome → Prop
  | begun {o : CommandOutcome} (draft : v'.draft = some v'.begun)
      (phase : v'.phase = .clean ∨ v'.phase = .savedPendingRuntimeApply)
      (later : revision < v'.revision) (shows : v'.Shows) (rejected : o ≠ .rejected)
      (cancelled : o ≠ .cancelled) : Renewed revision v' o
  | ended {o : CommandOutcome} (draft : v'.draft = none) (later : revision < v'.revision)
      (rejected : o ≠ .rejected) (cancelled : o ≠ .cancelled) : Renewed revision v' o

lemma Renewed.proper {revision : ℕ} {v' : View} {o : CommandOutcome} (h : Renewed revision v' o) :
    o ≠ .rejected ∧ o ≠ .cancelled := by
  cases h with
  | begun _ _ _ _ rejected cancelled => exact ⟨rejected, cancelled⟩
  | ended _ _ rejected cancelled => exact ⟨rejected, cancelled⟩

lemma Renewed.later {revision : ℕ} {v' : View} {o : CommandOutcome} (h : Renewed revision v' o) :
    revision < v'.revision := by
  cases h with
  | begun _ _ later => exact later
  | ended _ later => exact later

/-- How the command ends does not matter otherwise. -/
lemma Renewed.outcome {revision : ℕ} {v' : View} {o o' : CommandOutcome}
    (h : Renewed revision v' o) (hrejected : o' ≠ .rejected) (hcancelled : o' ≠ .cancelled) :
    Renewed revision v' o' := by
  cases h with
  | begun draft phase later shows => exact .begun draft phase later shows hrejected hcancelled
  | ended draft later => exact .ended draft later hrejected hcancelled

section Conditions

variable [TextLibrary] {W : Type}

/-- A command that gives the editor a text of rules for the profile of a key. -/
structure GivesText (request : MainWindowCommandRequest) (vm : MainWindowViewModel W) (key : ℤ) :
    Prop where
  expected : checkDraftPrecondition request vm.state.draft = none
  command : request.command = .replaceRulesText ∨ request.command = .formatRulesText
  active : vm.editor.active = true
  key : request.profileKey = some key

/-- The text is read as rules for a profile. -/
structure ReadsAs (request : MainWindowCommandRequest) (vm : MainWindowViewModel W) (key : ℤ)
    (p : StoredProfile) (rules : List StoredRule) : Prop where
  found : findProfile vm.editor.draft.profiles key = some p
  parsed : parseRulesText (normalizeRulesTextNewlines request.text) p.rules = .ok rules

/-- The text is refused. -/
def TextRefused (request : MainWindowCommandRequest) (vm : MainWindowViewModel W) (key : ℤ) :
    Prop :=
  GivesText request vm key ∧ ¬ ∃ p rules, ReadsAs request vm key p rules

/-- The text is to be formatted and is read as rules that cannot be formatted. -/
structure Unformatted (request : MainWindowCommandRequest) (vm : MainWindowViewModel W) (key : ℤ)
    (p : StoredProfile) (rules : List StoredRule) : Prop where
  gives : GivesText request vm key
  command : request.command = .formatRulesText
  reads : ReadsAs request vm key p rules
  fails : ∃ e, Config.formatRulesText rules = .error e

/-- The rules that a text is read as become those of the profile, with their keys. -/
def keyedRules (e : ConfigurationEditor) (rules : List StoredRule) : List StoredRule :=
  (assignKeys e.nextDraftRuleKey rules).2

/-- All that a command can do, and how it then ends. -/
inductive Effect (request : MainWindowCommandRequest) (vm : MainWindowViewModel W) (v' : View) :
    CommandOutcome → Prop
  | kept {o : CommandOutcome} (draft : v'.draft = (view vm).draft)
      (begun : v'.begun = (view vm).begun) (phase : Settles (view vm).phase v'.phase)
      (later : (view vm).revision ≤ v'.revision)
      (panels : v'.panels = (view vm).panels ∨ v'.Shows) : Effect request vm v' o
  | refused {key : ℤ} {r : RulesEditorState} (text : TextRefused request vm key)
      (editor : r.profileKey = key) (later : (view vm).revision ≤ v'.revision)
      (rest : v' = { view vm with
        revision := v'.revision, panels := { (view vm).panels with rulesEditor := some r } }) :
      Effect request vm v' .rejected
  | misformatted {key : ℤ} {p : StoredProfile} {rules : List StoredRule}
      (text : Unformatted request vm key p rules) (changed : keyedRules vm.editor rules ≠ p.rules)
      (rest : v' = { view vm with draft := some { vm.editor.draft with
        profiles := profilesWithText vm.editor key p rules } }) : Effect request vm v' .rejected
  | edited {d : ConfigurationSnapshot} (draft : v'.draft = some d)
      (begun : v'.begun = (view vm).begun) (phase : v'.phase = .dirty)
      (later : (view vm).revision < v'.revision) (shows : v'.Shows) :
      Effect request vm v' .succeeded
  | renewed {o : CommandOutcome} (releases : request.command.releases = true)
      (renewed : Renewed (view vm).revision v' o) : Effect request vm v' o

end Conditions

/-! ### Publications -/

section Publications

variable {W : Type} {env : Environment W} {vm : MainWindowViewModel W}

lemma view_refreshStorageStatus (vm : MainWindowViewModel W) :
    view (refreshStorageStatus env vm).2 = view vm := by
  unfold refreshStorageStatus
  dsimp only
  split
  · rfl
  · split <;> rfl

section Rebuild

variable [TextLibrary] {key : Option ℤ} {id : Option Bytes} {preserve : Bool}

lemma rebuild_draft (s : MainWindowState) (e : ConfigurationEditor) :
    (s.rebuild e key id preserve).draft = s.draft := by
  unfold MainWindowState.rebuild
  dsimp only
  split <;> rfl

lemma view_rebuildEditorState (vm : MainWindowViewModel W) :
    view (vm.rebuildEditorState key id preserve) =
      { view vm with panels := (vm.state.rebuild vm.editor key id preserve).panels } := by
  simp only [view, MainWindowViewModel.rebuildEditorState, MainWindowViewModel.publish, rebuild_draft]
  rfl

lemma shows_rebuildEditorState (vm : MainWindowViewModel W) (key : Option ℤ) (id : Option Bytes)
    (preserve : Bool) : (view (vm.rebuildEditorState key id preserve)).Shows := by
  intro d hd
  rw [view_rebuildEditorState] at hd ⊢
  cases hactive : vm.editor.active with
  | false =>
    have hnone : theDraft vm.editor = some d := hd
    rw [theDraft_inactive hactive] at hnone
    cases hnone
  | true =>
    have hsome : theDraft vm.editor = some d := hd
    rw [theDraft_active hactive] at hsome
    cases hsome
    exact coherent_rebuild hactive

end Rebuild

end Publications

/-! ### The editor -/

section Editor

lemma blind_active : Blind ConfigurationEditor.active := fun _ _ => rfl

lemma quiet_createProfile (id : Bytes) :
    Quiet ConfigurationEditor.active (Editor.createProfile id) :=
  (quiet_requireActive blind_active).bind fun _ => (quiet_rejectIf _ _).bind fun _ =>
    quiet_get.bind fun _ => (quiet_rejectIf _ _).bind fun _ => quiet_get.bind fun _ =>
    Quiet.bind (quiet_modify fun _ => rfl) fun _ => quiet_pure _

lemma quiet_removeProfile (key : ℤ) :
    Quiet ConfigurationEditor.active (Editor.removeProfile key) :=
  (quiet_requireActive blind_active).bind fun _ =>
    (quiet_theProfile key (quiet_refuse _)).bind fun _ => quiet_modify fun _ => rfl

lemma quiet_moveProfile (key : ℤ) (position : ℕ) :
    Quiet ConfigurationEditor.active (Editor.moveProfile key position) :=
  (quiet_requireActive blind_active).bind fun _ => quiet_get.bind fun _ =>
    (quiet_rejectIf _ _).bind fun _ =>
    (quiet_theProfile key (quiet_refuse _)).bind fun _ => quiet_modify fun _ => rfl

lemma quiet_apart_active {α : Type} {m : Edit α} (h : Quiet apart m) :
    Quiet ConfigurationEditor.active m := by
  intro e
  have := h e
  simp only [apart, ConfigurationEditor.mk.injEq] at this
  exact this.2.2.2.1

lemma quiet_applyBatch [Json.Library] (root : Bytes) (sets : List SetConfigurationFieldCommand)
    (resets : List ResetConfigurationFieldCommand) (validateCandidate : Bool) :
    Quiet ConfigurationEditor.active (Editor.applyBatch root sets resets validateCandidate) := by
  refine quiet_apart_active ((quiet_requireActive blind_apart).bind fun _ =>
    quiet_get.bind fun e => ?_)
  refine (restores_forM (fun c => restores_restoring (quiet_applySet c)) sets).quiet.bind fun _ =>
    (restores_forM (fun c => @restores_restoring e.draft _ (quiet_applyReset c)) resets).quiet.bind fun _ => ?_
  split_ifs
  · exact (@restores_restoring e.draft _ (quiet_validate blind_apart root)).quiet
  · exact quiet_pure _

variable {W : Type} {repository : ConfigurationRepository W} {e e' : ConfigurationEditor}
  {w w' : W}

/-- After a commit the editor has no draft. -/
lemma commit_ok [Json.Library] {committed : ConfigurationSnapshot}
    (h : Editor.commit repository (e, w) = .ok committed (e', w')) : e'.active = false := by
  obtain ⟨_, s, -, h⟩ := bind_eq_ok.mp h
  rw [get_bind] at h
  obtain ⟨c, t, -, h⟩ := bind_eq_ok.mp h
  cases h
  rfl

end Editor

/-! ### Drafts that are let go of -/

section Renewing

variable {W : Type} {env : Environment W} {vm : MainWindowViewModel W}

/-- What `begin` of the editor can come to. -/
inductive Begins (env : Environment W) (vm : MainWindowViewModel W) :
    Except EditError Unit × MainWindowViewModel W → Prop
  | ok {vm' : MainWindowViewModel W} (draft : theDraft vm'.editor = some vm'.begun)
      (state : vm'.state = vm.state) : Begins env vm (.ok (), vm')
  | error {e : EditError} {vm' : MainWindowViewModel W}
      (draft : theDraft vm'.editor = theDraft vm.editor) (state : vm'.state = vm.state) :
      Begins env vm (.error e, vm')

lemma begins_beginDraft (env : Environment W) (vm : MainWindowViewModel W) :
    Begins env vm (beginDraft env vm) := by
  unfold beginDraft
  cases h : Editor.begin env.repository (vm.editor, vm.world) with
  | ok u s =>
    obtain ⟨editor, world⟩ := s
    obtain ⟨-, -, hactive⟩ := begin_ok h
    exact .ok (theDraft_active hactive) rfl
  | error e s =>
    obtain ⟨editor, world⟩ := s
    exact .error (theDraft_of_kept (atomic_begin _ _ _ h)) rfl

variable {revision : ℕ}

lemma renewed_loadFailed {error : MainWindowError} {detail : Bytes}
    (h : theDraft vm.editor = none) (hr : vm.state.draft.revision = revision) :
    Renewed revision (view (loadFailed env vm error detail).2)
      (loadFailed env vm error detail).1.outcome := by
  refine .ended ?_ ?_ nofun nofun
  · rw [loadFailed, view_refreshStorageStatus]
    exact h
  · rw [loadFailed, view_refreshStorageStatus, ← hr]
    exact Nat.lt_succ_self _

lemma cleanPhase_cases (pending : Bool) :
    cleanPhase pending = .clean ∨ cleanPhase pending = .savedPendingRuntimeApply := by
  cases pending
  · exact .inl rfl
  · exact .inr rfl

variable [TextLibrary]

lemma renewed_beginLoaded {preferenceError : Option Bytes} (h : theDraft vm.editor = none)
    (hr : vm.state.draft.revision = revision) :
    Renewed revision (view (beginLoaded env vm preferenceError).2)
      (beginLoaded env vm preferenceError).1.outcome := by
  unfold beginLoaded
  have hbegins := begins_beginDraft env vm
  generalize beginDraft env vm = begun at hbegins ⊢
  cases hbegins with
  | error draft state =>
    dsimp only
    exact renewed_loadFailed (draft.trans h) (by rw [state, hr])
  | @ok vm' draft state =>
    dsimp only
    generalize hshown : vm'.publish _ = shown
    have hview : view (refreshStorageStatus env shown.rebuildEditorState).2 =
        { view shown with panels := (shown.state.rebuild shown.editor none none false).panels } := by
      rw [view_refreshStorageStatus, view_rebuildEditorState]
    have hshows : (view (refreshStorageStatus env shown.rebuildEditorState).2).Shows := by
      rw [view_refreshStorageStatus]
      exact shows_rebuildEditorState _ _ _ _
    have hbegun (o : CommandOutcome) (hrejected : o ≠ .rejected) (hcancelled : o ≠ .cancelled) :
        Renewed revision (view (refreshStorageStatus env shown.rebuildEditorState).2) o := by
      refine .begun ?_ ?_ ?_ hshows hrejected hcancelled
      · rw [hview, ← hshown]
        exact draft
      · rw [hview, ← hshown]
        exact cleanPhase_cases _
      · rw [hview, ← hshown, ← hr, ← state]
        exact Nat.lt_succ_self _
    split
    · exact hbegun _ (by simp) (by simp)
    · exact hbegun _ (by simp) (by simp)

omit [TextLibrary] in
lemma loadPreferences_keeps (env : Environment W) (vm : MainWindowViewModel W) :
    (loadPreferences env vm).2.editor = vm.editor ∧
      (loadPreferences env vm).2.state = vm.state := by
  unfold loadPreferences
  split <;> exact ⟨rfl, rfl⟩

lemma renewed_loadFresh {forceReload : Bool} (h : theDraft vm.editor = none)
    (hr : vm.state.draft.revision = revision) :
    Renewed revision (view (loadFresh env vm forceReload).2)
      (loadFresh env vm forceReload).1.outcome := by
  unfold loadFresh
  dsimp only
  obtain ⟨heditor, hstate⟩ := loadPreferences_keeps env (vm.publish (setPhase .loading))
  generalize loadPreferences env (vm.publish (setPhase .loading)) = loaded at heditor hstate ⊢
  have hdraft : theDraft loaded.2.editor = none := by
    rw [heditor]
    exact h
  have hrevision : loaded.2.state.draft.revision = revision := by
    rw [hstate]
    exact hr
  split
  · split
    · exact renewed_loadFailed hdraft hrevision
    · exact renewed_beginLoaded hdraft hrevision
  · exact renewed_beginLoaded hdraft hrevision

/-- Loading leaves everything as it is, or lets go of the draft. -/
lemma loadDraft_cases (env : Environment W) (vm : MainWindowViewModel W) (forceReload : Bool)
    (decision : Option UnsavedChangesDecision) :
    view (loadDraft env vm forceReload decision).2 = view vm ∨
      Renewed (view vm).revision (view (loadDraft env vm forceReload decision).2)
        (loadDraft env vm forceReload decision).1.outcome := by
  have hdiscarded : theDraft (discardEditor vm).editor = none := theDraft_inactive rfl
  unfold loadDraft
  split
  · split
    · exact .inl rfl
    · split
      · split
        · exact .inl rfl
        · exact .inl rfl
        · exact .inl rfl
        · exact .inr (renewed_loadFresh hdiscarded rfl)
      · exact .inr (renewed_loadFresh hdiscarded rfl)
  · next hinactive =>
    have hnone : theDraft vm.editor = none := theDraft_inactive (by simpa using hinactive)
    exact .inr (renewed_loadFresh hnone rfl)

lemma discardDraft_cases (env : Environment W) (vm : MainWindowViewModel W) :
    view (discardDraft env vm).2 = view vm ∨
      Renewed (view vm).revision (view (discardDraft env vm).2)
        (discardDraft env vm).1.outcome := by
  unfold discardDraft
  split
  · exact .inl rfl
  have hbegins := begins_beginDraft env (discardEditor vm)
  generalize beginDraft env (discardEditor vm) = begun at hbegins ⊢
  right
  cases hbegins with
  | error draft state =>
    refine .ended (draft.trans (theDraft_inactive rfl)) ?_ nofun nofun
    show vm.state.draft.revision < _
    rw [show vm.state = (discardEditor vm).state from rfl, ← state]
    exact Nat.lt_succ_self _
  | @ok vm' draft state =>
    dsimp only
    refine .begun ?_ ?_ ?_ (shows_rebuildEditorState _ _ _ _) (by simp) (by simp)
    · rw [view_rebuildEditorState]
      exact draft
    · rw [view_rebuildEditorState]
      exact cleanPhase_cases _
    · rw [view_rebuildEditorState]
      show vm.state.draft.revision < _
      rw [show vm.state = (discardEditor vm).state from rfl, ← state]
      exact Nat.lt_succ_self _

lemma renewed_finishApply {selectedBefore : Option Bytes} {committed : ConfigurationSnapshot}
    {runtimeError : Option Bytes} (h : theDraft vm.editor = none)
    (hr : vm.state.draft.revision = revision) :
    Renewed revision (view (finishApply env vm selectedBefore committed runtimeError).2)
      (finishApply env vm selectedBefore committed runtimeError).1.outcome := by
  unfold finishApply
  dsimp only
  have hbegins := begins_beginDraft env vm
  generalize beginDraft env vm = begun at hbegins ⊢
  cases hbegins with
  | error draft state =>
    refine .ended (draft.trans h) ?_ nofun nofun
    rw [← hr, ← state]
    exact Nat.lt_succ_self _
  | @ok vm' draft state =>
    dsimp only
    generalize hshown : vm'.publish _ = shown
    have hview : view (shown.rebuildEditorState none selectedBefore) = { view shown with
        panels := (shown.state.rebuild shown.editor none selectedBefore false).panels } :=
      view_rebuildEditorState _
    have hbegun (o : CommandOutcome) (hrejected : o ≠ .rejected) (hcancelled : o ≠ .cancelled) :
        Renewed revision (view (shown.rebuildEditorState none selectedBefore)) o := by
      refine .begun ?_ ?_ ?_ (shows_rebuildEditorState _ _ _ _) hrejected hcancelled
      · rw [hview, ← hshown]
        exact draft
      · rw [hview, ← hshown]
        exact cleanPhase_cases _
      · rw [hview, ← hshown, ← hr, ← state]
        exact Nat.lt_succ_self _
    split
    · exact hbegun _ (by simp) (by simp)
    · exact hbegun _ (by simp) (by simp)

/-- A commit that fails only makes the draft dirty again. -/
lemma commitDraft_cases (env : Environment W) (vm : MainWindowViewModel W) (wasRunning : Bool) :
    view (commitDraft env vm wasRunning).2 = { view vm with phase := .dirty } ∨
      Renewed (view vm).revision (view (commitDraft env vm wasRunning).2)
        (commitDraft env vm wasRunning).1.outcome := by
  unfold commitDraft
  dsimp only
  cases h : Editor.commit env.repository (vm.editor, vm.world) with
  | error e s =>
    obtain ⟨editor, world⟩ := s
    have hdraft : theDraft editor = theDraft vm.editor := theDraft_of_kept (atomic_commit _ _ _ h)
    left
    show View.mk (theDraft editor) _ _ _ _ = _
    rw [hdraft]
    rfl
  | ok committed s =>
    obtain ⟨editor, world⟩ := s
    have hnone : theDraft editor = none := theDraft_inactive (commit_ok h)
    right
    dsimp only
    split
    · split
      · exact renewed_finishApply hnone rfl
      · exact renewed_finishApply hnone rfl
    · exact renewed_finishApply hnone rfl

lemma applyDraft_cases (env : Environment W) (vm : MainWindowViewModel W) :
    view (applyDraft env vm).2 = view vm ∨
      (vm.state.draft.phase.dirtyLike = true ∧
        view (applyDraft env vm).2 = { view vm with phase := .dirty }) ∨
      Renewed (view vm).revision (view (applyDraft env vm).2) (applyDraft env vm).1.outcome := by
  unfold applyDraft
  split
  · exact .inl rfl
  split
  · exact .inl rfl
  next hdirty =>
  have hdirty : vm.state.draft.phase.dirtyLike = true := by simpa using hdirty
  dsimp only
  split
  · exact .inl rfl
  right
  generalize hv : Editor.validate env.repository.root _ = validated
  have hquiet := quiet_validate blind_kept env.repository.root vm.editor
  have hdraft : theDraft (left validated) = theDraft vm.editor := by
    rw [← hv]
    exact theDraft_of_kept hquiet
  cases validated with
  | error e editor =>
    refine .inl ⟨hdirty, ?_⟩
    show View.mk (theDraft editor) _ _ _ _ = View.mk (theDraft vm.editor) _ _ _ _
    rw [show theDraft editor = theDraft vm.editor from hdraft]
    rfl
  | ok u editor =>
    dsimp only
    generalize happlying : MainWindowViewModel.publish _ (setPhase .applying) = applying
    have hview : view applying = { view vm with phase := .applying } := by
      rw [← happlying]
      show View.mk (theDraft editor) _ _ _ _ = View.mk (theDraft vm.editor) _ _ _ _
      rw [show theDraft editor = theDraft vm.editor from hdraft]
      rfl
    rcases commitDraft_cases env applying _ with hsame | hrenewed
    · refine .inl ⟨hdirty, ?_⟩
      rw [hsame, hview]
    · rw [hview] at hrenewed
      exact .inr hrenewed

end Renewing

/-! ### Edits -/

section Editing

variable [TextLibrary] {W : Type} {env : Environment W} {request : MainWindowCommandRequest}
  {vm : MainWindowViewModel W}

omit [TextLibrary] in
lemma settles_refl (phase : DraftPhase) : Settles phase phase := .inl rfl

lemma effect_of_same {o : CommandOutcome} {v' : View} (h : v' = view vm) :
    Effect request vm v' o := by
  subst h
  exact .kept rfl rfl (settles_refl _) le_rfl (.inl rfl)

/-- What the editor refuses changes nothing. -/
lemma effect_attempt {α : Type} {m : Edit α}
    {refused : EditError → ConfigurationEditFailure → ExecutionResult}
    {next : α → MainWindowViewModel W → Executed W} (hm : Atomic kept m)
    (hnext : ∀ a editor, m vm.editor = .ok a editor →
      Effect request vm (view (next a { vm with editor }).2)
        (next a { vm with editor }).1.outcome) :
    Effect request vm (view (attempt vm m refused next).2)
      (attempt vm m refused next).1.outcome := by
  unfold attempt
  cases h : m vm.editor with
  | ok a editor => exact hnext a editor h
  | error e editor =>
    refine effect_of_same ?_
    show View.mk (theDraft editor) _ _ _ _ = View.mk (theDraft vm.editor) _ _ _ _
    rw [theDraft_of_kept (hm _ _ _ h)]

/-- Panels are rebuilt and nothing else. -/
lemma effect_shown {shown : MainWindowViewModel W} {o : CommandOutcome} {key : Option ℤ}
    {id : Option Bytes} {preserve : Bool} (h : view shown = view vm) :
    Effect request vm (view (shown.rebuildEditorState key id preserve)) o := by
  have hshows := shows_rebuildEditorState shown key id preserve
  rw [view_rebuildEditorState, h] at hshows ⊢
  exact .kept rfl rfl (settles_refl _) le_rfl (.inr hshows)

/-- An edit is shown at once. -/
lemma effect_edited {editor : ConfigurationEditor} (heditor : editor.active = true)
    {key : Option ℤ} {id : Option Bytes} :
    Effect request vm (view (({ vm with editor }.publish markDirty).rebuildEditorState key id))
      .succeeded := by
  have hshows := shows_rebuildEditorState ({ vm with editor }.publish markDirty) key id false
  rw [view_rebuildEditorState] at hshows ⊢
  exact .edited (theDraft_active heditor) rfl rfl (Nat.lt_succ_self _) hshows

variable {editor : ConfigurationEditor} (hactive : vm.editor.active = true)
  (heditor : editor.active = true)

include hactive heditor

lemma effect_finishMutation {preferredKey : Option ℤ} {profileId : Bytes} :
    Effect request vm
      (view (finishMutation { vm with editor } vm.editor.draft preferredKey profileId).2)
      (finishMutation { vm with editor } vm.editor.draft preferredKey profileId).1.outcome := by
  unfold finishMutation
  dsimp only
  split_ifs with hsame
  · refine effect_of_same ?_
    show View.mk (theDraft editor) _ _ _ _ = View.mk (theDraft vm.editor) _ _ _ _
    rw [theDraft_active heditor, theDraft_active hactive, hsame]
  · exact effect_edited heditor

omit [TextLibrary] hactive heditor in
lemma active_of_quiet {α : Type} {m : Edit α} {a : α} {e e' : ConfigurationEditor}
    (hm : Quiet ConfigurationEditor.active m) (h : m e = .ok a e') (hactive : e.active = true) :
    e'.active = true := by
  have := hm e
  rw [h] at this
  exact this.trans hactive

end Editing

section Editing

variable [TextLibrary] {W : Type} {env : Environment W} {request : MainWindowCommandRequest}
  {vm : MainWindowViewModel W}

lemma effect_changeInDraft (hactive : vm.editor.active = true) (p : StoredProfile) :
    Effect request vm (view (changeInDraft env request vm p).2)
      (changeInDraft env request vm p).1.outcome := by
  unfold changeInDraft
  dsimp only
  split
  · refine effect_attempt (atomic_applyBatch _ _ _ _) fun _ editor h => ?_
    exact effect_finishMutation hactive (active_of_quiet (quiet_applyBatch _ _ _ _) h hactive)
  · refine effect_attempt (atomic_removeProfile _) fun _ editor h => ?_
    exact effect_finishMutation hactive (active_of_quiet (quiet_removeProfile _) h hactive)
  · refine effect_attempt (atomic_moveProfile _ _) fun _ editor h => ?_
    exact effect_finishMutation hactive (active_of_quiet (quiet_moveProfile _ _) h hactive)
  · refine effect_attempt (atomic_applyBatch _ _ _ _) fun _ editor h => ?_
    exact effect_finishMutation hactive (active_of_quiet (quiet_applyBatch _ _ _ _) h hactive)

lemma effect_mutateDraft : Effect request vm (view (mutateDraft env request vm).2)
    (mutateDraft env request vm).1.outcome := by
  unfold mutateDraft
  split
  · exact effect_of_same rfl
  next hinactive =>
  have hactive : vm.editor.active = true := by simpa using hinactive
  split
  · refine effect_attempt (atomic_createProfile _) fun _ editor h => ?_
    exact effect_finishMutation hactive (active_of_quiet (quiet_createProfile _) h hactive)
  split
  · exact effect_of_same rfl
  · exact effect_changeInDraft hactive _

lemma effect_applyFields (hactive : vm.editor.active = true) (key : Option ℤ) :
    Effect request vm (view (applyFields env request vm key).2)
      (applyFields env request vm key).1.outcome := by
  refine effect_attempt (atomic_applyBatch _ _ _ _) fun _ editor h => ?_
  have heditor := active_of_quiet (quiet_applyBatch _ _ _ _) h hactive
  dsimp only
  split_ifs with hsame
  · refine effect_shown ?_
    show View.mk (theDraft editor) _ _ _ _ = View.mk (theDraft vm.editor) _ _ _ _
    rw [theDraft_active heditor, theDraft_active hactive, hsame]
  · exact effect_edited heditor

lemma effect_updateFields : Effect request vm (view (updateFields env request vm).2)
    (updateFields env request vm).1.outcome := by
  unfold updateFields
  split
  · exact effect_of_same rfl
  next hinactive =>
  have hactive : vm.editor.active = true := by simpa using hinactive
  split
  · dsimp only
    split
    · exact effect_of_same rfl
    · exact effect_applyFields hactive _
  · exact effect_applyFields hactive _

end Editing

/-! ### Texts of rules -/

section Rules

variable [TextLibrary] {e : ConfigurationEditor} {key : ℤ} {p : StoredProfile}
  {content : Bytes} {parsed : List StoredRule}

omit [TextLibrary] in
lemma find_putFirst {α : Type} {q : α → Bool} {x y : α} {xs : List α} (h : xs.find? q = some y)
    (hx : q x = true) : (putFirst q x xs).find? q = some x := by
  induction xs with
  | nil => cases h
  | cons z zs ih =>
    rw [List.find?_cons] at h
    rw [putFirst]
    split at h
    · next hz => rw [if_pos hz, List.find?_cons, hx]
    · next hz =>
      rw [if_neg (by simp [hz]), List.find?_cons, hz]
      exact ih h

omit [TextLibrary] in
/-- The profile that a text was read for has the rules of the text. -/
lemma findProfile_profilesWithText (h : findProfile e.draft.profiles key = some p)
    (parsed : List StoredRule) :
    findProfile (profilesWithText e key p parsed) key =
      some { p with rules := keyedRules e parsed } :=
  find_putFirst h (by simp [key_of_findProfile h])

omit [TextLibrary] in
/-- The profiles stay as they are when the rules are those that the profile has. -/
lemma profilesWithText_eq_iff (h : findProfile e.draft.profiles key = some p) :
    profilesWithText e key p parsed = e.draft.profiles ↔ keyedRules e parsed = p.rules := by
  constructor
  · intro hsame
    have hfind := findProfile_profilesWithText h parsed
    rw [hsame, h] at hfind
    exact (congrArg StoredProfile.rules (Option.some.inj hfind)).symm
  · intro hrules
    have hp : { p with rules := keyedRules e parsed } = p := by rw [hrules]
    show putFirst _ { p with rules := keyedRules e parsed } _ = _
    rw [hp]
    exact putFirst_find h

/-- Formatting does not look at keys. -/
lemma formatRules_keyed (next : ℤ) (seen : List Bytes) (rules : List StoredRule) :
    formatRules seen (assignKeys next rules).2 = formatRules seen rules := by
  induction rules generalizing next seen with
  | nil => rfl
  | cons r rules ih =>
    rw [assignKeys]
    split_ifs
    · simp only [formatRules, ih]
      rfl
    · simp only [formatRules, ih]

omit [TextLibrary] in
lemma requireActive_of_active (h : e.active = true) : requireActive e = .ok () e := by
  unfold requireActive
  rw [get_bind, if_pos h]
  rfl

omit [TextLibrary] in
lemma theProfile_of_found {otherwise : Edit StoredProfile}
    (h : findProfile e.draft.profiles key = some p) : theProfile key otherwise e = .ok p e := by
  unfold theProfile
  rw [get_bind, h]
  rfl

/-- The text of the rules that a text was read as. -/
lemma formattedRules_eq {e' : ConfigurationEditor} (hactive : e'.active = true)
    (hfind : findProfile e'.draft.profiles key = some { p with rules := keyedRules e parsed }) :
    formattedRules e' key = (Config.formatRulesText parsed).mapError fun d => ⟨d.message, d⟩ := by
  have hformat : Config.formatRulesText (keyedRules e parsed) = Config.formatRulesText parsed := by
    rw [Config.formatRulesText, Config.formatRulesText, keyedRules, formatRules_keyed]
  unfold formattedRules Editor.formatRulesText
  rw [bind_of_ok (requireActive_of_active hactive), bind_of_ok (theProfile_of_found hfind)]
  dsimp only
  rw [hformat]
  cases Config.formatRulesText parsed <;> rfl

/-- A text that is read is taken. -/
lemma replaceRulesText_of_reads (hactive : e.active = true)
    (hfind : findProfile e.draft.profiles key = some p)
    (hparsed : parseRulesText content p.rules = .ok parsed) :
    ∃ e', Editor.replaceRulesText key content e = .ok () e' := by
  let cleared := { e with lastFailure := {} }
  have hclear : clearFailure e = .ok () cleared := rfl
  have hactive' : cleared.active = true := hactive
  have hfind' : findProfile cleared.draft.profiles key = some p := hfind
  unfold Editor.replaceRulesText
  rw [bind_of_ok hclear, bind_of_ok (requireActive_of_active hactive'),
    bind_of_ok (theProfile_of_found hfind')]
  simp only [hparsed]
  exact ⟨_, rfl⟩

end Rules

section Rules

variable [TextLibrary] {W : Type} {request : MainWindowCommandRequest}
  {vm : MainWindowViewModel W} {key : ℤ}

omit [TextLibrary] in
lemma quiet_replaceRulesText [TextLibrary] (key : ℤ) (content : Bytes) :
    Quiet ConfigurationEditor.active (Editor.replaceRulesText key content) := by
  refine (quiet_clearFailure blind_active).bind fun _ =>
    (quiet_requireActive blind_active).bind fun _ =>
    (quiet_theProfile key (quiet_failWith blind_active _ _ _)).bind fun p => ?_
  cases parseRulesText content p.rules with
  | error diagnostic => exact (quiet_setFailure blind_active _).bind fun _ => quiet_throw _
  | ok parsed =>
    exact quiet_get.bind fun e => Quiet.bind (quiet_modify fun _ => rfl) fun _ =>
      quiet_modify fun _ => rfl

omit [TextLibrary] in
/-- Another text in the rules editor is still that of the same profile. -/
lemma Coherent.withText {s : Panels} {d : ConfigurationSnapshot} (h : Coherent s d)
    {f : RulesEditorState → RulesEditorState} (hf : ∀ r, (f r).profileKey = r.profileKey) :
    Coherent { s with rulesEditor := s.rulesEditor.map f } d where
  list := h.list
  empty := h.empty
  selected := h.selected
  profileEditor := h.profileEditor
  rulesEditor := by
    intro r hr
    obtain ⟨q, hq, rfl⟩ := Option.map_eq_some_iff.mp hr
    rw [hf]
    exact h.rulesEditor q hq

/-- What is left when the text that was taken is put into the rules editor. -/
def View.displaying (v : View) (key : ℤ) (displayed : Bytes) : View :=
  { v with
    revision := v.revision + 1
    panels.rulesEditor := v.panels.rulesEditor.map fun r =>
      if r.profileKey = key then { r with text := displayed, diagnostic := none } else r }

omit [TextLibrary] in
lemma View.Shows.displaying {v : View} (h : v.Shows) (key : ℤ) (displayed : Bytes) :
    (v.displaying key displayed).Shows := by
  intro d hd
  refine (h d hd).withText fun r => ?_
  split_ifs <;> rfl

/-- A text that was taken is shown. -/
lemma effect_finishRules {editor : ConfigurationEditor} (hactive : vm.editor.active = true)
    (heditor : editor.active = true) {displayed : Bytes} :
    Effect request vm (view (finishRules request { vm with editor } vm.editor.draft key displayed).2)
      (finishRules request { vm with editor } vm.editor.draft key displayed).1.outcome := by
  unfold finishRules
  dsimp only
  split_ifs with hsame
  · have hshows := shows_rebuildEditorState { vm with editor } (some key)
      (some request.profileId) false
    have hview : view { vm with editor } = view vm := by
      show View.mk (theDraft editor) _ _ _ _ = View.mk (theDraft vm.editor) _ _ _ _
      rw [theDraft_active heditor, theDraft_active hactive, hsame]
    replace hshows := hshows.displaying key displayed
    show Effect request vm ((view ({ vm with editor }.rebuildEditorState (some key)
      (some request.profileId))).displaying key displayed) _
    rw [view_rebuildEditorState, hview] at hshows ⊢
    exact .kept rfl rfl (settles_refl _) (Nat.le_succ _) (.inr hshows)
  · have hshows := shows_rebuildEditorState ({ vm with editor }.publish (setPhase .dirty))
      (some key) (some request.profileId) false
    replace hshows := hshows.displaying key displayed
    show Effect request vm ((view (({ vm with editor }.publish (setPhase .dirty)).rebuildEditorState
      (some key) (some request.profileId))).displaying key displayed) _
    rw [view_rebuildEditorState] at hshows ⊢
    exact .edited (theDraft_active heditor) rfl rfl (Nat.lt_succ_self _) hshows

lemma effect_updateRules {format : Bool}
    (hexpected : checkDraftPrecondition request vm.state.draft = none)
    (hcommand : request.command = if format then .formatRulesText else .replaceRulesText) :
    Effect request vm (view (updateRules request vm format).2)
      (updateRules request vm format).1.outcome := by
  unfold updateRules
  split
  case h_2 => exact effect_of_same rfl
  case h_1 key hkey =>
  split
  · exact effect_of_same rfl
  next hinactive =>
  have hactive : vm.editor.active = true := by simpa using hinactive
  have hgives : GivesText request vm key := by
    refine ⟨hexpected, ?_, hactive, hkey⟩
    rw [hcommand]
    cases format
    · exact .inl rfl
    · exact .inr rfl
  dsimp only
  cases htext : Editor.replaceRulesText key (normalizeRulesTextNewlines request.text)
      vm.editor with
  | error e editor =>
    have hdraft := theDraft_of_kept (atomic_replaceRulesText _ _ _ _ _ htext)
    refine .refused (r := ⟨key, request.profileId, normalizeRulesTextNewlines request.text,
      some e.diagnostic⟩) ⟨hgives, ?_⟩ rfl (Nat.le_succ _) ?_
    · rintro ⟨p, rules, hreads⟩
      obtain ⟨e', he'⟩ := replaceRulesText_of_reads hactive hreads.found hreads.parsed
      rw [htext] at he'
      cases he'
    · show View.mk (theDraft editor) _ _ _ _ = View.mk (theDraft vm.editor) _ _ _ _
      rw [hdraft]
      rfl
  | ok u editor =>
    have heditor := active_of_quiet (quiet_replaceRulesText _ _) htext hactive
    obtain ⟨p, parsed, hfind, hparsed, hdraft⟩ := replaceRulesText_ok htext
    dsimp only
    split
    case isFalse => exact effect_finishRules hactive heditor
    case isTrue hformat =>
    split
    case h_2 => exact effect_finishRules hactive heditor
    case h_1 e herror =>
    have hfind' : findProfile editor.draft.profiles key =
        some { p with rules := keyedRules vm.editor parsed } := by
      rw [hdraft]
      exact findProfile_profilesWithText hfind _
    have hunformatted : Unformatted request vm key p parsed := by
      refine ⟨hgives, by rw [hcommand, hformat]; rfl, ⟨hfind, hparsed⟩, ?_⟩
      rw [formattedRules_eq heditor hfind'] at herror
      cases hf : Config.formatRulesText parsed with
      | ok text =>
        rw [hf] at herror
        cases herror
      | error d => exact ⟨d, rfl⟩
    by_cases hsame : keyedRules vm.editor parsed = p.rules
    · refine effect_of_same ?_
      show View.mk (theDraft editor) _ _ _ _ = View.mk (theDraft vm.editor) _ _ _ _
      rw [theDraft_active heditor, theDraft_active hactive, hdraft,
        (profilesWithText_eq_iff hfind).mpr hsame]
    · refine .misformatted hunformatted hsame ?_
      show View.mk (theDraft editor) _ _ _ _ = _
      rw [theDraft_active heditor, hdraft]
      rfl

/-- A text that is read as rules that cannot be formatted is in the draft when the command
ends as rejected. -/
lemma updateRules_unformatted {p : StoredProfile} {rules : List StoredRule}
    (h : Unformatted request vm key p rules) :
    (updateRules request vm true).1.outcome = .rejected ∧
      view (updateRules request vm true).2 = { view vm with draft := some { vm.editor.draft with
        profiles := profilesWithText vm.editor key p rules } } := by
  have hactive := h.gives.active
  obtain ⟨editor, htext⟩ := replaceRulesText_of_reads hactive h.reads.found h.reads.parsed
  have heditor := active_of_quiet (quiet_replaceRulesText _ _) htext hactive
  obtain ⟨q, parsed, hfind, hparsed, hdraft⟩ := replaceRulesText_ok htext
  obtain rfl : p = q := Option.some.inj (h.reads.found.symm.trans hfind)
  obtain rfl : rules = parsed := Except.ok.inj (h.reads.parsed.symm.trans hparsed)
  have hfind' : findProfile editor.draft.profiles key =
      some { p with rules := keyedRules vm.editor rules } := by
    rw [hdraft]
    exact findProfile_profilesWithText hfind _
  obtain ⟨e, hfails⟩ := h.fails
  have hformatted : formattedRules editor key = .error ⟨e.message, e⟩ := by
    rw [formattedRules_eq heditor hfind', hfails]
    rfl
  unfold updateRules
  simp only [h.gives.key, hactive, htext, hformatted, Bool.not_true, Bool.false_eq_true, if_false,
    if_true]
  refine ⟨rfl, ?_⟩
  show View.mk (theDraft editor) _ _ _ _ = _
  rw [theDraft_active heditor, hdraft]
  rfl

end Rules

/-! ### All commands -/

section Commands

variable [TextLibrary] {W : Type} {env : Environment W} {request : MainWindowCommandRequest}
  {vm : MainWindowViewModel W}

lemma effect_of_cases {r : Executed W} (hreleases : request.command.releases = true)
    (h : view r.2 = view vm ∨ Renewed (view vm).revision (view r.2) r.1.outcome) :
    Effect request vm (view r.2) r.1.outcome := by
  rcases h with hsame | hrenewed
  · exact effect_of_same hsame
  · exact .renewed hreleases hrenewed

lemma effect_applyDraft (hcommand : request.command = .applyDraft) :
    Effect request vm (view (applyDraft env vm).2) (applyDraft env vm).1.outcome := by
  rcases applyDraft_cases env vm with hsame | ⟨hdirty, hagain⟩ | hrenewed
  · exact effect_of_same hsame
  · rw [hagain]
    exact .kept rfl rfl (.inr (.inl ⟨hdirty, rfl⟩)) le_rfl (.inl rfl)
  · exact .renewed (by rw [hcommand]; rfl) hrenewed

lemma runMigration_cases (vm : MainWindowViewModel W) (control : StorageControl W)
    (databaseExists : Bool) :
    view (runMigration env request vm control databaseExists).2 = view vm ∨
      Renewed (view vm).revision (view (runMigration env request vm control databaseExists).2)
        (runMigration env request vm control databaseExists).1.outcome := by
  unfold runMigration
  split
  · exact .inl (view_refreshStorageStatus _)
  next backup world _ =>
  have hloaded := loadDraft_cases env { vm with world } true (some .discard)
  generalize loadDraft env { vm with world } true (some .discard) = loaded at hloaded ⊢
  dsimp only
  split
  · exact hloaded
  · rw [view_refreshStorageStatus]
    rcases hloaded with hsame | hrenewed
    · exact .inl hsame
    · exact .inr (hrenewed.outcome (by simp) (by simp))

lemma effect_migrateStorage (hcommand : request.command = .migrateStorage) :
    Effect request vm (view (migrateStorage env request vm).2)
      (migrateStorage env request vm).1.outcome := by
  unfold migrateStorage
  split
  · exact effect_of_same rfl
  split
  · exact effect_of_same rfl
  dsimp only
  split
  · exact effect_of_same (view_refreshStorageStatus _)
  split
  · exact effect_of_same (view_refreshStorageStatus _)
  · split
    · exact effect_of_same rfl
    · split
      · exact effect_of_same (view_refreshStorageStatus _)
      · exact effect_of_cases (by rw [hcommand]; rfl) (runMigration_cases _ _ _)
  · exact effect_of_same (view_refreshStorageStatus _)

lemma effect_executeServiceCommand {operation : EStateM Bytes W Unit} {applies : Bool} :
    Effect request vm (view (executeServiceCommand vm operation applies).2)
      (executeServiceCommand vm operation applies).1.outcome := by
  unfold executeServiceCommand
  split
  · exact effect_of_same rfl
  · dsimp only
    split_ifs
    · refine .kept rfl rfl ?_ le_rfl (.inl rfl)
      show Settles vm.state.draft.phase (if _ then _ else _)
      split_ifs with hsaved
      · exact .inr (.inr ⟨hsaved, rfl⟩)
      · exact settles_refl _
    · exact effect_of_same rfl

lemma effect_selectProfile : Effect request vm (view (selectProfile request vm).2)
    (selectProfile request vm).1.outcome := by
  unfold selectProfile
  dsimp only
  split
  · exact effect_of_same rfl
  · next item _ =>
    generalize hselected : vm.publish _ = selected
    have hshows := shows_rebuildEditorState selected request.profileKey
      (if request.profileKey.isSome = true then none else some request.profileId) false
    rw [view_rebuildEditorState, ← hselected] at hshows ⊢
    exact .kept rfl rfl (settles_refl _) le_rfl (.inr hshows)

/-- All that `execute_command` can do. -/
theorem effect_executeCommand : Effect request vm (view (executeCommand env request vm).2)
    (executeCommand env request vm).1.outcome := by
  unfold executeCommand
  cases hexpected : checkDraftPrecondition request vm.state.draft with
  | some refused => exact effect_of_same rfl
  | none =>
    dsimp only
    unfold executeExpected
    cases hcommand : request.command with
    | loadDraft => exact effect_of_cases (by rw [hcommand]; rfl) (loadDraft_cases _ _ _ _)
    | reloadDraft => exact effect_of_cases (by rw [hcommand]; rfl) (loadDraft_cases _ _ _ _)
    | discardDraft => exact effect_of_cases (by rw [hcommand]; rfl) (discardDraft_cases _ _)
    | applyDraft => exact effect_applyDraft hcommand
    | migrateStorage => exact effect_migrateStorage hcommand
    | replaceRulesText => exact effect_updateRules hexpected hcommand
    | formatRulesText => exact effect_updateRules hexpected hcommand
    | createProfile => exact effect_mutateDraft
    | renameProfile => exact effect_mutateDraft
    | removeProfile => exact effect_mutateDraft
    | moveProfile => exact effect_mutateDraft
    | setProfileEnabled => exact effect_mutateDraft
    | saveProfile => exact effect_updateFields
    | updateProfileFields => exact effect_updateFields
    | updateApplicationFields => exact effect_updateFields
    | startService => exact effect_executeServiceCommand
    | stopService => exact effect_executeServiceCommand
    | reloadService => exact effect_executeServiceCommand
    | quitApplication => exact effect_executeServiceCommand
    | selectProfile => exact effect_selectProfile
    | refresh => exact effect_shown rfl
    | openWindow => exact effect_of_same rfl
    | closeWindow => exact effect_of_same rfl
    | setLightweightMode =>
      refine effect_of_same ?_
      show view (setLightweightMode env vm request.enabled).2 = view vm
      unfold setLightweightMode
      dsimp only
      split <;> rfl
    | storageStatus =>
      have hview := @view_refreshStorageStatus W env vm
      refine effect_of_same ?_
      show view (inspectStorage env vm).2 = view vm
      unfold inspectStorage
      split
      · next h => rw [← hview, h]
      · next h => rw [← hview, h]

/-- How the last command has ended. -/
def lastOutcome (vm : MainWindowViewModel W) : Option CommandOutcome :=
  vm.state.lastCommand.map CommandResult.outcome

/-- The view model while a command is pending. -/
def pending (vm : MainWindowViewModel W) : MainWindowViewModel W :=
  { vm with nextSequence := vm.nextSequence + 1 }.publish fun s => { s with commandPending := true }

lemma lastOutcome_execute : lastOutcome (execute env request vm) =
    some (executeCommand env request (pending vm)).1.outcome := rfl

lemma view_execute : view (execute env request vm) =
    view (executeCommand env request (pending vm)).2 := rfl

/-- **All that a command can do.** -/
theorem effect_execute (env : Environment W) (request : MainWindowCommandRequest)
    (vm : MainWindowViewModel W) : ∃ o, lastOutcome (execute env request vm) = some o ∧
    Effect request vm (view (execute env request vm)) o := by
  refine ⟨_, lastOutcome_execute, ?_⟩
  rw [view_execute]
  have h : Effect request (pending vm) (view (executeCommand env request (pending vm)).2)
    (executeCommand env request (pending vm)).1.outcome := effect_executeCommand
  generalize (executeCommand env request (pending vm)).1.outcome = o at h ⊢
  generalize view (executeCommand env request (pending vm)).2 = v' at h ⊢
  cases h with
  | kept draft begun phase later panels => exact .kept draft begun phase later panels
  | refused text editor later rest =>
    obtain ⟨hgives, hreads⟩ := text
    refine .refused ⟨⟨hgives.expected, hgives.command, hgives.active, hgives.key⟩, ?_⟩ editor
      later rest
    rintro ⟨p, rules, hr⟩
    exact hreads ⟨p, rules, hr.found, hr.parsed⟩
  | misformatted text changed rest =>
    obtain ⟨hgives, hcommand, hreads, hfails⟩ := text
    exact .misformatted ⟨⟨hgives.expected, hgives.command, hgives.active, hgives.key⟩, hcommand,
      ⟨hreads.found, hreads.parsed⟩, hfails⟩ changed rest
  | edited draft begun phase later shows => exact .edited draft begun phase later shows
  | renewed releases renewed => exact .renewed releases renewed

/-- A command that expects another draft does nothing. -/
lemma view_execute_of_refused {refused : ExecutionResult}
    (h : checkDraftPrecondition request vm.state.draft = some refused) :
    view (execute env request vm) = view vm := by
  have hpending : checkDraftPrecondition request (pending vm).state.draft = some refused := h
  rw [view_execute, executeCommand, hpending]
  rfl

/-- What a text leaves that is refused. -/
lemma execute_refused (env : Environment W) {key : ℤ} (h : TextRefused request vm key) :
    ∃ r, r.profileKey = key ∧ view (execute env request vm) = { view vm with
      revision := vm.state.draft.revision + 1
      panels := { (view vm).panels with rulesEditor := some r } } := by
  obtain ⟨hgives, hreads⟩ := h
  have hcommand : ∃ format, executeCommand env request (pending vm) =
      updateRules request (pending vm) format := by
    have hexpected : checkDraftPrecondition request (pending vm).state.draft = none :=
      hgives.expected
    rw [executeCommand, hexpected]
    rcases hgives.command with hcommand | hcommand
    · exact ⟨false, by simp only [executeExpected, hcommand]⟩
    · exact ⟨true, by simp only [executeExpected, hcommand]⟩
  obtain ⟨format, hcommand⟩ := hcommand
  have hactive : (pending vm).editor.active = true := hgives.active
  rw [view_execute, hcommand]
  unfold updateRules
  simp only [hgives.key, hactive, Bool.not_true, Bool.false_eq_true, if_false]
  cases htext : Editor.replaceRulesText key (normalizeRulesTextNewlines request.text)
      (pending vm).editor with
  | ok u editor =>
    obtain ⟨p, parsed, hfind, hparsed, -⟩ := replaceRulesText_ok htext
    exact absurd ⟨p, parsed, hfind, hparsed⟩ hreads
  | error e editor =>
    have hdraft : theDraft editor = theDraft vm.editor :=
      theDraft_of_kept (atomic_replaceRulesText _ _ _ _ _ htext)
    refine ⟨⟨key, request.profileId, normalizeRulesTextNewlines request.text,
      some e.diagnostic⟩, rfl, ?_⟩
    show View.mk (theDraft editor) _ _ _ _ = View.mk (theDraft vm.editor) _ _ _ _
    rw [hdraft]
    rfl

/-- What a text leaves that is read as rules that cannot be formatted. -/
lemma execute_unformatted (env : Environment W) {key : ℤ} {p : StoredProfile} {rules : List StoredRule}
    (h : Unformatted request vm key p rules) :
    lastOutcome (execute env request vm) = some .rejected ∧
      view (execute env request vm) = { view vm with draft := some { vm.editor.draft with
        profiles := profilesWithText vm.editor key p rules } } := by
  have hpending : Unformatted request (pending vm) key p rules :=
    ⟨⟨h.gives.expected, h.gives.command, h.gives.active, h.gives.key⟩, h.command,
      ⟨h.reads.found, h.reads.parsed⟩, h.fails⟩
  have hcommand : executeCommand env request (pending vm) =
      updateRules request (pending vm) true := by
    rw [executeCommand, hpending.gives.expected]
    simp only [executeExpected, h.command]
  obtain ⟨houtcome, hview⟩ := updateRules_unformatted hpending
  rw [lastOutcome_execute, view_execute, hcommand, houtcome, hview]
  exact ⟨rfl, rfl⟩

end Commands

end CcsTrans.Presentation
