import CcsTrans.Editor.Editor

/-!
Operations that fail change nothing.

The writers of fields check before they write, and the operations look for everything they
need before they change the draft. A batch changes the draft command by command and puts
the old one back. What a failed operation leaves behind is only the record of its failure.
-/

namespace CcsTrans.Editor

open CcsTrans.Text CcsTrans.Json CcsTrans.Config CcsTrans.Storage CcsTrans.InPlace

/-- The editor but for the record of its last failure. -/
def kept (e : ConfigurationEditor) : ConfigurationEditor := { e with lastFailure := {} }

/-- The editor but for its draft, too. -/
def apart (e : ConfigurationEditor) : ConfigurationEditor :=
  { e with lastFailure := {}, draft := {} }

lemma kept_eq_iff {e e' : ConfigurationEditor} :
    kept e = kept e' ↔ e.draft = e'.draft ∧ apart e = apart e' := by
  simp only [kept, apart, ConfigurationEditor.mk.injEq]
  tauto

/-! ### Writers -/

section Writers

variable {d : ConfigurationFieldDescriptor} {value : ConfigurationFieldValue}

lemma atomic_write {σ : Type} (accessor : Accessor σ) (value : ConfigurationFieldValue) :
    Atomic id (accessor.write value) := by
  cases accessor <;> cases value <;>
    first | exact atomic_modify _ | exact atomic_throw _

lemma atomic_applyApplicationField : Atomic id (applyApplicationField d value) := by
  refine (quiet_demand _).bind_atomic fun _ => (quiet_demand _).bind_atomic fun _ => ?_
  split
  · exact atomic_write _ _
  · exact atomic_throw _

lemma atomic_resetApplicationField : Atomic id (resetApplicationField d) := by
  unfold resetApplicationField
  split
  · exact atomic_applyApplicationField
  · exact atomic_throw _

lemma atomic_applyProfileField : Atomic id (applyProfileField d value) := by
  refine (quiet_demand _).bind_atomic fun _ => (quiet_demand _).bind_atomic fun _ => ?_
  split_ifs
  · split
    · exact (quiet_rejectIf _ _).bind_atomic fun _ => atomic_modify _
    · exact atomic_throw _
  · split
    · exact atomic_modify _
    · exact atomic_throw _
  · split
    · exact atomic_modify _
    · exact atomic_throw _
    · exact atomic_throw _

lemma atomic_resetProfileField : Atomic id (resetProfileField d) := by
  refine (quiet_demand _).bind_atomic fun _ => ?_
  split_ifs
  · exact atomic_modify _
  · exact atomic_throw _
  · split
    · refine quiet_get.bind_atomic fun _ => ?_
      split_ifs
      · exact atomic_modify _
      · exact atomic_throw _
    · exact atomic_throw _

end Writers

/-! ### What only looks -/

section Quiet

variable {τ : Type} {π : ConfigurationEditor → τ} {α : Type}

/-- A part of the editor that does not look at the last failure. -/
def Blind (π : ConfigurationEditor → τ) : Prop :=
  ∀ e failure, π { e with lastFailure := failure } = π e

lemma blind_kept : Blind kept := fun _ _ => rfl
lemma blind_apart : Blind apart := fun _ _ => rfl

lemma quiet_refuse (error : Bytes) : Quiet π (refuse error : Edit α) := quiet_throw _

lemma quiet_clearFailure (hπ : Blind π) : Quiet π clearFailure := quiet_modify fun e => hπ e _

lemma quiet_setFailure (hπ : Blind π) (failure : ConfigurationEditFailure) :
    Quiet π (setFailure failure) := quiet_modify fun e => hπ e _

lemma quiet_failWith (hπ : Blind π) (code : ConfigurationEditError) (field error : Bytes) :
    Quiet π (failWith code field error : Edit α) :=
  (quiet_setFailure hπ _).bind fun _ => quiet_refuse _

lemma quiet_requireActive (hπ : Blind π) : Quiet π requireActive := by
  refine quiet_get.bind fun e => ?_
  split_ifs
  · exact quiet_pure _
  · exact quiet_failWith hπ _ _ _

lemma quiet_theProfile (key : ℤ) {otherwise : Edit StoredProfile} (h : Quiet π otherwise) :
    Quiet π (theProfile key otherwise) := by
  refine quiet_get.bind fun e => ?_
  split
  · exact quiet_pure _
  · exact h

lemma quiet_theRule (p : StoredProfile) (ruleId : Bytes) : Quiet π (theRule p ruleId) := by
  unfold theRule
  split
  · exact quiet_pure _
  · exact quiet_refuse _

lemma quiet_theDescriptor (hπ : Blind π) (profileKey : Option ℤ) (key : Bytes) :
    Quiet π (theDescriptor profileKey key) := by
  unfold theDescriptor
  split
  · exact quiet_pure _
  · exact quiet_failWith hπ _ _ _

lemma quiet_checkCollision (hπ : Blind π) (p : StoredProfile) (d : ConfigurationFieldDescriptor)
    (value : ConfigurationFieldValue) : Quiet π (checkCollision p d value) := by
  unfold checkCollision
  split_ifs
  · split
    · refine quiet_get.bind fun e => ?_
      split
      · split_ifs
        · exact quiet_failWith hπ _ _ _
        · exact quiet_pure _
      · exact quiet_pure _
    · exact quiet_pure _
  · exact quiet_pure _

/-- The beginning of an operation on a profile. -/
lemma atomic_onProfile (hπ : Blind π) {key : ℤ} {f : StoredProfile → Edit α}
    (h : ∀ p, Atomic π (f p)) :
    Atomic π (do
      requireActive
      let p ← theProfile key (refuse profileGone)
      f p) :=
  (quiet_requireActive hπ).bind_atomic fun _ =>
    (quiet_theProfile key (quiet_refuse _)).bind_atomic h

/-- The beginning of an operation on a rule. -/
lemma atomic_onRule (hπ : Blind π) {key : ℤ} {ruleId : Bytes}
    {f : StoredProfile → StoredRule → Edit α} (h : ∀ p r, Atomic π (f p r)) :
    Atomic π (do
      requireActive
      let p ← theProfile key (refuse profileGone)
      let r ← theRule p ruleId
      f p r) :=
  atomic_onProfile hπ fun p => (quiet_theRule p ruleId).bind_atomic (h p)

end Quiet

/-! ### Operations -/

lemma putFirst_find {α : Type} {p : α → Bool} {x : α} {xs : List α} (h : xs.find? p = some x) :
    putFirst p x xs = xs := by
  induction xs with
  | nil => rfl
  | cons y ys ih =>
    rw [List.find?_cons] at h
    rw [putFirst]
    split at h
    · next hy =>
      cases h
      rw [if_pos hy]
    · next hy =>
      rw [if_neg (by simp [hy]), ih h]

lemma key_of_findProfile {ps : List StoredProfile} {key : ℤ} {p : StoredProfile}
    (h : findProfile ps key = some p) : p.key = key := by
  simpa using List.find?_some h

section Fields

variable {e : ConfigurationEditor}

lemma atomic_writeApplication {field : Bytes} {m : EStateM Bytes ApplicationSettings Unit}
    (hm : Atomic id m) : Atomic kept (writeApplication field m) := by
  intro e error e' h
  unfold writeApplication at h
  rcases bind_eq_error.mp h with h | ⟨_, _, hget, h⟩
  · cases h
  cases hget
  cases ha : m e.draft.application with
  | ok _ a =>
    simp only [ha] at h
    cases h
  | error text a =>
    have hsame : a = e.draft.application := hm _ _ _ ha
    subst hsame
    simp only [ha] at h
    cases h
    rfl

/-- A writer that fails leaves the profile it was given, which is the one in the draft. -/
lemma atomic_writeProfile {p : StoredProfile} {field : Bytes}
    {m : EStateM Bytes StoredProfile Unit} (hm : Atomic id m) {error : EditError}
    {e' : ConfigurationEditor} (hp : findProfile e.draft.profiles p.key = some p)
    (h : writeProfile p field m e = .error error e') : kept e' = kept e := by
  unfold writeProfile at h
  cases hq : m p with
  | ok _ q =>
    simp only [hq] at h
    cases h
  | error text q =>
    have hsame : q = p := hm _ _ _ hq
    subst hsame
    have hput := putFirst_find hp
    simp only [hq] at h
    cases h
    simp only [kept]
    rw [hput]

/-- Behind a pointer that is not null. -/
lemma theProfile_bind_found {α : Type} {key : ℤ} {otherwise : Edit StoredProfile}
    {f : StoredProfile → Edit α} {a : α} {e' : ConfigurationEditor}
    (hother : ∀ q t, otherwise e ≠ .ok q t) (h : (theProfile key otherwise >>= f) e = .ok a e') :
    ∃ p, findProfile e.draft.profiles key = some p ∧ f p e = .ok a e' := by
  obtain ⟨p, t, hp, h⟩ := bind_eq_ok.mp h
  unfold theProfile at hp
  rw [get_bind] at hp
  cases hfind : findProfile e.draft.profiles key with
  | some q =>
    simp only [hfind] at hp
    cases hp
    exact ⟨p, rfl, h⟩
  | none =>
    simp only [hfind] at hp
    exact absurd hp (hother p t)

lemma theProfile_bind_ok {α : Type} {key : ℤ} {otherwise : Edit StoredProfile}
    {f : StoredProfile → Edit α} {a : α} {e' : ConfigurationEditor}
    (hother : ∀ q t, otherwise e ≠ .ok q t) (h : (theProfile key otherwise >>= f) e = .ok a e') :
    ∃ p, findProfile e.draft.profiles p.key = some p ∧ f p e = .ok a e' := by
  obtain ⟨p, hfind, h⟩ := theProfile_bind_found hother h
  refine ⟨p, ?_, h⟩
  rwa [key_of_findProfile hfind]

lemma failWith_ne_ok {α : Type} (code : ConfigurationEditError) (field error : Bytes) (a : α)
    (t : ConfigurationEditor) : (failWith code field error : Edit α) e ≠ .ok a t := nofun

end Fields

/-- A command on a field starts by looking for the profile, and fails with what it found. -/
lemma atomic_onField {key : ℤ} {field : Bytes} {f : StoredProfile → Edit Unit}
    (hf : ∀ p e error e', findProfile e.draft.profiles p.key = some p →
      f p e = .error error e' → kept e' = kept e) :
    Atomic kept (do
      let p ← theProfile key (failWith .profileNotFound field profileGone)
      f p) := by
  intro e error e' h
  unfold theProfile at h
  rw [bind_assoc, get_bind] at h
  cases hfind : findProfile e.draft.profiles key with
  | some p =>
    simp only [hfind, pure_bind] at h
    refine hf p e error e' ?_ h
    rwa [key_of_findProfile hfind]
  | none =>
    simp only [hfind] at h
    cases h
    rfl

lemma atomic_applySet (command : SetConfigurationFieldCommand) :
    Atomic kept (applySet command) := by
  refine (quiet_clearFailure blind_kept).bind_atomic fun _ =>
    (quiet_requireActive blind_kept).bind_atomic fun _ =>
    (quiet_theDescriptor blind_kept _ _).bind_atomic fun d => ?_
  split
  · exact atomic_writeApplication atomic_applyApplicationField
  · refine atomic_onField fun p e error e' hp h => ?_
    rcases bind_eq_error.mp h with h | ⟨_, t, hcheck, h⟩
    · exact (quiet_checkCollision blind_kept _ _ _).atomic e error e' h
    · have hsame := quiet_checkCollision blind_kept p d command.value e
      rw [hcheck] at hsame
      have hdraft : t.draft = e.draft := (kept_eq_iff.mp hsame).1
      refine (atomic_writeProfile atomic_applyProfileField ?_ h).trans hsame
      rwa [hdraft]

lemma atomic_applyReset (command : ResetConfigurationFieldCommand) :
    Atomic kept (applyReset command) := by
  refine (quiet_clearFailure blind_kept).bind_atomic fun _ =>
    (quiet_requireActive blind_kept).bind_atomic fun _ =>
    (quiet_theDescriptor blind_kept _ _).bind_atomic fun d => ?_
  split
  · exact atomic_writeApplication atomic_resetApplicationField
  · refine atomic_onField fun p e error e' hp h => ?_
    exact atomic_writeProfile atomic_resetProfileField hp h

/-! ### Batches -/

section Batches

variable {m : EStateM Bytes ApplicationSettings Unit} {n : EStateM Bytes StoredProfile Unit}

lemma quiet_writeApplication (field : Bytes) : Quiet apart (writeApplication field m) := by
  refine quiet_get.bind fun e => ?_
  cases m e.draft.application with
  | ok _ a => exact quiet_modify fun _ => rfl
  | error text a =>
    exact Quiet.bind (quiet_modify fun _ => rfl) fun _ => quiet_failWith blind_apart _ _ _

lemma quiet_putProfile (key : ℤ) (p : StoredProfile) : Quiet apart (putProfile key p) :=
  quiet_modify fun _ => rfl

lemma quiet_writeProfile (p : StoredProfile) (field : Bytes) :
    Quiet apart (writeProfile p field n) := by
  unfold writeProfile
  cases n p with
  | ok _ q => exact quiet_putProfile _ _
  | error text q => exact (quiet_putProfile _ _).bind fun _ => quiet_failWith blind_apart _ _ _

/-- Commands on fields change nothing but the draft. -/
lemma quiet_applySet (command : SetConfigurationFieldCommand) : Quiet apart (applySet command) := by
  refine (quiet_clearFailure blind_apart).bind fun _ =>
    (quiet_requireActive blind_apart).bind fun _ =>
    (quiet_theDescriptor blind_apart _ _).bind fun d => ?_
  split
  · exact quiet_writeApplication _
  · exact (quiet_theProfile _ (quiet_failWith blind_apart _ _ _)).bind fun p =>
      (quiet_checkCollision blind_apart _ _ _).bind fun _ => quiet_writeProfile _ _

lemma quiet_applyReset (command : ResetConfigurationFieldCommand) :
    Quiet apart (applyReset command) := by
  refine (quiet_clearFailure blind_apart).bind fun _ =>
    (quiet_requireActive blind_apart).bind fun _ =>
    (quiet_theDescriptor blind_apart _ _).bind fun d => ?_
  split
  · exact quiet_writeApplication _
  · exact (quiet_theProfile _ (quiet_failWith blind_apart _ _ _)).bind fun p =>
      quiet_writeProfile _ _

/-- A part of a batch: it changes only the draft, and puts the old one back when it fails. -/
structure Restores (previous : ConfigurationSnapshot) (m : Edit Unit) : Prop where
  quiet : Quiet apart m
  restores : ∀ e error e', m e = .error error e' → e'.draft = previous

lemma restores_restoring {previous : ConfigurationSnapshot} {m : Edit Unit}
    (hm : Quiet apart m) : Restores previous (restoring previous m) := by
  constructor
  · intro e
    have := hm e
    unfold restoring
    cases h : m e with
    | ok a t => rwa [h] at this
    | error error t => rwa [h] at this
  · intro e error e' h
    unfold restoring at h
    cases hm : m e with
    | ok a t =>
      rw [hm] at h
      cases h
    | error error t =>
      rw [hm] at h
      cases h
      rfl

lemma restores_pure (previous : ConfigurationSnapshot) : Restores previous (pure ()) :=
  ⟨quiet_pure _, fun e error e' h => by simp at h⟩

lemma Restores.bind {previous : ConfigurationSnapshot} {m : Edit Unit} {f : Unit → Edit Unit}
    (hm : Restores previous m) (hf : ∀ a, Restores previous (f a)) :
    Restores previous (m >>= f) := by
  refine ⟨hm.quiet.bind fun a => (hf a).quiet, fun e error e' h => ?_⟩
  rcases bind_eq_error.mp h with h | ⟨a, t, -, h⟩
  · exact hm.restores e error e' h
  · exact (hf a).restores t error e' h

lemma restores_forM {α : Type} {previous : ConfigurationSnapshot} {f : α → Edit Unit}
    (hf : ∀ x, Restores previous (f x)) (xs : List α) : Restores previous (xs.forM f) := by
  induction xs with
  | nil => exact restores_pure previous
  | cons x xs ih => exact (hf x).bind fun _ => ih

end Batches

section Validate

variable [Library] {τ : Type} {π : ConfigurationEditor → τ}

lemma quiet_validate (hπ : Blind π) (root : Bytes) : Quiet π (validate root) := by
  refine (quiet_clearFailure hπ).bind fun _ => (quiet_requireActive hπ).bind fun _ =>
    quiet_get.bind fun e => ?_
  cases checkDraft root e.draft with
  | ok _ => exact quiet_pure _
  | error f => exact quiet_failWith hπ _ _ _

lemma atomic_applyBatch (root : Bytes) (sets : List SetConfigurationFieldCommand)
    (resets : List ResetConfigurationFieldCommand) (validateCandidate : Bool) :
    Atomic kept (applyBatch root sets resets validateCandidate) := by
  refine (quiet_requireActive blind_kept).bind_atomic fun _ => ?_
  intro e error e' h
  rcases bind_eq_error.mp h with h | ⟨_, _, hget, h⟩
  · cases h
  cases hget
  have hbatch : Restores e.draft (do
      sets.forM fun command => restoring e.draft (applySet command)
      resets.forM fun command => restoring e.draft (applyReset command)
      if validateCandidate then restoring e.draft (validate root)) := by
    refine (restores_forM (fun c => restores_restoring (quiet_applySet c)) sets).bind fun _ =>
      (restores_forM (fun c => restores_restoring (quiet_applyReset c)) resets).bind fun _ => ?_
    split_ifs
    · exact restores_restoring (quiet_validate blind_apart root)
    · exact restores_pure _
  have hapart := hbatch.quiet e
  rw [h] at hapart
  exact kept_eq_iff.mpr ⟨hbatch.restores e error e' h, hapart⟩

end Validate

/-! ### Profiles and rules -/

lemma atomic_createProfile (profileId : Bytes) : Atomic kept (createProfile profileId) := by
  refine (quiet_requireActive blind_kept).bind_atomic fun _ =>
    (quiet_rejectIf _ _).bind_atomic fun _ => quiet_get.bind_atomic fun e =>
    (quiet_rejectIf _ _).bind_atomic fun _ => quiet_get.bind_atomic fun _ => ?_
  intro s error s' h
  cases h

lemma atomic_removeProfile (key : ℤ) : Atomic kept (removeProfile key) :=
  atomic_onProfile blind_kept fun _ => atomic_modify _

lemma atomic_moveProfile (key : ℤ) (position : ℕ) : Atomic kept (moveProfile key position) :=
  (quiet_requireActive blind_kept).bind_atomic fun _ => quiet_get.bind_atomic fun _ =>
    (quiet_rejectIf _ _).bind_atomic fun _ =>
    (quiet_theProfile _ (quiet_refuse _)).bind_atomic fun _ => atomic_modify _

lemma atomic_addRule (key : ℤ) (ruleId ruleType : Bytes) :
    Atomic kept (addRule key ruleId ruleType) := by
  refine atomic_onProfile blind_kept fun p => (quiet_rejectIf _ _).bind_atomic fun _ =>
    (quiet_rejectIf _ _).bind_atomic fun _ => (quiet_rejectIf _ _).bind_atomic fun _ =>
    quiet_get.bind_atomic fun e => ?_
  intro s error s' h
  cases h

lemma atomic_removeRule (key : ℤ) (ruleId : Bytes) : Atomic kept (removeRule key ruleId) :=
  atomic_onRule blind_kept fun _ _ => atomic_modify _

lemma atomic_setRuleEnabled (key : ℤ) (ruleId : Bytes) (enabled : Bool) :
    Atomic kept (setRuleEnabled key ruleId enabled) :=
  atomic_onRule blind_kept fun _ _ => atomic_modify _

lemma atomic_moveRule (key : ℤ) (ruleId : Bytes) (position : ℕ) :
    Atomic kept (moveRule key ruleId position) :=
  atomic_onProfile blind_kept fun _ => (quiet_rejectIf _ _).bind_atomic fun _ =>
    (quiet_theRule _ _).bind_atomic fun _ => atomic_modify _

section Options

variable [Library]

lemma atomic_setRuleOption (key : ℤ) (ruleId option valueJson : Bytes) :
    Atomic kept (setRuleOption key ruleId option valueJson) := by
  refine (quiet_requireActive blind_kept).bind_atomic fun _ =>
    (quiet_rejectIf _ _).bind_atomic fun _ =>
    (quiet_theProfile _ (quiet_refuse _)).bind_atomic fun p =>
    (quiet_theRule _ _).bind_atomic fun r => ?_
  cases withOption r.optionsJson option valueJson with
  | error error => exact (quiet_refuse _).atomic
  | ok serialized => exact atomic_modify _

lemma atomic_unsetRuleOption (key : ℤ) (ruleId option : Bytes) :
    Atomic kept (unsetRuleOption key ruleId option) := by
  refine atomic_onRule blind_kept fun p r => ?_
  cases withoutOption r.optionsJson option with
  | error error => exact (quiet_refuse _).atomic
  | ok serialized => exact atomic_modify _

end Options

section Text

variable [TextLibrary]

lemma atomic_replaceRulesText (key : ℤ) (content : Bytes) :
    Atomic kept (replaceRulesText key content) := by
  refine (quiet_clearFailure blind_kept).bind_atomic fun _ =>
    (quiet_requireActive blind_kept).bind_atomic fun _ =>
    (quiet_theProfile _ (quiet_failWith blind_kept _ _ _)).bind_atomic fun p => ?_
  cases parseRulesText content p.rules with
  | error diagnostic =>
    exact (quiet_setFailure blind_kept _).bind_atomic fun _ => atomic_throw _
  | ok parsed =>
    refine quiet_get.bind_atomic fun e => ?_
    intro s error s' h
    cases h

lemma quiet_formatRulesText {τ : Type} {π : ConfigurationEditor → τ} (hπ : Blind π) (key : ℤ) :
    Quiet π (formatRulesText key) := by
  refine (quiet_requireActive hπ).bind fun _ =>
    (quiet_theProfile _ (quiet_refuse _)).bind fun p => ?_
  cases Config.formatRulesText p.rules with
  | error diagnostic => exact quiet_throw _
  | ok content => exact quiet_pure _

/-- Everything but the record of the failure is as it was before a failed operation. -/
lemma atomic_run (root : Bytes) (o : Operation) : Atomic kept (o.run root) := by
  cases o with
  | setField command => exact atomic_applySet command
  | resetField command => exact atomic_applyReset command
  | applyBatch sets resets validate => exact atomic_applyBatch root sets resets validate
  | createProfile id =>
    intro e error e' h
    rcases bind_eq_error.mp h with h | ⟨_, _, -, h⟩
    · exact atomic_createProfile id e error e' h
    · cases h
  | removeProfile key => exact atomic_removeProfile key
  | moveProfile key position => exact atomic_moveProfile key position
  | addRule key id type => exact atomic_addRule key id type
  | removeRule key id => exact atomic_removeRule key id
  | setRuleEnabled key id enabled => exact atomic_setRuleEnabled key id enabled
  | setRuleOption key id option value => exact atomic_setRuleOption key id option value
  | unsetRuleOption key id option => exact atomic_unsetRuleOption key id option
  | moveRule key id position => exact atomic_moveRule key id position
  | replaceRulesText key content => exact atomic_replaceRulesText key content
  | formatRulesText key =>
    exact (quiet_formatRulesText blind_kept key).bind_atomic fun _ => atomic_pure _
  | validate => exact (quiet_validate blind_kept root).atomic

end Text

/-! ### The repository -/

section Repository

variable {W : Type} {repository : ConfigurationRepository W}

/-- The part of an editor and its repository that failures do not touch. -/
def keptWith (s : ConfigurationEditor × W) : ConfigurationEditor := kept s.1

lemma atomic_onEditor {α : Type} {m : Edit α} (hm : Atomic kept m) :
    Atomic keptWith (onEditor m : EditWith W α) := by
  intro s error s' h
  unfold onEditor at h
  cases hs : m s.1 with
  | ok a e =>
    simp only [hs] at h
    cases h
  | error text e =>
    simp only [hs] at h
    cases h
    exact hm _ _ _ hs

lemma quiet_onEditor {α : Type} {m : Edit α} (hm : Quiet kept m) :
    Quiet keptWith (onEditor m : EditWith W α) := by
  intro s
  obtain ⟨e, w⟩ := s
  have := hm e
  simp only [onEditor]
  cases hs : m e with
  | ok a t => rwa [hs] at this
  | error text t => rwa [hs] at this

lemma quiet_onRepository {α : Type} (m : EStateM Bytes W α) :
    Quiet keptWith (onRepository m : EditWith W α) := by
  intro s
  obtain ⟨e, w⟩ := s
  simp only [onRepository]
  cases m w <;> rfl

lemma atomic_begin : Atomic keptWith (begin repository) := by
  refine (quiet_onEditor (quiet_clearFailure blind_kept)).bind_atomic fun _ =>
    quiet_get.bind_atomic fun _ => (quiet_rejectIf _ _).bind_atomic fun _ => ?_
  refine Quiet.bind_atomic (quiet_get.bind fun s => ?_) fun _ => atomic_modify _
  split_ifs
  · exact quiet_pure _
  · exact quiet_onRepository _

lemma atomic_commit [Library] : Atomic keptWith (commit repository) := by
  refine (quiet_onEditor (quiet_validate blind_kept _)).bind_atomic fun _ =>
    quiet_get.bind_atomic fun _ => (quiet_onRepository _).bind_atomic fun _ => ?_
  intro s error s' h
  cases h

/-- **A call that fails changes nothing.** The draft, with its keys and their counters, is
the draft before the call, and it is still active. -/
theorem failed_call_keeps_draft [TextLibrary] {call : Call} {e e' : ConfigurationEditor} {w w' : W}
    {error : EditError} (h : call.run repository (e, w) = .error error (e', w')) :
    e'.draft = e.draft ∧ e'.active = e.active ∧
      e'.nextDraftProfileKey = e.nextDraftProfileKey ∧ e'.nextDraftRuleKey = e.nextDraftRuleKey := by
  have hatomic : Atomic keptWith (call.run repository) := by
    cases call with
    | begin => exact atomic_begin
    | operation o => exact atomic_onEditor (atomic_run _ o)
    | commit =>
      intro s error s' h
      rcases bind_eq_error.mp h with h | ⟨_, _, -, h⟩
      · exact atomic_commit s error s' h
      · cases h
  have hkept : kept e' = kept e := hatomic _ _ _ h
  simp only [kept, ConfigurationEditor.mk.injEq] at hkept
  exact ⟨hkept.1, hkept.2.2.2.1, hkept.2.1, hkept.2.2.1⟩

end Repository

/-! ### A batch that fails half-way -/

/-- The library of bit patterns, which never says where a text is wrong. -/
@[reducible] def plainText : TextLibrary := { bitLibrary with errorByte := fun _ => 0 }

/-- An editor of one profile. -/
def plainEditor : ConfigurationEditor where
  draft := { profiles := [{ key := 1, profileId := str "a" }] }
  active := true

/-- Two commands on a profile, of which the second is refused. -/
def halfBatch : Call := .operation (.applyBatch
  [⟨some 1, str "enabled", .flag true⟩, ⟨some 1, str "id", .text (str "no blanks")⟩] [] false)

theorem failed_call_keeps_draft_batch :
    let _ : TextLibrary := plainText
    ∃ error e' w', halfBatch.run plainRepository (plainEditor, {}) = .error error (e', w') ∧
      e'.draft = plainEditor.draft ∧ e'.active = true := by
  intro _
  have hfails : failed (halfBatch.run plainRepository (plainEditor, {})) = true := by
    decide
  cases h : halfBatch.run plainRepository (plainEditor, {}) with
  | ok _ s =>
    rw [h] at hfails
    cases hfails
  | error error s =>
    obtain ⟨hdraft, hactive, -⟩ := failed_call_keeps_draft h
    exact ⟨error, s.1, s.2, rfl, hdraft, hactive⟩

end CcsTrans.Editor
