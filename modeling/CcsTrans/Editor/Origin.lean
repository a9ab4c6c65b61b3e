import CcsTrans.Editor.Drafts

/-!
What no operation on a draft changes: the revision it was begun from.
-/

namespace CcsTrans.Editor

open CcsTrans.Text CcsTrans.Json CcsTrans.Config CcsTrans.Storage CcsTrans.InPlace

/-- Whether there is a draft, and of what it is one. -/
def origin (e : ConfigurationEditor) : Bool × RepositoryRevision × Option Bytes :=
  (e.active, e.draft.revision, e.draft.migratedFromSha256)

lemma blind_origin : Blind origin := fun _ _ => rfl

lemma origin_of_kept (e e' : ConfigurationEditor) (h : kept e' = kept e) : origin e' = origin e := by
  obtain ⟨hdraft, hapart⟩ := kept_eq_iff.mp h
  have hactive : e'.active = e.active := by
    simp only [apart, ConfigurationEditor.mk.injEq] at hapart
    exact hapart.2.2.2.1
  rw [origin, hdraft, hactive, origin]

section Origin

variable {α : Type} {w : Bool × RepositoryRevision × Option Bytes}

lemma keeps_of_quiet {m : Edit α} (h : Quiet origin m) : Keeps (origin · = w) m :=
  h.keeps fun _ _ hsame hs => hsame.trans hs

/-! ### What is written -/

lemma quiet_origin_writeApplication (field : Bytes) (m : EStateM Bytes ApplicationSettings Unit) :
    Quiet origin (writeApplication field m) := by
  refine quiet_get.bind fun e => ?_
  cases m e.draft.application with
  | ok _ a => exact quiet_modify fun _ => rfl
  | error text a => exact Quiet.bind (quiet_modify fun _ => rfl) fun _ => quiet_failWith blind_origin _ _ _

lemma quiet_origin_putProfile (key : ℤ) (p : StoredProfile) : Quiet origin (putProfile key p) :=
  quiet_modify fun _ => rfl

lemma quiet_origin_putRules (p : StoredProfile) (rules : List StoredRule) : Quiet origin (putRules p rules) :=
  quiet_origin_putProfile _ _

lemma quiet_origin_writeProfile (p : StoredProfile) (field : Bytes) (m : EStateM Bytes StoredProfile Unit) :
    Quiet origin (writeProfile p field m) := by
  unfold writeProfile
  cases m p with
  | ok _ q => exact quiet_origin_putProfile _ _
  | error text q => exact (quiet_origin_putProfile _ _).bind fun _ => quiet_failWith blind_origin _ _ _

/-- The beginning of an operation on a profile. -/
lemma quiet_origin_onProfile {key : ℤ} {f : StoredProfile → Edit α} (h : ∀ p, Quiet origin (f p)) :
    Quiet origin (do
      requireActive
      let p ← theProfile key (refuse profileGone)
      f p) :=
  (quiet_requireActive blind_origin).bind fun _ => (quiet_theProfile key (quiet_refuse _)).bind h

/-- The beginning of an operation on a rule. -/
lemma quiet_origin_onRule {key : ℤ} {ruleId : Bytes} {f : StoredProfile → StoredRule → Edit α}
    (h : ∀ p r, Quiet origin (f p r)) :
    Quiet origin (do
      requireActive
      let p ← theProfile key (refuse profileGone)
      let r ← theRule p ruleId
      f p r) :=
  quiet_origin_onProfile fun p => (quiet_theRule p ruleId).bind (h p)

/-! ### Operations -/

lemma quiet_origin_applySet (command : SetConfigurationFieldCommand) : Quiet origin (applySet command) := by
  refine (quiet_clearFailure blind_origin).bind fun _ =>
    (quiet_requireActive blind_origin).bind fun _ =>
    (quiet_theDescriptor blind_origin _ _).bind fun d => ?_
  split
  · exact quiet_origin_writeApplication _ _
  · exact (quiet_theProfile _ (quiet_failWith blind_origin _ _ _)).bind fun p =>
      (quiet_checkCollision blind_origin _ _ _).bind fun _ => quiet_origin_writeProfile _ _ _

lemma quiet_origin_applyReset (command : ResetConfigurationFieldCommand) :
    Quiet origin (applyReset command) := by
  refine (quiet_clearFailure blind_origin).bind fun _ =>
    (quiet_requireActive blind_origin).bind fun _ =>
    (quiet_theDescriptor blind_origin _ _).bind fun d => ?_
  split
  · exact quiet_origin_writeApplication _ _
  · exact (quiet_theProfile _ (quiet_failWith blind_origin _ _ _)).bind fun p =>
      quiet_origin_writeProfile _ _ _

lemma quiet_origin_createProfile (id : Bytes) : Quiet origin (createProfile id) := by
  refine (quiet_requireActive blind_origin).bind fun _ => (quiet_rejectIf _ _).bind fun _ =>
    quiet_get.bind fun _ => (quiet_rejectIf _ _).bind fun _ => quiet_get.bind fun _ => ?_
  exact Quiet.bind (quiet_modify fun _ => rfl) fun _ => quiet_pure _

lemma quiet_origin_removeProfile (key : ℤ) : Quiet origin (removeProfile key) :=
  quiet_origin_onProfile fun _ => quiet_modify fun _ => rfl

lemma quiet_origin_moveProfile (key : ℤ) (position : ℕ) : Quiet origin (moveProfile key position) :=
  (quiet_requireActive blind_origin).bind fun _ => quiet_get.bind fun _ => (quiet_rejectIf _ _).bind fun _ =>
    (quiet_theProfile _ (quiet_refuse _)).bind fun _ => quiet_modify fun _ => rfl

lemma quiet_origin_addRule (key : ℤ) (id type : Bytes) : Quiet origin (addRule key id type) := by
  refine quiet_origin_onProfile fun p => (quiet_rejectIf _ _).bind fun _ => (quiet_rejectIf _ _).bind fun _ =>
    (quiet_rejectIf _ _).bind fun _ => quiet_get.bind fun _ => ?_
  exact Quiet.bind (quiet_modify fun _ => rfl) fun _ => quiet_origin_putRules _ _

lemma quiet_origin_moveRule (key : ℤ) (id : Bytes) (position : ℕ) :
    Quiet origin (moveRule key id position) :=
  quiet_origin_onProfile fun _ => (quiet_rejectIf _ _).bind fun _ =>
    (quiet_theRule _ _).bind fun _ => quiet_origin_putRules _ _

section Options

variable [Library]

/-- A batch that succeeds has put nothing back. -/
lemma keeps_origin_applyBatch (root : Bytes) (sets : List SetConfigurationFieldCommand)
    (resets : List ResetConfigurationFieldCommand) (validateCandidate : Bool) :
    Keeps (origin · = w) (applyBatch root sets resets validateCandidate) := by
  refine (keeps_of_quiet (quiet_requireActive blind_origin)).bind fun _ =>
    (keeps_of_quiet quiet_get).bind fun e =>
    (keeps_forM (fun c => keeps_restoring (keeps_of_quiet (quiet_origin_applySet c))) sets).bind fun _ =>
    (keeps_forM (fun c => keeps_restoring (keeps_of_quiet (quiet_origin_applyReset c))) resets).bind fun _ => ?_
  split_ifs
  · exact keeps_restoring (keeps_of_quiet (quiet_validate blind_origin root))
  · exact keeps_pure _

lemma quiet_origin_setRuleOption (key : ℤ) (id option value : Bytes) :
    Quiet origin (setRuleOption key id option value) := by
  refine (quiet_requireActive blind_origin).bind fun _ => (quiet_rejectIf _ _).bind fun _ =>
    (quiet_theProfile _ (quiet_refuse _)).bind fun p => (quiet_theRule _ _).bind fun r => ?_
  cases withOption r.optionsJson option value with
  | error error => exact quiet_refuse _
  | ok serialized => exact quiet_origin_putRules _ _

lemma quiet_origin_unsetRuleOption (key : ℤ) (id option : Bytes) :
    Quiet origin (unsetRuleOption key id option) := by
  refine quiet_origin_onRule fun p r => ?_
  cases withoutOption r.optionsJson option with
  | error error => exact quiet_refuse _
  | ok serialized => exact quiet_origin_putRules _ _

end Options

variable [TextLibrary]

lemma quiet_origin_replaceRulesText (key : ℤ) (content : Bytes) :
    Quiet origin (replaceRulesText key content) := by
  refine (quiet_clearFailure blind_origin).bind fun _ => (quiet_requireActive blind_origin).bind fun _ =>
    (quiet_theProfile _ (quiet_failWith blind_origin _ _ _)).bind fun p => ?_
  cases parseRulesText content p.rules with
  | error diagnostic => exact (quiet_setFailure blind_origin _).bind fun _ => quiet_throw _
  | ok parsed =>
    refine quiet_get.bind fun e => ?_
    exact Quiet.bind (quiet_modify fun _ => rfl) fun _ => quiet_origin_putRules _ _

lemma keeps_origin (root : Bytes) (o : Operation) : Keeps (origin · = w) (o.run root) := by
  cases o with
  | setField command => exact keeps_of_quiet (quiet_origin_applySet command)
  | resetField command => exact keeps_of_quiet (quiet_origin_applyReset command)
  | applyBatch sets resets validate => exact keeps_origin_applyBatch root sets resets validate
  | createProfile id => exact (keeps_of_quiet (quiet_origin_createProfile id)).bind fun _ => keeps_pure _
  | removeProfile key => exact keeps_of_quiet (quiet_origin_removeProfile key)
  | moveProfile key position => exact keeps_of_quiet (quiet_origin_moveProfile key position)
  | addRule key id type => exact keeps_of_quiet (quiet_origin_addRule key id type)
  | removeRule key id => exact keeps_of_quiet (quiet_origin_onRule fun _ _ => quiet_origin_putRules _ _)
  | setRuleEnabled key id enabled =>
    exact keeps_of_quiet (quiet_origin_onRule fun _ _ => quiet_origin_putRules _ _)
  | setRuleOption key id option value => exact keeps_of_quiet (quiet_origin_setRuleOption key id option value)
  | unsetRuleOption key id option => exact keeps_of_quiet (quiet_origin_unsetRuleOption key id option)
  | moveRule key id position => exact keeps_of_quiet (quiet_origin_moveRule key id position)
  | replaceRulesText key content => exact keeps_of_quiet (quiet_origin_replaceRulesText key content)
  | formatRulesText key =>
    exact (keeps_of_quiet (quiet_formatRulesText blind_origin key)).bind fun _ => keeps_pure _
  | validate => exact keeps_of_quiet (quiet_validate blind_origin root)

/-- An operation leaves a draft that of the snapshot from which it was begun, whether or not it fails. -/
lemma origin_step (root : Bytes) (o : Operation) (e : ConfigurationEditor) :
    origin (left (o.run root e)) = origin e :=
  (keeps_origin root o).left (atomic_run root o)
    (fun s s' hsame hs => (origin_of_kept s s' hsame).trans hs) rfl

end Origin

end CcsTrans.Editor
