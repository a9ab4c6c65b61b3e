import CcsTrans.Config.FieldDescriptor
import CcsTrans.Config.RulesText

/-!
The editor of the configuration.

An editor holds a draft, which starts as the snapshot of the repository. Its operations
change the draft in place. Profiles and rules that are added to the draft get negative keys,
counted down by two counters; when the draft is committed they count as having none.
-/

namespace CcsTrans.Editor

open CcsTrans.Text CcsTrans.Json CcsTrans.Config CcsTrans.Storage CcsTrans.InPlace

structure SetConfigurationFieldCommand where
  profileKey : Option ℤ
  key : Bytes
  value : ConfigurationFieldValue
  deriving DecidableEq

structure ResetConfigurationFieldCommand where
  profileKey : Option ℤ
  key : Bytes
  deriving DecidableEq

inductive ConfigurationEditError where
  | none
  | inactive
  | invalidField
  | profileNotFound
  | profileAlreadyExists
  | validationFailed
  | routeCollision
  | rulesInvalid
  deriving DecidableEq

structure ConfigurationEditFailure where
  code : ConfigurationEditError := .none
  field : Bytes := []
  detail : Bytes := []

/-- `ConfigurationEditor`. -/
structure ConfigurationEditor where
  draft : ConfigurationSnapshot := {}
  nextDraftProfileKey : ℤ := -1
  nextDraftRuleKey : ℤ := -1
  active : Bool := false
  lastFailure : ConfigurationEditFailure := {}

/-- What an operation that returns false says: the text of the error and, for the text of
rules, where it is wrong. -/
structure EditError where
  error : Bytes
  diagnostic : RulesTextError := {}

abbrev Edit := EStateM EditError ConfigurationEditor

/-! ### Helpers -/

def refuse {α : Type} (error : Bytes) : Edit α := throw { error }

def clearFailure : Edit Unit := modify fun e => { e with lastFailure := {} }

/-- `set_failure`. -/
def setFailure (failure : ConfigurationEditFailure) : Edit Unit :=
  modify fun e => { e with lastFailure := failure }

/-- `set_failure`, and return false. -/
def failWith {α : Type} (code : ConfigurationEditError) (field error : Bytes) : Edit α := do
  setFailure ⟨code, field, error⟩
  refuse error

/-- `require_active`. -/
def requireActive : Edit Unit := do
  unless (← get).active do
    failWith .inactive [] (str "configuration editor has no active draft")

/-- `find_profile`. -/
def findProfile (profiles : List StoredProfile) (key : ℤ) : Option StoredProfile :=
  profiles.find? fun p => p.key == key

/-- `find_profile_by_id`. -/
def findProfileById (profiles : List StoredProfile) (id : Bytes) : Option StoredProfile :=
  profiles.find? fun p => p.profileId == id

/-- `find_rule`. -/
def findRule (rules : List StoredRule) (id : Bytes) : Option StoredRule :=
  rules.find? fun r => r.ruleId == id

/-- Put something in the place of the first item that meets a condition. -/
def putFirst {α : Type} (p : α → Bool) (x : α) : List α → List α
  | [] => []
  | y :: ys => if p y then x :: ys else y :: putFirst p x ys

def profileGone : Bytes := str "profile key no longer exists"

/-- The profile of a key, by a pointer that may be null. -/
def theProfile (key : ℤ) (otherwise : Edit StoredProfile) : Edit StoredProfile := do
  match findProfile (← get).draft.profiles key with
  | some p => return p
  | none => otherwise

/-- Write through the pointer to the profile of a key. -/
def putProfile (key : ℤ) (p : StoredProfile) : Edit Unit :=
  modify fun e => { e with
    draft.profiles := putFirst (fun q => q.key == key) p e.draft.profiles }

def putRules (p : StoredProfile) (rules : List StoredRule) : Edit Unit :=
  putProfile p.key { p with rules := rules }

/-- Let a writer change the settings of the draft in place. -/
def writeApplication (field : Bytes) (m : EStateM Bytes ApplicationSettings Unit) :
    Edit Unit := do
  match m (← get).draft.application with
  | .ok _ a => modify fun e => { e with draft.application := a }
  | .error error a =>
    modify fun e => { e with draft.application := a }
    failWith .invalidField field error

/-- Let a writer change a profile of the draft in place. -/
def writeProfile (p : StoredProfile) (field : Bytes) (m : EStateM Bytes StoredProfile Unit) :
    Edit Unit :=
  match m p with
  | .ok _ q => putProfile p.key q
  | .error error q => do
    putProfile p.key q
    failWith .invalidField field error

/-! ### Fields -/

def scopeOf (profileKey : Option ℤ) : ConfigurationFieldScope :=
  if profileKey.isSome then .profile else .application

/-- The descriptor of the field of a command. -/
def theDescriptor (profileKey : Option ℤ) (key : Bytes) : Edit ConfigurationFieldDescriptor :=
  match findConfigurationFieldDescriptor (scopeOf profileKey) key with
  | some d => return d
  | none => failWith .invalidField key (str "unknown configuration field: " ++ key)

/-- A profile may not be given the id of another one. -/
def checkCollision (p : StoredProfile) (d : ConfigurationFieldDescriptor)
    (value : ConfigurationFieldValue) : Edit Unit := do
  if d.key = str "id" then
    match value with
    | .text id =>
      match findProfileById (← get).draft.profiles id with
      | some q =>
        if q.key ≠ p.key then
          failWith .profileAlreadyExists (str "id") (str "profile already exists: " ++ id)
      | none => pure ()
    | _ => pure ()

/-- `apply(const SetConfigurationFieldCommand&)`. -/
def applySet (command : SetConfigurationFieldCommand) : Edit Unit := do
  clearFailure
  requireActive
  let d ← theDescriptor command.profileKey command.key
  match command.profileKey with
  | none => writeApplication command.key (applyApplicationField d command.value)
  | some key =>
    let p ← theProfile key (failWith .profileNotFound command.key profileGone)
    checkCollision p d command.value
    writeProfile p command.key (applyProfileField d command.value)

/-- `apply(const ResetConfigurationFieldCommand&)`. -/
def applyReset (command : ResetConfigurationFieldCommand) : Edit Unit := do
  clearFailure
  requireActive
  let d ← theDescriptor command.profileKey command.key
  match command.profileKey with
  | none => writeApplication command.key (resetApplicationField d)
  | some key =>
    let p ← theProfile key (failWith .profileNotFound command.key profileGone)
    writeProfile p command.key (resetProfileField d)

/-! ### Profiles -/

/-- `create_profile`: the key of the new profile. -/
def createProfile (profileId : Bytes) : Edit ℤ := do
  requireActive
  rejectIf (isValidProfileId profileId = false) { error := invalidProfileId }
  rejectIf ((findProfileById (← get).draft.profiles profileId).isSome = true)
    { error := str "profile already exists: " ++ profileId }
  let key := (← get).nextDraftProfileKey
  modify fun e => { e with
    nextDraftProfileKey := e.nextDraftProfileKey - 1
    draft.profiles := e.draft.profiles ++ [{ key := key, profileId := profileId }] }
  return key

/-- `remove_profile`. -/
def removeProfile (key : ℤ) : Edit Unit := do
  requireActive
  let _ ← theProfile key (refuse profileGone)
  modify fun e => { e with draft.profiles := e.draft.profiles.eraseP fun p => p.key == key }

/-- `move_profile`, to a position counted from one. -/
def moveProfile (key : ℤ) (position : ℕ) : Edit Unit := do
  requireActive
  rejectIf (position = 0 ∨ position > (← get).draft.profiles.length)
    { error := str "profile position must be within the current 1-based profile list" }
  let moving ← theProfile key (refuse profileGone)
  modify fun e => { e with draft.profiles :=
    (e.draft.profiles.eraseP fun p => p.key == key).insertIdx (position - 1) moving }

/-! ### Rules -/

/-- `add_rule`. -/
def addRule (key : ℤ) (ruleId ruleType : Bytes) : Edit Unit := do
  requireActive
  let p ← theProfile key (refuse profileGone)
  rejectIf (isValidRuleId ruleId = false ∨ isValidRuleType ruleType = false)
    { error := str "rule id or type is invalid" }
  rejectIf (p.rules.length ≥ kMaxRulesPerProfile)
    { error := str "profile exceeds the maximum rule count" }
  rejectIf ((findRule p.rules ruleId).isSome = true)
    { error := str "rule already exists: " ++ ruleId }
  let ruleKey := (← get).nextDraftRuleKey
  modify fun e => { e with nextDraftRuleKey := e.nextDraftRuleKey - 1 }
  putRules p (p.rules ++ [{ key := ruleKey, ruleId := ruleId, type := ruleType }])

/-- The rule of an id in a profile. -/
def theRule (p : StoredProfile) (ruleId : Bytes) : Edit StoredRule :=
  match findRule p.rules ruleId with
  | some r => return r
  | none => refuse (str "rule does not exist: " ++ ruleId)

def putRule (p : StoredProfile) (ruleId : Bytes) (r : StoredRule) : Edit Unit :=
  putRules p (putFirst (fun q => q.ruleId == ruleId) r p.rules)

/-- `remove_rule`. -/
def removeRule (key : ℤ) (ruleId : Bytes) : Edit Unit := do
  requireActive
  let p ← theProfile key (refuse profileGone)
  let _ ← theRule p ruleId
  putRules p (p.rules.eraseP fun r => r.ruleId == ruleId)

/-- `set_rule_enabled`. -/
def setRuleEnabled (key : ℤ) (ruleId : Bytes) (enabled : Bool) : Edit Unit := do
  requireActive
  let p ← theProfile key (refuse profileGone)
  let r ← theRule p ruleId
  putRule p ruleId { r with enabled := enabled }

/-- `move_rule`, to a position counted from one. -/
def moveRule (key : ℤ) (ruleId : Bytes) (position : ℕ) : Edit Unit := do
  requireActive
  let p ← theProfile key (refuse profileGone)
  rejectIf (position = 0 ∨ position > p.rules.length)
    { error := str "rule position must be within the current 1-based rule list" }
  let moving ← theRule p ruleId
  putRules p ((p.rules.eraseP fun r => r.ruleId == ruleId).insertIdx (position - 1) moving)

section Options

variable [Library]

/-- The text of the options of a rule with one more. -/
def withOption (optionsJson option valueJson : Bytes) : Except Bytes Bytes := do
  let invalid (what : Bytes) := str "invalid rule option JSON: " ++ what
  let options ← (parse optionsJson).mapError fun e => invalid (Library.what e)
  let value ← (parse valueJson).mapError fun e => invalid (Library.what e)
  match options with
  | .obj ms =>
    let updated := Value.obj (insertMember option value ms)
    match dump updated with
    | none => throw (invalid (Library.whatDump updated))
    | some serialized =>
      if serialized.length > kMaxStoredRuleOptionsBytes then
        throw (str "rule options exceed the 1 MiB limit")
      return serialized
  | _ => throw (str "stored rule options are not a JSON object")

/-- The text of the options of a rule with one less. -/
def withoutOption (optionsJson option : Bytes) : Except Bytes Bytes := do
  let invalid (what : Bytes) := str "invalid stored rule options: " ++ what
  match ← (parse optionsJson).mapError fun e => invalid (Library.what e) with
  | .obj ms =>
    if !contains option ms then throw (str "rule option is not set: " ++ option)
    let updated := Value.obj (erase option ms)
    match dump updated with
    | none => throw (invalid (Library.whatDump updated))
    | some serialized => return serialized
  | _ => throw (str "rule option is not set: " ++ option)

/-- `set_rule_option`. -/
def setRuleOption (key : ℤ) (ruleId option valueJson : Bytes) : Edit Unit := do
  requireActive
  rejectIf (isValidRuleOptionName option = false)
    { error := str "rule option name is invalid: " ++ option }
  let p ← theProfile key (refuse profileGone)
  let r ← theRule p ruleId
  match withOption r.optionsJson option valueJson with
  | .error e => refuse e
  | .ok serialized => putRule p ruleId { r with optionsJson := serialized }

/-- `unset_rule_option`. -/
def unsetRuleOption (key : ℤ) (ruleId option : Bytes) : Edit Unit := do
  requireActive
  let p ← theProfile key (refuse profileGone)
  let r ← theRule p ruleId
  match withoutOption r.optionsJson option with
  | .error e => refuse e
  | .ok serialized => putRule p ruleId { r with optionsJson := serialized }

end Options

/-! ### The text of the rules -/

/-- The rules without a key get the next ones of the counter. -/
def assignKeys (next : ℤ) : List StoredRule → ℤ × List StoredRule
  | [] => (next, [])
  | r :: rs =>
    if r.key = 0 then
      let (next', rs') := assignKeys (next - 1) rs
      (next', { r with key := next } :: rs')
    else
      let (next', rs') := assignKeys next rs
      (next', r :: rs')

section Text

variable [TextLibrary]

/-- `replace_rules_text`. -/
def replaceRulesText (key : ℤ) (content : Bytes) : Edit Unit := do
  clearFailure
  requireActive
  let p ← theProfile key (failWith .profileNotFound (str "rules") profileGone)
  match parseRulesText content p.rules with
  | .error diagnostic =>
    setFailure ⟨.rulesInvalid, str "rules", diagnostic.message⟩
    throw ⟨diagnostic.message, diagnostic⟩
  | .ok parsed =>
    let (next, rules) := assignKeys (← get).nextDraftRuleKey parsed
    modify fun e => { e with nextDraftRuleKey := next }
    putRules p rules

/-- `format_rules_text`. -/
def formatRulesText (key : ℤ) : Edit Bytes := do
  requireActive
  let p ← theProfile key (refuse profileGone)
  match Config.formatRulesText p.rules with
  | .error diagnostic => throw ⟨diagnostic.message, diagnostic⟩
  | .ok content => return content

end Text

/-! ### Drafts as a whole -/

section Draft

variable [Library]

/-- `validate_config_candidate`, with the failure as a whole. -/
def validateBuiltinCandidate (d : ConfigDocument) (root : Bytes) :
    Except ConfigValidationFailure Unit :=
  match Protocols.builtinProtocolRegistry, Rules.builtinRuleRegistry with
  | .ok protocols, .ok rules => validateCandidate protocols rules d root
  | .error e, _ => .error ⟨.runtimeCompileFailed, [], [], e⟩
  | _, .error e => .error ⟨.runtimeCompileFailed, [], [], e⟩

/-- What is wrong with a draft, if anything. -/
def checkDraft (root : Bytes) (draft : ConfigurationSnapshot) :
    Except ConfigurationEditFailure Unit :=
  match configurationSnapshotToConfigDocument draft with
  | .error f => .error ⟨.validationFailed, f.field, f.detail⟩
  | .ok document =>
    match validateBuiltinCandidate document root with
    | .error f => .error ⟨if f.error = .routeCollision then .routeCollision else .validationFailed,
        f.field, f.detail⟩
    | .ok _ => .ok ()

/-- `validate`. -/
def validate (root : Bytes) : Edit Unit := do
  clearFailure
  requireActive
  match checkDraft root (← get).draft with
  | .error f => failWith f.code f.field f.detail
  | .ok _ => pure ()

/-- Put the draft back when an operation fails. -/
def restoring {α : Type} (previous : ConfigurationSnapshot) (m : Edit α) : Edit α := fun e =>
  match m e with
  | .ok a e' => .ok a e'
  | .error error e' => .error error { e' with draft := previous }

/-- `apply_batch`. -/
def applyBatch (root : Bytes) (sets : List SetConfigurationFieldCommand)
    (resets : List ResetConfigurationFieldCommand) (validateCandidate : Bool) : Edit Unit := do
  requireActive
  let previous := (← get).draft
  sets.forM fun command => restoring previous (applySet command)
  resets.forM fun command => restoring previous (applyReset command)
  if validateCandidate then restoring previous (validate root)

end Draft

/-! ### Drafts and the repository -/

/-- `ConfigurationRepository`: what a repository does, on a state of its own. -/
structure ConfigurationRepository (W : Type) where
  loaded : W → Bool
  load : EStateM Bytes W Unit
  snapshot : W → ConfigurationSnapshot
  saveSnapshot : ConfigurationSnapshot → EStateM Bytes W ConfigurationSnapshot
  root : Bytes

section Repository

variable {W : Type} (repository : ConfigurationRepository W)

/-- An operation that also uses the repository. -/
abbrev EditWith (W : Type) := EStateM EditError (ConfigurationEditor × W)

/-- An operation on the editor alone. -/
def onEditor {α : Type} (m : Edit α) : EditWith W α := fun (e, w) =>
  match m e with
  | .ok a e' => .ok a (e', w)
  | .error error e' => .error error (e', w)

/-- An operation of the repository alone. -/
def onRepository {α : Type} (m : EStateM Bytes W α) : EditWith W α := fun (e, w) =>
  match m w with
  | .ok a w' => .ok a (e, w')
  | .error error w' => .error { error } (e, w')

/-- A repository that was not loaded is loaded now. -/
def ensureLoaded : EditWith W Unit := do
  if repository.loaded (← get).2 then pure () else onRepository repository.load

/-- `begin`. -/
def begin : EditWith W Unit := do
  onEditor clearFailure
  rejectIf ((← get).1.active = true)
    { error := str "configuration editor already has an active draft" }
  ensureLoaded repository
  modify fun (e, w) => ({ e with
    draft := repository.snapshot w
    nextDraftProfileKey := -1
    nextDraftRuleKey := -1
    active := true }, w)

/-- `discard`. -/
def discard : Edit Unit := modify fun e => { e with active := false }

def committedKey (key : ℤ) : ℤ := if key < 0 then 0 else key

def committedRule (r : StoredRule) : StoredRule := { r with key := committedKey r.key }

def committedProfile (p : StoredProfile) : StoredProfile :=
  { p with key := committedKey p.key, rules := p.rules.map committedRule }

/-- What is handed to the repository, of a draft: negative keys become zero. -/
def committedDraft (draft : ConfigurationSnapshot) : ConfigurationSnapshot :=
  { draft with profiles := draft.profiles.map committedProfile }

/-- `commit`. -/
def commit [Library] : EditWith W ConfigurationSnapshot := do
  onEditor (validate repository.root)
  let desired := committedDraft (← get).1.draft
  let committed ← onRepository (repository.saveSnapshot desired)
  onEditor (modify fun e => { e with draft := committed, active := false })
  return committed

end Repository

/-- A repository that is its snapshot, and takes whatever is saved. -/
def plainRepository : ConfigurationRepository ConfigurationSnapshot where
  loaded _ := true
  load := pure ()
  snapshot := id
  saveSnapshot desired := do
    set desired
    return desired
  root := str "/opt/ccs-trans"

/-! ### Calls -/

/-- The operations on a draft. -/
inductive Operation where
  | setField (command : SetConfigurationFieldCommand)
  | resetField (command : ResetConfigurationFieldCommand)
  | applyBatch (sets : List SetConfigurationFieldCommand)
      (resets : List ResetConfigurationFieldCommand) (validateCandidate : Bool)
  | createProfile (profileId : Bytes)
  | removeProfile (key : ℤ)
  | moveProfile (key : ℤ) (position : ℕ)
  | addRule (key : ℤ) (ruleId ruleType : Bytes)
  | removeRule (key : ℤ) (ruleId : Bytes)
  | setRuleEnabled (key : ℤ) (ruleId : Bytes) (enabled : Bool)
  | setRuleOption (key : ℤ) (ruleId option valueJson : Bytes)
  | unsetRuleOption (key : ℤ) (ruleId option : Bytes)
  | moveRule (key : ℤ) (ruleId : Bytes) (position : ℕ)
  | replaceRulesText (key : ℤ) (content : Bytes)
  | formatRulesText (key : ℤ)
  | validate
  deriving DecidableEq

section Calls

variable [TextLibrary]

def Operation.run (root : Bytes) : Operation → Edit Unit
  | .setField command => applySet command
  | .resetField command => applyReset command
  | .applyBatch sets resets validateCandidate =>
    Editor.applyBatch root sets resets validateCandidate
  | .createProfile profileId => do let _ ← Editor.createProfile profileId
  | .removeProfile key => Editor.removeProfile key
  | .moveProfile key position => Editor.moveProfile key position
  | .addRule key ruleId ruleType => Editor.addRule key ruleId ruleType
  | .removeRule key ruleId => Editor.removeRule key ruleId
  | .setRuleEnabled key ruleId enabled => Editor.setRuleEnabled key ruleId enabled
  | .setRuleOption key ruleId option valueJson => Editor.setRuleOption key ruleId option valueJson
  | .unsetRuleOption key ruleId option => Editor.unsetRuleOption key ruleId option
  | .moveRule key ruleId position => Editor.moveRule key ruleId position
  | .replaceRulesText key content => Editor.replaceRulesText key content
  | .formatRulesText key => do let _ ← Editor.formatRulesText key
  | .validate => Editor.validate root

/-- All that can be asked of an editor and may fail. -/
inductive Call where
  | begin
  | operation (o : Operation)
  | commit
  deriving DecidableEq

def Call.run {W : Type} (repository : ConfigurationRepository W) : Call → EditWith W Unit
  | .begin => Editor.begin repository
  | .operation o => onEditor (o.run repository.root)
  | .commit => do let _ ← Editor.commit repository

end Calls

end CcsTrans.Editor
