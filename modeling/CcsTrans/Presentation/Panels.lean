import CcsTrans.Presentation.Contract

/-!
How the panels of the main window are made from a draft.

The list has an item for each profile of the draft, which says whether the profile could be
served. One item is selected; the editors are made for the stored profile of its key.
-/

namespace CcsTrans.Presentation

open CcsTrans.Text CcsTrans.Config CcsTrans.Storage CcsTrans.Editor CcsTrans.Protocols
open CcsTrans.Rules

/-! ### The list -/

/-- `with_profile_context`. -/
def withProfileContext (profileId detail : Bytes) : Bytes :=
  let named := str "profile " ++ profileId
  if detail = named ∨ startsWith (named ++ str " ") detail ∨ startsWith (named ++ str ":") detail
  then detail
  else named ++ str ": " ++ detail

section List

variable [Json.Library]

/-- Whether a profile could be served, and why not. -/
def readinessOf (protocols : ProtocolRegistry) (rules : RuleRegistry) (profileId : Bytes)
    (profile : ProfileDefinition) : ProfileReadiness × Bytes :=
  match validateProfileDefinition profileId profile false with
  | .error e => (.invalid, withProfileContext profileId e)
  | .ok _ =>
    match validateProfileDefinition profileId profile true with
    | .error e => (.incomplete, withProfileContext profileId e)
    | .ok _ =>
      -- a complete profile has a protocol
      let protocol := profile.protocol.getD []
      match protocols.find protocol with
      | none => (.invalid, withProfileContext profileId (str "unknown protocol: " ++ protocol))
      | some handler =>
        match protocols.validateProfile handler profileId profile with
        | .error e => (.invalid, withProfileContext profileId e)
        | .ok _ =>
          match rules.compilePipeline profile.rules handler with
          | .error e => (.invalid, withProfileContext profileId e)
          | .ok _ => (.ready, [])

/-- `make_profile_list_item`. -/
def makeProfileListItem (stored : StoredProfile) (profile : ProfileDefinition)
    (protocols : ProtocolRegistry) (rules : RuleRegistry) : ProfileListItem :=
  let (readiness, detail) := readinessOf protocols rules stored.profileId profile
  { key := stored.key
    id := stored.profileId
    enabled := profile.enabled
    protocol := profile.protocol
    readiness := readiness
    statusDetail := detail
    ruleCount := profile.rules.length
    enabledRuleCount := profile.rules.countP RuleDefinition.enabled }

/-- The item of a profile that is no part of any document. -/
def unconvertedListItem (stored : StoredProfile) (error : Bytes) : ProfileListItem where
  key := stored.key
  id := stored.profileId
  enabled := stored.enabled
  protocol := stored.protocol
  readiness := .invalid
  statusDetail := withProfileContext stored.profileId error
  ruleCount := stored.rules.length
  enabledRuleCount := stored.rules.countP StoredRule.enabled

/-- The registries that the program has built in. -/
def builtinProtocols : ProtocolRegistry := builtinProtocolRegistry.toOption.getD {}
def builtinRules : RuleRegistry := builtinRuleRegistry.toOption.getD {}

/-- The item of a profile, converted by itself with the settings of the draft. -/
def profileListItem (application : ApplicationSettings) (stored : StoredProfile) :
    ProfileListItem :=
  match configurationSnapshotToConfigDocument { application, profiles := [stored] } with
  | .error f => unconvertedListItem stored f.detail
  | .ok document =>
    let profile := (Json.find stored.profileId document.profiles).getD {}
    makeProfileListItem stored profile builtinProtocols builtinRules

/-- The list for an editor. Without a draft it is empty. -/
def profileListItems (e : ConfigurationEditor) : List ProfileListItem :=
  if e.active then e.draft.profiles.map (profileListItem e.draft.application) else []

end List

/-! ### The editors -/

/-- `build_application_fields`: the fields up to the first that cannot be read. -/
def buildApplicationFields (a : ApplicationSettings) :
    List ConfigurationFieldDescriptor → List ConfigurationFieldState
  | [] => []
  | d :: ds =>
    match readApplicationField a d with
    | .error _ => []
    | .ok value => ⟨d, some value⟩ :: buildApplicationFields a ds

/-- `build_profile_editor`. -/
def buildProfileEditor (p : StoredProfile) : Except Bytes ProfileEditorState := do
  let fields ← profileFieldDescriptors.mapM fun d => do
    return (⟨d, ← readProfileField p d⟩ : ConfigurationFieldState)
  return ⟨p.key, p.profileId, fields⟩

section Editors

variable [TextLibrary]

/-- What `format_rules_text` of the editor says; it changes nothing. -/
def formattedRules (e : ConfigurationEditor) (key : ℤ) : Except EditError Bytes :=
  match Editor.formatRulesText key e with
  | .ok text _ => .ok text
  | .error error _ => .error error

/-- The rules editor of a profile. What was shown for the same profile may be kept. -/
def buildRulesEditor (e : ConfigurationEditor) (previous : Option RulesEditorState)
    (preserveRulesText : Bool) (stored : StoredProfile) : RulesEditorState :=
  match previous.filter fun r => preserveRulesText && r.profileKey == stored.key with
  | some r => r
  | none =>
    match formattedRules e stored.key with
    | .ok text => ⟨stored.key, stored.profileId, text, none⟩
    | .error error => ⟨stored.key, stored.profileId, [], some error.diagnostic⟩

/-! ### The whole -/

/-- The item that is selected: the one that is preferred, if it is there, or else the one
that was selected before, or else the first. -/
def selectItem (items : List ProfileListItem) (preferredKey : Option ℤ)
    (preferredId : Option Bytes) (previous : MainWindowState) : Option ProfileListItem :=
  (((preferredKey.bind (findProfileListItem items)).or
    (preferredId.bind (findProfileListItemById items))).or
    (previous.selectedProfileKey.bind (findProfileListItem items))).or
    (previous.selectedProfileId.bind (findProfileListItemById items)) |>.or items.head?

/-- What `rebuild_editor_state` publishes. -/
def MainWindowState.rebuild (s : MainWindowState) (e : ConfigurationEditor)
    (preferredKey : Option ℤ) (preferredId : Option Bytes) (preserveRulesText : Bool) :
    MainWindowState :=
  let items := profileListItems e
  let fields :=
    if e.active then buildApplicationFields e.draft.application applicationFieldDescriptors else []
  match selectItem items preferredKey preferredId s with
  | none => { s with profiles := items, applicationFields := fields }.clearProfileSelection
  | some item =>
    let stored := findProfile e.draft.profiles item.key
    { s with
      profiles := items
      applicationFields := fields
      profileEditor := stored.bind fun p => (buildProfileEditor p).toOption
      rulesEditor := stored.map (buildRulesEditor e s.rulesEditor preserveRulesText)
      selectedProfileId := some item.id
      selectedProfileKey := some item.key }

end Editors

end CcsTrans.Presentation
