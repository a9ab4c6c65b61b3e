import CcsTrans.Editor.Drafts
import CcsTrans.Presentation.ViewModel

/-!
Panels that belong together.

The list shows the profiles of the draft, the selection is an item of the list, and the
editors are those of the selected profile. Whatever a state showed before, it is coherent
once its panels have been rebuilt.
-/

namespace CcsTrans.Presentation

open CcsTrans.Text CcsTrans.Config CcsTrans.Storage CcsTrans.Editor CcsTrans.Fallible

/-- What the list shows of a profile, whatever it says of its readiness. -/
structure Summary where
  key : ℤ
  id : Bytes
  enabled : Bool
  ruleCount : ℕ
  enabledRuleCount : ℕ

def ProfileListItem.summary (item : ProfileListItem) : Summary :=
  ⟨item.key, item.id, item.enabled, item.ruleCount, item.enabledRuleCount⟩

def summaryOf (p : StoredProfile) : Summary :=
  ⟨p.key, p.profileId, p.enabled, p.rules.length, p.rules.countP StoredRule.enabled⟩

/-- The panels of a state that are about profiles. -/
structure Panels where
  profiles : List ProfileListItem
  selectedProfileId : Option Bytes
  selectedProfileKey : Option ℤ
  profileEditor : Option ProfileEditorState
  rulesEditor : Option RulesEditorState

def MainWindowState.panels (s : MainWindowState) : Panels :=
  ⟨s.profiles, s.selectedProfileId, s.selectedProfileKey, s.profileEditor, s.rulesEditor⟩

/-- Panels belong to a draft and to each other. -/
structure Coherent (s : Panels) (draft : ConfigurationSnapshot) : Prop where
  list : s.profiles.map ProfileListItem.summary = draft.profiles.map summaryOf
  empty : s.selectedProfileKey = none ∧ s.selectedProfileId = none ↔ s.profiles = []
  selected : s.profiles ≠ [] → ∃ item ∈ s.profiles,
    s.selectedProfileKey = some item.key ∧ s.selectedProfileId = some item.id
  profileEditor : ∀ p, s.profileEditor = some p → s.selectedProfileKey = some p.key
  rulesEditor : ∀ r, s.rulesEditor = some r → s.selectedProfileKey = some r.profileKey

/-! ### The list -/

section List

variable [Json.Library]

lemma countP_definitions {stored : List StoredRule} {rules : List RuleDefinition}
    (h : stored.mapM storedRuleToDefinition = .ok rules) :
    rules.countP RuleDefinition.enabled = stored.countP StoredRule.enabled := by
  induction stored generalizing rules with
  | nil =>
    cases h
    rfl
  | cons r stored ih =>
    obtain ⟨d, ds, hd, hds, rfl⟩ := mapM_cons_eq_ok.mp h
    have henabled : d.enabled = r.enabled := by
      unfold storedRuleToDefinition at hd
      dsimp only at hd
      split at hd
      · split_ifs at hd
        cases hd
        rfl
      · cases hd
    rw [List.countP_cons, List.countP_cons, ih hds, henabled]

/-- A profile that is converted by itself is the only one of its document. -/
lemma document_of_one {application : ApplicationSettings} {stored : StoredProfile}
    {d : ConfigDocument}
    (h : configurationSnapshotToConfigDocument { application, profiles := [stored] } = .ok d) :
    ∃ rules, stored.rules.mapM storedRuleToDefinition = .ok rules ∧
      Json.find stored.profileId d.profiles = some { stored.definition rules with
        storageKey := stored.key, storagePosition := some 0 } := by
  obtain ⟨profiles, hprofiles, h⟩ := bind_eq_ok.mp h
  obtain ⟨_, -, h⟩ := bind_eq_ok.mp h
  cases h
  rw [convertProfiles] at hprofiles
  split at hprofiles
  · cases hprofiles
  next profile hprofile =>
  obtain ⟨rules, hrules, hprofile⟩ := bind_eq_ok.mp hprofile
  cases hprofile
  split_ifs at hprofiles
  cases hprofiles
  exact ⟨rules, hrules, by simp [Json.insertMember, Json.find]⟩

lemma summary_profileListItem (application : ApplicationSettings) (stored : StoredProfile) :
    (profileListItem application stored).summary = summaryOf stored := by
  unfold profileListItem
  split
  · rfl
  next d hd =>
  obtain ⟨rules, hrules, hfind⟩ := document_of_one hd
  dsimp only
  rw [hfind]
  simp only [makeProfileListItem, ProfileListItem.summary, summaryOf, Option.getD_some,
    StoredProfile.definition, length_of_mapM hrules, countP_definitions hrules]

lemma map_summary_profileListItems {e : ConfigurationEditor} (h : e.active = true) :
    (profileListItems e).map ProfileListItem.summary = e.draft.profiles.map summaryOf := by
  rw [profileListItems, if_pos h, List.map_map]
  exact List.map_congr_left fun p _ => summary_profileListItem _ p

end List

/-! ### The selection -/

lemma find_mem {items : List ProfileListItem} {key : Option ℤ} {item : ProfileListItem}
    (h : key.bind (findProfileListItem items) = some item) : item ∈ items := by
  obtain ⟨k, -, h⟩ := Option.bind_eq_some_iff.mp h
  exact List.mem_of_find?_eq_some h

lemma findById_mem {items : List ProfileListItem} {id : Option Bytes} {item : ProfileListItem}
    (h : id.bind (findProfileListItemById items) = some item) : item ∈ items := by
  obtain ⟨k, -, h⟩ := Option.bind_eq_some_iff.mp h
  exact List.mem_of_find?_eq_some h

section Select

variable {items : List ProfileListItem} {key : Option ℤ} {id : Option Bytes}
  {s : MainWindowState}

lemma selectItem_mem {item : ProfileListItem} (h : selectItem items key id s = some item) :
    item ∈ items := by
  simp only [selectItem, Option.or_eq_some_iff] at h
  rcases h with ((((h | ⟨-, h⟩) | ⟨-, h⟩) | ⟨-, h⟩) | ⟨-, h⟩)
  · exact find_mem h
  · exact findById_mem h
  · exact find_mem h
  · exact findById_mem h
  · exact List.mem_of_head? h

lemma selectItem_eq_none : selectItem items key id s = none ↔ items = [] := by
  constructor
  · intro h
    simp only [selectItem, Option.or_eq_none_iff] at h
    exact List.head?_eq_none_iff.mp h.2
  · rintro rfl
    cases h : selectItem [] key id s with
    | none => rfl
    | some item => exact absurd (selectItem_mem h) (by simp)

end Select

/-! ### The whole -/

section Rebuild

variable [TextLibrary] {e : ConfigurationEditor} {s : MainWindowState} {key : Option ℤ}
  {id : Option Bytes} {preserve : Bool}

omit [TextLibrary] in
lemma key_of_buildProfileEditor {p : StoredProfile} {editor : ProfileEditorState}
    (h : (buildProfileEditor p).toOption = some editor) : editor.key = p.key := by
  obtain ⟨fields, -, h⟩ := bind_eq_ok.mp (toOption_eq_some.mp h)
  cases h
  rfl

lemma key_of_buildRulesEditor (previous : Option RulesEditorState) (p : StoredProfile) :
    (buildRulesEditor e previous preserve p).profileKey = p.key := by
  unfold buildRulesEditor
  split
  · next r hr =>
    have := (Option.filter_eq_some_iff.mp hr).2
    simp only [Bool.and_eq_true, beq_iff_eq] at this
    exact this.2
  · split <;> rfl

/-- Panels that were rebuilt belong together. -/
theorem coherent_rebuild (h : e.active = true) :
    Coherent (s.rebuild e key id preserve).panels e.draft := by
  have hlist := map_summary_profileListItems h
  unfold MainWindowState.rebuild
  dsimp only
  cases hselect : selectItem (profileListItems e) key id s with
  | none =>
    have hnil := selectItem_eq_none.mp hselect
    exact {
      list := hlist
      empty := by simp [MainWindowState.panels, MainWindowState.clearProfileSelection, hnil]
      selected := fun hne => absurd hnil hne
      profileEditor := fun p hp => by cases hp
      rulesEditor := fun r hr => by cases hr }
  | some item =>
    have hmem := selectItem_mem hselect
    exact {
      list := hlist
      empty := by simp [MainWindowState.panels, List.ne_nil_of_mem hmem]
      selected := fun _ => ⟨item, hmem, rfl, rfl⟩
      profileEditor := by
        intro editor heditor
        obtain ⟨p, hp, heditor⟩ := Option.bind_eq_some_iff.mp heditor
        show some item.key = some editor.key
        rw [key_of_buildProfileEditor heditor, key_of_findProfile hp]
      rulesEditor := by
        intro editor heditor
        obtain ⟨p, hp, rfl⟩ := Option.map_eq_some_iff.mp heditor
        show some item.key = some (buildRulesEditor e s.rulesEditor preserve p).profileKey
        rw [key_of_buildRulesEditor, key_of_findProfile hp] }

end Rebuild

end CcsTrans.Presentation
