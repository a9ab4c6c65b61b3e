import CcsTrans.Config.Snapshot

/-!
Documents without storage keys.

The keys under which profiles and rules are stored do not matter to what a document says:
neither to its checks nor to its text.
-/

namespace CcsTrans.Storage

/-- A rule without its key. -/
def StoredRule.unkeyed (r : StoredRule) : StoredRule := { r with key := 0 }

/-- A profile without its key and those of its rules. -/
def StoredProfile.unkeyed (p : StoredProfile) : StoredProfile :=
  { p with key := 0, rules := p.rules.map StoredRule.unkeyed }

end CcsTrans.Storage

namespace CcsTrans.Config

open CcsTrans.Text CcsTrans.Json CcsTrans.Storage CcsTrans.Fallible

def RuleDefinition.unkeyed (r : RuleDefinition) : RuleDefinition := { r with storageKey := 0 }

def ProfileDefinition.unkeyed (p : ProfileDefinition) : ProfileDefinition :=
  { p with storageKey := 0, rules := p.rules.map RuleDefinition.unkeyed }

/-- The named profiles without their keys. -/
def unkeyedProfiles (ps : List (Bytes × ProfileDefinition)) : List (Bytes × ProfileDefinition) :=
  ps.map fun p => (p.1, p.2.unkeyed)

def ConfigDocument.unkeyed (d : ConfigDocument) : ConfigDocument :=
  { d with profiles := unkeyedProfiles d.profiles }

def ConfigurationSnapshot.unkeyed (s : ConfigurationSnapshot) : ConfigurationSnapshot :=
  { s with profiles := s.profiles.map StoredProfile.unkeyed }

/-! ### Checks -/

lemma validateRules_unkeyed (label : Bytes) (seen : List Bytes) (rules : List RuleDefinition) :
    validateRules label seen (rules.map RuleDefinition.unkeyed) = validateRules label seen rules := by
  induction rules generalizing seen with
  | nil => rfl
  | cons r rules ih =>
    rw [List.map_cons, validateRules, validateRules]
    simp only [RuleDefinition.unkeyed] at ih ⊢
    rw [ih]

lemma validateProfileImpl_unkeyed (id : Bytes) (p : ProfileDefinition) (complete : Bool) :
    validateProfileImpl id p.unkeyed complete = validateProfileImpl id p complete := by
  unfold validateProfileImpl
  simp only [ProfileDefinition.unkeyed, validateRules_unkeyed, List.length_map]
  rfl

lemma validateProfiles_unkeyed (ps : List (Bytes × ProfileDefinition)) :
    validateProfiles (unkeyedProfiles ps) = validateProfiles ps := by
  induction ps with
  | nil => rfl
  | cons p ps ih =>
    obtain ⟨id, p⟩ := p
    show validateProfiles ((id, p.unkeyed) :: unkeyedProfiles ps) = _
    rw [validateProfiles, validateProfiles, validateProfileImpl_unkeyed, ih]
    rfl

lemma routeCount_unkeyed (ps : List (Bytes × ProfileDefinition)) :
    routeCount (unkeyedProfiles ps) = routeCount ps := by
  simp [routeCount, unkeyedProfiles, ProfileDefinition.unkeyed, Function.comp_def]

lemma validateDocument_unkeyed (d : ConfigDocument) : validateDocument d.unkeyed = validateDocument d := by
  simp only [validateDocument, ConfigDocument.unkeyed, validateProfiles_unkeyed, routeCount_unkeyed]
  simp [unkeyedProfiles]

/-! ### Text -/

lemma profileJson_unkeyed (p : ProfileDefinition) : profileJson p.unkeyed = profileJson p := by
  simp only [profileJson, ProfileDefinition.unkeyed, List.map_map]
  rfl

lemma documentToJson_unkeyed (d : ConfigDocument) : documentToJson d.unkeyed = documentToJson d := by
  simp only [documentToJson, ConfigDocument.unkeyed, unkeyedProfiles, List.map_map]
  simp only [Function.comp_def, profileJson_unkeyed]

section Conversion

variable [Library]

lemma serializeConfigDocument_unkeyed (d : ConfigDocument) :
    serializeConfigDocument d.unkeyed = serializeConfigDocument d := by
  simp only [serializeConfigDocument, validateConfigDocument, validateDocument_unkeyed,
    documentToJson_unkeyed]

/-! ### Conversion -/

lemma storedRuleToDefinition_unkeyed (r : StoredRule) :
    storedRuleToDefinition r.unkeyed = RuleDefinition.unkeyed <$> storedRuleToDefinition r := by
  simp only [storedRuleToDefinition, StoredRule.unkeyed]
  cases parseWithComments r.optionsJson with
  | error e => rfl
  | ok v =>
    cases v with
    | obj options =>
      by_cases hcanonical : dump (.obj options) = some r.optionsJson
      · simp only [hcanonical, ne_eq, not_true_eq_false, if_false, map_ok, RuleDefinition.unkeyed]
      · simp only [hcanonical, ne_eq, not_false_eq_true, if_true, map_error]
    | _ => rfl

lemma mapM_unkeyed (rules : List StoredRule) :
    (rules.map StoredRule.unkeyed).mapM storedRuleToDefinition =
      List.map RuleDefinition.unkeyed <$> rules.mapM storedRuleToDefinition := by
  induction rules with
  | nil => rfl
  | cons r rules ih =>
    rw [List.map_cons, List.mapM_cons, List.mapM_cons, ih, storedRuleToDefinition_unkeyed]
    cases storedRuleToDefinition r with
    | error e => rfl
    | ok x =>
      cases rules.mapM storedRuleToDefinition with
      | error e => rfl
      | ok xs => rfl

lemma storedProfileToDefinition_unkeyed (i : ℕ) (p : StoredProfile) :
    storedProfileToDefinition i p.unkeyed =
      ProfileDefinition.unkeyed <$> storedProfileToDefinition i p := by
  simp only [storedProfileToDefinition, StoredProfile.unkeyed, mapM_unkeyed]
  cases p.rules.mapM storedRuleToDefinition with
  | error e => rfl
  | ok rules => rfl

lemma convertProfiles_unkeyed (i : ℕ) (acc : List (Bytes × ProfileDefinition))
    (ps : List StoredProfile) :
    convertProfiles i (unkeyedProfiles acc) (ps.map StoredProfile.unkeyed) =
      unkeyedProfiles <$> convertProfiles i acc ps := by
  induction ps generalizing i acc with
  | nil => rfl
  | cons p ps ih =>
    rw [List.map_cons, convertProfiles, convertProfiles, storedProfileToDefinition_unkeyed]
    cases storedProfileToDefinition i p with
    | error e => rfl
    | ok definition =>
      simp only [map_ok]
      have hcontains : contains p.profileId (unkeyedProfiles acc) = contains p.profileId acc :=
        contains_map (fun _ => ProfileDefinition.unkeyed) p.profileId acc
      have hinsert : insertMember p.profileId definition.unkeyed (unkeyedProfiles acc) =
          unkeyedProfiles (insertMember p.profileId definition acc) :=
        insertMember_map (fun _ => ProfileDefinition.unkeyed) p.profileId definition acc
      rw [show p.unkeyed.profileId = p.profileId from rfl, hcontains, hinsert, ih]
      split <;> rfl

/-- **A snapshot is converted in the same way under all keys.** -/
theorem configurationSnapshotToConfigDocument_unkeyed (s : ConfigurationSnapshot) :
    configurationSnapshotToConfigDocument s.unkeyed =
      ConfigDocument.unkeyed <$> configurationSnapshotToConfigDocument s := by
  have hconvert := convertProfiles_unkeyed 0 [] s.profiles
  simp only [configurationSnapshotToConfigDocument, ConfigurationSnapshot.unkeyed]
  rw [show convertProfiles 0 [] (s.profiles.map StoredProfile.unkeyed) =
    unkeyedProfiles <$> convertProfiles 0 [] s.profiles from hconvert]
  cases convertProfiles 0 [] s.profiles with
  | error e => rfl
  | ok ps =>
    have hval := validateDocument_unkeyed ⟨s.application, ps⟩
    simp only [ConfigDocument.unkeyed] at hval
    simp only [map_ok, ok_bind, hval]
    cases validateDocument ⟨s.application, ps⟩ with
    | error e => rfl
    | ok _ => rfl

/-- Snapshots that differ in keys only are both converted, or neither. -/
lemma converts_of_unkeyed_eq {s s' : ConfigurationSnapshot} {d : ConfigDocument}
    (h : s.unkeyed = s'.unkeyed) (hs : configurationSnapshotToConfigDocument s = .ok d) :
    ∃ d', configurationSnapshotToConfigDocument s' = .ok d' ∧ d'.unkeyed = d.unkeyed := by
  have hd := configurationSnapshotToConfigDocument_unkeyed s
  rw [hs, h, configurationSnapshotToConfigDocument_unkeyed s', map_ok, map_eq_ok] at hd
  exact hd

end Conversion

end CcsTrans.Config
