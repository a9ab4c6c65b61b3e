import CcsTrans.Config.Unkeyed
import CcsTrans.Editor.Identity

/-!
Drafts at the store.

A stored snapshot is a sound draft, and a sound draft passes all that the store checks about
keys: the checks come out as they would for profiles and rules without keys, and every key is
that of a stored row in its place.
-/

namespace CcsTrans.Storage

open CcsTrans.Text CcsTrans.Json CcsTrans.Config CcsTrans.Fallible

section Unkeyed

variable [Library]

/-- Keys that may be stored and are new do not matter to the check of rules. -/
lemma validateStoredRules_unkeyed (profileId : Bytes) {keys : List ℤ} (size : ℕ)
    {rules : List StoredRule} (hallowed : ∀ r ∈ rules, 0 ≤ r.key)
    (hfresh : KeysFresh keys (rules.map StoredRule.key)) :
    validateStoredRules false profileId keys size rules =
      (fun x => (seeKeys keys (rules.map StoredRule.key), x.2)) <$>
        validateStoredRules false profileId [] size (rules.map StoredRule.unkeyed) := by
  induction rules generalizing keys size with
  | nil => rfl
  | cons r rules ih =>
    rw [List.map_cons, keysFresh_cons] at hfresh
    obtain ⟨hnew, hfresh⟩ := hfresh
    have hkey : keyAllowed false r.key = true := by simpa [keyAllowed] using hallowed r (by simp)
    have hsee : seeKey keys r.key = some (if 0 < r.key then r.key :: keys else keys) :=
      seeKey_eq_some.mpr ⟨hnew, rfl⟩
    have hparse : parseRuleOptions r.unkeyed = parseRuleOptions r := rfl
    have hsize : r.unkeyed.size = r.size := rfl
    have hrest := ih (size + r.size) (fun q hq => hallowed q (by simp [hq])) hfresh
    simp only [List.map_cons, validateStoredRules, hparse, hkey, hsee, hsize, hrest, seeKeys_cons]
    have hzero : keyAllowed false r.unkeyed.key = true := rfl
    have hseen : seeKey [] r.unkeyed.key = some [] := rfl
    simp only [hzero, hseen]
    cases parseRuleOptions r with
    | error e => rfl
    | ok definition =>
      by_cases hlarge : size + r.size > kMaxStoredProfileRulesTextBytes
      · simp only [hlarge]
        rfl
      · simp only [hlarge, if_false]
        cases validateStoredRules false profileId [] (size + r.size)
          (rules.map StoredRule.unkeyed) <;> rfl

/-- What has been seen, but for keys. -/
def Seen.unkeyed (seen : Seen) : Seen := { seen with profileKeys := [], ruleKeys := [] }

omit [Library] in
lemma seeKeys_unkeyed (rules : List StoredRule) :
    seeKeys [] ((rules.map StoredRule.unkeyed).map StoredRule.key) = [] := by
  simp [seeKeys, StoredRule.unkeyed, Function.comp_def]

omit [Library] in
lemma definition_unkeyed (p : StoredProfile) (rules : List RuleDefinition) :
    p.unkeyed.definition rules = p.definition rules := rfl

/-- Without keys, the check of a profile says the same about everything else. -/
lemma validateStoredProfile_unkeyed {seen : Seen} {p : StoredProfile} (hkey : 0 ≤ p.key)
    (hnew : 0 < p.key → p.key ∉ seen.profileKeys) (hallowed : ∀ r ∈ p.rules, 0 ≤ r.key)
    (hfresh : KeysFresh seen.ruleKeys (p.rules.map StoredRule.key)) :
    validateStoredProfile false seen.unkeyed p.unkeyed =
      Seen.unkeyed <$> validateStoredProfile false seen p ∧
    ∀ seen', validateStoredProfile false seen p = .ok seen' →
      seen'.profileKeys = (if 0 < p.key then p.key :: seen.profileKeys else seen.profileKeys) ∧
      seen'.ruleKeys = seeKeys seen.ruleKeys (p.rules.map StoredRule.key) := by
  constructor
  · have hallow : keyAllowed false p.key = true := by simpa [keyAllowed] using hkey
    have hsee : seeKey seen.profileKeys p.key =
        some (if 0 < p.key then p.key :: seen.profileKeys else seen.profileKeys) :=
      seeKey_eq_some.mpr ⟨hnew, rfl⟩
    have hrules := validateStoredRules_unkeyed p.profileId p.headSize hallowed hfresh
    unfold validateStoredProfile
    simp only [hallow, hsee, hrules]
    have hzero : keyAllowed false p.unkeyed.key = true := rfl
    have hseen : seeKey seen.unkeyed.profileKeys p.unkeyed.key = some [] := rfl
    simp only [hzero, hseen]
    have hids : seen.unkeyed.profileIds = seen.profileIds := rfl
    have hname : p.unkeyed.profileId = p.profileId := rfl
    have hhead : p.unkeyed.headSize = p.headSize := rfl
    have hunkeyed : p.unkeyed.rules = p.rules.map StoredRule.unkeyed := rfl
    have henabled : p.unkeyed.enabled = p.enabled := rfl
    have hpayload : seen.unkeyed.payload = seen.payload := rfl
    have hseenRules : seen.unkeyed.ruleKeys = [] := rfl
    simp only [hids, hname, hhead, hunkeyed, henabled, hpayload, hseenRules,
      definition_unkeyed, Bool.not_true, Bool.false_eq_true, if_false]
    by_cases hid : seen.profileIds.contains p.profileId = true
    · simp only [hid, if_true]
      rfl
    simp only [hid, Bool.false_eq_true, if_false]
    by_cases hmany : p.rules.length > kMaxRulesPerProfile
    · simp only [hmany, if_true, List.length_map]
      rfl
    simp only [hmany, if_false, List.length_map]
    cases hread : validateStoredRules false p.profileId [] p.headSize
        (p.rules.map StoredRule.unkeyed) with
    | error e => rfl
    | ok x =>
      obtain ⟨keys, size, rules⟩ := x
      obtain ⟨-, -, hnone, -⟩ := validateStoredRules_ok.mp hread
      rw [seeKeys_unkeyed] at hnone
      subst hnone
      simp only [map_ok, ok_bind]
      cases validateProfileDefinition p.profileId (p.definition rules) p.enabled with
      | error e => rfl
      | ok _ =>
        simp only [ok_bind]
        split_ifs <;> rfl
  · intro seen' h
    obtain ⟨-, -, -, -, -, rfl⟩ := validateStoredProfile_ok.mp h
    exact ⟨rfl, rfl⟩

lemma foldlM_unkeyed {ps : List StoredProfile} {seen : Seen} (hkeys : ∀ p ∈ ps, 0 ≤ p.key)
    (hfresh : KeysFresh seen.profileKeys (ps.map StoredProfile.key))
    (hallowed : ∀ p ∈ ps, ∀ r ∈ p.rules, 0 ≤ r.key)
    (hrules : KeysFresh seen.ruleKeys (ps.flatMap fun p => p.rules.map StoredRule.key)) :
    (ps.map StoredProfile.unkeyed).foldlM (validateStoredProfile false) seen.unkeyed =
      Seen.unkeyed <$> ps.foldlM (validateStoredProfile false) seen := by
  induction ps generalizing seen with
  | nil => rfl
  | cons p ps ih =>
    rw [List.map_cons, keysFresh_cons] at hfresh
    rw [List.flatMap_cons, keysFresh_append] at hrules
    obtain ⟨hsame, hseen⟩ := validateStoredProfile_unkeyed (hkeys p (by simp)) hfresh.1
      (hallowed p (by simp)) hrules.1
    rw [List.map_cons, List.foldlM_cons, List.foldlM_cons, hsame]
    cases h : validateStoredProfile false seen p with
    | error e => rfl
    | ok seen' =>
      obtain ⟨hprofileKeys, hruleKeys⟩ := hseen seen' h
      rw [map_ok, ok_bind, ok_bind]
      refine ih (fun q hq => hkeys q (by simp [hq])) ?_ (fun q hq => hallowed q (by simp [hq])) ?_
      · rw [hprofileKeys]
        exact hfresh.2
      · rw [hruleKeys]
        exact hrules.2

/-- **Keys that are new and may be stored do not matter** to whether profiles are accepted. -/
theorem validateProfiles_unkeyed {ps : List StoredProfile} (hkeys : ∀ p ∈ ps, 0 ≤ p.key)
    (hfresh : KeysFresh [] (ps.map StoredProfile.key))
    (hallowed : ∀ p ∈ ps, ∀ r ∈ p.rules, 0 ≤ r.key)
    (hrules : KeysFresh [] (ps.flatMap fun p => p.rules.map StoredRule.key)) :
    validateProfiles false (ps.map StoredProfile.unkeyed) = validateProfiles false ps := by
  have hfold := @foldlM_unkeyed _ ps {} hkeys hfresh hallowed hrules
  unfold validateProfiles
  have hseen : ({} : Seen).unkeyed = {} := rfl
  rw [hseen] at hfold
  rw [List.length_map, hfold]
  cases ps.foldlM (validateStoredProfile false) {} <;> rfl

end Unkeyed

end CcsTrans.Storage

namespace CcsTrans.Editor

open CcsTrans.Text CcsTrans.Json CcsTrans.Config CcsTrans.Storage

section Library

variable [Library]

/-! ### The beginning -/

/-- What `dump` writes of an object is canonical. -/
lemma canonicalOptions_of_dump {ms : List (Bytes × Value)} {text : Bytes}
    (hv : Document (.obj ms)) (h : dump (.obj ms) = some text) : CanonicalOptions text := by
  refine ⟨canonMembers ms, parse_dump hv h, ?_⟩
  have hsame := dumpAt_canon none 0 (.obj ms)
  rw [canon] at hsame
  rw [dump, hsame]
  exact h

lemma ruleKeys_pos {begun : List StoredProfile} (h : Accepted true begun) :
    ∀ k ∈ ruleKeys begun, 0 < k := by
  intro k hk
  obtain ⟨p, hp, r, hr, rfl⟩ := mem_ruleKeys.mp hk
  obtain ⟨defs, hread, -⟩ := (h.each p hp).reads
  simpa [keyAllowed] using hread.keys r hr

/-- A stored snapshot is a sound draft. -/
lemma sound_of_accepted {begun : List StoredProfile} (h : Accepted true begun) :
    Sound begun ⟨begun, -1, -1⟩ := by
  refine
    { keys := h.keys_nodup, ids := h.ids, ruleIds := ?_, ruleKeys := ?_,
      stored := fun p hp _ => List.mem_map_of_mem hp,
      storedRules := fun p hp r hr _ => ⟨p, hp, rfl, r, hr, rfl⟩, options := ?_,
      belowProfiles := fun p hp => Or.inl (h.each p hp).key_pos, belowRules := ?_,
      profileCounter := by simp, ruleCounter := by simp }
  · intro p hp
    obtain ⟨defs, hread, hdef⟩ := (h.each p hp).reads
    rw [← hread.map_id]
    exact (validateProfileDefinition_ok hdef).2.nodup
  · exact h.ruleKeys.differ.imp_of_mem fun ha _ hab => hab (ruleKeys_pos h _ ha)
  · intro p hp r hr
    obtain ⟨defs, hread, -⟩ := (h.each p hp).reads
    obtain ⟨d, -, hd⟩ := hread.exists_definition r hr
    obtain ⟨-, hwritable, hdump⟩ := parseRuleOptions_ok hd
    exact canonicalOptions_of_dump (hwritable.mono fun _ _ => trivial) hdump
  · intro p hp r hr
    exact Or.inl (ruleKeys_pos h _ (mem_ruleKeys.mpr ⟨p, hp, r, hr, rfl⟩))

/-! ### The end -/

omit [Library] in
lemma committedKey_nonneg (k : ℤ) : 0 ≤ committedKey k := by
  unfold committedKey
  split_ifs <;> omega

omit [Library] in
lemma committedKey_pos {k : ℤ} (h : 0 < committedKey k) : committedKey k = k := by
  unfold committedKey at h ⊢
  split_ifs at h ⊢ <;> omega

omit [Library] in
/-- Distinct keys stay distinct, but for those that become zero. -/
lemma keysFresh_committed {ks : List ℤ} (h : ks.Nodup) : KeysFresh [] (ks.map committedKey) := by
  refine ⟨by simp, ?_⟩
  rw [List.pairwise_map]
  refine h.imp ?_
  intro a b hne hpos heq
  have ha := committedKey_pos hpos
  have hb := committedKey_pos (heq ▸ hpos)
  exact hne (ha.symm.trans (heq.trans hb))

omit [Library] in
lemma ruleKeys_committed (ps : List StoredProfile) :
    ((ps.map committedProfile).flatMap fun p => p.rules.map StoredRule.key) =
      (ruleKeys ps).map committedKey := by
  simp only [ruleKeys, List.flatMap_map, List.map_flatMap, committedProfile, List.map_map]
  rfl

/-- The keys of a sound draft are acceptable to the store, whatever else it says. -/
lemma Sound.validateProfiles_committed {begun : List StoredProfile} {d : Keyed}
    (hd : Sound begun d) : Storage.validateProfiles false (d.profiles.map committedProfile) =
      Storage.validateProfiles false
        ((d.profiles.map committedProfile).map StoredProfile.unkeyed) := by
  refine (Storage.validateProfiles_unkeyed ?_ ?_ ?_ ?_).symm
  · intro p hp
    obtain ⟨q, -, rfl⟩ := List.mem_map.mp hp
    exact committedKey_nonneg _
  · have hkeys := keysFresh_committed hd.keys
    rw [List.map_map] at hkeys ⊢
    exact hkeys
  · intro p hp r hr
    obtain ⟨q, -, rfl⟩ := List.mem_map.mp hp
    obtain ⟨s, -, rfl⟩ := List.mem_map.mp hr
    exact committedKey_nonneg _
  · rw [ruleKeys_committed]
    exact keysFresh_committed hd.ruleKeys

/-- The keys of a sound draft are those of stored rows, in their profiles. -/
lemma Sound.checkKeys_committed {begun : List StoredProfile} {d : Keyed} (hd : Sound begun d)
    (hpos : ∀ b ∈ begun, 0 < b.key) {current : ProfileStoreSnapshot}
    (hcurrent : current.profiles = begun) :
    checkKeys current (d.profiles.map committedProfile) = .ok () := by
  have hbelongs : ∀ p ∈ d.profiles, ∀ r ∈ p.rules,
      ruleKeyBelongs (existingRules current) (committedProfile p) (committedRule r) = true := by
    intro p hp r hr
    rcases hd.belowRules p hp r hr with hkey | ⟨-, hkey⟩
    · obtain ⟨b, hb, hbkey, q, hq, hqkey⟩ := hd.storedRules p hp r hr hkey
      have hbpos := hpos b hb
      have hpkey : (committedProfile p).key = p.key := if_neg (by omega)
      have hrkey : (committedRule r).key = r.key := if_neg (by omega)
      have hexists : (r.key, p.key) ∈ existingRules current := by
        unfold existingRules
        rw [hcurrent]
        refine List.mem_flatMap.mpr ⟨b, hb, List.mem_map.mpr ⟨q, hq, ?_⟩⟩
        rw [hqkey, hbkey]
      have hne : p.key ≠ 0 := by omega
      simp [ruleKeyBelongs, hpkey, hrkey, hexists, hne]
    · have hzero : (committedRule r).key = 0 := if_pos hkey
      simp [ruleKeyBelongs, hzero]
  have hall : ∀ ps : List StoredProfile, (∀ p ∈ ps, p ∈ d.profiles) →
      checkKeys current (ps.map committedProfile) = .ok () := by
    intro ps hps
    induction ps with
    | nil => rfl
    | cons p ps ih =>
      have hp := hps p (by simp)
      rw [List.map_cons, checkKeys]
      have hstored : ¬ (0 < (committedProfile p).key ∧
          (committedProfile p).key ∉ current.profiles.map StoredProfile.key) := by
        rintro ⟨hk, hout⟩
        have hkey : (committedProfile p).key = p.key := committedKey_pos hk
        rw [hkey, hcurrent] at hout
        exact hout (hd.stored p hp (hkey ▸ hk))
      have hrules : (committedProfile p).rules.all
          (ruleKeyBelongs (existingRules current) (committedProfile p)) = true := by
        rw [List.all_eq_true]
        intro r hr
        obtain ⟨s, hs, rfl⟩ := List.mem_map.mp hr
        exact hbelongs p hp s hs
      rw [if_neg hstored, hrules]
      exact ih fun q hq => hps q (by simp [hq])
  exact hall d.profiles fun _ hp => hp

end Library

end CcsTrans.Editor
