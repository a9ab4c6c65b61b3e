import CcsTrans.Storage.Tables

/-!
What accepted profiles are.

The check of stored profiles goes through them once and keeps what it has seen. Here its
outcome is said of the list as a whole: names and keys differ, and every profile and rule
is in order by itself. The outcome depends on the keys only in so far as they differ, so
that accepted profiles are still accepted once their missing keys are filled in.
-/

namespace CcsTrans.Storage

open CcsTrans.Text CcsTrans.Json CcsTrans.Config CcsTrans.Fallible

/-! ### Keys -/

lemma seeKey_eq_some {keys keys' : List ℤ} {k : ℤ} :
    seeKey keys k = some keys' ↔ (0 < k → k ∉ keys) ∧ keys' = if 0 < k then k :: keys else keys := by
  unfold seeKey
  split_ifs with hpos hmem
  · simp only [false_iff, not_and]
    intro h
    exact absurd (by simpa using hmem) (h hpos)
  · have : k ∉ keys := by simpa using hmem
    simp [this, hpos, eq_comm]
  · simp [hpos, eq_comm]

/-- The keys in a list that are given differ from each other and from those seen. -/
structure KeysFresh (seen ks : List ℤ) : Prop where
  unseen : ∀ k ∈ ks, 0 < k → k ∉ seen
  differ : ks.Pairwise fun a b => 0 < a → a ≠ b

/-- The keys seen after those of a list. -/
def seeKeys (seen ks : List ℤ) : List ℤ := (ks.filter (0 < ·)).reverse ++ seen

lemma seeKeys_cons (seen : List ℤ) (k : ℤ) (ks : List ℤ) :
    seeKeys seen (k :: ks) = seeKeys (if 0 < k then k :: seen else seen) ks := by
  unfold seeKeys
  by_cases h : 0 < k <;> simp [h]

lemma keysFresh_nil (seen : List ℤ) : KeysFresh seen [] := ⟨by simp, by simp⟩

lemma keysFresh_cons {seen : List ℤ} {k : ℤ} {ks : List ℤ} : KeysFresh seen (k :: ks) ↔
    (0 < k → k ∉ seen) ∧ KeysFresh (if 0 < k then k :: seen else seen) ks := by
  constructor
  · rintro ⟨h1, h2⟩
    rw [List.pairwise_cons] at h2
    refine ⟨h1 k (by simp), fun x hx hpos => ?_, h2.2⟩
    split_ifs with hk
    · rw [List.mem_cons, not_or]
      exact ⟨fun h => h2.1 x hx hk h.symm, h1 x (by simp [hx]) hpos⟩
    · exact h1 x (by simp [hx]) hpos
  · rintro ⟨h1, h2, h3⟩
    refine ⟨fun x hx hpos => ?_, List.pairwise_cons.mpr ⟨fun x hx hk => ?_, h3⟩⟩
    · rcases List.mem_cons.mp hx with rfl | hx
      · exact h1 hpos
      · have := h2 x hx hpos
        split_ifs at this with hk
        · exact fun h => this (by simp [h])
        · exact this
    · rintro rfl
      have := h2 k hx hk
      simp [hk] at this

lemma keysFresh_append {seen ks ls : List ℤ} :
    KeysFresh seen (ks ++ ls) ↔ KeysFresh seen ks ∧ KeysFresh (seeKeys seen ks) ls := by
  induction ks generalizing seen with
  | nil => simp [keysFresh_nil, seeKeys]
  | cons k ks ih => rw [List.cons_append, keysFresh_cons, keysFresh_cons, ih, seeKeys_cons, and_assoc]

/-! ### Nesting -/

lemma validateRuleItems_depth {d n m : ℕ} {xs : List Value}
    (ih : ∀ x ∈ xs, ∀ {d n m}, validateRuleJson d n x = .ok m → d + depth x ≤ 33)
    (hd : d ≤ 33) (h : validateRuleItems d n xs = .ok m) : d + depthItems xs ≤ 33 := by
  induction xs generalizing n with
  | nil => simpa [depthItems] using hd
  | cons x xs ihs =>
    rw [validateRuleItems] at h
    obtain ⟨k, hx, h⟩ := bind_eq_ok.mp h
    have h1 := ih x (by simp) hx
    have h2 := ihs (fun y hy => ih y (by simp [hy])) h
    rw [depthItems]
    omega

lemma validateRuleMembers_depth {d n m : ℕ} {ms : List (Bytes × Value)}
    (ih : ∀ x ∈ ms, ∀ {d n m}, validateRuleJson d n x.2 = .ok m → d + depth x.2 ≤ 33)
    (hd : d ≤ 33) (h : validateRuleMembers d n ms = .ok m) : d + depthMembers ms ≤ 33 := by
  induction ms generalizing n with
  | nil => simpa [depthMembers] using hd
  | cons x ms ihs =>
    obtain ⟨name, x⟩ := x
    rw [validateRuleMembers] at h
    split at h
    · cases h
    · obtain ⟨k, hx, h⟩ := bind_eq_ok.mp h
      have h1 : d + depth x ≤ 33 := ih (name, x) (by simp) hx
      have h2 := ihs (fun y hy => ih y (by simp [hy])) h
      rw [depthMembers]
      omega

/-- Options that are accepted are not nested deeply. -/
lemma validateRuleJson_depth {v : Value} {d n m : ℕ} (h : validateRuleJson d n v = .ok m) :
    d + depth v ≤ 33 := by
  have hlevel : ∀ {v d n m}, validateRuleJson d n v = .ok m → d ≤ 32 := by
    intro v d n m h
    unfold validateRuleJson at h
    split_ifs at h with _ hd
    exact not_lt.mp hd
  induction v using Value.induction generalizing d n m with
  | null | bool | int | uint | float | str =>
    have := hlevel h
    rw [depth]
    · omega
    all_goals simp
  | arr xs ih =>
    have hd := hlevel h
    rw [validateRuleJson] at h
    split_ifs at h
    have := validateRuleItems_depth ih (by omega) h
    rw [depth]
    omega
  | obj ms ih =>
    have hd := hlevel h
    rw [validateRuleJson] at h
    split_ifs at h
    have := validateRuleMembers_depth ih (by omega) h
    rw [depth]
    omega

lemma depthMembers_le {ms : List (Bytes × Value)} {n : ℕ} (h : ∀ m ∈ ms, depth m.2 ≤ n) :
    depthMembers ms ≤ n := by
  induction ms with
  | nil => simp [depthMembers]
  | cons m ms ih =>
    obtain ⟨k, v⟩ := m
    rw [List.forall_mem_cons] at h
    rw [depthMembers]
    exact max_le h.1 (ih h.2)

/-! ### Rules -/

section Rules

variable [Library]

/-- The rules are in order by themselves and read as `defs`. -/
structure RulesRead (persisted : Bool) (rules : List StoredRule) (defs : List RuleDefinition) :
    Prop where
  keys : ∀ r ∈ rules, keyAllowed persisted r.key = true
  reads : List.Forall₂ (fun r d => parseRuleOptions r = .ok d) rules defs

/-- The check of rules says that they are in order, and that their keys are new. -/
lemma validateStoredRules_ok {persisted : Bool} {profileId : Bytes} {keys : List ℤ} {size : ℕ}
    {rules : List StoredRule} {keys' : List ℤ} {size' : ℕ} {defs : List RuleDefinition} :
    validateStoredRules persisted profileId keys size rules = .ok (keys', size', defs) ↔
      RulesRead persisted rules defs ∧ KeysFresh keys (rules.map StoredRule.key) ∧
      keys' = seeKeys keys (rules.map StoredRule.key) ∧
      size' = size + (rules.map StoredRule.size).sum ∧
      (rules ≠ [] → size' ≤ kMaxStoredProfileRulesTextBytes) := by
  induction rules generalizing keys size keys' size' defs with
  | nil =>
    simp only [validateStoredRules, Except.ok.injEq, Prod.mk.injEq]
    constructor
    · rintro ⟨rfl, rfl, rfl⟩
      exact ⟨⟨by simp, List.Forall₂.nil⟩, keysFresh_nil _, rfl, by simp, by simp⟩
    · rintro ⟨⟨-, hreads⟩, -, rfl, rfl, -⟩
      cases hreads
      exact ⟨rfl, by simp, rfl⟩
  | cons r rules ih =>
    rw [validateStoredRules]
    constructor
    · intro h
      split_ifs at h with hkey
      · cases h
      · simp only [Bool.not_eq_true', Bool.not_eq_false] at hkey
        split at h
        · cases h
        · next keys₁ hsee =>
          obtain ⟨hnew, hkeys₁⟩ := seeKey_eq_some.mp hsee
          split at h
          · cases h
          · next d hd =>
            dsimp only at h
            split_ifs at h with hsize
            · cases h
            · obtain ⟨⟨keys₂, size₂, defs₂⟩, hrest, h⟩ := bind_eq_ok.mp h
              cases h
              obtain ⟨hread, hfresh, rfl, rfl, hlimit⟩ := ih.mp hrest
              rw [hkeys₁] at hfresh
              refine ⟨⟨List.forall_mem_cons.mpr ⟨hkey, hread.keys⟩,
                List.Forall₂.cons hd hread.reads⟩, keysFresh_cons.mpr ⟨hnew, hfresh⟩, ?_, ?_, ?_⟩
              · rw [List.map_cons, seeKeys_cons, hkeys₁]
              · simp only [List.map_cons, List.sum_cons]
                omega
              · intro _
                by_cases hnil : rules = []
                · subst hnil
                  simpa using hsize
                · exact hlimit hnil
    · rintro ⟨⟨hkeys, hreads⟩, hfresh, rfl, rfl, hlimit⟩
      rw [List.forall_mem_cons] at hkeys
      obtain ⟨hnew, hfresh⟩ := keysFresh_cons.mp hfresh
      cases hreads with
      | cons hd hrest =>
        have hlimit := hlimit (by simp)
        rw [List.map_cons, List.sum_cons] at hlimit
        have hsize : ¬ size + r.size > kMaxStoredProfileRulesTextBytes := by omega
        rw [← Nat.add_assoc] at hlimit
        have := ih.mpr ⟨⟨hkeys.2, hrest⟩, hfresh, rfl, rfl, fun _ => hlimit⟩
        simp only [hkeys.1, Bool.not_true, Bool.false_eq_true, if_false,
          seeKey_eq_some.mpr ⟨hnew, rfl⟩, hd, hsize, this, ok_bind, pure_eq_ok,
          List.map_cons, seeKeys_cons, List.sum_cons, Nat.add_assoc]

/-- A profile is in order by itself. -/
structure InOrder (persisted : Bool) (p : StoredProfile) : Prop where
  key : keyAllowed persisted p.key = true
  count : p.rules.length ≤ kMaxRulesPerProfile
  size : p.rules ≠ [] →
    p.headSize + (p.rules.map StoredRule.size).sum ≤ kMaxStoredProfileRulesTextBytes
  reads : ∃ defs, RulesRead persisted p.rules defs ∧
    validateProfileDefinition p.profileId (p.definition defs) p.enabled = .ok ()

/-- The size of a profile with its rules. -/
def StoredProfile.size (p : StoredProfile) : ℕ := p.headSize + (p.rules.map StoredRule.size).sum

/-- What has been seen after a profile. -/
def Seen.after (seen : Seen) (p : StoredProfile) : Seen :=
  ⟨p.profileId :: seen.profileIds, if 0 < p.key then p.key :: seen.profileKeys else seen.profileKeys,
    seeKeys seen.ruleKeys (p.rules.map StoredRule.key), seen.routes + p.routeCount,
    seen.payload + p.size⟩

lemma validateStoredProfile_ok {persisted : Bool} {seen seen' : Seen} {p : StoredProfile} :
    validateStoredProfile persisted seen p = .ok seen' ↔
      InOrder persisted p ∧ p.profileId ∉ seen.profileIds ∧ (0 < p.key → p.key ∉ seen.profileKeys) ∧
      KeysFresh seen.ruleKeys (p.rules.map StoredRule.key) ∧
      seen.payload + p.size ≤ kMaxStoredProfilePayloadBytes ∧ seen' = seen.after p := by
  unfold validateStoredProfile
  constructor
  · intro h
    dsimp only at h
    split at h
    · cases h
    next hkey =>
    simp only [Bool.not_eq_true', Bool.not_eq_false] at hkey
    split at h
    · cases h
    next keys hsee =>
    obtain ⟨hnew, rfl⟩ := seeKey_eq_some.mp hsee
    split at h
    · cases h
    next hid =>
    split at h
    · cases h
    next hcount =>
    obtain ⟨⟨keys₁, size₁, defs⟩, hrules, h⟩ := bind_eq_ok.mp h
    obtain ⟨hread, hfresh, rfl, rfl, hlimit⟩ := validateStoredRules_ok.mp hrules
    obtain ⟨_, hdef, h⟩ := bind_eq_ok.mp h
    split at h
    · cases h
    next hpay =>
    cases h
    refine ⟨⟨hkey, not_lt.mp hcount, hlimit, defs, hread, hdef⟩, by simpa using hid, hnew,
      hfresh, ?_, rfl⟩
    dsimp only at hpay
    unfold StoredProfile.size
    omega
  · rintro ⟨⟨hkey, hcount, hlimit, defs, hread, hdef⟩, hid, hnew, hfresh, hpay, rfl⟩
    have hrules : validateStoredRules persisted p.profileId seen.ruleKeys p.headSize p.rules =
        .ok (_, _, defs) := validateStoredRules_ok.mpr ⟨hread, hfresh, rfl, rfl, hlimit⟩
    have hid' : seen.profileIds.contains p.profileId = false := by simpa using hid
    have hcount' : ¬ p.rules.length > kMaxRulesPerProfile := by omega
    unfold StoredProfile.size at hpay
    have hpay' : ¬ (p.headSize + (p.rules.map StoredRule.size).sum > kMaxStoredProfilePayloadBytes ∨
        seen.payload > kMaxStoredProfilePayloadBytes -
          (p.headSize + (p.rules.map StoredRule.size).sum)) := by omega
    simp only [hkey, Bool.not_true, Bool.false_eq_true, if_false, seeKey_eq_some.mpr ⟨hnew, rfl⟩,
      hid', hcount', hrules, ok_bind, hdef, hpay', pure_eq_ok]
    rfl

/-- The profiles are in order, and differ in what has to differ. -/
structure Accepted (persisted : Bool) (ps : List StoredProfile) : Prop where
  count : ps.length ≤ kMaxConfigProfiles
  each : ∀ p ∈ ps, InOrder persisted p
  ids : (ps.map StoredProfile.profileId).Nodup
  keys : KeysFresh [] (ps.map StoredProfile.key)
  ruleKeys : KeysFresh [] (ps.flatMap fun p => p.rules.map StoredRule.key)
  payload : (ps.map StoredProfile.size).sum ≤ kMaxStoredProfilePayloadBytes
  routes : (ps.map StoredProfile.routeCount).sum ≤ kMaxConfigRoutes

lemma foldlM_validateStoredProfile_ok {persisted : Bool} {ps : List StoredProfile}
    {seen seen' : Seen} :
    ps.foldlM (validateStoredProfile persisted) seen = .ok seen' ↔
      (∀ p ∈ ps, InOrder persisted p) ∧ (ps.map StoredProfile.profileId).Nodup ∧
      (∀ p ∈ ps, p.profileId ∉ seen.profileIds) ∧
      KeysFresh seen.profileKeys (ps.map StoredProfile.key) ∧
      KeysFresh seen.ruleKeys (ps.flatMap fun p => p.rules.map StoredRule.key) ∧
      (ps ≠ [] → seen.payload + (ps.map StoredProfile.size).sum ≤ kMaxStoredProfilePayloadBytes) ∧
      seen' = ps.foldl Seen.after seen := by
  induction ps generalizing seen with
  | nil => simp [keysFresh_nil, eq_comm]
  | cons p ps ih =>
    rw [List.foldlM_cons, bind_eq_ok]
    constructor
    · rintro ⟨seen₁, hp, hps⟩
      obtain ⟨hin, hid, hkey, hrule, hpay, rfl⟩ := validateStoredProfile_ok.mp hp
      obtain ⟨hin', hids, hids', hkeys, hrules, hpay', rfl⟩ := ih.mp hps
      refine ⟨List.forall_mem_cons.mpr ⟨hin, hin'⟩, ?_, ?_, keysFresh_cons.mpr ⟨hkey, hkeys⟩,
        ?_, ?_, rfl⟩
      · rw [List.map_cons, List.nodup_cons]
        refine ⟨fun hmem => ?_, hids⟩
        obtain ⟨q, hq, hqid⟩ := List.mem_map.mp hmem
        exact hids' q hq (by simp [Seen.after, hqid])
      · refine List.forall_mem_cons.mpr ⟨hid, fun q hq hmem => hids' q hq ?_⟩
        exact List.mem_cons_of_mem _ hmem
      · rw [List.flatMap_cons, keysFresh_append]
        exact ⟨hrule, hrules⟩
      · intro _
        rw [List.map_cons, List.sum_cons]
        by_cases hnil : ps = []
        · subst hnil
          simpa using hpay
        · have := hpay' hnil
          simp only [Seen.after] at this
          omega
    · rintro ⟨hin, hids, hids', hkeys, hrules, hpay, rfl⟩
      rw [List.forall_mem_cons] at hin hids'
      rw [List.map_cons, List.nodup_cons] at hids
      rw [List.flatMap_cons, keysFresh_append] at hrules
      obtain ⟨hkey, hkeys⟩ := keysFresh_cons.mp hkeys
      have hpay := hpay (by simp)
      rw [List.map_cons, List.sum_cons] at hpay
      refine ⟨seen.after p, validateStoredProfile_ok.mpr ⟨hin.1, hids'.1, hkey, hrules.1, by omega,
        rfl⟩, ih.mpr ⟨hin.2, hids.2, fun q hq hmem => ?_, hkeys, hrules.2, fun _ => ?_, rfl⟩⟩
      · rcases List.mem_cons.mp hmem with hqid | hmem
        · exact hids.1 (List.mem_map.mpr ⟨q, hq, hqid⟩)
        · exact hids'.2 q hq hmem
      · simp only [Seen.after]
        omega

omit [Library] in
lemma foldl_after_routes (ps : List StoredProfile) (seen : Seen) :
    (ps.foldl Seen.after seen).routes = seen.routes + (ps.map StoredProfile.routeCount).sum := by
  induction ps generalizing seen with
  | nil => simp
  | cons p ps ih =>
    rw [List.foldl_cons, ih, List.map_cons, List.sum_cons]
    simp only [Seen.after]
    omega

/-- **What the check accepts.** -/
theorem validateProfiles_ok {persisted : Bool} {ps : List StoredProfile} :
    validateProfiles persisted ps = .ok () ↔ Accepted persisted ps := by
  unfold validateProfiles
  constructor
  · intro h
    dsimp only at h
    split at h
    · cases h
    next hcount =>
    obtain ⟨seen, hfold, h⟩ := bind_eq_ok.mp h
    split at h
    · cases h
    next hroutes =>
    obtain ⟨hin, hids, -, hkeys, hrules, hpay, rfl⟩ := foldlM_validateStoredProfile_ok.mp hfold
    rw [foldl_after_routes] at hroutes
    refine ⟨not_lt.mp hcount, hin, hids, hkeys, hrules, ?_, by simpa using hroutes⟩
    by_cases hnil : ps = []
    · subst hnil
      simp
    · simpa using hpay hnil
  · rintro ⟨hcount, hin, hids, hkeys, hrules, hpay, hroutes⟩
    have hfold : ps.foldlM (validateStoredProfile persisted) {} = .ok (ps.foldl Seen.after {}) :=
      foldlM_validateStoredProfile_ok.mpr ⟨hin, hids, by simp, hkeys, hrules,
        fun _ => by simpa using hpay, rfl⟩
    have hcount' : ¬ ps.length > kMaxConfigProfiles := by omega
    have hroutes' : ¬ (ps.foldl Seen.after {}).routes > kMaxConfigRoutes := by
      rw [foldl_after_routes]
      simpa using hroutes
    simp only [hcount', if_false, hfold, ok_bind, hroutes', pure_eq_ok]

/-! ### The rules of accepted profiles -/

lemma parseRuleOptions_ok {r : StoredRule} {d : RuleDefinition} (h : parseRuleOptions r = .ok d) :
    d.id = r.ruleId ∧ Writable (.obj d.options) ∧ dump (.obj d.options) = some r.optionsJson := by
  unfold parseRuleOptions at h
  split at h
  · cases h
  split at h
  · next options hparse =>
    split at h
    · cases h
    next hdump =>
    cases h
    obtain ⟨w, hw, heq⟩ := map_eq_ok.mp hparse
    refine ⟨rfl, ?_, not_not.mp hdump⟩
    rw [← heq]
    exact parseTree_writable hw
  · cases h

lemma RulesRead.map_id {persisted : Bool} {rules : List StoredRule} {defs : List RuleDefinition}
    (h : RulesRead persisted rules defs) :
    defs.map RuleDefinition.id = rules.map StoredRule.ruleId := by
  obtain ⟨-, h⟩ := h
  induction h with
  | nil => rfl
  | cons hr _ ih => rw [List.map_cons, List.map_cons, ih, (parseRuleOptions_ok hr).1]

lemma RulesRead.exists_definition {persisted : Bool} {rules : List StoredRule}
    {defs : List RuleDefinition} (h : RulesRead persisted rules defs) :
    ∀ r ∈ rules, ∃ d ∈ defs, parseRuleOptions r = .ok d := by
  obtain ⟨-, h⟩ := h
  induction h with
  | nil => simp
  | @cons r d _ _ hr _ ih =>
    refine List.forall_mem_cons.mpr ⟨⟨d, by simp, hr⟩, fun q hq => ?_⟩
    obtain ⟨e, he, hqe⟩ := ih q hq
    exact ⟨e, by simp [he], hqe⟩

/-- What the schema asks of the rules of a profile. -/
structure RulesFit [Sqlite] (rules : List StoredRule) : Prop where
  ids : ∀ r ∈ rules, isValidRuleId r.ruleId = true
  nodup : (rules.map StoredRule.ruleId).Nodup
  json : ∀ r ∈ rules, Sqlite.jsonObject r.optionsJson = true

lemma InOrder.rulesFit [Sqlite] {persisted : Bool} {p : StoredProfile} (h : InOrder persisted p) :
    RulesFit p.rules := by
  obtain ⟨defs, hread, hdef⟩ := h.reads
  obtain ⟨-, hrules⟩ := validateProfileDefinition_ok hdef
  have hids := hread.map_id
  have hdefs := hread.exists_definition
  change RulesOk [] defs at hrules
  refine ⟨fun r hr => ?_, hids ▸ hrules.nodup, fun r hr => ?_⟩
  · obtain ⟨d, hd, hrd⟩ := hdefs r hr
    rw [← (parseRuleOptions_ok hrd).1]
    exact hrules.ids d hd
  · obtain ⟨d, hd, hrd⟩ := hdefs r hr
    obtain ⟨-, hw, hdump⟩ := parseRuleOptions_ok hrd
    refine Sqlite.jsonObject_dump d.options _ hw ?_ hdump
    have : depthMembers d.options ≤ 33 := depthMembers_le fun o ho => by
      obtain ⟨n, hn⟩ := hrules.options d hd o ho
      simpa using validateRuleJson_depth hn
    rw [depth]
    omega

lemma InOrder.validId {persisted : Bool} {p : StoredProfile} (h : InOrder persisted p) :
    isValidProfileId p.profileId = true := by
  obtain ⟨defs, -, hdef⟩ := h.reads
  exact (validateProfileDefinition_ok hdef).1

lemma InOrder.key_pos {p : StoredProfile} (h : InOrder true p) : 0 < p.key := by
  simpa [keyAllowed] using h.key

/-- The keys of stored profiles differ. -/
lemma Accepted.keys_nodup {ps : List StoredProfile} (h : Accepted true ps) :
    (ps.map StoredProfile.key).Nodup := by
  refine h.keys.differ.imp_of_mem fun {a b} ha _ hab => hab ?_
  obtain ⟨p, hp, rfl⟩ := List.mem_map.mp ha
  exact (h.each p hp).key_pos

end Rules

end CcsTrans.Storage
