import CcsTrans.Storage.Parking

/-!
Filling the places: the second half of a save.

Once all rows are parked the profiles are put in their places one after another, and then
the rules of each of them. What is in a place keeps apart from what is parked, and what is
parked belongs to a profile or a rule still to come.
-/

namespace CcsTrans.Storage

open CcsTrans.Text CcsTrans.Json CcsTrans.Config CcsTrans.Storage.Table CcsTrans.Fallible

/-! ### What is written -/

/-- A rule as it is written: with a key that was given, or a new one. -/
structure FillsRule (above : ℤ) (r r' : StoredRule) : Prop where
  same : r' = { r with key := r'.key }
  positive : 0 < r'.key
  own : r.key ≠ 0 → r'.key = r.key
  new : r.key = 0 → above < r'.key

/-- A profile as it is written, with its rules. -/
structure FillsProfile (above aboveRules : ℤ) (p p' : StoredProfile) : Prop where
  same : p' = { p with key := p'.key, rules := p'.rules }
  positive : 0 < p'.key
  own : p.key ≠ 0 → p'.key = p.key
  new : p.key = 0 → above < p'.key
  rules : List.Forall₂ (FillsRule aboveRules) p.rules p'.rules

/-! ### The placements fit -/

lemma profilePlacement_fits : Fits ProfileRow.Ok ProfileRow.Apart profilePlacement
    (fun r => Parked r.profileId r.position) (fun a b => a.profileId ≠ b.profileId)
    (fun p => p.profileId.head?.all isAlnum = true) 1000000 where
  key_make _ _ _ := rfl
  mine_make _ _ _ := rfl
  assign_eq _ _ _ _ := rfl
  ok_make {i a k} _ := by
    refine ⟨by simp [profilePlacement, profileRow], ?_⟩
    cases hb : a.enabled <;> simp [profilePlacement, profileRow, boolInt, hb]
  apart_symm h := ⟨Ne.symm h.1, Ne.symm h.2.1, Ne.symm h.2.2⟩
  apart_waiting {i a k r} hgood hi hw hk := by
    refine ⟨Ne.symm hk, Ne.symm (hw.id_ne hgood), fun he => ?_⟩
    have := hw.2
    simp only [profilePlacement, profileRow] at he
    omega
  apart_others h := by cases h
  apart_placed {i j a b k l} hd hij hkl := by
    refine ⟨hkl, hd, fun he => hij ?_⟩
    simpa [profilePlacement, profileRow] using he

lemma rulePlacement_fits [Library] [Sqlite] (profileKey : ℤ) :
    Fits RuleRow.Ok RuleRow.Apart (rulePlacement profileKey)
    (fun r => Parked r.ruleId r.position) (fun a b => a.ruleId ≠ b.ruleId)
    (fun r => r.ruleId.head?.all isAlnum = true ∧ Sqlite.jsonObject r.optionsJson = true)
    1000000 where
  key_make _ _ _ := rfl
  mine_make _ _ _ := by simp [rulePlacement, ruleRow]
  assign_eq _ _ r h := by
    have : r.profileKey = profileKey := by simpa [rulePlacement] using h
    simp [rulePlacement, this]
  ok_make {i a k} hgood := by
    refine ⟨by simp [rulePlacement, ruleRow], ?_, hgood.2⟩
    cases hb : a.enabled <;> simp [rulePlacement, ruleRow, boolInt, hb]
  apart_symm h := ⟨Ne.symm h.1, fun he => h.2.1 ⟨he.1.symm, he.2.symm⟩,
    fun he => h.2.2 ⟨he.1.symm, he.2.symm⟩⟩
  apart_waiting {i a k r} hgood hi hw hk := by
    refine ⟨Ne.symm hk, fun he => hw.id_ne hgood.1 he.2.symm, fun he => ?_⟩
    have := hw.2
    simp only [rulePlacement, ruleRow] at he
    omega
  apart_others {i a k r} hm hk := by
    have hne : r.profileKey ≠ profileKey := by simpa [rulePlacement] using hm
    exact ⟨Ne.symm hk, fun he => hne he.1.symm, fun he => hne he.1.symm⟩
  apart_placed {i j a b k l} hd hij hkl := by
    refine ⟨hkl, fun he => hd he.2, fun he => hij ?_⟩
    simpa [rulePlacement, ruleRow] using he.2

/-! ### The rules of a profile -/

/-- The items with the keys they were given. -/
def fillRules (rules : List StoredRule) (ks : List ℤ) : List StoredRule :=
  (rules.zip ks).map fun (r, k) => { r with key := k }

def fillProfiles (ps : List StoredProfile) (ks : List ℤ) : List StoredProfile :=
  (ps.zip ks).map fun (p, k) => { p with key := k }

/-- The rows of rules while some profiles still wait for theirs. -/
structure RulesReady (todo : List StoredProfile) (t : Rows RuleRow) : Prop where
  keys : KeysDiffer RuleRow.key t.rows
  rows : ∀ q ∈ todo, ∀ r ∈ t.rows, r.profileKey = q.key →
    Parked r.ruleId r.position ∧ ∃ a ∈ q.rules, a.key ≠ 0 ∧ a.key = r.key
  waiting : ∀ q ∈ todo, ∀ a ∈ q.rules, a.key ≠ 0 →
    ∃ r ∈ t.rows, r.key = a.key ∧ r.profileKey = q.key ∧ Parked r.ruleId r.position

/-- What the rules of a profile must meet before they are written. -/
structure RulesWritable [Library] [Sqlite] (q : StoredProfile) : Prop where
  fit : RulesFit q.rules
  count : q.rules.length ≤ kMaxRulesPerProfile
  keys : ∀ r ∈ q.rules, 0 ≤ r.key
  differ : q.rules.Pairwise fun a b => a.key ≠ 0 → a.key ≠ b.key

lemma forall₂_fillRules {above : ℤ} {rules : List StoredRule} {ks : List ℤ}
    (hlen : ks.length = rules.length)
    (h : ∀ p ∈ rules.zip ks, FillsRule above p.1 { p.1 with key := p.2 }) :
    List.Forall₂ (FillsRule above) rules (fillRules rules ks) := by
  induction rules generalizing ks with
  | nil => simp [fillRules]
  | cons r rules ih =>
    cases ks with
    | nil => simp at hlen
    | cons k ks =>
      rw [List.zip_cons_cons, List.forall_mem_cons] at h
      exact List.Forall₂.cons h.1 (ih (by simpa using hlen) h.2)

lemma mem_ruleRows_fill {profileKey : ℤ} {rules : List StoredRule} {ks : List ℤ} {r : RuleRow} :
    r ∈ ruleRows profileKey 0 (fillRules rules ks) ↔
      ∃ j a k, (rules.zip ks)[j]? = some (a, k) ∧ r = ruleRow profileKey j a k := by
  rw [mem_ruleRows]
  constructor
  · rintro ⟨j, q, hq, rfl⟩
    simp only [fillRules, List.getElem?_map, Option.map_eq_some_iff, Prod.exists] at hq
    obtain ⟨a, k, hz, rfl⟩ := hq
    exact ⟨j, a, k, hz, rfl⟩
  · rintro ⟨j, a, k, hz, rfl⟩
    exact ⟨j, { a with key := k }, by simp [fillRules, hz], rfl⟩

/-- What writing the rules of one profile does. -/
structure RulesWritten (t : Rows RuleRow) (q q' : StoredProfile) (t' : Rows RuleRow) : Prop where
  same : q' = { q with rules := q'.rules }
  fills : List.Forall₂ (FillsRule t.sequence) q.rules q'.rules
  keys : KeysDiffer RuleRow.key t'.rows
  sequence : t.sequence ≤ t'.sequence
  bounded : Bounded RuleRow.key t → Bounded RuleRow.key t'
  mem : ∀ r, r ∈ t'.rows ↔ (r ∈ t.rows ∧ r.profileKey ≠ q.key) ∨ r ∈ ruleRows q.key 0 q'.rules

/-- The other profiles wait as before. -/
lemma RulesReady.next {q q' : StoredProfile} {todo : List StoredProfile} {t t' : Rows RuleRow}
    (h : RulesReady (q :: todo) t) (hne : ∀ p ∈ todo, p.key ≠ q.key)
    (hw : RulesWritten t q q' t') : RulesReady todo t' := by
  refine ⟨hw.keys, fun p hp r hmem hk => ?_, fun p hp a ha h0 => ?_⟩
  · rcases (hw.mem r).mp hmem with ⟨hold, -⟩ | hnew
    · exact h.rows p (by simp [hp]) r hold hk
    · obtain ⟨j, a, -, rfl⟩ := mem_ruleRows.mp hnew
      exact absurd hk.symm (hne p hp)
  · obtain ⟨r, hmem, hk, hpk, hpark⟩ := h.waiting p (by simp [hp]) a ha h0
    exact ⟨r, (hw.mem r).mpr (Or.inl ⟨hmem, hpk ▸ hne p hp⟩), hk, hpk, hpark⟩

/-- What writing the rules of many profiles does. -/
structure AllRulesWritten (t : Rows RuleRow) (qs qs' : List StoredProfile) (t' : Rows RuleRow) :
    Prop where
  fills : List.Forall₂ (fun q q' => q' = { q with rules := q'.rules } ∧
    List.Forall₂ (FillsRule t.sequence) q.rules q'.rules) qs qs'
  keys : KeysDiffer RuleRow.key t'.rows
  sequence : t.sequence ≤ t'.sequence
  bounded : Bounded RuleRow.key t → Bounded RuleRow.key t'
  mem : ∀ r, r ∈ t'.rows ↔ (r ∈ t.rows ∧ r.profileKey ∉ qs.map StoredProfile.key) ∨
    ∃ q ∈ qs', r ∈ ruleRows q.key 0 q.rules

lemma FillsRule.mono {a b : ℤ} (h : a ≤ b) {r r' : StoredRule} (hf : FillsRule b r r') :
    FillsRule a r r' :=
  ⟨hf.same, hf.positive, hf.own, fun h0 => lt_of_le_of_lt h (hf.new h0)⟩

lemma AllRulesWritten.cons {t t₁ t' : Rows RuleRow} {q q' : StoredProfile}
    {qs qs' : List StoredProfile} (hne : ∀ p ∈ qs, p.key ≠ q.key) (h : RulesWritten t q q' t₁)
    (hs : AllRulesWritten t₁ qs qs' t') : AllRulesWritten t (q :: qs) (q' :: qs') t' := by
  have hseq : (t.sequence : ℤ) ≤ t₁.sequence := by exact_mod_cast h.sequence
  have hkey : q'.key = q.key := by rw [h.same]
  refine ⟨List.Forall₂.cons ⟨h.same, h.fills⟩ (hs.fills.imp fun _ _ hf =>
    ⟨hf.1, hf.2.imp fun _ _ => FillsRule.mono hseq⟩), hs.keys, h.sequence.trans hs.sequence,
    fun hb => hs.bounded (h.bounded hb), fun r => ?_⟩
  simp only [hs.mem, h.mem, List.map_cons, List.mem_cons, not_or, exists_eq_or_imp, hkey]
  constructor
  · rintro (⟨⟨hmem, hk⟩ | hnew, hrest⟩ | hlater)
    · exact Or.inl ⟨hmem, hk, hrest⟩
    · exact Or.inr (Or.inl hnew)
    · exact Or.inr (Or.inr hlater)
  · rintro (⟨hmem, hk, hrest⟩ | hnew | hlater)
    · exact Or.inl ⟨Or.inl ⟨hmem, hk⟩, hrest⟩
    · refine Or.inl ⟨Or.inr hnew, fun hmem => ?_⟩
      obtain ⟨j, a, -, rfl⟩ := mem_ruleRows.mp hnew
      obtain ⟨p, hp, hpk⟩ := List.mem_map.mp hmem
      exact hne p hp hpk
    · exact Or.inr hlater

section Write

variable [Library] [Sqlite]

lemma writeRules_eq {t : Tables} {q : StoredProfile} {todo : List StoredProfile}
    (hready : RulesReady (q :: todo) t.rules) (hq : RulesWritable q)
    (hprofile : ∃ r ∈ t.profiles.rows, r.key = q.key) :
    ∃ q' rules, writeRules t q = .ok (q', { t with rules := rules }) ∧
      RulesWritten t.rules q q' rules := by
  have hr : Ready (rulePlacement q.key) (fun r => Parked r.ruleId r.position)
      (fun a b => a.ruleId ≠ b.ruleId) 0 q.rules t.rules := by
    refine ⟨hready.keys, fun r hmem hmine => Or.inl ?_, fun a ha h0 => ?_⟩
    · exact hready.rows q (by simp) r hmem (by simpa [rulePlacement] using hmine)
    · obtain ⟨r, hmem, hk, hp, hw⟩ := hready.waiting q (by simp) a ha h0
      exact ⟨r, hmem, hk, by simpa [rulePlacement] using hp, hw⟩
  have hdiff : q.rules.Pairwise fun a b => b.ruleId ≠ a.ruleId :=
    (List.pairwise_map.mp hq.fit.nodup).imp Ne.symm
  have hcount := hq.count
  unfold kMaxRulesPerProfile at hcount
  obtain ⟨ks, rules, hplace, hall⟩ := placeAll_spec (rulePlacement_fits q.key) hr
    (fun a ha => ⟨validStableId_head (hq.fit.ids a ha), hq.fit.json a ha⟩) (by omega) hdiff
    hq.keys hq.differ
  have hthere : t.profiles.rows.any (fun r => r.key == q.key) = true := by
    obtain ⟨r, hmem, hk⟩ := hprofile
    exact List.any_eq_true.mpr ⟨r, hmem, by simpa using hk⟩
  refine ⟨{ q with rules := fillRules q.rules ks }, rules, ?_, ?_⟩
  · simp only [writeRules, hthere, Bool.not_true, Bool.and_false, Bool.false_eq_true, if_false,
      hplace]
    rfl
  · refine ⟨rfl, forall₂_fillRules hall.length fun p hp => ⟨rfl, ?_, hall.own p hp, hall.new p hp⟩,
      hall.keys, hall.sequence, hall.bounded, fun r => ?_⟩
    · exact hall.positive _ (List.of_mem_zip hp).2
    · rw [hall.mem r, mem_ruleRows_fill]
      refine or_congr (and_congr_right fun hmem => ?_) ?_
      · rw [hall.stays hr hmem]
        simp [rulePlacement]
      · simp only [Nat.zero_add]
        rfl

/-- The rules of all profiles find their places. -/
lemma writeAllRules_eq {t : Tables} {qs : List StoredProfile} (hready : RulesReady qs t.rules)
    (hqs : ∀ q ∈ qs, RulesWritable q) (hkeys : (qs.map StoredProfile.key).Nodup)
    (hprofile : ∀ q ∈ qs, ∃ r ∈ t.profiles.rows, r.key = q.key) :
    ∃ qs' rules, writeAllRules t qs = .ok (qs', { t with rules := rules }) ∧
      AllRulesWritten t.rules qs qs' rules := by
  induction qs generalizing t with
  | nil =>
    exact ⟨[], t.rules, rfl, List.Forall₂.nil, hready.keys, le_rfl, id, by simp⟩
  | cons q qs ih =>
    rw [List.forall_mem_cons] at hqs hprofile
    rw [List.map_cons, List.nodup_cons] at hkeys
    have hne : ∀ p ∈ qs, p.key ≠ q.key := fun p hp he => hkeys.1 (he ▸ List.mem_map_of_mem hp)
    obtain ⟨q', rules₁, hwrite, hw⟩ := writeRules_eq hready hqs.1 hprofile.1
    obtain ⟨qs', rules, hrest, hall⟩ := ih (t := { t with rules := rules₁ }) (hready.next hne hw)
      hqs.2 hkeys.2 hprofile.2
    refine ⟨q' :: qs', rules, ?_, hall.cons hne hw⟩
    simp only [writeAllRules, hwrite, ok_bind, hrest, pure_eq_ok]

end Write

end CcsTrans.Storage
