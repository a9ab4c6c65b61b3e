import CcsTrans.Storage.Placing

/-!
A save is exact.

Whatever the desired snapshot renames, swaps, reorders, deletes and adds, its statements
meet every constraint on the way, and what is read back is what was desired, with new keys
where it had none.
-/

namespace CcsTrans.Storage

open CcsTrans.Text CcsTrans.Json CcsTrans.Config CcsTrans.Storage.Table CcsTrans.Fallible

section Exact

variable [Library] [Sqlite]

/-! ### The desired snapshot -/

/-- The desired profiles are acceptable, and their keys are those of what is stored. -/
structure Desirable (current desired : List StoredProfile) : Prop where
  accepted : Accepted false desired
  profiles : ∀ p ∈ desired, 0 < p.key → p.key ∈ current.map StoredProfile.key
  rules : ∀ p ∈ desired, ∀ r ∈ p.rules, 0 < r.key →
    ∃ q ∈ current, q.key = p.key ∧ r.key ∈ q.rules.map StoredRule.key

omit [Sqlite] in
lemma InOrder.key_nonneg {p : StoredProfile} (h : InOrder false p) : 0 ≤ p.key := by
  simpa [keyAllowed] using h.key

omit [Sqlite] in
lemma InOrder.rule_nonneg {p : StoredProfile} (h : InOrder false p) {r : StoredRule}
    (hr : r ∈ p.rules) : 0 ≤ r.key := by
  obtain ⟨defs, hread, -⟩ := h.reads
  simpa [keyAllowed] using hread.keys r hr

omit [Library] [Sqlite] in
lemma mem_existingRules {current : ProfileStoreSnapshot} {k pk : ℤ} :
    (k, pk) ∈ existingRules current ↔
      ∃ q ∈ current.profiles, q.key = pk ∧ k ∈ q.rules.map StoredRule.key := by
  simp only [existingRules, List.mem_flatMap, List.mem_map, Prod.mk.injEq]
  constructor
  · rintro ⟨q, hq, r, hr, rfl, rfl⟩
    exact ⟨q, hq, rfl, r, hr, rfl⟩
  · rintro ⟨q, hq, rfl, r, hr, rfl⟩
    exact ⟨q, hq, r, hr, rfl, rfl⟩

omit [Sqlite] in
lemma Desirable.checkKeys_eq {current : ProfileStoreSnapshot} {desired : List StoredProfile}
    (hcur : Accepted true current.profiles) (h : Desirable current.profiles desired) :
    checkKeys current desired = .ok () := by
  have hprofiles := h.profiles
  have hrules : ∀ p ∈ desired, p.rules.all (ruleKeyBelongs (existingRules current) p) = true := by
    intro p hp
    refine List.all_eq_true.mpr fun r hr => ?_
    unfold ruleKeyBelongs
    rcases ((h.accepted.each p hp).rule_nonneg hr).eq_or_lt with h0 | h0
    · simp [← h0]
    · obtain ⟨q, hq, hqk, hk⟩ := h.rules p hp r hr h0
      have hpos := (hcur.each q hq).key_pos
      have hmem : (r.key, p.key) ∈ existingRules current :=
        mem_existingRules.mpr ⟨q, hq, hqk, hk⟩
      simp only [Bool.or_eq_true, Bool.and_eq_true, bne_iff_ne, List.contains_iff_mem]
      exact Or.inr ⟨by omega, hmem⟩
  clear h
  induction desired with
  | nil => rfl
  | cons p ps ih =>
    rw [List.forall_mem_cons] at hprofiles hrules
    rw [checkKeys, if_neg (fun hn => hn.2 (hprofiles.1 hn.1)), hrules.1]
    simpa using ih hprofiles.2 hrules.2

/-! ### The profiles -/

/-- The rows when everything is parked and the unwanted is gone. -/
structure Cleared (desired : List StoredProfile) (t : Tables) : Prop where
  profileKeys : KeysDiffer ProfileRow.key t.profiles.rows
  ruleKeys : KeysDiffer RuleRow.key t.rules.rows
  profiles : ∀ r ∈ t.profiles.rows, Parked r.profileId r.position ∧
    ∃ p ∈ desired, p.key ≠ 0 ∧ p.key = r.key
  profileRow : ∀ p ∈ desired, p.key ≠ 0 → ∃ r ∈ t.profiles.rows, r.key = p.key
  rules : ∀ r ∈ t.rules.rows, Parked r.ruleId r.position ∧
    ∃ p ∈ desired, p.key ≠ 0 ∧ p.key = r.profileKey ∧ ∃ a ∈ p.rules, a.key ≠ 0 ∧ a.key = r.key
  ruleRow : ∀ p ∈ desired, ∀ a ∈ p.rules, a.key ≠ 0 →
    p.key ≠ 0 ∧ ∃ r ∈ t.rules.rows, r.key = a.key ∧ r.profileKey = p.key

omit [Library] [Sqlite] in
lemma deleteUnwanted_eq (current desired : ProfileStoreSnapshot) (t : Tables) :
    deleteUnwanted current desired t = { t with
      profiles := { t.profiles with
        rows := t.profiles.rows.filter fun r => r.key ∉ unwantedProfiles current desired },
      rules := { t.rules with
        rows := (t.rules.rows.filter fun r => r.key ∉ unwantedRules current desired).filter
          fun r => r.profileKey ∉ unwantedProfiles current desired } } := by
  simp only [deleteUnwanted, foldl_deleteRule, foldl_deleteProfile]

omit [Library] [Sqlite] in
lemma mem_desiredProfileKeys {desired : ProfileStoreSnapshot} {k : ℤ} :
    k ∈ desiredProfileKeys desired ↔ 0 < k ∧ ∃ p ∈ desired.profiles, p.key = k := by
  simp [desiredProfileKeys, and_comm]

omit [Library] [Sqlite] in
lemma mem_desiredRuleKeys {desired : ProfileStoreSnapshot} {k : ℤ} :
    k ∈ desiredRuleKeys desired ↔ k ≠ 0 ∧ ∃ p ∈ desired.profiles, ∃ a ∈ p.rules, a.key = k := by
  simp only [desiredRuleKeys, List.mem_flatMap, List.mem_filter, List.mem_map,
    decide_eq_true_eq]
  constructor
  · rintro ⟨p, hp, ⟨a, ha, hk⟩, h0⟩
    exact ⟨h0, p, hp, a, ha, hk⟩
  · rintro ⟨h0, p, hp, a, ha, hk⟩
    exact ⟨p, hp, ⟨a, ha, hk⟩, h0⟩

omit [Library] [Sqlite] in
/-- A row of a stored rule. -/
lemma Stores.rule_mem {t : Tables} {ps : List StoredProfile} (hs : Stores t ps) {q : StoredProfile}
    (hq : q ∈ ps) {k : ℤ} (hk : k ∈ q.rules.map StoredRule.key) :
    ∃ r ∈ t.rules.rows, r.key = k ∧ r.profileKey = q.key := by
  obtain ⟨a, ha, rfl⟩ := List.mem_map.mp hk
  obtain ⟨j, hj⟩ := List.getElem?_of_mem ha
  exact ⟨_, (hs.rules _).mpr ⟨q, hq, mem_ruleRows.mpr ⟨j, a, hj, rfl⟩⟩, rfl, rfl⟩

omit [Library] [Sqlite] in
lemma Stores.profile_mem {t : Tables} {ps : List StoredProfile} (hs : Stores t ps) {k : ℤ}
    (hk : k ∈ ps.map StoredProfile.key) : ∃ r ∈ t.profiles.rows, r.key = k := by
  obtain ⟨p, hp, rfl⟩ := List.mem_map.mp hk
  obtain ⟨i, hi⟩ := List.getElem?_of_mem hp
  exact ⟨_, (hs.profiles _).mpr (mem_profileRows.mpr ⟨i, p, hi, rfl⟩), rfl⟩

/-- Parking and deleting clear the way. -/
lemma cleared {t : Tables} {current desired : ProfileStoreSnapshot} (ht : t.Valid)
    (hs : Stores t current.profiles) (hcur : Accepted true current.profiles)
    (h : Desirable current.profiles desired.profiles) :
    Cleared desired.profiles (deleteUnwanted current desired (parked t)) := by
  rw [deleteUnwanted_eq]
  have hprofileKeys : KeysDiffer ProfileRow.key (t.profiles.rows.map tempProfile) :=
    List.pairwise_map.mpr hs.profileKeys
  have hruleKeys : KeysDiffer RuleRow.key (t.rules.rows.map tempRule) :=
    List.pairwise_map.mpr hs.ruleKeys
  refine ⟨hprofileKeys.filter _, (hruleKeys.filter _).filter _, fun r hr => ?_, fun p hp h0 => ?_,
    fun r hr => ?_, fun p hp a ha h0 => ?_⟩
  · obtain ⟨hr, hkeep⟩ := List.mem_filter.mp hr
    obtain ⟨x, hx, rfl⟩ := List.mem_map.mp hr
    refine ⟨parked_tempProfile (ht.profilesOk x hx).1, ?_⟩
    obtain ⟨i, p, hp, rfl⟩ := mem_profileRows.mp ((hs.profiles x).mp hx)
    have hmem := List.mem_map_of_mem (f := StoredProfile.key) (List.mem_of_getElem? hp)
    have hkeep : p.key ∈ desiredProfileKeys desired := by
      by_contra hn
      exact of_decide_eq_true hkeep (List.mem_filter.mpr ⟨hmem, decide_eq_true hn⟩)
    obtain ⟨hpos, d, hd, hdk⟩ := mem_desiredProfileKeys.mp hkeep
    exact ⟨d, hd, by omega, hdk⟩
  · have hpos : 0 < p.key := lt_of_le_of_ne (h.accepted.each p hp).key_nonneg (Ne.symm h0)
    obtain ⟨x, hx, hxk⟩ := hs.profile_mem (h.profiles p hp hpos)
    refine ⟨tempProfile x, List.mem_filter.mpr ⟨List.mem_map_of_mem hx, decide_eq_true ?_⟩, hxk⟩
    intro hdel
    have := of_decide_eq_true (List.mem_filter.mp hdel).2
    exact this (mem_desiredProfileKeys.mpr ⟨by rw [show (tempProfile x).key = p.key from hxk]; exact hpos,
      p, hp, hxk.symm⟩)
  · obtain ⟨hr, -⟩ := List.mem_filter.mp hr
    obtain ⟨hr, hkeep⟩ := List.mem_filter.mp hr
    obtain ⟨x, hx, rfl⟩ := List.mem_map.mp hr
    refine ⟨parked_tempRule (ht.rulesOk x hx).1, ?_⟩
    obtain ⟨q, hq, hxq⟩ := (hs.rules x).mp hx
    obtain ⟨j, a, ha, rfl⟩ := mem_ruleRows.mp hxq
    have hmem : a.key ∈ (existingRules current).map Prod.fst := List.mem_map.mpr
      ⟨(a.key, q.key), mem_existingRules.mpr ⟨q, hq, rfl,
        List.mem_map_of_mem (List.mem_of_getElem? ha)⟩, rfl⟩
    have hkeep : a.key ∈ desiredRuleKeys desired := by
      by_contra hn
      exact of_decide_eq_true hkeep (List.mem_filter.mpr ⟨hmem, decide_eq_true hn⟩)
    obtain ⟨h0, d, hd, b, hb, hbk⟩ := mem_desiredRuleKeys.mp hkeep
    have hbpos : 0 < b.key :=
      lt_of_le_of_ne ((h.accepted.each d hd).rule_nonneg hb) (by omega)
    obtain ⟨q', hq', hqd, hk'⟩ := h.rules d hd b hb hbpos
    obtain ⟨y, hy, hyk, hyp⟩ := hs.rule_mem hq' hk'
    -- the key belongs to one profile only
    have hyx : y = _ := hs.ruleKeys.eq_of_key hy hx (hyk.trans hbk)
    have hqq : q.key = d.key := by rw [← hqd, ← hyp, hyx]; rfl
    have := (hcur.each q hq).key_pos
    exact ⟨d, hd, by omega, hqq.symm, b, hb, by omega, hbk⟩
  · have hpos : 0 < a.key :=
      lt_of_le_of_ne ((h.accepted.each p hp).rule_nonneg ha) (Ne.symm h0)
    obtain ⟨q, hq, hqk, hk⟩ := h.rules p hp a ha hpos
    have hqpos := (hcur.each q hq).key_pos
    obtain ⟨x, hx, hxk, hxp⟩ := hs.rule_mem hq hk
    refine ⟨by omega, tempRule x, List.mem_filter.mpr ⟨List.mem_filter.mpr
      ⟨List.mem_map_of_mem hx, decide_eq_true fun hdel => ?_⟩, decide_eq_true fun hdel => ?_⟩,
      hxk, hxp.trans hqk⟩
    · refine of_decide_eq_true (List.mem_filter.mp hdel).2 (mem_desiredRuleKeys.mpr ?_)
      rw [show (tempRule x).key = a.key from hxk]
      exact ⟨h0, p, hp, a, ha, rfl⟩
    · refine of_decide_eq_true (List.mem_filter.mp hdel).2 (mem_desiredProfileKeys.mpr ?_)
      rw [show (tempRule x).profileKey = p.key from hxp.trans hqk]
      exact ⟨by omega, p, hp, rfl⟩

/-! ### Writing -/

omit [Library] [Sqlite] in
lemma mem_profileRows_fill {ps : List StoredProfile} {ks : List ℤ} {r : ProfileRow} :
    r ∈ profileRows 0 (fillProfiles ps ks) ↔
      ∃ j a k, (ps.zip ks)[j]? = some (a, k) ∧ r = Storage.profileRow j a k := by
  rw [mem_profileRows]
  constructor
  · rintro ⟨j, q, hq, rfl⟩
    simp only [fillProfiles, List.getElem?_map, Option.map_eq_some_iff, Prod.exists] at hq
    obtain ⟨a, k, hz, rfl⟩ := hq
    exact ⟨j, a, k, hz, rfl⟩
  · rintro ⟨j, a, k, hz, rfl⟩
    exact ⟨j, { a with key := k }, by simp [fillProfiles, hz], rfl⟩

omit [Library] [Sqlite] in
lemma map_key_fillProfiles {ps : List StoredProfile} {ks : List ℤ} (h : ks.length = ps.length) :
    (fillProfiles ps ks).map StoredProfile.key = ks := by
  induction ps generalizing ks with
  | nil => simp_all [fillProfiles]
  | cons p ps ih =>
    cases ks with
    | nil => simp at h
    | cons k ks =>
      have : (fillProfiles ps ks).map StoredProfile.key = ks := ih (by simpa using h)
      simp only [fillProfiles, List.zip_cons_cons, List.map_cons] at this ⊢
      rw [this]

omit [Library] [Sqlite] in
/-- Profiles that are given their keys, and then their rules. -/
lemma forall₂_of_fillProfiles {R G : StoredProfile → StoredProfile → Prop}
    {ps qs' : List StoredProfile} {ks : List ℤ} (hlen : ks.length = ps.length)
    (hG : List.Forall₂ G (fillProfiles ps ks) qs')
    (h : ∀ p ∈ ps.zip ks, ∀ q, G { p.1 with key := p.2 } q → R p.1 q) :
    List.Forall₂ R ps qs' := by
  induction ps generalizing ks qs' with
  | nil =>
    cases hG
    exact List.Forall₂.nil
  | cons p ps ih =>
    cases ks with
    | nil => simp at hlen
    | cons k ks =>
      rw [List.zip_cons_cons, List.forall_mem_cons] at h
      cases hG with
      | cons hq hrest => exact List.Forall₂.cons (h.1 _ hq) (ih (by simpa using hlen) hrest h.2)

omit [Library] [Sqlite] in
lemma profileRows_of_forall₂ {R : StoredProfile → StoredProfile → Prop}
    {ps ps' : List StoredProfile} (h : List.Forall₂ R ps ps')
    (hR : ∀ p p', R p p' → p' = { p with rules := p'.rules }) (i : ℕ) :
    profileRows i ps' = profileRows i ps := by
  induction h generalizing i with
  | nil => rfl
  | @cons p p' _ _ hp _ ih =>
    simp only [profileRows, List.zipIdx_cons, List.map_cons] at ih ⊢
    rw [ih (i + 1), hR p p' hp]
    rfl

omit [Sqlite] in
/-- Of the desired profiles one has a given key. -/
lemma Accepted.eq_of_key {ps : List StoredProfile} {b : Bool} (h : Accepted b ps)
    {p q : StoredProfile} (hp : p ∈ ps) (hq : q ∈ ps) (h0 : 0 < p.key) (hk : p.key = q.key) :
    p = q := by
  have hpairs : ps.Pairwise fun a b => 0 < a.key → a.key ≠ b.key := List.pairwise_map.mp h.keys.differ
  have : Std.Symm fun a b : StoredProfile => 0 < a.key → a.key ≠ b.key :=
    ⟨fun a b hab hb he => hab (he ▸ hb) he.symm⟩
  by_contra hne
  exact List.Pairwise.forall hpairs hp hq hne h0 hk

lemma Accepted.rulesWritable {ps : List StoredProfile} (h : Accepted false ps) {p : StoredProfile}
    (hp : p ∈ ps) (k : ℤ) : RulesWritable { p with key := k } := by
  have hin := h.each p hp
  have hpos : ∀ r ∈ p.rules, 0 ≤ r.key := fun r hr => hin.rule_nonneg hr
  refine ⟨hin.rulesFit, hin.count, hpos, ?_⟩
  have hdiff := (List.pairwise_flatMap.mp h.ruleKeys.differ).1 p hp
  exact (List.pairwise_map.mp hdiff).imp_of_mem fun {a b} ha _ hab h0 =>
    hab (lt_of_le_of_ne (hpos a ha) (Ne.symm h0))

/-- What a save has written. -/
structure Written (t : Tables) (desired ps : List StoredProfile) (t' : Tables) : Prop where
  fills : List.Forall₂ (FillsProfile t.profiles.sequence t.rules.sequence) desired ps
  stores : Stores t' ps
  repository : t'.repository = t.repository
  profileSequence : Bounded ProfileRow.key t.profiles → Bounded ProfileRow.key t'.profiles
  ruleSequence : Bounded RuleRow.key t.rules → Bounded RuleRow.key t'.rules

/-- Profiles and rules find their places. -/
lemma writeProfiles_eq {t : Tables} {desired : List StoredProfile} (hc : Cleared desired t)
    (h : Accepted false desired) :
    ∃ ps t', writeProfiles t desired = .ok (ps, t') ∧ Written t desired ps t' := by
  have hr : Ready profilePlacement (fun r => Parked r.profileId r.position)
      (fun a b => a.profileId ≠ b.profileId) 0 desired t.profiles := by
    refine ⟨hc.profileKeys, fun r hmem _ => Or.inl (hc.profiles r hmem), fun p hp h0 => ?_⟩
    obtain ⟨r, hmem, hk⟩ := hc.profileRow p hp h0
    exact ⟨r, hmem, hk, rfl, (hc.profiles r hmem).1⟩
  have hcount := h.count
  unfold kMaxConfigProfiles at hcount
  have hkeys : ItemKeysDiffer profilePlacement desired := by
    refine (List.pairwise_map.mp h.keys.differ).imp_of_mem fun {a b} ha _ hab h0 => hab ?_
    exact lt_of_le_of_ne (h.each a ha).key_nonneg (Ne.symm h0)
  obtain ⟨ks, rows, hplace, hall⟩ := placeAll_spec profilePlacement_fits hr
    (fun p hp => validStableId_head (h.each p hp).validId) (by omega)
    ((List.pairwise_map.mp h.ids).imp Ne.symm) (fun p hp => (h.each p hp).key_nonneg) hkeys
  have hrows : ∀ r, r ∈ rows.rows ↔ r ∈ profileRows 0 (fillProfiles desired ks) := by
    intro r
    rw [hall.mem r, mem_profileRows_fill]
    constructor
    · rintro (⟨hmem, hk⟩ | ⟨j, a, k, hz, rfl⟩)
      · exact absurd ((hall.stays hr hmem).mp hk) (by simp [profilePlacement])
      · exact ⟨j, a, k, hz, by rw [Nat.zero_add]; rfl⟩
    · rintro ⟨j, a, k, hz, rfl⟩
      exact Or.inr ⟨j, a, k, hz, by rw [Nat.zero_add]; rfl⟩
  have hmapKey := map_key_fillProfiles hall.length
  have hfill : ∀ q ∈ fillProfiles desired ks, ∃ p k, (p, k) ∈ desired.zip ks ∧ q = { p with key := k } := by
    intro q hq
    obtain ⟨⟨p, k⟩, hz, rfl⟩ := List.mem_map.mp hq
    exact ⟨p, k, hz, rfl⟩
  have hready : RulesReady (fillProfiles desired ks) t.rules := by
    refine ⟨hc.ruleKeys, fun q hq r hmem hk => ?_, fun q hq a ha h0 => ?_⟩
    · obtain ⟨p, k, hz, rfl⟩ := hfill q hq
      have hp := (List.of_mem_zip hz).1
      obtain ⟨hpark, p', hp', h0, hpk, a, ha, ha0, hak⟩ := hc.rules r hmem
      refine ⟨hpark, a, ?_, ha0, hak⟩
      -- the profile of the row is this one, and not one that was just given its key
      have hpp : p' = p := by
        by_cases hp0 : p.key = 0
        · obtain ⟨x, hx, hxk⟩ := hc.profileRow p' hp' h0
          exact absurd (hxk.trans (hpk.trans hk)) (hall.fresh _ hz hp0 x hx)
        · have hkp : k = p.key := hall.own _ hz hp0
          have hpos : 0 < p'.key := lt_of_le_of_ne (h.each p' hp').key_nonneg (Ne.symm h0)
          exact h.eq_of_key hp' hp hpos (hpk.trans (hk.trans hkp))
      rw [← hpp]
      exact ha
    · obtain ⟨p, k, hz, rfl⟩ := hfill q hq
      obtain ⟨hp0, r, hmem, hrk, hrp⟩ := hc.ruleRow p (List.of_mem_zip hz).1 a ha h0
      exact ⟨r, hmem, hrk, hrp.trans (hall.own _ hz hp0).symm, (hc.rules r hmem).1⟩
  obtain ⟨ps, rules, hwrite, hw⟩ := writeAllRules_eq (t := { t with profiles := rows }) hready
    (fun q hq => by
      obtain ⟨p, k, hz, rfl⟩ := hfill q hq
      exact h.rulesWritable (List.of_mem_zip hz).1 k)
    (by rw [hmapKey]; exact hall.nodup)
    (fun q hq => by
      obtain ⟨i, hi⟩ := List.getElem?_of_mem hq
      exact ⟨_, (hrows _).mpr (mem_profileRows.mpr ⟨i, q, hi, rfl⟩), rfl⟩)
  have hsame : profileRows 0 ps = profileRows 0 (fillProfiles desired ks) :=
    profileRows_of_forall₂ hw.fills (fun _ _ hf => hf.1) 0
  refine ⟨ps, { t with profiles := rows, rules := rules }, ?_, ?_, ?_, rfl, hall.bounded, hw.bounded⟩
  · simp only [writeProfiles, hplace]
    exact hwrite
  · refine forall₂_of_fillProfiles hall.length hw.fills fun z hz q hq => ?_
    obtain ⟨p, k⟩ := z
    have hqk : q.key = k := by rw [hq.1]
    refine ⟨?_, ?_, fun h0 => ?_, fun h0 => ?_, hq.2⟩
    · rw [hq.1]
    · rw [hqk]
      exact hall.positive _ (List.of_mem_zip hz).2
    · rw [hqk]
      exact hall.own _ hz h0
    · rw [hqk]
      exact hall.new _ hz h0
  · refine ⟨hall.keys, hw.keys, fun r => by rw [hsame]; exact hrows r, fun r => ?_⟩
    rw [hw.mem r]
    refine or_iff_right fun hstays => ?_
    obtain ⟨hmem, hk⟩ := hstays
    refine hk ?_
    obtain ⟨-, p, hp, h0, hpk, -⟩ := hc.rules r hmem
    obtain ⟨x, hx, hxk⟩ := hc.profileRow p hp h0
    rw [hmapKey, ← hpk, ← hxk]
    by_contra hn
    exact absurd ((hall.stays hr hx).mp hn) (by simp [profilePlacement])

/-! ### What is written is acceptable -/

omit [Sqlite] in
lemma RulesRead.fills {above : ℤ} {rules rules' : List StoredRule} {defs : List RuleDefinition}
    (hf : List.Forall₂ (FillsRule above) rules rules') (h : RulesRead false rules defs) :
    RulesRead true rules' defs := by
  obtain ⟨-, hreads⟩ := h
  induction hf generalizing defs with
  | nil => exact ⟨by simp, hreads⟩
  | @cons r r' _ _ hr _ ih =>
    cases hreads with
    | cons hd hrest =>
      have hrec := ih hrest
      refine ⟨List.forall_mem_cons.mpr ⟨by simpa [keyAllowed] using hr.positive, hrec.keys⟩,
        List.Forall₂.cons ?_ hrec.reads⟩
      rw [hr.same]
      exact hd

omit [Library] [Sqlite] in
lemma map_eq_of_forall₂ {α β γ : Type} {R : α → β → Prop} {f : α → γ} {g : β → γ} {xs : List α}
    {ys : List β} (h : List.Forall₂ R xs ys) (hR : ∀ x y, R x y → g y = f x) :
    ys.map g = xs.map f := by
  induction h with
  | nil => rfl
  | cons hx _ ih => rw [List.map_cons, List.map_cons, ih, hR _ _ hx]

omit [Library] [Sqlite] in
lemma FillsProfile.rule_sizes {a b : ℤ} {p p' : StoredProfile} (h : FillsProfile a b p p') :
    p'.rules.map StoredRule.size = p.rules.map StoredRule.size :=
  map_eq_of_forall₂ h.rules fun r r' hr => by rw [hr.same]; rfl

omit [Library] [Sqlite] in
lemma FillsProfile.size_eq {a b : ℤ} {p p' : StoredProfile} (h : FillsProfile a b p p') :
    p'.size = p.size := by
  unfold StoredProfile.size
  rw [h.rule_sizes, h.same]
  rfl

omit [Sqlite] in
lemma InOrder.fills {a b : ℤ} {p p' : StoredProfile} (hp : InOrder false p)
    (h : FillsProfile a b p p') : InOrder true p' := by
  obtain ⟨defs, hread, hdef⟩ := hp.reads
  have hlen : p'.rules.length = p.rules.length := h.rules.length_eq.symm
  have hhead : p'.headSize = p.headSize := by rw [h.same]; rfl
  refine ⟨by simpa [keyAllowed] using h.positive, by rw [hlen]; exact hp.count, fun hne => ?_,
    defs, hread.fills h.rules, ?_⟩
  · rw [h.rule_sizes, hhead]
    refine hp.size fun hnil => hne ?_
    rw [← List.length_eq_zero_iff, hlen, hnil]
    rfl
  · rw [h.same]
    exact hdef

omit [Library] [Sqlite] in
/-- The keys of the rules that are stored differ. -/
lemma Stores.ruleKeys_nodup {t : Tables} {ps : List StoredProfile} (hs : Stores t ps)
    (hkeys : (ps.map StoredProfile.key).Nodup) :
    (ps.flatMap fun p => p.rules.map StoredRule.key).Nodup := by
  have hmem : ∀ p ∈ ps, ∀ r ∈ ruleRows p.key 0 p.rules, r ∈ t.rules.rows :=
    fun p hp r hr => (hs.rules r).mpr ⟨p, hp, hr⟩
  have hkey : ∀ p : StoredProfile, p.rules.map StoredRule.key =
      (ruleRows p.key 0 p.rules).map RuleRow.key := by
    intro p
    simp only [ruleRows, List.map_map]
    conv_lhs => rw [← List.zipIdx_map_fst 0 p.rules, List.map_map]
    rfl
  refine List.nodup_flatMap.mpr ⟨fun p hp => ?_, ?_⟩
  · rw [hkey]
    refine List.pairwise_map.mpr ((ruleRows_sorted p.key 0 p.rules).imp_of_mem ?_)
    intro a b ha hb hlt he
    have := hs.ruleKeys.eq_of_key (hmem p hp a ha) (hmem p hp b hb) he
    rw [this] at hlt
    exact lt_irrefl _ hlt
  · refine (List.pairwise_map.mp hkeys).imp_of_mem fun {p q} hp hq hne => ?_
    intro k hk hk'
    obtain ⟨x, hx, hxk, hxp⟩ := hs.rule_mem hp hk
    obtain ⟨y, hy, hyk, hyq⟩ := hs.rule_mem hq hk'
    have hxy := hs.ruleKeys.eq_of_key hx hy (hxk.trans hyk.symm)
    exact hne (hxp.symm.trans (hxy ▸ hyq))

omit [Library] [Sqlite] in
/-- The keys of the profiles that are stored differ. -/
lemma Stores.keys_nodup {t : Tables} {ps : List StoredProfile} (hs : Stores t ps) :
    (ps.map StoredProfile.key).Nodup := by
  have hkey : ps.map StoredProfile.key = (profileRows 0 ps).map ProfileRow.key := by
    simp only [profileRows, List.map_map]
    conv_lhs => rw [← List.zipIdx_map_fst 0 ps, List.map_map]
    rfl
  rw [hkey]
  refine List.pairwise_map.mpr ((profileRows_sorted 0 ps).imp_of_mem ?_)
  intro a b ha hb hlt he
  have := hs.profileKeys.eq_of_key ((hs.profiles a).mpr ha) ((hs.profiles b).mpr hb) he
  rw [this] at hlt
  exact lt_irrefl _ hlt

omit [Library] [Sqlite] in
lemma keysFresh_of_nodup {ks : List ℤ} (h : ks.Nodup) : KeysFresh [] ks := by
  refine ⟨by simp, List.Pairwise.imp ?_ h⟩
  intro a b hne _
  exact hne

omit [Sqlite] in
lemma Written.accepted {t t' : Tables} {desired ps : List StoredProfile}
    (h : Written t desired ps t') (hd : Accepted false desired) : Accepted true ps := by
  have hkeys := h.stores.keys_nodup
  refine ⟨?_, fun p' hp' => ?_, ?_, keysFresh_of_nodup hkeys,
    keysFresh_of_nodup (h.stores.ruleKeys_nodup hkeys), ?_, ?_⟩
  · rw [← h.fills.length_eq]
    exact hd.count
  · obtain ⟨i, hi, rfl⟩ := List.getElem_of_mem hp'
    have hi' : i < desired.length := h.fills.length_eq ▸ hi
    exact (hd.each _ (List.getElem_mem hi')).fills (h.fills.get hi' hi)
  · rw [map_eq_of_forall₂ (g := StoredProfile.profileId) h.fills fun p p' hp => by rw [hp.same]]
    exact hd.ids
  · rw [map_eq_of_forall₂ (g := StoredProfile.size) h.fills fun p p' hp => hp.size_eq]
    exact hd.payload
  · rw [map_eq_of_forall₂ (f := StoredProfile.routeCount) (g := StoredProfile.routeCount) h.fills
      fun p p' hp => by rw [hp.same]; rfl]
    exact hd.routes

/-- Tables that hold acceptable profiles meet the schema. -/
lemma Stores.valid {t : Tables} {ps : List StoredProfile} (hs : Stores t ps) (hps : Accepted true ps)
    (hrev : 0 ≤ t.repository.revision) (hp : Bounded ProfileRow.key t.profiles)
    (hr : Bounded RuleRow.key t.rules) : t.Valid := by
  have hbool : ∀ b : Bool, boolInt b = 0 ∨ boolInt b = 1 := by decide
  refine ⟨?_, fun r hr => ?_, ?_, fun r hr => ?_, fun r hr => ?_, hrev, hp, hr⟩
  · refine hs.profileKeys.imp_of_mem fun {a b} ha hb hne => ?_
    obtain ⟨i, p, hp, rfl⟩ := mem_profileRows.mp ((hs.profiles a).mp ha)
    obtain ⟨j, q, hq, rfl⟩ := mem_profileRows.mp ((hs.profiles b).mp hb)
    refine ⟨hne, fun he => hne ?_, fun he => hne ?_⟩
    · have hpq : p = q := List.inj_on_of_nodup_map hps.ids (List.mem_of_getElem? hp)
        (List.mem_of_getElem? hq) he
      rw [hpq]
      rfl
    · have hij : i = j := by simpa [Storage.profileRow] using he
      subst hij
      rw [hp] at hq
      cases hq
      rfl
  · obtain ⟨i, p, hp, rfl⟩ := mem_profileRows.mp ((hs.profiles r).mp hr)
    exact ⟨by simp [Storage.profileRow], hbool p.enabled⟩
  · refine hs.ruleKeys.imp_of_mem fun {a b} ha hb hne => ?_
    obtain ⟨p, hp, ha⟩ := (hs.rules a).mp ha
    obtain ⟨q, hq, hb⟩ := (hs.rules b).mp hb
    obtain ⟨i, x, hx, rfl⟩ := mem_ruleRows.mp ha
    obtain ⟨j, y, hy, rfl⟩ := mem_ruleRows.mp hb
    have hpq : p.key = q.key → p = q := fun he => List.inj_on_of_nodup_map hps.keys_nodup hp hq he
    refine ⟨hne, fun hboth => hne ?_, fun hboth => hne ?_⟩
    · obtain ⟨he, hid⟩ := hboth
      cases hpq he
      have hxy : x = y := List.inj_on_of_nodup_map (hps.each p hp).rulesFit.nodup
        (List.mem_of_getElem? hx) (List.mem_of_getElem? hy) hid
      rw [hxy]
      rfl
    · obtain ⟨he, hpos⟩ := hboth
      cases hpq he
      have hij : i = j := by simpa [Storage.ruleRow] using hpos
      subst hij
      rw [hx] at hy
      cases hy
      rfl
  · obtain ⟨p, hp, hr⟩ := (hs.rules r).mp hr
    obtain ⟨i, x, hx, rfl⟩ := mem_ruleRows.mp hr
    exact ⟨by simp [Storage.ruleRow], hbool x.enabled,
      (hps.each p hp).rulesFit.json x (List.mem_of_getElem? hx)⟩
  · obtain ⟨p, hp, hr⟩ := (hs.rules r).mp hr
    obtain ⟨i, x, hx, rfl⟩ := mem_ruleRows.mp hr
    exact hs.profile_mem (List.mem_map_of_mem hp)

/-! ### The save -/

/-- The profiles `ps` are the desired ones with each missing key filled in by a new one, above
all those of the profiles and rules that were stored. -/
structure Completed (current desired ps : List StoredProfile) : Prop where
  fills : ∃ above aboveRules, (∀ p ∈ current, p.key ≤ above ∧ ∀ r ∈ p.rules, r.key ≤ aboveRules) ∧
    List.Forall₂ (FillsProfile above aboveRules) desired ps
  keys : (ps.map StoredProfile.key).Nodup
  ruleKeys : (ps.flatMap fun p => p.rules.map StoredRule.key).Nodup

omit [Library] [Sqlite] in
lemma Stores.key_le {t : Tables} {ps : List StoredProfile} (hs : Stores t ps)
    (hp : Bounded ProfileRow.key t.profiles) (hr : Bounded RuleRow.key t.rules) :
    ∀ p ∈ ps, p.key ≤ t.profiles.sequence ∧ ∀ r ∈ p.rules, r.key ≤ t.rules.sequence := by
  intro p hmem
  obtain ⟨x, hx, hxk⟩ := hs.profile_mem (List.mem_map_of_mem hmem)
  refine ⟨hxk ▸ hp x hx, fun r hrmem => ?_⟩
  obtain ⟨y, hy, hyk, -⟩ := hs.rule_mem hmem (List.mem_map_of_mem hrmem)
  exact hyk ▸ hr y hy

omit [Library] [Sqlite] in
lemma deleteUnwanted_parked (current desired : ProfileStoreSnapshot) (t : Tables) :
    (deleteUnwanted current desired (parked t)).repository = t.repository ∧
    (deleteUnwanted current desired (parked t)).profiles.sequence = t.profiles.sequence ∧
    (deleteUnwanted current desired (parked t)).rules.sequence = t.rules.sequence ∧
    (Bounded ProfileRow.key t.profiles →
      Bounded ProfileRow.key (deleteUnwanted current desired (parked t)).profiles) ∧
    (Bounded RuleRow.key t.rules →
      Bounded RuleRow.key (deleteUnwanted current desired (parked t)).rules) := by
  rw [deleteUnwanted_eq]
  refine ⟨rfl, rfl, rfl, fun hb r hr => ?_, fun hb r hr => ?_⟩
  · obtain ⟨x, hx, rfl⟩ := List.mem_map.mp (List.mem_filter.mp hr).1
    exact hb x hx
  · obtain ⟨x, hx, rfl⟩ := List.mem_map.mp (List.mem_filter.mp (List.mem_filter.mp hr).1).1
    exact hb x hx

/-- What a save comes to. -/
structure Saved (current desired written : ProfileStoreSnapshot) (t' : Tables) : Prop where
  valid : t'.Valid
  read : readSnapshot t' = .ok written
  revision : written.revision = desired.revision + 1
  origin : written.migratedFromSha256 = desired.migratedFromSha256
  profiles : Completed current.profiles desired.profiles written.profiles

lemma save_eq {t : Tables} {current desired : ProfileStoreSnapshot} (ht : t.Valid)
    (hread : readSnapshot t = .ok current) (hrev : desired.revision = current.revision)
    (hsha : desired.migratedFromSha256 = current.migratedFromSha256)
    (h : Desirable current.profiles desired.profiles) (hne : desired ≠ current)
    (hmax : desired.revision ≠ int64Max) :
    ∃ written t', save t desired = .ok (written, t') ∧ Saved current desired written t' := by
  obtain ⟨hs, hcur, ⟨hversion, hpos, horigin⟩, hcrev, hcsha⟩ := stores_of_readSnapshot ht hread
  obtain ⟨hmeta, hpseq, hrseq, hpb, hrb⟩ := deleteUnwanted_parked current desired t
  obtain ⟨ps, t₃, hwrite, hw⟩ := writeProfiles_eq (cleared ht hs hcur h) h.accepted
  have hrepo : t₃.repository = t.repository := hw.repository.trans hmeta
  have hps := hw.accepted h.accepted
  let t' : Tables := { t₃ with repository := { t₃.repository with revision := desired.revision + 1 } }
  have hstores : Stores t' ps := ⟨hw.stores.profileKeys, hw.stores.ruleKeys, hw.stores.profiles,
    hw.stores.rules⟩
  have hnonneg : 0 ≤ desired.revision := by omega
  have hok : t'.repository.Ok := ⟨by show t₃.repository.schemaVersion = 1; rw [hrepo]; exact hversion,
    by show 0 ≤ desired.revision + 1; omega,
    by show t₃.repository.migratedFromSha256.all validSha256 = true; rw [hrepo]; exact horigin⟩
  have hsha' : t'.repository.migratedFromSha256 = desired.migratedFromSha256 := by
    show t₃.repository.migratedFromSha256 = _
    rw [hrepo, hsha, hcsha]
  have hback : readSnapshot t' =
      .ok ⟨ps, desired.revision + 1, desired.migratedFromSha256⟩ := by
    rw [← hsha']
    exact readSnapshot_of_stores hstores hps hok
  refine ⟨⟨ps, desired.revision + 1, desired.migratedFromSha256⟩, t', ?_, ?_, hback, rfl, rfl, ?_⟩
  · have hcheck : checkDesired desired = .ok () := by
      have horigin' : desired.migratedFromSha256.all validSha256 = true := by
        rw [hsha, hcsha]
        exact horigin
      simp [checkDesired, not_lt.mpr hnonneg, validateProfiles_ok.mpr h.accepted, horigin']
    have hupdate : updateRevision t₃ desired.revision = .ok t' := by
      have hr : t₃.repository.revision = desired.revision := by rw [hrepo, hrev, hcrev]
      have hle : 0 ≤ desired.revision + 1 := by omega
      simp only [updateRevision, hr, if_true, hle]
      rfl
    simp only [save, hcheck, ok_bind, hread, ne_eq, hrev.symm, hsha.symm, not_true_eq_false, if_false,
      Ne.symm hne, hmax, h.checkKeys_eq hcur, renameAll_eq ht hs hcur, hwrite, hupdate, hback,
      pure_eq_ok]
  · exact hstores.valid hps hok.2.1 (hw.profileSequence (hpb ht.profileSequence))
      (hw.ruleSequence (hrb ht.ruleSequence))
  · refine ⟨⟨_, _, hs.key_le ht.profileSequence ht.ruleSequence, ?_⟩, hps.keys_nodup,
      hw.stores.ruleKeys_nodup hps.keys_nodup⟩
    rw [← hpseq, ← hrseq]
    exact hw.fills

/-- **A save is exact.** For all stored tables and all desired profiles whose keys are those of
what is stored, a save of the snapshot that is stored changes nothing, a save at the last
revision is refused, and every other save succeeds: what is read back is what was desired, with
new keys where it had none, at the next revision. -/
theorem save_exact {t : Tables} {current desired : ProfileStoreSnapshot} (ht : t.Valid)
    (hread : readSnapshot t = .ok current) (hrev : desired.revision = current.revision)
    (hsha : desired.migratedFromSha256 = current.migratedFromSha256)
    (hval : validateProfiles false desired.profiles = .ok ())
    (hprofiles : ∀ p ∈ desired.profiles, 0 < p.key → p.key ∈ current.profiles.map StoredProfile.key)
    (hrules : ∀ p ∈ desired.profiles, ∀ r ∈ p.rules, 0 < r.key →
      ∃ q ∈ current.profiles, q.key = p.key ∧ r.key ∈ q.rules.map StoredRule.key) :
    if desired = current then save t desired = .ok (current, t)
    else if desired.revision = int64Max then
      save t desired = .error ⟨.constraint, str "profile database revision is exhausted"⟩
    else ∃ written t', save t desired = .ok (written, t') ∧ Saved current desired written t' := by
  have haccepted := validateProfiles_ok.mp hval
  obtain ⟨-, -, ⟨-, hpos, horigin⟩, hcrev, hcsha⟩ := stores_of_readSnapshot ht hread
  have hcheck : checkDesired desired = .ok () := by
    have hnonneg : ¬ desired.revision < 0 := by omega
    have horigin' : desired.migratedFromSha256.all validSha256 = true := by
      rw [hsha, hcsha]
      exact horigin
    simp [checkDesired, hnonneg, hval, horigin']
  split_ifs with heq hmax
  · rw [heq] at hcheck
    simp only [save, heq, hcheck, ok_bind, hread, ne_eq, not_true_eq_false, if_false, if_true,
      pure_eq_ok]
  · simp only [save, hcheck, ok_bind, hread, ne_eq, hrev.symm, hsha.symm, not_true_eq_false, if_false,
      Ne.symm heq, hmax, if_true]
    rfl
  · exact save_eq ht hread hrev hsha ⟨haccepted, hprofiles, hrules⟩ heq hmax

end Exact

/-! ### Two profiles that swap their names -/

section Swap

attribute [local instance] bitLibrary parserSqlite

def swapTables : Tables where
  repository := { revision := 7 }
  profiles := ⟨[⟨1, str "a", 0, 0, none, none, none, none, none, none⟩,
    ⟨2, str "b", 1, 0, none, none, none, none, none, none⟩], 2⟩
  rules := ⟨[⟨1, 1, str "x", 0, 1, str "set_field", [ch '{', ch '}']⟩,
    ⟨2, 1, str "y", 1, 1, str "set_field", [ch '{', ch '}']⟩], 2⟩

def swapCurrent : ProfileStoreSnapshot where
  profiles := [
    { key := 1, profileId := str "a", rules := [
      { key := 1, ruleId := str "x", enabled := true, type := str "set_field" },
      { key := 2, ruleId := str "y", enabled := true, type := str "set_field" }] },
    { key := 2, profileId := str "b" }]
  revision := 7

/-- The profiles swap names and places, the rules names; there is a new profile in between. -/
def swapDesired : ProfileStoreSnapshot where
  profiles := [
    { key := 2, profileId := str "a" },
    { profileId := str "c" },
    { key := 1, profileId := str "b", rules := [
      { key := 1, ruleId := str "y", enabled := true, type := str "set_field" },
      { key := 2, ruleId := str "x", enabled := true, type := str "set_field" }] }]
  revision := 7

lemma swapTables_valid : swapTables.Valid where
  profiles := by decide
  profilesOk := by decide
  rules := by decide
  rulesOk := by decide
  foreign := by decide
  revision := by decide
  profileSequence := by unfold Bounded; decide
  ruleSequence := by unfold Bounded; decide

theorem save_exact_swap : ∃ written t', save swapTables swapDesired = .ok (written, t') ∧
    Saved swapCurrent swapDesired written t' := by
  have hread : readSnapshot swapTables = .ok swapCurrent := toOption_eq_some.mp (by decide)
  have hval : validateProfiles false swapDesired.profiles = .ok () :=
    toOption_eq_some.mp (by decide)
  have hrev : swapDesired.revision = swapCurrent.revision := rfl
  have h := save_exact swapTables_valid hread hrev rfl hval (by decide) (by decide)
  rwa [if_neg (by decide), if_neg (by decide)] at h

/-- A save of what is stored keeps the revision. -/
theorem save_unchanged : ∃ t current, t.Valid ∧ readSnapshot t = .ok current ∧
    validateProfiles false current.profiles = .ok () ∧
    ∃ written t', save t current = .ok (written, t') ∧
      readSnapshot t' = .ok written ∧ written.revision ≠ current.revision + 1 := by
  have hread : readSnapshot swapTables = .ok swapCurrent := toOption_eq_some.mp (by decide)
  refine ⟨swapTables, swapCurrent, swapTables_valid, hread, toOption_eq_some.mp (by decide),
    swapCurrent, swapTables, ?_, hread, by decide⟩
  have hcheck : checkDesired swapCurrent = .ok () := toOption_eq_some.mp (by decide)
  simp [save, hcheck, hread]

end Swap

end CcsTrans.Storage
