import CcsTrans.Storage.Accepted
import CcsTrans.Storage.Save

/-!
Which tables hold which profiles.

A table holds a list of profiles when its rows are those of the profiles, each at its place;
the order of the rows does not matter. Reading tables gives the profiles they hold, and
nothing else.
-/

namespace CcsTrans.Storage

open CcsTrans.Text CcsTrans.Json CcsTrans.Config CcsTrans.Storage.Table CcsTrans.Fallible

/-- The rows of profiles that stand at the places from `i` on. -/
def profileRows (i : ℕ) (ps : List StoredProfile) : List ProfileRow :=
  (ps.zipIdx i).map fun (p, i) => profileRow i p p.key

/-- The rows of the rules of a profile. -/
def ruleRows (profileKey : ℤ) (i : ℕ) (rules : List StoredRule) : List RuleRow :=
  (rules.zipIdx i).map fun (r, i) => ruleRow profileKey i r r.key

lemma mem_profileRows {ps : List StoredProfile} {r : ProfileRow} :
    r ∈ profileRows 0 ps ↔ ∃ i p, ps[i]? = some p ∧ r = profileRow i p p.key := by
  simp only [profileRows, List.mem_map, Prod.exists, List.mk_mem_zipIdx_iff_getElem?]
  exact ⟨fun ⟨p, i, h, e⟩ => ⟨i, p, h, e.symm⟩, fun ⟨i, p, h, e⟩ => ⟨p, i, h, e.symm⟩⟩

lemma mem_ruleRows {k : ℤ} {rules : List StoredRule} {r : RuleRow} :
    r ∈ ruleRows k 0 rules ↔ ∃ j q, rules[j]? = some q ∧ r = ruleRow k j q q.key := by
  simp only [ruleRows, List.mem_map, Prod.exists, List.mk_mem_zipIdx_iff_getElem?]
  exact ⟨fun ⟨p, i, h, e⟩ => ⟨i, p, h, e.symm⟩, fun ⟨i, p, h, e⟩ => ⟨p, i, h, e.symm⟩⟩

/-- The rows are those of the profiles and of their rules. -/
structure Stores (t : Tables) (ps : List StoredProfile) : Prop where
  profileKeys : KeysDiffer ProfileRow.key t.profiles.rows
  ruleKeys : KeysDiffer RuleRow.key t.rules.rows
  profiles : ∀ r, r ∈ t.profiles.rows ↔ r ∈ profileRows 0 ps
  rules : ∀ r, r ∈ t.rules.rows ↔ ∃ p ∈ ps, r ∈ ruleRows p.key 0 p.rules

/-! ### Reading rows -/

lemma boolColumn_boolInt (b : Bool) : boolColumn (boolInt b) = .ok b := by cases b <;> rfl

lemma boolColumn_eq_ok {n : ℤ} {b : Bool} (h : boolColumn n = .ok b) : n = boolInt b := by
  unfold boolColumn at h
  split_ifs at h with h0 h1
  · cases h; exact h0
  · cases h; exact h1

lemma readRuleRows_ok {k : ℤ} {i : ℕ} {rows : List RuleRow} {rules : List StoredRule}
    (hk : ∀ r ∈ rows, r.profileKey = k) (h : readRuleRows i rows = .ok rules) :
    rows = ruleRows k i rules := by
  induction rows generalizing i rules with
  | nil => cases h; rfl
  | cons r rows ih =>
    rw [readRuleRows] at h
    dsimp only at h
    split at h
    · cases h
    next hpos =>
    obtain ⟨b, hb, h⟩ := bind_eq_ok.mp h
    obtain ⟨rest, hrest, h⟩ := bind_eq_ok.mp h
    cases h
    rw [ih (fun r hr => hk r (by simp [hr])) (i := i + 1) (by exact_mod_cast hrest)]
    have hr : r = ruleRow k i ⟨r.key, r.ruleId, b, r.type, r.optionsJson⟩ r.key := by
      have hpos : r.position = i := by simpa using hpos
      simp only [ruleRow, ← hk r (by simp), ← hpos, ← boolColumn_eq_ok hb]
    simp only [ruleRows, List.zipIdx_cons, List.map_cons]
    rw [← hr]

lemma readRuleRows_ruleRows (k : ℤ) (i : ℕ) (rules : List StoredRule) :
    readRuleRows i (ruleRows k i rules) = .ok rules := by
  induction rules generalizing i with
  | nil => rfl
  | cons r rules ih =>
    have := ih (i + 1)
    simp only [ruleRows, List.zipIdx_cons, List.map_cons, readRuleRows, ruleRow] at this ⊢
    rw [show ((i : ℤ) + 1) = ((i + 1 : ℕ) : ℤ) by simp, this]
    simp [boolColumn_boolInt]

/-- A profile without its rules. -/
def StoredProfile.bare (p : StoredProfile) : StoredProfile := { p with rules := [] }

lemma readProfileRows_ok {i : ℕ} {keys : List ℤ} {rows : List ProfileRow} {ps : List StoredProfile}
    (h : readProfileRows i keys rows = .ok ps) : rows = profileRows i ps := by
  induction rows generalizing i keys ps with
  | nil => cases h; rfl
  | cons r rows ih =>
    rw [readProfileRows] at h
    dsimp only at h
    split at h
    · cases h
    next hpos =>
    obtain ⟨b, hb, h⟩ := bind_eq_ok.mp h
    split at h
    · cases h
    obtain ⟨rest, hrest, h⟩ := bind_eq_ok.mp h
    cases h
    have hr : r.position = i := by simpa using hpos
    simp only [profileRows, List.zipIdx_cons, List.map_cons, profileRow, ← hr,
      ← boolColumn_eq_ok hb]
    rw [ih (i := i + 1) (by exact_mod_cast hrest)]
    rfl

lemma readProfileRows_profileRows {i : ℕ} {keys : List ℤ} {ps : List StoredProfile}
    (hkeys : (ps.map StoredProfile.key).Nodup) (hnew : ∀ p ∈ ps, p.key ∉ keys) :
    readProfileRows i keys (profileRows i ps) = .ok (ps.map StoredProfile.bare) := by
  induction ps generalizing i keys with
  | nil => rfl
  | cons p ps ih =>
    rw [List.map_cons, List.nodup_cons] at hkeys
    have hunseen : ∀ q ∈ ps, q.key ∉ p.key :: keys := by
      intro q hq hmem
      rcases List.mem_cons.mp hmem with hqp | hmem
      · exact hkeys.1 (hqp ▸ List.mem_map_of_mem hq)
      · exact hnew q (by simp [hq]) hmem
    have := ih (i := i + 1) hkeys.2 hunseen
    have hp : p.key ∉ keys := hnew p (by simp)
    simp only [profileRows, List.zipIdx_cons, List.map_cons, readProfileRows, profileRow] at this ⊢
    rw [show ((i : ℤ) + 1) = ((i + 1 : ℕ) : ℤ) by simp, this]
    simp [boolColumn_boolInt, hp, StoredProfile.bare]

/-! ### Sorting -/

lemma profileRows_sorted (i : ℕ) (ps : List StoredProfile) :
    (profileRows i ps).Pairwise fun a b => a.position < b.position := by
  induction ps generalizing i with
  | nil => exact List.Pairwise.nil
  | cons p ps ih =>
    simp only [profileRows, List.zipIdx_cons, List.map_cons] at ih ⊢
    refine List.pairwise_cons.mpr ⟨fun r hr => ?_, ih (i + 1)⟩
    obtain ⟨⟨q, j⟩, hq, rfl⟩ := List.mem_map.mp hr
    have := List.le_snd_of_mem_zipIdx hq
    simp only [profileRow, Nat.cast_lt]
    omega

lemma ruleRows_sorted (k : ℤ) (i : ℕ) (rules : List StoredRule) :
    (ruleRows k i rules).Pairwise fun a b => a.position < b.position := by
  induction rules generalizing i with
  | nil => exact List.Pairwise.nil
  | cons p ps ih =>
    simp only [ruleRows, List.zipIdx_cons, List.map_cons] at ih ⊢
    refine List.pairwise_cons.mpr ⟨fun r hr => ?_, ih (i + 1)⟩
    obtain ⟨⟨q, j⟩, hq, rfl⟩ := List.mem_map.mp hr
    have := List.le_snd_of_mem_zipIdx hq
    simp only [ruleRow, Nat.cast_lt]
    omega

/-! ### Snapshots -/

/-- The row of `repository_meta` is in order. -/
def MetaRow.Ok (m : MetaRow) : Prop :=
  m.schemaVersion = 1 ∧ 0 ≤ m.revision ∧ m.migratedFromSha256.all validSha256 = true

/-- Reading the rules changes nothing else in the profiles. -/
lemma mapM_rules {rows : List RuleRow} {ps ps' : List StoredProfile}
    (h : (ps.mapM fun p => do
      return { p with rules := ← readRuleRows 0 (rulesOf rows p.key) }) = .ok ps') (i : ℕ) :
    profileRows i ps = profileRows i ps' ∧
      ∀ p ∈ ps', rulesOf rows p.key = ruleRows p.key 0 p.rules := by
  induction ps generalizing ps' i with
  | nil => cases h; simp
  | cons p ps ih =>
    rw [List.mapM_cons] at h
    obtain ⟨p', hp, h⟩ := bind_eq_ok.mp h
    obtain ⟨rest, hrest, h⟩ := bind_eq_ok.mp h
    cases h
    obtain ⟨rules, hr, hp⟩ := bind_eq_ok.mp hp
    cases hp
    obtain ⟨h1, h2⟩ := ih hrest (i + 1)
    refine ⟨?_, List.forall_mem_cons.mpr ⟨readRuleRows_ok (fun r hr => ?_) (by exact_mod_cast hr), h2⟩⟩
    · simp only [profileRows, List.zipIdx_cons, List.map_cons] at h1 ⊢
      rw [h1]
      rfl
    · simpa using (List.mem_filter.mp ((List.mem_insertionSort _).mp hr)).2

lemma mapM_rulesOf {rows : List RuleRow} {ps : List StoredProfile}
    (h : ∀ p ∈ ps, rulesOf rows p.key = ruleRows p.key 0 p.rules) :
    ((ps.map StoredProfile.bare).mapM fun p => do
      return { p with rules := ← readRuleRows 0 (rulesOf rows p.key) } :
        Except StoreError (List StoredProfile)) = .ok ps := by
  induction ps with
  | nil => rfl
  | cons p ps ih =>
    rw [List.forall_mem_cons] at h
    have hp : readRuleRows 0 (rulesOf rows p.bare.key) = .ok p.rules := by
      rw [show p.bare.key = p.key from rfl, h.1]
      exact readRuleRows_ruleRows p.key 0 p.rules
    rw [List.map_cons, List.mapM_cons, hp, ok_bind, pure_eq_ok, ok_bind, ih h.2]
    rfl

section Snapshots

variable [Library] [Sqlite]

/-- **What is read is what the tables hold.** -/
theorem stores_of_readSnapshot {t : Tables} {s : ProfileStoreSnapshot} (ht : t.Valid)
    (h : readSnapshot t = .ok s) : Stores t s.profiles ∧ Accepted true s.profiles ∧
      t.repository.Ok ∧ s.revision = t.repository.revision ∧
      s.migratedFromSha256 = t.repository.migratedFromSha256 := by
  unfold readSnapshot at h
  dsimp only at h
  split at h
  · cases h
  next hversion =>
  split at h
  · cases h
  next hrevision =>
  split at h
  · cases h
  next hsha =>
  obtain ⟨ps, hps, h⟩ := bind_eq_ok.mp h
  obtain ⟨ps', hps', h⟩ := bind_eq_ok.mp h
  split at h
  · cases h
  next u hval =>
  cases h
  have hrows := readProfileRows_ok (i := 0) (by exact_mod_cast hps)
  obtain ⟨hbare, hread⟩ := mapM_rules hps' 0
  have hprofiles : ∀ r, r ∈ t.profiles.rows ↔ r ∈ profileRows 0 ps' := by
    intro r
    rw [← hbare, ← hrows, byPosition, List.mem_insertionSort]
  refine ⟨⟨ht.profiles.imp And.left, ht.rules.imp And.left, hprofiles, fun r => ?_⟩,
    validateProfiles_ok.mp hval, ⟨by simpa using hversion, by simpa using hrevision,
    by simpa using hsha⟩, rfl, rfl⟩
  constructor
  · intro hr
    obtain ⟨q, hq, hqk⟩ := ht.foreign r hr
    obtain ⟨i, p, hp, rfl⟩ := mem_profileRows.mp ((hprofiles q).mp hq)
    have hmem : p ∈ ps' := List.mem_of_getElem? hp
    refine ⟨p, hmem, ?_⟩
    rw [← hread p hmem, rulesOf, List.mem_insertionSort, List.mem_filter]
    exact ⟨hr, decide_eq_true hqk.symm⟩
  · rintro ⟨p, hp, hr⟩
    rw [← hread p hp, rulesOf, List.mem_insertionSort, List.mem_filter] at hr
    exact hr.1

omit [Sqlite] in
/-- **What the tables hold is read.** -/
theorem readSnapshot_of_stores {t : Tables} {ps : List StoredProfile} (hs : Stores t ps)
    (hps : Accepted true ps) (hm : t.repository.Ok) :
    readSnapshot t = .ok ⟨ps, t.repository.revision, t.repository.migratedFromSha256⟩ := by
  obtain ⟨hversion, hrevision, hsha⟩ := hm
  have hkeys : (ps.map StoredProfile.key).Nodup := hps.keys_nodup
  have hrows : byPosition t.profiles.rows = profileRows 0 ps :=
    insertionSort_eq hs.profileKeys (profileRows_sorted 0 ps) hs.profiles
  have hrules : ∀ p ∈ ps, rulesOf t.rules.rows p.key = ruleRows p.key 0 p.rules := by
    intro p hp
    refine insertionSort_eq (hs.ruleKeys.filter _) (ruleRows_sorted _ 0 _) fun r => ?_
    rw [List.mem_filter, hs.rules]
    constructor
    · rintro ⟨⟨q, hq, hr⟩, hk⟩
      obtain ⟨j, rule, -, rfl⟩ := mem_ruleRows.mp hr
      have hqp : q = p := List.inj_on_of_nodup_map hkeys hq hp (of_decide_eq_true hk)
      rw [← hqp]
      exact hr
    · intro hr
      refine ⟨⟨p, hp, hr⟩, ?_⟩
      obtain ⟨j, rule, -, rfl⟩ := mem_ruleRows.mp hr
      simp [ruleRow]
  have hread : readProfileRows 0 [] (profileRows 0 ps) = .ok (ps.map StoredProfile.bare) :=
    readProfileRows_profileRows (i := 0) hkeys (by simp)
  unfold readSnapshot
  simp only [hversion, ne_eq, not_true_eq_false, if_false, not_lt.mpr hrevision, hsha, Bool.not_true,
    Bool.false_eq_true, hrows, hread, ok_bind]
  rw [mapM_rulesOf hrules, ok_bind, validateProfiles_ok.mpr hps]
  rfl

end Snapshots

end CcsTrans.Storage
