import CcsTrans.Editor.Editor
import CcsTrans.Json.Length
import CcsTrans.Storage.Accepted
import CcsTrans.Storage.Save

/-!
The identity of profiles and rules in a draft.

A draft is seen here as a list of profiles with keys and two counters, and editing as steps
that replace the profile or the rules of a key, add a profile under the next key of a
counter, remove one or reorder them. The keys stay distinct because new ones lie below all
others, and a positive key stays where the snapshot had it because no step carries a rule
from one profile to another.
-/

namespace CcsTrans.Editor

open CcsTrans.Text CcsTrans.Json CcsTrans.Config CcsTrans.Storage

/-! ### Lists -/

section Lists

variable {α β : Type} {p : α → Bool} {x : α} {xs : List α}

/-- What is found stands behind items that do not meet the condition. -/
lemma split_of_find (h : xs.find? p = some x) : ∃ as bs, xs = as ++ x :: bs ∧
    (∀ y, putFirst p y xs = as ++ y :: bs) ∧ xs.eraseP p = as ++ bs := by
  induction xs with
  | nil => cases h
  | cons z zs ih =>
    rw [List.find?_cons] at h
    split at h
    · next hz =>
      cases h
      exact ⟨[], zs, rfl, fun y => by simp [putFirst, hz], by simp [hz]⟩
    · next hz =>
      obtain ⟨as, bs, rfl, hput, herase⟩ := ih h
      refine ⟨z :: as, bs, rfl, fun y => ?_, ?_⟩
      · simp [putFirst, hz, hput]
      · simp [hz, herase]

/-- A part of a list without repetitions gives way to items that are in it or nowhere else. -/
lemma nodup_splice {as ks ks' bs : List α} (h : (as ++ (ks ++ bs)).Nodup) (hks : ks'.Nodup)
    (hnew : ∀ k ∈ ks', k ∈ ks ∨ k ∉ as ∧ k ∉ bs) : (as ++ (ks' ++ bs)).Nodup := by
  simp only [List.nodup_append'] at h ⊢
  obtain ⟨has, ⟨-, hbs, hdisj⟩, hdisj'⟩ := h
  have hout : ∀ k ∈ ks', k ∉ as ∧ k ∉ bs := by
    intro k hk
    rcases hnew k hk with hold | hnew
    · refine ⟨fun ha => hdisj' ha (List.mem_append_left _ hold), fun hb => hdisj hold hb⟩
    · exact hnew
  refine ⟨has, ⟨hks, hbs, fun k hk hb => (hout k hk).2 hb⟩, fun k ha hk => ?_⟩
  rcases List.mem_append.mp hk with hk | hk
  · exact (hout k hk).1 ha
  · exact hdisj' ha (List.mem_append_right _ hk)

/-- An item that is taken out and put in somewhere else. -/
lemma perm_insertIdx_eraseP (h : xs.find? p = some x) {i : ℕ} (hi : i < xs.length) :
    ((xs.eraseP p).insertIdx i x).Perm xs := by
  obtain ⟨as, bs, rfl, -, herase⟩ := split_of_find h
  rw [herase]
  refine (List.perm_insertIdx x (as ++ bs) ?_).trans List.perm_middle.symm
  simp only [List.length_append, List.length_cons] at hi ⊢
  omega

end Lists

/-! ### Drafts by their keys -/

/-- The profiles of a draft and the next keys. -/
structure Keyed where
  profiles : List StoredProfile
  nextProfile : ℤ
  nextRule : ℤ

def ConfigurationEditor.keyed (e : ConfigurationEditor) : Keyed :=
  ⟨e.draft.profiles, e.nextDraftProfileKey, e.nextDraftRuleKey⟩

section Sound

variable [Library]

/-- The text of a JSON object, as `dump` writes it. -/
def CanonicalOptions (text : Bytes) : Prop :=
  ∃ ms, parse text = .ok (.obj ms) ∧ dump (.obj ms) = some text

/-- The keys of the rules of a draft. -/
def ruleKeys (profiles : List StoredProfile) : List ℤ :=
  profiles.flatMap fun p => p.rules.map StoredRule.key

/-- A rule was loaded with a profile. -/
def LoadedWith (begun : List StoredProfile) (p : StoredProfile) (r : StoredRule) : Prop :=
  ∃ b ∈ begun, b.key = p.key ∧ ∃ q ∈ b.rules, q.key = r.key

/-- What holds of the profiles of a draft that was begun from others. -/
structure Identity (begun profiles : List StoredProfile) : Prop where
  keys : (profiles.map StoredProfile.key).Nodup
  ids : (profiles.map StoredProfile.profileId).Nodup
  ruleIds : ∀ p ∈ profiles, (p.rules.map StoredRule.ruleId).Nodup
  ruleKeys : (ruleKeys profiles).Nodup
  stored : ∀ p ∈ profiles, 0 < p.key → p.key ∈ begun.map StoredProfile.key
  storedRules : ∀ p ∈ profiles, ∀ r ∈ p.rules, 0 < r.key → LoadedWith begun p r
  options : ∀ p ∈ profiles, ∀ r ∈ p.rules, CanonicalOptions r.optionsJson

/-- A key that is stored, or was taken from a counter that has come down to `next`. -/
def Taken (next key : ℤ) : Prop := 0 < key ∨ next < key ∧ key < 0

/-- The counters are below all keys that were taken from them. -/
structure Sound (begun : List StoredProfile) (d : Keyed) : Prop extends
    Identity begun d.profiles where
  belowProfiles : ∀ p ∈ d.profiles, Taken d.nextProfile p.key
  belowRules : ∀ p ∈ d.profiles, ∀ r ∈ p.rules, Taken d.nextRule r.key
  profileCounter : d.nextProfile < 0
  ruleCounter : d.nextRule < 0

/-- The rules that a profile has after a step: their keys are those of its old rules or come
from the counter. -/
structure RulesFollow (next next' : ℤ) (rules rules' : List StoredRule) : Prop where
  ids : (rules'.map StoredRule.ruleId).Nodup
  keys : (rules'.map StoredRule.key).Nodup
  origin : ∀ r ∈ rules', r.key ∈ rules.map StoredRule.key ∨ next' < r.key ∧ r.key ≤ next
  options : ∀ r ∈ rules', CanonicalOptions r.optionsJson
  counter : next' ≤ next

/-- A step of editing. -/
inductive Edited : Keyed → Keyed → Prop
  | profile {d : Keyed} {p p' : StoredProfile} (found : findProfile d.profiles p.key = some p)
      (key : p'.key = p.key) (rules : p'.rules = p.rules)
      (id : p'.profileId = p.profileId ∨ findProfileById d.profiles p'.profileId = none) :
      Edited d { d with profiles := putFirst (fun q => q.key == p.key) p' d.profiles }
  | rules {d : Keyed} {p : StoredProfile} {rules' : List StoredRule} {next' : ℤ}
      (found : findProfile d.profiles p.key = some p)
      (follow : RulesFollow d.nextRule next' p.rules rules') :
      Edited d { d with
        profiles := putFirst (fun q => q.key == p.key) { p with rules := rules' } d.profiles
        nextRule := next' }
  | added {d : Keyed} {id : Bytes} (new : findProfileById d.profiles id = none) :
      Edited d { d with
        profiles := d.profiles ++ [{ key := d.nextProfile, profileId := id }]
        nextProfile := d.nextProfile - 1 }
  | removed {d : Keyed} (key : ℤ) :
      Edited d { d with profiles := d.profiles.eraseP fun p => p.key == key }
  | moved {d : Keyed} {profiles' : List StoredProfile} (perm : profiles'.Perm d.profiles) :
      Edited d { d with profiles := profiles' }

variable {begun : List StoredProfile} {d d' : Keyed}

/-! ### Steps -/

omit [Library] in
lemma findProfileById_eq_none {ps : List StoredProfile} {id : Bytes} :
    findProfileById ps id = none ↔ id ∉ ps.map StoredProfile.profileId := by
  simp only [findProfileById, List.find?_eq_none, beq_iff_eq, List.mem_map, not_exists, not_and]

omit [Library] in
/-- In a split list, the rules of a key are spliced. -/
lemma ruleKeys_split (as bs : List StoredProfile) (p : StoredProfile) :
    ruleKeys (as ++ p :: bs) = ruleKeys as ++ (p.rules.map StoredRule.key ++ ruleKeys bs) := by
  simp [ruleKeys]

omit [Library] in
lemma mem_ruleKeys {ps : List StoredProfile} {k : ℤ} :
    k ∈ ruleKeys ps ↔ ∃ p ∈ ps, ∃ r ∈ p.rules, r.key = k := by
  simp [ruleKeys]

/-- A profile is replaced by one of its key. -/
lemma Sound.replace {p p' : StoredProfile} {next' : ℤ} (hd : Sound begun d)
    (found : findProfile d.profiles p.key = some p) (key : p'.key = p.key)
    (id : p'.profileId = p.profileId ∨ findProfileById d.profiles p'.profileId = none)
    (follow : RulesFollow d.nextRule next' p.rules p'.rules) :
    Sound begun { d with
      profiles := putFirst (fun q => q.key == p.key) p' d.profiles, nextRule := next' } := by
  obtain ⟨as, bs, hsplit, hput, -⟩ := split_of_find found
  obtain ⟨ps, nextProfile, nextRule⟩ := d
  simp only at hsplit hput found follow id ⊢
  subst hsplit
  rw [hput]
  have hmem : ∀ q ∈ as ++ p' :: bs, q = p' ∨ q ∈ as ++ p :: bs := by
    intro q hq
    simp only [List.mem_append, List.mem_cons] at hq ⊢
    tauto
  have hp : p ∈ as ++ p :: bs := by simp
  -- the new keys of rules are below all others
  have hfresh : ∀ k, next' < k ∧ k ≤ nextRule → k ∉ ruleKeys (as ++ p :: bs) := by
    intro k hk hmem
    obtain ⟨q, hq, r, hr, rfl⟩ := mem_ruleKeys.mp hmem
    have hcounter := hd.ruleCounter
    have := hd.belowRules q hq r hr
    simp only [Taken] at this hcounter
    omega
  have hbelow : ∀ k, Taken nextRule k → Taken next' k := by
    intro k hk
    have := follow.counter
    simp only [Taken] at hk ⊢
    omega
  have hold : ∀ r ∈ p'.rules, (∃ q ∈ p.rules, q.key = r.key) ∨ next' < r.key ∧ r.key ≤ nextRule := by
    intro r hr
    rcases follow.origin r hr with h | h
    · exact Or.inl (List.mem_map.mp h)
    · exact Or.inr h
  refine
    { keys := ?_, ids := ?_, ruleIds := ?_, ruleKeys := ?_, stored := ?_, storedRules := ?_,
      options := ?_, belowProfiles := ?_, belowRules := ?_, profileCounter := hd.profileCounter,
      ruleCounter := ?_ }
  · have hkeys := hd.keys
    simp only [List.map_append, List.map_cons] at hkeys ⊢
    rwa [key]
  · have hids := hd.ids
    simp only [List.map_append, List.map_cons] at hids ⊢
    refine @nodup_splice _ _ [p.profileId] [p'.profileId] _ hids (by simp) ?_
    intro k hk
    rw [List.mem_singleton] at hk
    subst hk
    rcases id with h | h
    · exact Or.inl (by simp [h])
    · have hnone := findProfileById_eq_none.mp h
      simp only [List.map_append, List.map_cons, List.mem_append, List.mem_cons, not_or] at hnone
      exact Or.inr ⟨hnone.1, hnone.2.2⟩
  · intro q hq
    rcases hmem q hq with rfl | hq
    · exact follow.ids
    · exact hd.ruleIds q hq
  · rw [ruleKeys_split]
    have hkeys := hd.ruleKeys
    rw [ruleKeys_split] at hkeys
    refine nodup_splice hkeys follow.keys fun k hk => ?_
    obtain ⟨r, hr, rfl⟩ := List.mem_map.mp hk
    rcases follow.origin r hr with h | h
    · exact Or.inl h
    · have hout := hfresh r.key h
      rw [ruleKeys_split, List.mem_append, List.mem_append] at hout
      exact Or.inr ⟨fun ha => hout (Or.inl ha), fun hb => hout (Or.inr (Or.inr hb))⟩
  · intro q hq hpos
    rcases hmem q hq with rfl | hq
    · rw [key] at hpos ⊢
      exact hd.stored p hp hpos
    · exact hd.stored q hq hpos
  · intro q hq r hr hpos
    rcases hmem q hq with rfl | hq
    · rcases hold r hr with ⟨s, hs, hkey⟩ | hnew
      · obtain ⟨b, hb, hbkey, t, ht, htkey⟩ := hd.storedRules p hp s hs (hkey ▸ hpos)
        exact ⟨b, hb, hbkey.trans key.symm, t, ht, htkey.trans hkey⟩
      · have := hd.ruleCounter
        simp only at this
        omega
    · exact hd.storedRules q hq r hr hpos
  · intro q hq r hr
    rcases hmem q hq with rfl | hq
    · exact follow.options r hr
    · exact hd.options q hq r hr
  · intro q hq
    rcases hmem q hq with rfl | hq
    · rw [key]
      exact hd.belowProfiles p hp
    · exact hd.belowProfiles q hq
  · intro q hq r hr
    rcases hmem q hq with rfl | hq
    · rcases hold r hr with ⟨s, hs, hkey⟩ | hnew
      · rw [← hkey]
        exact hbelow _ (hd.belowRules p hp s hs)
      · have := hd.ruleCounter
        simp only [Taken] at this ⊢
        omega
    · exact hbelow _ (hd.belowRules q hq r hr)
  · have := hd.ruleCounter
    have := follow.counter
    simp only at *
    omega

/-- Profiles are left out or reordered. -/
lemma Sound.subperm {profiles' : List StoredProfile} (hd : Sound begun d)
    (h : profiles'.Subperm d.profiles) : Sound begun { d with profiles := profiles' } := by
  have hmem : ∀ p ∈ profiles', p ∈ d.profiles := fun p hp => h.subset hp
  obtain ⟨l, hperm, hsub⟩ := h
  refine
    { keys := ?_, ids := ?_, ruleIds := fun p hp => hd.ruleIds p (hmem p hp), ruleKeys := ?_,
      stored := fun p hp => hd.stored p (hmem p hp),
      storedRules := fun p hp => hd.storedRules p (hmem p hp),
      options := fun p hp => hd.options p (hmem p hp),
      belowProfiles := fun p hp => hd.belowProfiles p (hmem p hp),
      belowRules := fun p hp => hd.belowRules p (hmem p hp),
      profileCounter := hd.profileCounter, ruleCounter := hd.ruleCounter }
  · exact ((hperm.map _).nodup_iff).mp (hd.keys.sublist (hsub.map _))
  · exact ((hperm.map _).nodup_iff).mp (hd.ids.sublist (hsub.map _))
  · have hflat : (ruleKeys l).Sublist (ruleKeys d.profiles) := by
      unfold ruleKeys
      exact hsub.flatMap _
    have hsame : (ruleKeys l).Perm (ruleKeys profiles') := hperm.flatMap_right _
    exact hsame.nodup_iff.mp (hd.ruleKeys.sublist hflat)

/-- A profile without rules is added under the next key. -/
lemma Sound.add {id : Bytes} (hd : Sound begun d) (new : findProfileById d.profiles id = none) :
    Sound begun { d with
      profiles := d.profiles ++ [{ key := d.nextProfile, profileId := id }]
      nextProfile := d.nextProfile - 1 } := by
  have hcounter := hd.profileCounter
  have hmem : ∀ p ∈ d.profiles ++ [{ key := d.nextProfile, profileId := id }],
      p ∈ d.profiles ∨ p = { key := d.nextProfile, profileId := id } := by
    intro p hp
    simpa using hp
  refine
    { keys := ?_, ids := ?_, ruleIds := ?_, ruleKeys := ?_, stored := ?_, storedRules := ?_,
      options := ?_, belowProfiles := ?_, belowRules := ?_, profileCounter := ?_,
      ruleCounter := hd.ruleCounter }
  · rw [List.map_append, List.nodup_append']
    refine ⟨hd.keys, by simp, fun k hk hk' => ?_⟩
    obtain ⟨p, hp, rfl⟩ := List.mem_map.mp hk
    have hbelow := hd.belowProfiles p hp
    simp only [List.map_cons, List.map_nil, List.mem_singleton] at hk'
    simp only [Taken] at hbelow
    omega
  · rw [List.map_append, List.nodup_append']
    refine ⟨hd.ids, by simp, fun k hk hk' => ?_⟩
    simp only [List.map_cons, List.map_nil, List.mem_singleton] at hk'
    subst hk'
    exact findProfileById_eq_none.mp new hk
  · intro p hp
    rcases hmem p hp with hp | rfl
    · exact hd.ruleIds p hp
    · simp
  · have : ruleKeys (d.profiles ++ [{ key := d.nextProfile, profileId := id }]) =
        ruleKeys d.profiles := by simp [ruleKeys]
    rw [this]
    exact hd.ruleKeys
  · intro p hp hpos
    rcases hmem p hp with hp | rfl
    · exact hd.stored p hp hpos
    · simp only at hpos
      omega
  · intro p hp r hr hpos
    rcases hmem p hp with hp | rfl
    · exact hd.storedRules p hp r hr hpos
    · cases hr
  · intro p hp r hr
    rcases hmem p hp with hp | rfl
    · exact hd.options p hp r hr
    · cases hr
  · intro p hp
    rcases hmem p hp with hp | rfl
    · have := hd.belowProfiles p hp
      simp only [Taken] at this ⊢
      omega
    · simp only [Taken]
      omega
  · intro p hp r hr
    rcases hmem p hp with hp | rfl
    · exact hd.belowRules p hp r hr
    · cases hr
  · simp only
    omega

/-- The rules of a profile follow themselves. -/
lemma Sound.rulesFollow {p : StoredProfile} (hd : Sound begun d) (hp : p ∈ d.profiles) :
    RulesFollow d.nextRule d.nextRule p.rules p.rules := by
  obtain ⟨as, bs, hsplit⟩ := List.append_of_mem hp
  have hkeys := hd.ruleKeys
  rw [hsplit, ruleKeys_split, List.nodup_append', List.nodup_append'] at hkeys
  exact ⟨hd.ruleIds p hp, hkeys.2.1.1, fun r hr => Or.inl (List.mem_map_of_mem hr),
    hd.options p hp, le_refl _⟩

/-- **A step keeps the identity of profiles and rules.** -/
theorem Sound.edited (hd : Sound begun d) (h : Edited d d') : Sound begun d' := by
  cases h with
  | @profile p p' found key rules id =>
    have hp : p ∈ d.profiles := List.mem_of_find?_eq_some found
    refine hd.replace found key id ?_
    rw [rules]
    exact hd.rulesFollow hp
  | rules found follow => exact hd.replace found rfl (Or.inl rfl) follow
  | added new => exact hd.add new
  | removed key => exact hd.subperm (List.eraseP_sublist.subperm)
  | moved perm => exact hd.subperm perm.subperm

end Sound

end CcsTrans.Editor
