import CcsTrans.Repository.Commit
import CcsTrans.Config.DocumentCodec
import CcsTrans.Storage.Exact

/-!
Saving a document.

A document has profiles by id, each with the key it is stored under, if it has one. What is saved
is a snapshot, so the profiles of a document are given keys: those that have a key are matched by
it with what is stored, and those that have none are matched by their id.

Whether a positive key is given twice in this way is settled here.
-/

namespace CcsTrans.Repository

open CcsTrans.Text CcsTrans.Json CcsTrans.Config CcsTrans.Storage CcsTrans.Fallible
open CcsTrans.Durable

/-! ### The keys of a document -/

/-- The stored profile that a profile is matched with. -/
def existingProfile (current : List StoredProfile) (p : StoredProfile) : Option StoredProfile :=
  if 0 < p.key then current.find? fun e => e.key == p.key
  else current.find? fun e => e.profileId == p.profileId

/-- A rule keeps its key if the stored rule of that key has its id. -/
def mergeRule (existing : StoredProfile) (r : StoredRule) : StoredRule :=
  if 0 < r.key then
    match existing.rules.find? fun e => e.key == r.key with
    | some e => if e.ruleId = r.ruleId then r else { r with key := 0 }
    | none => { r with key := 0 }
  else
    match existing.rules.find? fun e => e.ruleId == r.ruleId with
    | some e => { r with key := e.key }
    | none => r

def mergeProfile (current : List StoredProfile) (p : StoredProfile) : StoredProfile :=
  match existingProfile current p with
  | none => p
  | some e => { p with key := e.key, rules := p.rules.map (mergeRule e) }

/-- `merge_stable_keys`. -/
def mergeStableKeys (current edited : List StoredProfile) : List StoredProfile :=
  edited.map (mergeProfile current)

/-! ### What is asked of them -/

/-- Two keys are not one that was given twice. -/
def Apart (a b : ℤ) : Prop := 0 < a → a ≠ b

/-- No positive key is given twice. -/
structure KeysOnce (ps : List StoredProfile) : Prop where
  profiles : KeysFresh [] (ps.map StoredProfile.key)
  rules : KeysFresh [] (ps.flatMap fun p => p.rules.map StoredRule.key)

section Checked

variable [Library]

/-- The check of profiles finds no key twice, as far as it gets. -/
def NoDuplicate (ps : List StoredProfile) : Prop :=
  ∀ before p after, ps = before ++ p :: after →
    ∀ seen, before.foldlM (validateStoredProfile false) {} = .ok seen →
      seeKey seen.profileKeys p.key ≠ none ∧
      ∀ first r rest, p.rules = first ++ r :: rest → ∀ keys size defs,
        validateStoredRules false p.profileId seen.ruleKeys p.headSize first = .ok (keys, size, defs) →
          seeKey keys r.key ≠ none

/-- No key that is given by an id is that of another: neither the key of a profile, nor that of
a rule. -/
structure Unclaimed (current edited : List StoredProfile) : Prop where
  profiles : ∀ p ∈ edited, ¬ 0 < p.key → ∀ e ∈ current, e.profileId = p.profileId →
    ∀ q ∈ edited, q.key ≠ e.key
  rules : ∀ p ∈ edited, ∀ e, existingProfile current p = some e →
    ∀ r ∈ p.rules, ¬ 0 < r.key → ∀ f ∈ e.rules, f.ruleId = r.ruleId →
      ∀ q ∈ edited, existingProfile current q = none → ∀ s ∈ q.rules, s.key ≠ f.key

/-! ### Keys that were seen -/

omit [Library] in
lemma keysFresh_nil_iff {ks : List ℤ} : KeysFresh [] ks ↔ ks.Pairwise Apart :=
  ⟨fun h => h.differ, fun h => ⟨by simp, h⟩⟩

omit [Library] in
lemma seeKeys_append (seen ks ls : List ℤ) :
    seeKeys seen (ks ++ ls) = seeKeys (seeKeys seen ks) ls := by
  simp [seeKeys, List.filter_append]

omit [Library] in
lemma foldl_after_keys (ps : List StoredProfile) (seen : Seen) :
    (ps.foldl Seen.after seen).profileKeys = seeKeys seen.profileKeys (ps.map StoredProfile.key) ∧
    (ps.foldl Seen.after seen).ruleKeys =
      seeKeys seen.ruleKeys (ps.flatMap fun p => p.rules.map StoredRule.key) := by
  induction ps generalizing seen with
  | nil => exact ⟨rfl, rfl⟩
  | cons p ps ih =>
    obtain ⟨hprofiles, hrules⟩ := ih (seen.after p)
    constructor
    · rw [List.foldl_cons, hprofiles, List.map_cons, seeKeys_cons]
      rfl
    · rw [List.foldl_cons, hrules, List.flatMap_cons, seeKeys_append]
      rfl

omit [Library] in
lemma seeKey_of_fresh {seen ks : List ℤ} {k : ℤ} (h : KeysFresh seen (k :: ks)) :
    seeKey seen k ≠ none := by
  have hnew := (keysFresh_cons.mp h).1
  unfold seeKey
  split_ifs with hpos hmem
  · exact absurd (by simpa using hmem) (hnew hpos)
  · simp
  · simp

/-- Where no key is given twice the check finds none. -/
lemma KeysOnce.noDuplicate {ps : List StoredProfile} (h : KeysOnce ps) : NoDuplicate ps := by
  rintro before p after rfl seen hseen
  obtain ⟨-, -, -, -, -, -, rfl⟩ := foldlM_validateStoredProfile_ok.mp hseen
  obtain ⟨hkeys, hruleKeys⟩ := foldl_after_keys before {}
  constructor
  · have hfresh := h.profiles
    rw [List.map_append, keysFresh_append] at hfresh
    rw [hkeys]
    exact seeKey_of_fresh hfresh.2
  · intro first r rest hrules keys size defs hfirst
    obtain ⟨-, -, rfl, -, -⟩ := validateStoredRules_ok.mp hfirst
    have hfresh := h.rules
    rw [List.flatMap_append, List.flatMap_cons, hrules, List.map_append, keysFresh_append,
      keysFresh_append, keysFresh_append] at hfresh
    rw [hruleKeys]
    exact seeKey_of_fresh hfresh.2.1.2

end Checked

/-! ### What a profile and a rule are given -/

section Merge

variable {current edited : List StoredProfile} {p q e : StoredProfile} {r f : StoredRule}

lemma existingProfile_mem (h : existingProfile current p = some e) : e ∈ current := by
  unfold existingProfile at h
  split_ifs at h
  · exact List.mem_of_find?_eq_some h
  · exact List.mem_of_find?_eq_some h

lemma existingProfile_key (hkey : 0 < p.key) (h : existingProfile current p = some e) :
    e.key = p.key := by
  unfold existingProfile at h
  rw [if_pos hkey] at h
  simpa using List.find?_some h

lemma existingProfile_id (hkey : ¬ 0 < p.key) (h : existingProfile current p = some e) :
    e.profileId = p.profileId := by
  unfold existingProfile at h
  rw [if_neg hkey] at h
  simpa using List.find?_some h

/-- The first of its name is found, and there is no other. -/
lemma find?_eq_of_nodup {α β : Type} [BEq β] [LawfulBEq β] {g : α → β} {xs : List α} {x : α}
    (hnodup : (xs.map g).Nodup) (hx : x ∈ xs) : (xs.find? fun y => g y == g x) = some x := by
  induction xs with
  | nil => cases hx
  | cons y ys ih =>
    rw [List.map_cons, List.nodup_cons] at hnodup
    rcases List.mem_cons.mp hx with rfl | hrest
    · simp
    · have hne : g y ≠ g x := fun heq => hnodup.1 (heq ▸ List.mem_map_of_mem hrest)
      rw [List.find?_cons_of_neg (by simpa using hne)]
      exact ih hnodup.2 hrest

lemma existingProfile_of_id (hids : (current.map StoredProfile.profileId).Nodup)
    (hkey : ¬ 0 < p.key) (he : e ∈ current) (hid : e.profileId = p.profileId) :
    existingProfile current p = some e := by
  unfold existingProfile
  rw [if_neg hkey, ← hid]
  exact find?_eq_of_nodup hids he

lemma mergeProfile_key_of_pos (hkey : 0 < p.key) : (mergeProfile current p).key = p.key := by
  unfold mergeProfile
  split
  · rfl
  · rename_i e he
    have heq : e.key = p.key := existingProfile_key hkey he
    exact heq

lemma mergeProfile_of_some (h : existingProfile current p = some e) :
    mergeProfile current p = { p with key := e.key, rules := p.rules.map (mergeRule e) } := by
  unfold mergeProfile
  rw [h]

lemma mergeProfile_of_none (h : existingProfile current p = none) : mergeProfile current p = p := by
  unfold mergeProfile
  rw [h]

/-- A key that is given to a profile without one is that of the stored profile of its id. -/
lemma mergeProfile_key_of_not_pos (hkey : ¬ 0 < p.key) (h : 0 < (mergeProfile current p).key) :
    ∃ e, existingProfile current p = some e ∧ (mergeProfile current p).key = e.key := by
  cases he : existingProfile current p with
  | none =>
    rw [mergeProfile_of_none he] at h
    exact absurd h hkey
  | some e => exact ⟨e, rfl, by rw [mergeProfile_of_some he]⟩

/-- A positive key of a rule is that of the stored rule of its id. -/
lemma mergeRule_key (h : 0 < (mergeRule e r).key) : ∃ f ∈ e.rules, f.ruleId = r.ruleId ∧
    f.key = (mergeRule e r).key ∧ (0 < r.key → r.key = (mergeRule e r).key) := by
  unfold mergeRule at h ⊢
  by_cases hkey : 0 < r.key
  · rw [if_pos hkey] at h ⊢
    cases hf : e.rules.find? fun f => f.key == r.key with
    | none =>
      rw [hf] at h
      exact absurd h (lt_irrefl 0)
    | some f =>
      rw [hf] at h
      simp only at h ⊢
      split_ifs at h ⊢ with hid
      · have hfkey : f.key = r.key := by simpa using List.find?_some hf
        exact ⟨f, List.mem_of_find?_eq_some hf, hid, hfkey, fun _ => rfl⟩
      · exact absurd h (lt_irrefl 0)
  · rw [if_neg hkey] at h ⊢
    cases hf : e.rules.find? fun f => f.ruleId == r.ruleId with
    | none =>
      rw [hf] at h
      exact absurd h hkey
    | some f =>
      have hfid : f.ruleId = r.ruleId := by simpa using List.find?_some hf
      exact ⟨f, List.mem_of_find?_eq_some hf, hfid, rfl, fun hpos => absurd hpos hkey⟩

lemma mergeRule_of_id (hids : (e.rules.map StoredRule.ruleId).Nodup) (hkey : ¬ 0 < r.key)
    (hf : f ∈ e.rules) (hid : f.ruleId = r.ruleId) : (mergeRule e r).key = f.key := by
  unfold mergeRule
  rw [if_neg hkey, ← hid, find?_eq_of_nodup hids hf]

end Merge

/-! ### The profiles of a document -/

/-- What a document gives: distinct ids, and distinct keys as far as there are any. -/
structure Editable (edited : List StoredProfile) : Prop where
  ids : (edited.map StoredProfile.profileId).Nodup
  ruleIds : ∀ p ∈ edited, (p.rules.map StoredRule.ruleId).Nodup
  once : KeysOnce edited

instance : Std.Symm Apart := ⟨fun _ _ hab hb heq => hab (heq ▸ hb) heq.symm⟩

/-- The rules of two profiles have keys apart. -/
def RulesApart (p q : StoredProfile) : Prop := ∀ r ∈ p.rules, ∀ s ∈ q.rules, Apart r.key s.key

instance : Std.Symm RulesApart := ⟨fun _ _ hpq s hs r hr => symm (hpq r hr s hs)⟩

/-- No positive key is given twice, of a list of different profiles. -/
lemma keysOnce_iff {ps : List StoredProfile} : KeysOnce ps ↔
    ps.Pairwise (fun p q => Apart p.key q.key) ∧
    (∀ p ∈ ps, p.rules.Pairwise fun r s => Apart r.key s.key) ∧ ps.Pairwise RulesApart := by
  have hrules : KeysFresh [] (ps.flatMap fun p => p.rules.map StoredRule.key) ↔
      (∀ p ∈ ps, p.rules.Pairwise fun r s => Apart r.key s.key) ∧ ps.Pairwise RulesApart := by
    rw [keysFresh_nil_iff, List.pairwise_flatMap]
    simp only [List.pairwise_map, List.mem_map, forall_exists_index, and_imp,
      forall_apply_eq_imp_iff₂]
    rfl
  constructor
  · intro h
    exact ⟨List.pairwise_map.mp (keysFresh_nil_iff.mp h.profiles), hrules.mp h.rules⟩
  · rintro ⟨hkeys, hrest⟩
    exact ⟨keysFresh_nil_iff.mpr (List.pairwise_map.mpr hkeys), hrules.mpr hrest⟩

section Settled

variable [Library] {current edited : List StoredProfile}

/-- What is stored: profiles and rules can be told by their ids and by their keys. -/
structure Stored (current : List StoredProfile) : Prop where
  ids : (current.map StoredProfile.profileId).Nodup
  key_pos : ∀ e ∈ current, 0 < e.key
  keys : ∀ e ∈ current, ∀ e' ∈ current, e.key = e'.key → e = e'
  ruleIds : ∀ e ∈ current, (e.rules.map StoredRule.ruleId).Nodup
  rule_pos : ∀ e ∈ current, ∀ f ∈ e.rules, 0 < f.key
  ruleKeys : ∀ e ∈ current, ∀ f ∈ e.rules, ∀ f' ∈ e.rules, f.key = f'.key → f = f'
  owner : ∀ e ∈ current, ∀ e' ∈ current, ∀ f ∈ e.rules, ∀ f' ∈ e'.rules, f.key = f'.key → e = e'

lemma stored_of_accepted (h : Accepted true current) : Stored current := by
  obtain ⟨-, hwithin, hacross⟩ := keysOnce_iff.mp ⟨h.keys, h.ruleKeys⟩
  have hpos : ∀ e ∈ current, ∀ f ∈ e.rules, 0 < f.key := by
    intro e he f hf
    obtain ⟨defs, hread, -⟩ := (h.each e he).reads
    simpa [keyAllowed] using hread.keys f hf
  refine ⟨h.ids, fun e he => (h.each e he).key_pos, ?_, ?_, hpos, ?_, ?_⟩
  · intro e he e' he' heq
    exact h.eq_of_key he he' (h.each e he).key_pos heq
  · intro e he
    obtain ⟨defs, hread, hdef⟩ := (h.each e he).reads
    have hrules : RulesOk [] defs := (validateProfileDefinition_ok hdef).2
    exact hread.map_id ▸ hrules.nodup
  · intro e he f hf f' hf' heq
    have : Std.Symm fun r s : StoredRule => Apart r.key s.key := ⟨fun _ _ hrs => symm hrs⟩
    by_contra hne
    exact List.Pairwise.forall (hwithin e he) hf hf' hne (hpos e he f hf) heq
  · intro e he e' he' f hf f' hf' heq
    by_contra hne
    exact List.Pairwise.forall hacross he he' hne f hf f' hf' (hpos e he f hf) heq

omit [Library] in
/-- The keys of two different profiles, merged. -/
lemma apart_mergeProfile (hcurrent : Stored current) (hedited : Editable edited)
    (h : Unclaimed current edited) {p q : StoredProfile} (hp : p ∈ edited) (hq : q ∈ edited)
    (hne : p ≠ q) : Apart (mergeProfile current p).key (mergeProfile current q).key := by
  intro hpos heq
  have hids : p.profileId ≠ q.profileId := fun hid =>
    hne (List.inj_on_of_nodup_map hedited.ids hp hq hid)
  have : Std.Symm fun p q : StoredProfile => Apart p.key q.key := ⟨fun _ _ hpq => symm hpq⟩
  have hkeys := List.Pairwise.forall (keysOnce_iff.mp hedited.once).1 hp hq hne
  by_cases hpkey : 0 < p.key
  · rw [mergeProfile_key_of_pos hpkey] at hpos heq
    by_cases hqkey : 0 < q.key
    · rw [mergeProfile_key_of_pos hqkey] at heq
      exact hkeys hpkey heq
    · -- the key of one was given to the other by its id
      obtain ⟨e, he, hkey⟩ := mergeProfile_key_of_not_pos hqkey (heq ▸ hpos)
      exact h.profiles q hq hqkey e (existingProfile_mem he) (existingProfile_id hqkey he) p hp
        (heq.trans hkey)
  · obtain ⟨e, he, hkey⟩ := mergeProfile_key_of_not_pos hpkey hpos
    by_cases hqkey : 0 < q.key
    · rw [mergeProfile_key_of_pos hqkey] at heq
      exact h.profiles p hp hpkey e (existingProfile_mem he) (existingProfile_id hpkey he) q hq
        (heq.symm.trans hkey)
    · obtain ⟨e', he', hkey'⟩ := mergeProfile_key_of_not_pos hqkey (heq ▸ hpos)
      have hsame : e = e' := hcurrent.keys e (existingProfile_mem he) e' (existingProfile_mem he')
        (by rw [← hkey, heq, hkey'])
      apply hids
      rw [← existingProfile_id hpkey he, hsame, existingProfile_id hqkey he']

omit [Library] in
/-- The rules of one profile, merged. -/
lemma pairwise_mergeProfile (hcurrent : Stored current) (hedited : Editable edited)
    {p : StoredProfile} (hp : p ∈ edited) :
    (mergeProfile current p).rules.Pairwise fun r s => Apart r.key s.key := by
  have hinput := (keysOnce_iff.mp hedited.once).2.1 p hp
  cases he : existingProfile current p with
  | none => rwa [mergeProfile_of_none he]
  | some e =>
    have hmem := existingProfile_mem he
    rw [mergeProfile_of_some he]
    refine List.pairwise_map.mpr ?_
    have hids : p.rules.Pairwise fun r s => r.ruleId ≠ s.ruleId :=
      List.pairwise_map.mp (hedited.ruleIds p hp)
    refine hids.imp ?_
    -- two rules with one key have the id of one stored rule
    intro r s hne hpos heq
    obtain ⟨f, hf, hfid, hfkey, -⟩ := mergeRule_key hpos
    obtain ⟨f', hf', hfid', hfkey', -⟩ := mergeRule_key (heq ▸ hpos)
    have hsame : f = f' := hcurrent.ruleKeys e hmem f hf f' hf' (by rw [hfkey, heq, hfkey'])
    exact hne (by rw [← hfid, hsame, hfid'])

omit [Library] in
lemma mergeProfile_rule {p : StoredProfile} {r : StoredRule}
    (hr : r ∈ (mergeProfile current p).rules) :
    (existingProfile current p = none ∧ r ∈ p.rules) ∨
    ∃ e, existingProfile current p = some e ∧ ∃ r₀ ∈ p.rules, r = mergeRule e r₀ := by
  cases he : existingProfile current p with
  | none =>
    rw [mergeProfile_of_none he] at hr
    exact .inl ⟨rfl, hr⟩
  | some e =>
    rw [mergeProfile_of_some he] at hr
    obtain ⟨r₀, hr₀, rfl⟩ := List.mem_map.mp hr
    exact .inr ⟨e, rfl, r₀, hr₀, rfl⟩

omit [Library] in
/-- A rule that is matched, and one of a profile that is not. -/
lemma mergeRule_ne (hedited : Editable edited) (h : Unclaimed current edited)
    {p q e : StoredProfile} (hp : p ∈ edited) (hq : q ∈ edited) (hne : p ≠ q)
    (he : existingProfile current p = some e) (hnone : existingProfile current q = none)
    {r s : StoredRule} (hr : r ∈ p.rules) (hs : s ∈ q.rules) (hpos : 0 < s.key) :
    (mergeRule e r).key ≠ s.key := by
  intro heq
  obtain ⟨f, hf, hfid, hfkey, hrkey⟩ := mergeRule_key (heq ▸ hpos : 0 < (mergeRule e r).key)
  by_cases hrpos : 0 < r.key
  · have hacross := List.Pairwise.forall (keysOnce_iff.mp hedited.once).2.2 hp hq hne
    exact hacross r hr s hs hrpos ((hrkey hrpos).trans heq)
  · exact h.rules p hp e he r hr hrpos f hf hfid q hq hnone s hs (heq.symm.trans hfkey.symm)

omit [Library] in
/-- The rules of two different profiles, merged. -/
lemma rulesApart_mergeProfile (hcurrent : Stored current) (hedited : Editable edited)
    (h : Unclaimed current edited) {p q : StoredProfile} (hp : p ∈ edited) (hq : q ∈ edited)
    (hne : p ≠ q) : RulesApart (mergeProfile current p) (mergeProfile current q) := by
  intro r hr s hs hpos heq
  rcases mergeProfile_rule hr with ⟨hpnone, hr⟩ | ⟨e, he, r₀, hr₀, rfl⟩
  · rcases mergeProfile_rule hs with ⟨hqnone, hs⟩ | ⟨e, he, s₀, hs₀, rfl⟩
    · have hacross := List.Pairwise.forall (keysOnce_iff.mp hedited.once).2.2 hp hq hne
      exact hacross r hr s hs hpos heq
    · exact mergeRule_ne hedited h hq hp (Ne.symm hne) he hpnone hs₀ hr hpos heq.symm
  · rcases mergeProfile_rule hs with ⟨hqnone, hs⟩ | ⟨e', he', s₀, hs₀, rfl⟩
    · exact mergeRule_ne hedited h hp hq hne he hqnone hr₀ hs (heq ▸ hpos) heq
    · -- a stored rule belongs to one stored profile, and that is matched once
      obtain ⟨f, hf, -, hfkey, -⟩ := mergeRule_key hpos
      obtain ⟨f', hf', -, hfkey', -⟩ := mergeRule_key (heq ▸ hpos)
      have hmem := existingProfile_mem he
      have hsame : e = e' := hcurrent.owner e hmem e' (existingProfile_mem he') f hf f' hf'
        (by rw [hfkey, heq, hfkey'])
      have hkeys := apart_mergeProfile hcurrent hedited h hp hq hne
      rw [mergeProfile_of_some he, mergeProfile_of_some he', ← hsame] at hkeys
      exact hkeys (hcurrent.key_pos e hmem) rfl

omit [Library] in
lemma keysOnce_of_unclaimed (hcurrent : Stored current) (hedited : Editable edited)
    (h : Unclaimed current edited) : KeysOnce (mergeStableKeys current edited) := by
  have hnodup : edited.Nodup := hedited.ids.of_map
  refine keysOnce_iff.mpr ⟨?_, ?_, ?_⟩
  · refine List.pairwise_map.mpr (hnodup.pairwise_of_forall_ne ?_)
    exact fun p hp q hq hne => apart_mergeProfile hcurrent hedited h hp hq hne
  · intro m hm
    obtain ⟨p, hp, rfl⟩ := List.mem_map.mp hm
    exact pairwise_mergeProfile hcurrent hedited hp
  · refine List.pairwise_map.mpr (hnodup.pairwise_of_forall_ne ?_)
    exact fun p hp q hq hne => rulesApart_mergeProfile hcurrent hedited h hp hq hne

omit [Library] in
lemma unclaimed_of_keysOnce (hcurrent : Stored current)
    (h : KeysOnce (mergeStableKeys current edited)) : Unclaimed current edited := by
  obtain ⟨hkeys, -, hacross⟩ := keysOnce_iff.mp h
  have hkeys' : edited.Pairwise fun p q =>
      Apart (mergeProfile current p).key (mergeProfile current q).key :=
    (List.pairwise_map (f := mergeProfile current)).mp hkeys
  have hacross' : edited.Pairwise fun p q =>
      RulesApart (mergeProfile current p) (mergeProfile current q) :=
    (List.pairwise_map (f := mergeProfile current)).mp hacross
  have : Std.Symm fun p q : StoredProfile =>
      Apart (mergeProfile current p).key (mergeProfile current q).key := ⟨fun _ _ hpq => symm hpq⟩
  have : Std.Symm fun p q : StoredProfile =>
      RulesApart (mergeProfile current p) (mergeProfile current q) := ⟨fun _ _ hpq => symm hpq⟩
  constructor
  · intro p hp hpkey e he hid q hq heq
    have hpos := hcurrent.key_pos e he
    have hne : p ≠ q := by
      rintro rfl
      exact hpkey (heq ▸ hpos)
    have hmatched := existingProfile_of_id hcurrent.ids hpkey he hid
    have hapart := List.Pairwise.forall hkeys' hp hq hne
    rw [mergeProfile_of_some hmatched, mergeProfile_key_of_pos (heq ▸ hpos)] at hapart
    exact hapart hpos heq.symm
  · intro p hp e he r hr hrkey f hf hid q hq hnone s hs heq
    have hmem := existingProfile_mem he
    have hpos := hcurrent.rule_pos e hmem f hf
    have hne : p ≠ q := by
      rintro rfl
      rw [he] at hnone
      cases hnone
    have hapart := List.Pairwise.forall hacross' hp hq hne
    rw [mergeProfile_of_some he, mergeProfile_of_none hnone] at hapart
    have hkey := mergeRule_of_id (hcurrent.ruleIds e hmem) hrkey hf hid
    refine hapart (mergeRule e r) (List.mem_map_of_mem hr) s hs ?_ ?_
    · rw [hkey]
      exact hpos
    · rw [hkey, heq]

/-! ### Documents -/

lemma ruleToStored_ok {r : RuleDefinition} {s : StoredRule} (h : ruleToStored r = .ok s) :
    s.key = r.storageKey ∧ s.ruleId = r.id := by
  unfold ruleToStored at h
  simp only at h
  split at h
  · cases h
  · cases h
    exact ⟨rfl, rfl⟩

omit [Library] in
lemma map_eq_of_forall₂ {α β γ : Type} {R : α → β → Prop} {f : α → γ} {g : β → γ}
    {xs : List α} {ys : List β} (h : List.Forall₂ R xs ys) (hR : ∀ x y, R x y → g y = f x) :
    ys.map g = xs.map f := by
  induction h with
  | nil => rfl
  | cons hxy _ ih => rw [List.map_cons, List.map_cons, hR _ _ hxy, ih]

/-- What a stored profile takes from its definition. -/
structure Taken (d : Bytes × ProfileDefinition) (s : StoredProfile) : Prop where
  key : s.key = d.2.storageKey
  id : s.profileId = d.1
  ruleKeys : s.rules.map StoredRule.key = d.2.rules.map RuleDefinition.storageKey
  ruleIds : s.rules.map StoredRule.ruleId = d.2.rules.map RuleDefinition.id

lemma profileToStored_ok {d : Bytes × ProfileDefinition} {s : StoredProfile}
    (h : profileToStored d.1 d.2 = .ok s) : Taken d s := by
  unfold profileToStored at h
  obtain ⟨rules, hrules, h⟩ := bind_eq_ok.mp h
  cases h
  have hrules' := forall₂_of_mapM hrules
  have hkeys : rules.map StoredRule.key = d.2.rules.map RuleDefinition.storageKey :=
    map_eq_of_forall₂ hrules' fun _ _ hr => (ruleToStored_ok hr).1
  have hids : rules.map StoredRule.ruleId = d.2.rules.map RuleDefinition.id :=
    map_eq_of_forall₂ hrules' fun _ _ hr => (ruleToStored_ok hr).2
  exact ⟨rfl, rfl, hkeys, hids⟩

/-- The profiles of a document are in the order of their places, and otherwise as they are. -/
lemma taken_of_document {d : ConfigDocument} {edited : List StoredProfile}
    (h : configDocumentToStoredProfiles d = .ok edited) : validateConfigDocument d = .ok () ∧
    ∃ stored, List.Forall₂ Taken d.profiles stored ∧ edited.Perm stored := by
  unfold configDocumentToStoredProfiles at h
  obtain ⟨_, hvalid, h⟩ := bind_eq_ok.mp h
  obtain ⟨ordered, hordered, h⟩ := bind_eq_ok.mp h
  cases h
  refine ⟨hvalid, ordered.map Prod.snd, ?_, (List.perm_insertionSort _ _).map _⟩
  refine List.forall₂_map_right_iff.mpr ((forall₂_of_mapM hordered).imp ?_)
  intro p o hpo
  obtain ⟨s, hs, hpo⟩ := bind_eq_ok.mp hpo
  cases hpo
  exact profileToStored_ok hs

/-- A document has a key where it has one at most once. -/
structure DocumentKeys (d : ConfigDocument) : Prop where
  ids : (d.profiles.map Prod.fst).Nodup
  keys : (d.profiles.map fun p => p.2.storageKey).Pairwise Apart
  ruleKeys : (d.profiles.flatMap fun p => p.2.rules.map RuleDefinition.storageKey).Pairwise Apart

lemma editable_of_document {d : ConfigDocument} (hd : DocumentKeys d)
    (h : configDocumentToStoredProfiles d = .ok edited) : Editable edited := by
  obtain ⟨hvalid, stored, htaken, hperm⟩ := taken_of_document h
  have hids : stored.map StoredProfile.profileId = d.profiles.map Prod.fst :=
    map_eq_of_forall₂ htaken fun _ _ ht => ht.id
  have hkeys : stored.map StoredProfile.key = d.profiles.map fun p => p.2.storageKey :=
    map_eq_of_forall₂ htaken fun _ _ ht => ht.key
  have hrules : (stored.flatMap fun p => p.rules.map StoredRule.key) =
      d.profiles.flatMap fun p => p.2.rules.map RuleDefinition.storageKey := by
    rw [List.flatMap_def, List.flatMap_def, map_eq_of_forall₂ htaken fun _ _ ht => ht.ruleKeys]
  have hruleIds : (stored.map fun q => q.rules.map StoredRule.ruleId) =
      d.profiles.map fun p => p.2.rules.map RuleDefinition.id :=
    map_eq_of_forall₂ htaken fun _ _ ht => ht.ruleIds
  have haccepted : ∀ p ∈ d.profiles, (p.2.rules.map RuleDefinition.id).Nodup := by
    have hdocument : validateDocument d = .ok () := by
      unfold validateConfigDocument at hvalid
      split at hvalid
      · assumption
      · cases hvalid
    intro p hp
    exact (validateProfiles_forall (validateDocument_parts hdocument).2.2.1 p hp).nodup
  refine ⟨?_, ?_, ?_, ?_⟩
  · rw [(hperm.map _).nodup_iff, hids]
    exact hd.ids
  · intro s hs
    have hmem : s.rules.map StoredRule.ruleId ∈
        stored.map fun q => q.rules.map StoredRule.ruleId :=
      List.mem_map.mpr ⟨s, hperm.subset hs, rfl⟩
    rw [hruleIds] at hmem
    obtain ⟨p, hp, heq⟩ := List.mem_map.mp hmem
    rw [← heq]
    exact haccepted p hp
  · rw [keysFresh_nil_iff, (hperm.map _).pairwise_iff symm, hkeys]
    exact hd.keys
  · rw [keysFresh_nil_iff, (hperm.flatMap_right _).pairwise_iff symm, hrules]
    exact hd.ruleKeys

/-- For every repository and every document with distinct ids and keys: no positive key is given
twice, and the check of the profiles finds none, if and only if no key that is given by an id is
claimed by another. -/
theorem keysOnce_iff_unclaimed {d : ConfigDocument} (hcurrent : Accepted true current)
    (hd : DocumentKeys d) (h : configDocumentToStoredProfiles d = .ok edited) :
    (KeysOnce (mergeStableKeys current edited) ∧ NoDuplicate (mergeStableKeys current edited)) ↔
      Unclaimed current edited := by
  have hstored := stored_of_accepted hcurrent
  constructor
  · rintro ⟨honce, -⟩
    exact unclaimed_of_keysOnce hstored honce
  · intro hunclaimed
    have honce := keysOnce_of_unclaimed hstored (editable_of_document hd h) hunclaimed
    exact ⟨honce, honce.noDuplicate⟩

end Settled

section Renamed

attribute [local instance] bitLibrary

/-- One profile is stored, with one rule. -/
def oneStored : List StoredProfile :=
  [{ key := 1, profileId := str "a", rules := [
    { key := 1, ruleId := str "x", enabled := true, type := str "set_field" }] }]

lemma oneStored_accepted : Accepted true oneStored :=
  validateProfiles_ok.mp (toOption_eq_some.mp (by decide))

/-- The profile is renamed, and another is new. -/
def renamedDocument (fresh : String) : ConfigDocument where
  profiles := [(str fresh, {}), (str "b", { storageKey := 1, storagePosition := some 0 })]

def renamedProfiles (fresh : String) : List StoredProfile :=
  [{ key := 1, profileId := str "b" }, { profileId := str fresh }]

lemma renamedDocument_keys : DocumentKeys (renamedDocument "a") := by
  refine ⟨by decide, ?_, by simp [renamedDocument]⟩
  simp [renamedDocument, Apart]

theorem keysOnce_iff_unclaimed_renamed :
    KeysOnce (mergeStableKeys oneStored (renamedProfiles "c")) ∧
      NoDuplicate (mergeStableKeys oneStored (renamedProfiles "c")) := by
  have hd : DocumentKeys (renamedDocument "c") := by
    refine ⟨by decide, ?_, by simp [renamedDocument]⟩
    simp [renamedDocument, Apart]
  have h : configDocumentToStoredProfiles (renamedDocument "c") = .ok (renamedProfiles "c") :=
    toOption_eq_some.mp (by decide)
  refine (keysOnce_iff_unclaimed oneStored_accepted hd h).mpr ⟨?_, ?_⟩
  · decide
  · decide

/-- A profile is renamed and a new one takes the old name: both are given the stored key. -/
theorem keysOnce_fails :
    Accepted true oneStored ∧ DocumentKeys (renamedDocument "a") ∧
    configDocumentToStoredProfiles (renamedDocument "a") = .ok (renamedProfiles "a") ∧
    ¬ KeysOnce (mergeStableKeys oneStored (renamedProfiles "a")) ∧
    validateProfiles false (mergeStableKeys oneStored (renamedProfiles "a")) =
      .error (str "profile store contains a duplicate profile key") := by
  refine ⟨oneStored_accepted, renamedDocument_keys, toOption_eq_some.mp (by decide), ?_, ?_⟩
  · intro h
    have hkeys := h.profiles.differ
    revert hkeys
    decide
  · decide

end Renamed

end CcsTrans.Repository
