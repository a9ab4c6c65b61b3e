import CcsTrans.Storage.Stored

/-!
Making room: the first half of a save.

All rows are parked, under names that no accepted name equals and at positions beyond all
others, and the rows that are not wanted any more are deleted. The parking statement meets
its constraints after every single row.
-/

namespace CcsTrans.Storage

open CcsTrans.Text CcsTrans.Json CcsTrans.Config CcsTrans.Storage.Table CcsTrans.Fallible

/-- Out of the way of rows in their places. -/
def Parked (id : Bytes) (position : ℤ) : Prop := id.head? = some (ch '#') ∧ 1000000 ≤ position

/-- A name and a position as rows in their places have them. -/
def InPlace (id : Bytes) (position : ℤ) : Prop :=
  id.head?.all isAlnum = true ∧ 0 ≤ position ∧ position < 1000000

lemma Parked.id_ne {id id' : Bytes} {n : ℤ} (h : Parked id n) (h' : id'.head?.all isAlnum = true) :
    id ≠ id' := by
  rintro rfl
  rw [h.1] at h'
  exact absurd h' (by decide)

lemma decimalInt_inj {a b : ℤ} (ha : 0 < a) (hb : 0 < b) (h : decimalInt a = decimalInt b) :
    a = b := by
  unfold decimalInt at h
  rw [if_neg (by omega), if_neg (by omega)] at h
  have := congrArg digitsValue h
  rw [digitsValue_decimal, digitsValue_decimal] at this
  omega

/-! ### Parking one row -/

lemma parked_tempProfile {r : ProfileRow} (h : 0 ≤ r.position) :
    Parked (tempProfile r).profileId (tempProfile r).position :=
  ⟨rfl, by simp only [tempProfile]; omega⟩

lemma parked_tempRule {r : RuleRow} (h : 0 ≤ r.position) :
    Parked (tempRule r).ruleId (tempRule r).position :=
  ⟨rfl, by simp only [tempRule]; omega⟩

/-- A parked profile keeps apart from those that are still in their places. -/
lemma tempProfile_apart {a b : ProfileRow} (h : a.Apart b) (ha : 0 ≤ a.position)
    (hb : InPlace b.profileId b.position) : (tempProfile a).Apart b := by
  have hp := parked_tempProfile ha
  exact ⟨h.1, hp.id_ne hb.1, fun he => by have := hp.2; have := hb.2.2; omega⟩

lemma tempProfile_apart_temp {a b : ProfileRow} (h : a.Apart b) (ha : 0 < a.key) (hb : 0 < b.key) :
    (tempProfile b).Apart (tempProfile a) := by
  refine ⟨Ne.symm h.1, fun he => h.1 ?_, fun he => h.2.2 ?_⟩
  · exact (decimalInt_inj hb ha (List.append_cancel_left he)).symm
  · simp only [tempProfile] at he
    omega

lemma tempRule_apart {a b : RuleRow} (h : a.Apart b) (ha : 0 ≤ a.position)
    (hb : InPlace b.ruleId b.position) : (tempRule a).Apart b := by
  have hp := parked_tempRule ha
  exact ⟨h.1, fun he => hp.id_ne hb.1 he.2, fun he => by have := hp.2; have := hb.2.2; omega⟩

lemma tempRule_apart_temp {a b : RuleRow} (h : a.Apart b) (ha : 0 < a.key) (hb : 0 < b.key) :
    (tempRule b).Apart (tempRule a) := by
  refine ⟨Ne.symm h.1, fun he => h.1 ?_, fun he => h.2.2 ⟨he.1.symm, ?_⟩⟩
  · exact (decimalInt_inj hb ha (List.append_cancel_left he.2)).symm
  · have := he.2
    simp only [tempRule] at this
    omega

/-- The tables when all rows are parked. -/
def parked (t : Tables) : Tables :=
  { t with rules := { t.rules with rows := t.rules.rows.map tempRule },
           profiles := { t.profiles with rows := t.profiles.rows.map tempProfile } }

section Rename

variable [Library]

/-! ### Rows of accepted profiles -/

lemma Accepted.profile_inPlace {persisted : Bool} {ps : List StoredProfile}
    (h : Accepted persisted ps) {i : ℕ} {p : StoredProfile} (hp : ps[i]? = some p) :
    InPlace p.profileId i := by
  have hlt := (List.getElem?_eq_some_iff.mp hp).1
  have hcount := h.count
  unfold kMaxConfigProfiles at hcount
  exact ⟨validStableId_head (h.each p (List.mem_of_getElem? hp)).validId, by omega, by omega⟩

lemma InOrder.rule_inPlace [Sqlite] {persisted : Bool} {p : StoredProfile} (h : InOrder persisted p)
    {j : ℕ} {r : StoredRule} (hr : p.rules[j]? = some r) : InPlace r.ruleId j := by
  have hlt := (List.getElem?_eq_some_iff.mp hr).1
  have hcount := h.count
  unfold kMaxRulesPerProfile at hcount
  exact ⟨validStableId_head (h.rulesFit.ids r (List.mem_of_getElem? hr)), by omega, by omega⟩

lemma InOrder.rule_pos {p : StoredProfile} (h : InOrder true p) {r : StoredRule}
    (hr : r ∈ p.rules) : 0 < r.key := by
  obtain ⟨defs, hread, -⟩ := h.reads
  simpa [keyAllowed] using hread.keys r hr

variable [Sqlite]

/-- Parking never meets a constraint. -/
lemma renameAll_eq {t : Tables} {ps : List StoredProfile} (ht : t.Valid) (hs : Stores t ps)
    (hps : Accepted true ps) :
    renameAll t = .ok (parked t) := by
  have hprofile : ∀ r ∈ t.profiles.rows, 0 < r.key ∧ InPlace r.profileId r.position := by
    intro r hr
    obtain ⟨i, p, hp, rfl⟩ := mem_profileRows.mp ((hs.profiles r).mp hr)
    exact ⟨(hps.each p (List.mem_of_getElem? hp)).key_pos, hps.profile_inPlace hp⟩
  have hrule : ∀ r ∈ t.rules.rows, 0 < r.key ∧ InPlace r.ruleId r.position := by
    intro r hr
    obtain ⟨p, hp, hr⟩ := (hs.rules r).mp hr
    obtain ⟨j, q, hq, rfl⟩ := mem_ruleRows.mp hr
    exact ⟨(hps.each p hp).rule_pos (List.mem_of_getElem? hq), (hps.each p hp).rule_inPlace hq⟩
  have hrules : update RuleRow.Ok RuleRow.Apart (fun _ => true) tempRule t.rules =
      some (t.rules.rows.countP fun _ => true, { t.rules with rows := t.rules.rows.map tempRule }) := by
    refine update_eq (fun r hr _ => ?_) ?_
    · have := ht.rulesOk r hr
      exact ⟨by simp only [tempRule]; have := this.1; omega, this.2⟩
    · refine ht.rules.imp_of_mem fun {a b} ha hb hab => ⟨fun _ => ?_, fun _ => ?_⟩
      · exact tempRule_apart hab (hrule a ha).2.2.1 (hrule b hb).2
      · exact tempRule_apart_temp hab (hrule a ha).1 (hrule b hb).1
  have hprofiles : update ProfileRow.Ok ProfileRow.Apart (fun _ => true) tempProfile t.profiles =
      some (t.profiles.rows.countP fun _ => true, { t.profiles with rows := t.profiles.rows.map tempProfile }) := by
    refine update_eq (fun r hr _ => ?_) ?_
    · have := ht.profilesOk r hr
      exact ⟨by simp only [tempProfile]; have := this.1; omega, this.2⟩
    · refine ht.profiles.imp_of_mem fun {a b} ha hb hab => ⟨fun _ => ?_, fun _ => ?_⟩
      · exact tempProfile_apart hab (hprofile a ha).2.2.1 (hprofile b hb).2
      · exact tempProfile_apart_temp hab (hprofile a ha).1 (hprofile b hb).1
  simp only [renameAll, hrules, hprofiles, parked]

end Rename

/-! ### Deleting -/

lemma foldl_deleteRule (ks : List ℤ) (t : Tables) : ks.foldl deleteRule t =
    { t with rules := { t.rules with rows := t.rules.rows.filter fun r => r.key ∉ ks } } := by
  induction ks generalizing t with
  | nil => simp
  | cons k ks ih =>
    rw [List.foldl_cons, ih]
    simp only [deleteRule, delete, List.filter_filter]
    congr 3
    ext r
    simp [Bool.and_comm]

lemma foldl_deleteProfile (ks : List ℤ) (t : Tables) : ks.foldl deleteProfile t =
    { t with
      profiles := { t.profiles with rows := t.profiles.rows.filter fun r => r.key ∉ ks },
      rules := { t.rules with rows := t.rules.rows.filter fun r => r.profileKey ∉ ks } } := by
  induction ks generalizing t with
  | nil => simp
  | cons k ks ih =>
    rw [List.foldl_cons, ih]
    simp only [deleteProfile, delete, List.filter_filter]
    congr 3
    · ext r
      simp [Bool.and_comm]
    · ext r
      simp [Bool.and_comm]

end CcsTrans.Storage
