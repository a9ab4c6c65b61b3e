import CcsTrans.Config.Snapshot

/-!
Snapshots and documents are interchangeable.

A document keeps its profiles by name and remembers where each stood in the snapshot. The
snapshot comes back from its document with every profile in its place, and with the text of
every option as it was.
-/

namespace CcsTrans.Config

open CcsTrans.Text CcsTrans.Json CcsTrans.Storage CcsTrans.Fallible

/-- A list of items that is sorted by their numbers is found again from any order of them. -/
lemma insertionSort_eq_of_perm {α : Type} {xs ys : List (ℕ × α)} (hp : xs.Perm ys)
    (hys : ys.Pairwise fun a b => a.1 < b.1) : xs.insertionSort (fun a b => a.1 ≤ b.1) = ys := by
  have hnodup : (ys.map Prod.fst).Nodup :=
    List.pairwise_map.mpr (hys.imp fun h => Nat.ne_of_lt h)
  have hperm : (xs.insertionSort fun a b => a.1 ≤ b.1).Perm ys :=
    (List.perm_insertionSort _ xs).trans hp
  have : Std.Total fun a b : ℕ × α => a.1 ≤ b.1 := ⟨fun a b => Nat.le_total a.1 b.1⟩
  have : IsTrans (ℕ × α) fun a b => a.1 ≤ b.1 := ⟨fun a b c => Nat.le_trans⟩
  apply List.Perm.eq_of_pairwise _ (List.pairwise_insertionSort _ xs) (hys.imp Nat.le_of_lt) hperm
  intro a b ha hb hab hba
  exact List.inj_on_of_nodup_map hnodup (hperm.subset ha) hb (Nat.le_antisymm hab hba)

/-- The profiles of a snapshot, each with its place. -/
def placed (position : ℕ) (profiles : List StoredProfile) : List (ℕ × StoredProfile) :=
  (List.range' position profiles.length).zip profiles

lemma map_snd_placed (position : ℕ) (profiles : List StoredProfile) :
    (placed position profiles).map Prod.snd = profiles :=
  List.map_snd_zip (by simp)

lemma pairwise_placed (position : ℕ) (profiles : List StoredProfile) :
    (placed position profiles).Pairwise fun a b => a.1 < b.1 := by
  have hfst : (placed position profiles).map Prod.fst = List.range' position profiles.length :=
    List.map_fst_zip (by simp)
  apply List.pairwise_map.mp
  rw [hfst]
  exact List.pairwise_lt_range'

section Interchange

variable [Library]

/-- A rule is stored with the text that it was read from. -/
lemma ruleToStored_definition (stored : StoredRule) (rule : RuleDefinition)
    (h : storedRuleToDefinition stored = .ok rule) : ruleToStored rule = .ok stored := by
  unfold storedRuleToDefinition at h
  dsimp only at h
  split at h
  next options hparse =>
    split_ifs at h with hdump
    cases h
    have hsorted := (proper_obj.mp (parseWithComments_writable hparse)).1
    rw [ruleToStored, foldl_insertMember (by simpa using hsorted), List.nil_append,
      not_not.mp hdump]
  · cases h

lemma profileToStored_definition {position : ℕ} {stored : StoredProfile} {p : ProfileDefinition}
    (h : storedProfileToDefinition position stored = .ok p) :
    p.storagePosition = some position ∧ profileToStored stored.profileId p = .ok stored := by
  obtain ⟨rules, hrules, h⟩ := bind_eq_ok.mp h
  cases h
  refine ⟨rfl, ?_⟩
  have hback := mapM_inverse ruleToStored_definition hrules
  simp only [profileToStored, StoredProfile.definition, hback, ok_bind, pure_eq_ok]

/-- A profile of a document, with its place. -/
def placedToStored (m : Bytes × ProfileDefinition) : Except Bytes (ℕ × StoredProfile) := do
  return (m.2.storagePosition.getD sizeMax, ← profileToStored m.1 m.2)

/-- The profiles that were converted are those of the snapshot, each with its place. -/
lemma convertProfiles_placed {profiles : List StoredProfile} {position : ℕ}
    {converted out : List (Bytes × ProfileDefinition)}
    (h : convertProfiles position converted profiles = .ok out) :
    ∃ added, out.Perm (added ++ converted) ∧
      added.mapM placedToStored = .ok (placed position profiles) := by
  induction profiles generalizing position converted with
  | nil =>
    cases h
    exact ⟨[], .refl _, rfl⟩
  | cons stored rest ih =>
    rw [convertProfiles] at h
    split at h
    · cases h
    next profile hprofile =>
    split_ifs at h with hnew
    obtain ⟨added, hperm, hadded⟩ := ih h
    have hfresh : ∀ m ∈ converted, m.1 ≠ stored.profileId := by
      intro m hm hid
      exact hnew (contains_of_mem (hid ▸ List.mem_map_of_mem hm))
    obtain ⟨hplace, hstored⟩ := profileToStored_definition hprofile
    refine ⟨(stored.profileId, profile) :: added, ?_, ?_⟩
    · exact hperm.trans ((List.perm_append_left_iff _).mpr (perm_insertMember hfresh) |>.trans
        List.perm_middle)
    · refine mapM_cons_eq_ok.mpr ⟨(position, stored), placed (position + 1) rest, ?_, hadded, ?_⟩
      · simp only [placedToStored, hplace, hstored, Option.getD_some, ok_bind, pure_eq_ok]
      · simp [placed, List.range'_succ]

/-- **Snapshots and documents are interchangeable.** The document of a snapshot has its settings,
and gives its profiles back: every key and name, the order of the profiles and of their rules,
and the text of every option. -/
theorem configDocumentToStoredProfiles_snapshot {s : ConfigurationSnapshot} {d : ConfigDocument}
    (h : configurationSnapshotToConfigDocument s = .ok d) :
    configDocumentToStoredProfiles d = .ok s.profiles ∧ d.application = s.application := by
  obtain ⟨profiles, hprofiles, h⟩ := bind_eq_ok.mp h
  obtain ⟨_, hvalid, h⟩ := bind_eq_ok.mp h
  cases h
  obtain ⟨added, hperm, hadded⟩ := convertProfiles_placed hprofiles
  rw [List.append_nil] at hperm
  obtain ⟨ordered, hordered, hplaced⟩ := mapM_perm hperm.symm hadded
  refine ⟨?_, rfl⟩
  have hvalid' : validateConfigDocument ⟨s.application, profiles⟩ = .ok () := by
    rw [validateConfigDocument, hvalid]
  rw [configDocumentToStoredProfiles, hvalid', ok_bind,
    show profiles.mapM _ = .ok ordered from hordered, ok_bind,
    insertionSort_eq_of_perm hplaced.symm (pairwise_placed 0 s.profiles), map_snd_placed]
  rfl

end Interchange

section Swapped

attribute [local instance] bitLibrary

/-- The second profile comes first by name, and has a rule. -/
def swappedSnapshot : ConfigurationSnapshot where
  profiles := [
    { key := 3, profileId := str "b" },
    { key := 1, profileId := str "a", rules := [
      { key := 2, ruleId := str "x", enabled := false, type := str "set_field",
        optionsJson := str "\x7b\"path\":\"/a\",\"value\":[1,null]\x7d" }] }]

theorem configDocumentToStoredProfiles_swapped : ∃ d,
    configurationSnapshotToConfigDocument swappedSnapshot = .ok d ∧
    d.profiles.map Prod.fst = [str "a", str "b"] ∧
    configDocumentToStoredProfiles d = .ok swappedSnapshot.profiles := by
  have hnames : (configurationSnapshotToConfigDocument swappedSnapshot).toOption.map
      (fun d => d.profiles.map Prod.fst) = some [str "a", str "b"] := by decide +kernel
  cases h : configurationSnapshotToConfigDocument swappedSnapshot with
  | error e =>
    rw [h] at hnames
    cases hnames
  | ok d =>
    rw [h] at hnames
    exact ⟨d, rfl, Option.some.inj hnames, (configDocumentToStoredProfiles_snapshot h).1⟩

end Swapped

end CcsTrans.Config
