import CcsTrans.Editor.Atomic
import CcsTrans.Editor.Committed

/-!
Every draft that editing can reach is sound.

Each operation that succeeds is a step of editing, or a few of them; one that fails changes
nothing. The soundness of the snapshot that an editor began with is therefore carried along
any sequence of operations.
-/

namespace CcsTrans.Editor

open CcsTrans.Text CcsTrans.Json CcsTrans.Config CcsTrans.Storage CcsTrans.InPlace

/-! ### Rules -/

section Rules

variable [Library] {next next' : ℤ} {rules rules' : List StoredRule}

/-- Rules are left out or reordered. -/
lemma RulesFollow.subperm (h : RulesFollow next next rules rules) (hsub : rules'.Subperm rules) :
    RulesFollow next next rules rules' := by
  have hmem : ∀ r ∈ rules', r ∈ rules := fun r hr => hsub.subset hr
  obtain ⟨l, hperm, hsub⟩ := hsub
  refine ⟨?_, ?_, fun r hr => h.origin r (hmem r hr), fun r hr => h.options r (hmem r hr),
    le_refl _⟩
  · exact ((hperm.map _).nodup_iff).mp (h.ids.sublist (hsub.map _))
  · exact ((hperm.map _).nodup_iff).mp (h.keys.sublist (hsub.map _))

/-- The options of a rule change, or whether it is enabled. -/
lemma RulesFollow.put (h : RulesFollow next next rules rules) {id : Bytes} {r r' : StoredRule}
    (hfind : findRule rules id = some r) (hid : r'.ruleId = r.ruleId) (hkey : r'.key = r.key)
    (hoptions : CanonicalOptions r'.optionsJson) :
    RulesFollow next next rules (putFirst (fun q => q.ruleId == id) r' rules) := by
  obtain ⟨as, bs, rfl, hput, -⟩ := split_of_find hfind
  rw [hput]
  have hmem : ∀ q ∈ as ++ r' :: bs, q = r' ∨ q ∈ as ++ r :: bs := by
    intro q hq
    simp only [List.mem_append, List.mem_cons] at hq ⊢
    tauto
  refine ⟨?_, ?_, fun q hq => ?_, fun q hq => ?_, le_refl _⟩
  · have := h.ids
    simp only [List.map_append, List.map_cons] at this ⊢
    rwa [hid]
  · have := h.keys
    simp only [List.map_append, List.map_cons] at this ⊢
    rwa [hkey]
  · rcases hmem q hq with rfl | hq
    · exact Or.inl (by simp [hkey])
    · exact h.origin q hq
  · rcases hmem q hq with rfl | hq
    · exact hoptions
    · exact h.options q hq

lemma canonicalOptions_empty : CanonicalOptions [ch '{', ch '}'] :=
  @canonicalOptions_of_dump _ [] _ (proper_obj.mpr ⟨List.Pairwise.nil, by simp⟩) rfl

/-- A rule is added under the next key. -/
lemma RulesFollow.add (h : RulesFollow next next rules rules) {id type : Bytes}
    (hnew : findRule rules id = none) (hnext : next < 0) (hbelow : ∀ r ∈ rules, Taken next r.key) :
    RulesFollow next (next - 1) rules (rules ++ [{ key := next, ruleId := id, type := type }]) := by
  have hout : id ∉ rules.map StoredRule.ruleId := by
    simpa [findRule, List.find?_eq_none] using hnew
  have hmem : ∀ r ∈ rules ++ [({ key := next, ruleId := id, type := type } : StoredRule)],
      r ∈ rules ∨ r = { key := next, ruleId := id, type := type } := by
    intro r hr
    simpa using hr
  refine ⟨?_, ?_, fun r hr => ?_, fun r hr => ?_, by omega⟩
  · rw [List.map_append, List.nodup_append']
    refine ⟨h.ids, by simp, fun k hk hk' => ?_⟩
    simp only [List.map_cons, List.map_nil, List.mem_singleton] at hk'
    exact hout (hk' ▸ hk)
  · rw [List.map_append, List.nodup_append']
    refine ⟨h.keys, by simp, fun k hk hk' => ?_⟩
    obtain ⟨r, hr, rfl⟩ := List.mem_map.mp hk
    have := hbelow r hr
    simp only [List.map_cons, List.map_nil, List.mem_singleton] at hk'
    simp only [Taken] at this
    omega
  · rcases hmem r hr with hr | rfl
    · exact Or.inl (List.mem_map_of_mem hr)
    · exact Or.inr ⟨by simp, le_refl _⟩
  · rcases hmem r hr with hr | rfl
    · exact h.options r hr
    · exact canonicalOptions_empty

end Rules

/-! ### Keys for rules that have none -/

section AssignKeys

variable {next : ℤ} {rs : List StoredRule}

lemma assignKeys_map {α : Type} (f : StoredRule → α) (hf : ∀ r k, f { r with key := k } = f r)
    (next : ℤ) (rs : List StoredRule) : (assignKeys next rs).2.map f = rs.map f := by
  induction rs generalizing next with
  | nil => rfl
  | cons r rs ih =>
    rw [assignKeys]
    split_ifs
    · simp only [List.map_cons, hf, ih]
    · simp only [List.map_cons, ih]

lemma assignKeys_le (next : ℤ) (rs : List StoredRule) : (assignKeys next rs).1 ≤ next := by
  induction rs generalizing next with
  | nil => exact le_refl _
  | cons r rs ih =>
    rw [assignKeys]
    split_ifs
    · have := ih (next - 1)
      simp only
      omega
    · exact ih next

/-- A rule keeps its key or gets one from the counter. -/
lemma mem_assignKeys {r : StoredRule} (h : r ∈ (assignKeys next rs).2) :
    (r.key ≠ 0 ∧ r ∈ rs) ∨ (assignKeys next rs).1 < r.key ∧ r.key ≤ next := by
  induction rs generalizing next with
  | nil => cases h
  | cons q rs ih =>
    rw [assignKeys] at h ⊢
    split_ifs at h ⊢ with hq
    · have hle := assignKeys_le (next - 1) rs
      rcases List.mem_cons.mp h with rfl | h
      · right
        simp only
        omega
      · rcases ih h with ⟨hne, hr⟩ | hr
        · exact Or.inl ⟨hne, by simp [hr]⟩
        · right
          simp only
          omega
    · rcases List.mem_cons.mp h with rfl | h
      · exact Or.inl ⟨hq, by simp⟩
      · rcases ih h with ⟨hne, hr⟩ | hr
        · exact Or.inl ⟨hne, by simp [hr]⟩
        · exact Or.inr hr

/-- The keys are distinct: those that were there differ, and lie above or below the others. -/
lemma nodup_assignKeys (hdiffer : rs.Pairwise fun a b => a.key ≠ 0 → a.key ≠ b.key)
    (hnext : next < 0) (hbelow : ∀ r ∈ rs, r.key ≠ 0 → Taken next r.key) :
    ((assignKeys next rs).2.map StoredRule.key).Nodup := by
  induction rs generalizing next with
  | nil => exact List.nodup_nil
  | cons r rs ih =>
    rw [List.pairwise_cons] at hdiffer
    rw [assignKeys]
    split_ifs with hr
    · have hrest : ((assignKeys (next - 1) rs).2.map StoredRule.key).Nodup := by
        refine ih hdiffer.2 (by omega) fun q hq hne => ?_
        have := hbelow q (by simp [hq]) hne
        simp only [Taken] at this ⊢
        omega
      rw [List.map_cons, List.nodup_cons]
      refine ⟨fun hmem => ?_, hrest⟩
      obtain ⟨q, hq, hkey⟩ := List.mem_map.mp hmem
      simp only at hkey
      rcases mem_assignKeys hq with ⟨hne, hq⟩ | hq
      · have := hbelow q (by simp [hq]) hne
        simp only [Taken] at this
        omega
      · omega
    · have hrest := ih hdiffer.2 hnext fun q hq hne => hbelow q (by simp [hq]) hne
      rw [List.map_cons, List.nodup_cons]
      refine ⟨fun hmem => ?_, hrest⟩
      obtain ⟨q, hq, hkey⟩ := List.mem_map.mp hmem
      rcases mem_assignKeys hq with ⟨-, hq⟩ | hq
      · exact hdiffer.1 q hq hr hkey.symm
      · have := hbelow r (by simp) hr
        simp only [Taken] at this
        omega

end AssignKeys

/-! ### The text of the rules -/

section Text

variable [TextLibrary] {next : ℤ} {rules parsed : List StoredRule} {content : Bytes}

lemma canonicalOptions_canonical {options : List (Bytes × Value)} {text : Bytes}
    (h : canonicalOptions (.obj options) = some text) : CanonicalOptions text := by
  obtain ⟨u, hu, h⟩ := Option.bind_eq_some_iff.mp h
  obtain ⟨v, hv, h⟩ := Option.bind_eq_some_iff.mp h
  have hparse : parse u = .ok v := Fallible.toOption_eq_some.mp hv
  have htree := parseTree_dumpAt (c := false) hu ends_nil rfl
  rw [List.append_nil] at htree
  have hobject : parse u = .ok (toDom (canon (.obj options))) := by
    rw [parse, htree]
    rfl
  rw [hparse, canon, toDom] at hobject
  cases hobject
  exact canonicalOptions_of_dump ((parse_writable hparse).mono fun _ _ => trivial) h

lemma key_of_accepted {registry : Rules.RuleRegistry} {r : StoredRule}
    (h : AcceptedRule registry content rules r) (hne : r.key ≠ 0) :
    ∃ q ∈ rules, q.ruleId = r.ruleId ∧ q.key = r.key := by
  have hkey := h.key
  cases hfind : rules.find? fun q => q.ruleId == r.ruleId with
  | none =>
    rw [hfind] at hkey
    exact absurd hkey hne
  | some q =>
    rw [hfind] at hkey
    exact ⟨q, List.mem_of_find?_eq_some hfind, by simpa using List.find?_some hfind, hkey.symm⟩

/-- The rules of a text follow those of the profile: a key goes with the id. -/
lemma RulesFollow.text (h : RulesFollow next next rules rules) (hnext : next < 0)
    (hbelow : ∀ r ∈ rules, Taken next r.key) (hparsed : parseRulesText content rules = .ok parsed) :
    RulesFollow next (assignKeys next parsed).1 rules (assignKeys next parsed).2 := by
  obtain ⟨registry, -, haccepted, hnodup, -⟩ := parseRulesText_ok hparsed
  have hids := assignKeys_map StoredRule.ruleId (fun _ _ => rfl) next parsed
  have htexts := assignKeys_map StoredRule.optionsJson (fun _ _ => rfl) next parsed
  refine ⟨by rwa [hids], ?_, fun r hr => ?_, fun r hr => ?_, assignKeys_le next parsed⟩
  · refine nodup_assignKeys ?_ hnext fun r hr hne => ?_
    · refine (List.pairwise_map.mp hnodup).imp_of_mem fun {a b} ha hb hab hne heq => hab ?_
      obtain ⟨p, hp, hpid, hpkey⟩ := key_of_accepted (haccepted a ha) hne
      obtain ⟨q, hq, hqid, hqkey⟩ := key_of_accepted (haccepted b hb) (heq ▸ hne)
      have hsame : p = q := List.inj_on_of_nodup_map h.keys hp hq (by omega)
      rw [← hpid, ← hqid, hsame]
    · obtain ⟨q, hq, -, hkey⟩ := key_of_accepted (haccepted r hr) hne
      rw [← hkey]
      exact hbelow q hq
  · rcases mem_assignKeys hr with ⟨hne, hr⟩ | hr
    · obtain ⟨q, hq, -, hkey⟩ := key_of_accepted (haccepted r hr) hne
      exact Or.inl (List.mem_map.mpr ⟨q, hq, hkey⟩)
    · exact Or.inr hr
  · have hmem : r.optionsJson ∈ parsed.map StoredRule.optionsJson := by
      rw [← htexts]
      exact List.mem_map_of_mem hr
    obtain ⟨q, hq, hqtext⟩ := List.mem_map.mp hmem
    obtain ⟨options, hoptions, -⟩ := (haccepted q hq).options
    rw [← hqtext]
    exact canonicalOptions_canonical hoptions

end Text

/-! ### Options -/

section Options

variable [Library] {text option value serialized : Bytes}

lemma withOption_canonical (h : withOption text option value = .ok serialized) :
    CanonicalOptions serialized := by
  unfold withOption at h
  obtain ⟨options, hoptions, h⟩ := Fallible.bind_eq_ok.mp h
  obtain ⟨v, hv, h⟩ := Fallible.bind_eq_ok.mp h
  have hparse : ∀ {s w f}, (parse s).mapError f = (.ok w : Except Bytes Value) → Document w := by
    intro s w f hw
    cases hp : parse s with
    | error e =>
      rw [hp] at hw
      cases hw
    | ok w' =>
      rw [hp] at hw
      cases hw
      exact (parse_writable hp).mono fun _ _ => trivial
  split at h
  · dsimp only at h
    split at h
    · cases h
    · next u hu =>
      split at h
      · cases h
      · cases h
        exact canonicalOptions_of_dump ((hparse hoptions).insertMember trivial (hparse hv)) hu
  · cases h

lemma withoutOption_canonical (h : withoutOption text option = .ok serialized) :
    CanonicalOptions serialized := by
  unfold withoutOption at h
  obtain ⟨options, hoptions, h⟩ := Fallible.bind_eq_ok.mp h
  split at h
  · next ms =>
    dsimp only at h
    split at h
    · cases h
    split at h
    · cases h
    · next u hu =>
      cases h
      cases hp : parse text with
      | error e =>
        rw [hp] at hoptions
        cases hoptions
      | ok w =>
        rw [hp] at hoptions
        cases hoptions
        have hdocument : Document (.obj ms) := (parse_writable hp).mono fun _ _ => trivial
        exact canonicalOptions_of_dump (hdocument.erase option) hu
  · cases h

end Options

/-! ### Fields -/

section Fields

variable {d : ConfigurationFieldDescriptor} {value : ConfigurationFieldValue}

/-- The texts of a profile that may be missing are neither its identity nor its rules. -/
lemma profileAccessor_keeps {k : Bytes} {get : StoredProfile → Option Bytes}
    {set : Option Bytes → StoredProfile → StoredProfile}
    (h : Json.find k profileAccessors = some (get, set)) (v : Option Bytes) (p : StoredProfile) :
    (set v p).key = p.key ∧ (set v p).rules = p.rules ∧ (set v p).profileId = p.profileId := by
  have hmem := mem_of_find h
  simp only [profileAccessors, List.mem_cons, List.not_mem_nil, or_false, Prod.mk.injEq] at hmem
  rcases hmem with ⟨-, -, rfl⟩ | ⟨-, -, rfl⟩ | ⟨-, -, rfl⟩ | ⟨-, -, rfl⟩ | ⟨-, -, rfl⟩ |
    ⟨-, -, rfl⟩ <;> exact ⟨rfl, rfl, rfl⟩

lemma applyProfileField_ok {p p' : StoredProfile} {u : Unit}
    (h : applyProfileField d value p = .ok u p') : p'.key = p.key ∧ p'.rules = p.rules ∧
      (p'.profileId = p.profileId ∨ d.key = str "id" ∧ value = .text p'.profileId) := by
  unfold applyProfileField at h
  obtain ⟨_, -, h⟩ := demand_bind_eq_ok.mp h
  obtain ⟨_, -, h⟩ := demand_bind_eq_ok.mp h
  split_ifs at h with hid henabled
  · split at h
    · next id =>
      obtain ⟨-, h⟩ := rejectIf_bind_eq_ok.mp h
      cases h
      exact ⟨rfl, rfl, Or.inr ⟨hid, rfl⟩⟩
    · cases h
  · split at h
    · cases h
      exact ⟨rfl, rfl, Or.inl rfl⟩
    · cases h
  · cases hfind : Json.find d.key profileAccessors with
    | none =>
      simp only [hfind] at h
      cases h
    | some access =>
      obtain ⟨get, set⟩ := access
      cases value with
      | text v =>
        simp only [hfind] at h
        cases h
        obtain ⟨hkey, hrules, hsame⟩ := profileAccessor_keeps hfind (some v) p
        exact ⟨hkey, hrules, Or.inl hsame⟩
      | number | flag =>
        simp only [hfind] at h
        cases h

lemma resetProfileField_ok {p p' : StoredProfile} {u : Unit}
    (h : resetProfileField d p = .ok u p') :
    p'.key = p.key ∧ p'.rules = p.rules ∧ p'.profileId = p.profileId := by
  unfold resetProfileField at h
  obtain ⟨_, -, h⟩ := demand_bind_eq_ok.mp h
  split_ifs at h
  · cases h
    exact ⟨rfl, rfl, rfl⟩
  · cases h
  · cases hfind : Json.find d.key profileAccessors with
    | none =>
      simp only [hfind] at h
      cases h
    | some access =>
      obtain ⟨get, set⟩ := access
      simp only [hfind] at h
      obtain ⟨_, _, hget, h⟩ := bind_eq_ok.mp h
      cases hget
      split_ifs at h
      · cases h
        exact profileAccessor_keeps hfind none p
      · cases h

end Fields

/-! ### Operations -/

section Operations

variable {e e' : ConfigurationEditor} {α : Type}

lemma refuse_ne_ok (error : Bytes) (a : α) (t : ConfigurationEditor) :
    (refuse error : Edit α) e ≠ .ok a t := nofun

lemma requireActive_bind_ok {f : Unit → Edit α} {a : α}
    (h : (requireActive >>= f) e = .ok a e') : f () e = .ok a e' := by
  obtain ⟨u, t, ht, h⟩ := bind_eq_ok.mp h
  unfold requireActive at ht
  rw [get_bind] at ht
  split_ifs at ht
  · cases ht
    exact h
  · cases ht

lemma theRule_bind_ok {p : StoredProfile} {id : Bytes} {f : StoredRule → Edit α} {a : α}
    (h : (theRule p id >>= f) e = .ok a e') :
    ∃ r, findRule p.rules id = some r ∧ f r e = .ok a e' := by
  unfold theRule at h
  cases hfind : findRule p.rules id with
  | none =>
    simp only [hfind] at h
    cases h
  | some q =>
    simp only [hfind] at h
    exact ⟨q, rfl, h⟩

lemma onProfile_ok {key : ℤ} {f : StoredProfile → Edit α} {a : α}
    (h : (do
      requireActive
      let p ← theProfile key (refuse profileGone)
      f p : Edit α) e = .ok a e') :
    ∃ p, findProfile e.draft.profiles p.key = some p ∧ f p e = .ok a e' :=
  theProfile_bind_ok (fun q t => refuse_ne_ok _ q t) (requireActive_bind_ok h)

lemma onRule_ok {key : ℤ} {id : Bytes} {f : StoredProfile → StoredRule → Edit α} {a : α}
    (h : (do
      requireActive
      let p ← theProfile key (refuse profileGone)
      let r ← theRule p id
      f p r : Edit α) e = .ok a e') :
    ∃ p r, findProfile e.draft.profiles p.key = some p ∧ findRule p.rules id = some r ∧
      f p r e = .ok a e' := by
  obtain ⟨p, hp, h⟩ := onProfile_ok h
  obtain ⟨r, hr, h⟩ := theRule_bind_ok h
  exact ⟨p, r, hp, hr, h⟩

lemma checkCollision_ok {p : StoredProfile} {d : ConfigurationFieldDescriptor} {id : Bytes} {u : Unit}
    (hid : d.key = str "id") (h : checkCollision p d (.text id) e = .ok u e') :
    ∀ q, findProfileById e.draft.profiles id = some q → q.key = p.key := by
  intro q hq
  unfold checkCollision at h
  rw [if_pos hid] at h
  obtain ⟨_, _, hget, h⟩ := bind_eq_ok.mp h
  cases hget
  simp only [hq] at h
  by_contra hne
  rw [if_pos hne] at h
  cases h

section Sound

variable [Library] {begun : List StoredProfile}

/-- The draft of an editor is sound. -/
def SoundDraft (begun : List StoredProfile) (e : ConfigurationEditor) : Prop :=
  Sound begun e.keyed

lemma soundDraft_of_kept (e e' : ConfigurationEditor) (h : kept e' = kept e)
    (he : SoundDraft begun e) : SoundDraft begun e' := by
  have hkeyed : (kept e').keyed = (kept e).keyed := congrArg ConfigurationEditor.keyed h
  show Sound begun (kept e').keyed
  rw [hkeyed]
  exact he

lemma Sound.follow {p : StoredProfile} (he : SoundDraft begun e)
    (hp : findProfile e.draft.profiles p.key = some p) :
    RulesFollow e.nextDraftRuleKey e.nextDraftRuleKey p.rules p.rules :=
  Sound.rulesFollow he (List.mem_of_find?_eq_some hp)

lemma Sound.taken {p : StoredProfile} (he : SoundDraft begun e)
    (hp : findProfile e.draft.profiles p.key = some p) :
    ∀ r ∈ p.rules, Taken e.nextDraftRuleKey r.key :=
  he.belowRules p (List.mem_of_find?_eq_some hp)

/-- The rules of a profile are written. -/
lemma soundDraft_putRules {p : StoredProfile} {rules' : List StoredRule} {next' : ℤ} {u : Unit}
    (he : SoundDraft begun e) (hp : findProfile e.draft.profiles p.key = some p)
    (hfollow : RulesFollow e.nextDraftRuleKey next' p.rules rules')
    (h : putRules p rules' { e with nextDraftRuleKey := next' } = .ok u e') :
    SoundDraft begun e' := by
  cases h
  exact he.edited (.rules hp hfollow)

lemma keeps_writeApplication (field : Bytes) (m : EStateM Bytes ApplicationSettings Unit) :
    Keeps (SoundDraft begun) (writeApplication field m) := by
  intro e u e' h he
  obtain ⟨_, _, hget, h⟩ := bind_eq_ok.mp h
  cases hget
  cases hm : m e.draft.application with
  | ok _ a =>
    simp only [hm] at h
    cases h
    exact he
  | error error a =>
    simp only [hm] at h
    cases h

/-- A profile that a writer has changed is written. -/
lemma soundDraft_writeProfile {p : StoredProfile} {field : Bytes}
    {m : EStateM Bytes StoredProfile Unit} {u : Unit} (he : SoundDraft begun e)
    (hp : findProfile e.draft.profiles p.key = some p)
    (hm : ∀ v p', m p = .ok v p' → p'.key = p.key ∧ p'.rules = p.rules ∧
      (p'.profileId = p.profileId ∨ findProfileById e.draft.profiles p'.profileId = none))
    (h : writeProfile p field m e = .ok u e') : SoundDraft begun e' := by
  unfold writeProfile at h
  cases hq : m p with
  | ok v p' =>
    simp only [hq] at h
    cases h
    obtain ⟨hkey, hrules, hid⟩ := hm v p' hq
    exact he.edited (.profile hp hkey hrules hid)
  | error error p' =>
    simp only [hq] at h
    cases h

lemma keeps_quiet {m : Edit α} (hm : Quiet kept m) : Keeps (SoundDraft begun) m :=
  hm.keeps soundDraft_of_kept

lemma keeps_applySet (command : SetConfigurationFieldCommand) :
    Keeps (SoundDraft begun) (applySet command) := by
  refine (keeps_quiet (quiet_clearFailure blind_kept)).bind fun _ =>
    (keeps_quiet (quiet_requireActive blind_kept)).bind fun _ =>
    (keeps_quiet (quiet_theDescriptor blind_kept _ _)).bind fun d => ?_
  split
  · exact keeps_writeApplication _ _
  · intro e u e' h he
    obtain ⟨p, hfind, hrest⟩ := theProfile_bind_ok (fun q s => failWith_ne_ok _ _ _ q s) h
    obtain ⟨_, t, hcheck, hwrite⟩ := bind_eq_ok.mp hrest
    have hquiet := quiet_checkCollision blind_kept p d command.value e
    rw [hcheck] at hquiet
    have hdraft : t.draft = e.draft := (kept_eq_iff.mp hquiet).1
    refine soundDraft_writeProfile (soundDraft_of_kept e t hquiet he) ?_ ?_ hwrite
    · rwa [hdraft]
    · intro v p' happly
      obtain ⟨hkey, hrules, hid | ⟨hfield, hvalue⟩⟩ := applyProfileField_ok happly
      · exact ⟨hkey, hrules, Or.inl hid⟩
      · refine ⟨hkey, hrules, ?_⟩
        rw [hvalue] at hcheck
        rw [hdraft]
        cases hsame : findProfileById e.draft.profiles p'.profileId with
        | none => exact Or.inr rfl
        | some q =>
          -- the profile that has the id is the one that gets it
          have hqkey := checkCollision_ok hfield hcheck q hsame
          have hq : q ∈ e.draft.profiles := List.mem_of_find?_eq_some hsame
          have hp : p ∈ e.draft.profiles := List.mem_of_find?_eq_some hfind
          have heq : q = p := List.inj_on_of_nodup_map he.keys hq hp hqkey
          have hqid : q.profileId = p'.profileId := by simpa using List.find?_some hsame
          exact Or.inl (by rw [← hqid, heq])

lemma keeps_applyReset (command : ResetConfigurationFieldCommand) :
    Keeps (SoundDraft begun) (applyReset command) := by
  refine (keeps_quiet (quiet_clearFailure blind_kept)).bind fun _ =>
    (keeps_quiet (quiet_requireActive blind_kept)).bind fun _ =>
    (keeps_quiet (quiet_theDescriptor blind_kept _ _)).bind fun d => ?_
  split
  · exact keeps_writeApplication _ _
  · intro e u e' h he
    obtain ⟨p, hfind, hwrite⟩ := theProfile_bind_ok (fun q s => failWith_ne_ok _ _ _ q s) h
    refine soundDraft_writeProfile he hfind (fun v p' hreset => ?_) hwrite
    obtain ⟨hkey, hrules, hid⟩ := resetProfileField_ok hreset
    exact ⟨hkey, hrules, Or.inl hid⟩

omit [Library] in
lemma keeps_restoring {P : ConfigurationEditor → Prop} {previous : ConfigurationSnapshot}
    {m : Edit α} (hm : Keeps P m) : Keeps P (restoring previous m) := by
  intro e a e' h he
  unfold restoring at h
  cases hs : m e with
  | ok b t =>
    rw [hs] at h
    cases h
    exact hm e a e' hs he
  | error error t =>
    rw [hs] at h
    cases h

lemma keeps_applyBatch (root : Bytes) (sets : List SetConfigurationFieldCommand)
    (resets : List ResetConfigurationFieldCommand) (validateCandidate : Bool) :
    Keeps (SoundDraft begun) (applyBatch root sets resets validateCandidate) := by
  refine (keeps_quiet (quiet_requireActive blind_kept)).bind fun _ =>
    (keeps_quiet quiet_get).bind fun e =>
    (keeps_forM (fun c => keeps_restoring (keeps_applySet c)) sets).bind fun _ =>
    (keeps_forM (fun c => keeps_restoring (keeps_applyReset c)) resets).bind fun _ => ?_
  split_ifs
  · exact keeps_restoring (keeps_quiet (quiet_validate blind_kept root))
  · exact keeps_pure _

lemma keeps_createProfile (id : Bytes) : Keeps (SoundDraft begun) (createProfile id) := by
  intro e key e' h he
  obtain ⟨-, h⟩ := rejectIf_bind_eq_ok.mp (requireActive_bind_ok h)
  rw [get_bind] at h
  obtain ⟨hnew, h⟩ := rejectIf_bind_eq_ok.mp h
  have hnone : findProfileById e.draft.profiles id = none := by
    simpa [Option.isSome_iff_ne_none] using hnew
  cases h
  exact he.edited (.added hnone)

lemma keeps_removeProfile (key : ℤ) : Keeps (SoundDraft begun) (removeProfile key) := by
  intro e u e' h he
  obtain ⟨p, -, hrest⟩ := onProfile_ok h
  cases hrest
  exact he.edited (.removed key)

lemma keeps_moveProfile (key : ℤ) (position : ℕ) :
    Keeps (SoundDraft begun) (moveProfile key position) := by
  intro e u e' h he
  replace h := requireActive_bind_ok h
  rw [get_bind] at h
  obtain ⟨hposition, h⟩ := rejectIf_bind_eq_ok.mp h
  have hindex : position - 1 < e.draft.profiles.length := by omega
  unfold theProfile at h
  rw [bind_assoc, get_bind] at h
  cases hfind : findProfile e.draft.profiles key with
  | none =>
    simp only [hfind] at h
    cases h
  | some p =>
    simp only [hfind, pure_bind] at h
    cases h
    exact he.edited (.moved (perm_insertIdx_eraseP hfind hindex))

/-- The rules of a profile are written, and the counter stays. -/
lemma soundDraft_rules {p : StoredProfile} {rules' : List StoredRule} {u : Unit}
    (he : SoundDraft begun e) (hp : findProfile e.draft.profiles p.key = some p)
    (hfollow : RulesFollow e.nextDraftRuleKey e.nextDraftRuleKey p.rules rules')
    (h : putRules p rules' e = .ok u e') : SoundDraft begun e' :=
  soundDraft_putRules he hp hfollow h

lemma keeps_addRule (key : ℤ) (id type : Bytes) :
    Keeps (SoundDraft begun) (addRule key id type) := by
  intro e u e' h he
  obtain ⟨p, hp, h⟩ := onProfile_ok h
  obtain ⟨-, h⟩ := rejectIf_bind_eq_ok.mp h
  obtain ⟨-, h⟩ := rejectIf_bind_eq_ok.mp h
  obtain ⟨hnew, h⟩ := rejectIf_bind_eq_ok.mp h
  have hnone : findRule p.rules id = none := by
    simpa [Option.isSome_iff_ne_none] using hnew
  exact soundDraft_putRules he hp
    ((Sound.follow he hp).add hnone he.ruleCounter (Sound.taken he hp)) h

lemma keeps_removeRule (key : ℤ) (id : Bytes) : Keeps (SoundDraft begun) (removeRule key id) := by
  intro e u e' h he
  obtain ⟨p, r, hp, -, hput⟩ := onRule_ok h
  exact soundDraft_rules he hp
    ((Sound.follow he hp).subperm List.eraseP_sublist.subperm) hput

/-- A rule is written whose id and key stay. -/
lemma soundDraft_putRule {p : StoredProfile} {id : Bytes} {r : StoredRule} (r' : StoredRule)
    {u : Unit} (he : SoundDraft begun e) (hp : findProfile e.draft.profiles p.key = some p)
    (hr : findRule p.rules id = some r) (hid : r'.ruleId = r.ruleId) (hkey : r'.key = r.key)
    (hoptions : CanonicalOptions r'.optionsJson) (h : putRule p id r' e = .ok u e') :
    SoundDraft begun e' :=
  soundDraft_rules he hp ((Sound.follow he hp).put hr hid hkey hoptions) h

lemma keeps_setRuleEnabled (key : ℤ) (id : Bytes) (enabled : Bool) :
    Keeps (SoundDraft begun) (setRuleEnabled key id enabled) := by
  intro e u e' h he
  obtain ⟨p, r, hp, hr, hput⟩ := onRule_ok h
  have hoptions := (Sound.follow he hp).options r (List.mem_of_find?_eq_some hr)
  exact soundDraft_putRule { r with enabled := enabled } he hp hr rfl rfl hoptions hput

lemma keeps_moveRule (key : ℤ) (id : Bytes) (position : ℕ) :
    Keeps (SoundDraft begun) (moveRule key id position) := by
  intro e u e' h he
  obtain ⟨p, hp, h⟩ := onProfile_ok h
  obtain ⟨hposition, h⟩ := rejectIf_bind_eq_ok.mp h
  obtain ⟨r, hr, hput⟩ := theRule_bind_ok h
  have hindex : position - 1 < p.rules.length := by omega
  exact soundDraft_rules he hp
    ((Sound.follow he hp).subperm (perm_insertIdx_eraseP hr hindex).subperm) hput

lemma keeps_setRuleOption (key : ℤ) (id option value : Bytes) :
    Keeps (SoundDraft begun) (setRuleOption key id option value) := by
  intro e u e' h he
  obtain ⟨-, h⟩ := rejectIf_bind_eq_ok.mp (requireActive_bind_ok h)
  obtain ⟨p, hp, h⟩ := theProfile_bind_ok (fun q t => refuse_ne_ok _ q t) h
  obtain ⟨r, hr, hput⟩ := theRule_bind_ok h
  cases hserialized : withOption r.optionsJson option value with
  | error error =>
    simp only [hserialized] at hput
    cases hput
  | ok serialized =>
    simp only [hserialized] at hput
    have hoptions := withOption_canonical hserialized
    exact soundDraft_putRule { r with optionsJson := serialized } he hp hr rfl rfl hoptions hput

lemma keeps_unsetRuleOption (key : ℤ) (id option : Bytes) :
    Keeps (SoundDraft begun) (unsetRuleOption key id option) := by
  intro e u e' h he
  obtain ⟨p, r, hp, hr, hput⟩ := onRule_ok h
  cases hserialized : withoutOption r.optionsJson option with
  | error error =>
    simp only [hserialized] at hput
    cases hput
  | ok serialized =>
    simp only [hserialized] at hput
    have hoptions := withoutOption_canonical hserialized
    exact soundDraft_putRule { r with optionsJson := serialized } he hp hr rfl rfl hoptions hput

end Sound

section Text

variable [TextLibrary] {begun : List StoredProfile}

lemma keeps_replaceRulesText (key : ℤ) (content : Bytes) :
    Keeps (SoundDraft begun) (replaceRulesText key content) := by
  refine (keeps_quiet (quiet_clearFailure blind_kept)).bind fun _ =>
    (keeps_quiet (quiet_requireActive blind_kept)).bind fun _ => ?_
  intro e u e' h he
  obtain ⟨p, hfind, hrest⟩ := theProfile_bind_ok (fun q s => failWith_ne_ok _ _ _ q s) h
  cases hparsed : parseRulesText content p.rules with
  | error diagnostic =>
    simp only [hparsed] at hrest
    cases hrest
  | ok parsed =>
    simp only [hparsed] at hrest
    exact soundDraft_putRules he hfind
      ((Sound.follow he hfind).text he.ruleCounter (Sound.taken he hfind) hparsed) hrest

/-- An operation that succeeds keeps the draft sound. -/
lemma keeps_run (root : Bytes) (o : Operation) : Keeps (SoundDraft begun) (o.run root) := by
  cases o with
  | setField command => exact keeps_applySet command
  | resetField command => exact keeps_applyReset command
  | applyBatch sets resets validate => exact keeps_applyBatch root sets resets validate
  | createProfile id => exact (keeps_createProfile id).bind fun _ => keeps_pure _
  | removeProfile key => exact keeps_removeProfile key
  | moveProfile key position => exact keeps_moveProfile key position
  | addRule key id type => exact keeps_addRule key id type
  | removeRule key id => exact keeps_removeRule key id
  | setRuleEnabled key id enabled => exact keeps_setRuleEnabled key id enabled
  | setRuleOption key id option value => exact keeps_setRuleOption key id option value
  | unsetRuleOption key id option => exact keeps_unsetRuleOption key id option
  | moveRule key id position => exact keeps_moveRule key id position
  | replaceRulesText key content => exact keeps_replaceRulesText key content
  | formatRulesText key =>
    exact (keeps_quiet (quiet_formatRulesText blind_kept key)).bind fun _ => keeps_pure _
  | validate => exact keeps_quiet (quiet_validate blind_kept root)

/-- An operation keeps the draft sound, whether or not it fails. -/
lemma soundDraft_step (root : Bytes) (o : Operation) (he : SoundDraft begun e) :
    SoundDraft begun (left (o.run root e)) :=
  (keeps_run root o).left (atomic_run root o) soundDraft_of_kept he

/-- The editor after some operations, each of which may fail. -/
def runAll (root : Bytes) (os : List Operation) (e : ConfigurationEditor) : ConfigurationEditor :=
  os.foldl (fun e o => left (o.run root e)) e

lemma soundDraft_runAll (root : Bytes) (os : List Operation) (he : SoundDraft begun e) :
    SoundDraft begun (runAll root os e) := by
  induction os generalizing e with
  | nil => exact he
  | cons o os ih => exact ih (soundDraft_step root o he)

/-! ### The text of the rules -/

/-- The profiles of a draft when the rules of one are those of a text. -/
def profilesWithText (e : ConfigurationEditor) (key : ℤ) (p : StoredProfile)
    (parsed : List StoredRule) : List StoredProfile :=
  putFirst (fun q => q.key == key) { p with rules := (assignKeys e.nextDraftRuleKey parsed).2 }
    e.draft.profiles

/-- What `replaceRulesText` does to the draft. -/
lemma replaceRulesText_ok {key : ℤ} {content : Bytes} {u : Unit}
    (h : replaceRulesText key content e = .ok u e') :
    ∃ p parsed, findProfile e.draft.profiles key = some p ∧
      parseRulesText content p.rules = .ok parsed ∧
      e'.draft = { e.draft with profiles := profilesWithText e key p parsed } := by
  obtain ⟨_, t, hclear, h⟩ := InPlace.bind_eq_ok.mp h
  cases hclear
  replace h := requireActive_bind_ok h
  obtain ⟨p, hfind, h⟩ := theProfile_bind_found (fun q s => failWith_ne_ok _ _ _ q s) h
  have hkey := key_of_findProfile hfind
  cases hparsed : parseRulesText content p.rules with
  | error diagnostic =>
    simp only [hparsed] at h
    cases h
  | ok parsed =>
    simp only [hparsed] at h
    cases h
    refine ⟨p, parsed, hfind, hparsed, ?_⟩
    rw [profilesWithText, ← hkey]

/-! ### Runs -/

variable {W : Type} {repository : ConfigurationRepository W}

omit [TextLibrary] in
/-- A draft begins as the snapshot of the repository. -/
lemma begin_ok {w w' : W} {u : Unit} (h : begin repository (e, w) = .ok u (e', w')) :
    e'.draft = repository.snapshot w' ∧ e'.keyed = ⟨e'.draft.profiles, -1, -1⟩ ∧
      e'.active = true := by
  unfold begin at h
  obtain ⟨_, s, -, h⟩ := bind_eq_ok.mp h
  rw [get_bind] at h
  obtain ⟨-, h⟩ := rejectIf_bind_eq_ok.mp h
  obtain ⟨_, t, -, h⟩ := bind_eq_ok.mp h
  cases h
  exact ⟨rfl, rfl, rfl⟩

/-- **The identity of profiles and rules in a draft.** After any operations on a draft that
began as a stored snapshot, keys and ids are distinct, the keys that are stored are where
they were loaded, and the options of rules are canonical. What is committed passes every
check of the store that concerns keys. -/
theorem draft_identity {e₀ e : ConfigurationEditor} {w₀ w : W} {u : Unit}
    (hbegin : begin repository (e₀, w₀) = .ok u (e, w))
    (hstored : Storage.validateProfiles true (repository.snapshot w).profiles = .ok ())
    (os : List Operation) :
    let begun := (repository.snapshot w).profiles
    let draft := (runAll repository.root os e).draft
    let desired := (committedDraft draft).profiles
    Identity begun draft.profiles ∧
      Storage.validateProfiles false desired =
        Storage.validateProfiles false (desired.map StoredProfile.unkeyed) ∧
      ∀ current : ProfileStoreSnapshot, current.profiles = begun →
        checkKeys current desired = .ok () := by
  intro begun draft desired
  obtain ⟨hdraft, hkeyed, -⟩ := begin_ok hbegin
  have haccepted : Accepted true begun := validateProfiles_ok.mp hstored
  have hinitial : SoundDraft begun e := by
    show Sound begun e.keyed
    rw [hkeyed, hdraft]
    exact sound_of_accepted haccepted
  have hsound := soundDraft_runAll repository.root os hinitial
  refine ⟨hsound.toIdentity, hsound.validateProfiles_committed, fun current hcurrent => ?_⟩
  exact hsound.checkKeys_committed (fun b hb => (haccepted.each b hb).key_pos) hcurrent

end Text

end Operations

/-! ### A draft with new profiles and rules -/

/-- A stored profile with one rule. -/
def storedSnapshot : ConfigurationSnapshot where
  profiles := [{ key := 1, profileId := str "a", rules := [
    { key := 2, ruleId := str "x", type := str "set_field" }] }]

/-- A profile is added and gets a rule; another rule is refused. -/
def additions : List Operation :=
  [.createProfile (str "b"), .addRule (-1) (str "y") (str "remove_tool"),
    .addRule 1 (str "x") (str "remove_tool")]

theorem draft_identity_additions :
    let _ : TextLibrary := plainText
    ∃ e, begin plainRepository ({}, storedSnapshot) = .ok () (e, storedSnapshot) ∧
      Identity storedSnapshot.profiles
        (runAll plainRepository.root additions e).draft.profiles ∧
      (runAll plainRepository.root additions e).draft.profiles.map StoredProfile.key = [1, -1] := by
  intro _
  let e : ConfigurationEditor := { draft := storedSnapshot, active := true }
  have hbegin : begin plainRepository ({}, storedSnapshot) = .ok () (e, storedSnapshot) := rfl
  have hstored : (Storage.validateProfiles true storedSnapshot.profiles).toOption = some () := by
    decide
  have hkeys : (runAll plainRepository.root additions e).draft.profiles.map StoredProfile.key =
      [1, -1] := by decide
  have hidentity := draft_identity hbegin (Fallible.toOption_eq_some.mp hstored) additions
  exact ⟨e, hbegin, hidentity.1, hkeys⟩

end CcsTrans.Editor
