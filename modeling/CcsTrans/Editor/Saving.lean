import CcsTrans.Config.RulesChange
import CcsTrans.Editor.Drafts
import CcsTrans.Repository.Commit
import CcsTrans.Storage.Exact

/-!
What the editor of rules accepts, and what can be saved.

Three checks see the rules of a text: the reader of the text, the check of the draft and the
check of the store. The reader says nothing about the names of the options of a rule of
unknown type, about how deep and how large values are, or about the size of what is stored.
Here it is said what a text must meet, beyond being read, so that the draft can be saved.
-/

namespace CcsTrans.Editor

open CcsTrans.Text CcsTrans.Json CcsTrans.Config CcsTrans.Storage CcsTrans.Protocols
open CcsTrans.Rules CcsTrans.Fallible

section Library

variable [Library]

/-! ### Canonical options -/

/-- Canonical options are read, and written again as they were. -/
lemma parseWithComments_canonical {text : Bytes} (h : CanonicalOptions text) :
    ∃ ms, parseWithComments text = .ok (.obj ms) ∧ dump (.obj ms) = some text := by
  obtain ⟨ms, hparse, hdump⟩ := h
  have htree := parseTree_dumpAt (c := true) hdump ends_nil rfl
  rw [List.append_nil] at htree
  refine ⟨canonMembers ms, ?_, ?_⟩
  · have hdom : toDom (canon (.obj ms)) = canon (.obj ms) :=
      toDom_proper (proper_canon (parse_writable hparse))
    rw [parseWithComments, htree, map_ok, hdom, canon]
  · have hsame := dumpAt_canon none 0 (.obj ms)
    rw [canon] at hsame
    rw [dump, hsame]
    exact hdump

lemma storedRuleToDefinition_canonical {r : StoredRule} (h : CanonicalOptions r.optionsJson) :
    ∃ ms, storedRuleToDefinition r = .ok ⟨r.ruleId, r.enabled, r.type, ms, r.key⟩ := by
  obtain ⟨ms, hparse, hdump⟩ := parseWithComments_canonical h
  refine ⟨ms, ?_⟩
  simp only [storedRuleToDefinition, hparse, hdump, ne_eq, not_true_eq_false, if_false]

/-- The rules of a list with canonical options, one by one. -/
lemma definitions_canonical {rules : List StoredRule}
    (h : ∀ r ∈ rules, CanonicalOptions r.optionsJson) :
    ∃ defs, rules.mapM storedRuleToDefinition = .ok defs ∧
      List.Forall₂ (fun r d => ∃ ms, d = ⟨r.ruleId, r.enabled, r.type, ms, r.key⟩) rules defs := by
  induction rules with
  | nil => exact ⟨[], rfl, .nil⟩
  | cons r rules ih =>
    rw [List.forall_mem_cons] at h
    obtain ⟨ms, hr⟩ := storedRuleToDefinition_canonical h.1
    obtain ⟨defs, hdefs, hall⟩ := ih h.2
    exact ⟨_, mapM_cons_eq_ok.mpr ⟨_, _, hr, hdefs, rfl⟩, .cons ⟨ms, rfl⟩ hall⟩

/-- The store reads a rule as the document does, unless its options are too long. -/
lemma parseRuleOptions_iff {r : StoredRule} {d : RuleDefinition}
    (h : storedRuleToDefinition r = .ok d) : parseRuleOptions r = .ok d.unkeyed ↔
      r.optionsJson.length ≤ kMaxStoredRuleOptionsBytes := by
  unfold storedRuleToDefinition at h
  dsimp only at h
  split at h
  · next options hparse =>
    split at h
    · cases h
    next hdump =>
    cases h
    by_cases hlong : r.optionsJson.length > kMaxStoredRuleOptionsBytes
    · simp only [parseRuleOptions, hlong, if_true, reduceCtorEq, false_iff, not_le]
    · simp only [parseRuleOptions, hlong, if_false, hparse, hdump]
      simpa [RuleDefinition.unkeyed] using not_lt.mp hlong
  · cases h

/-! ### The check of the draft -/

/-- Everything about a candidate has passed. -/
structure Passed (root : Bytes) (d : ConfigDocument) (protocols : ProtocolRegistry)
    (registry : RuleRegistry) : Prop where
  protocolsBuilt : builtinProtocolRegistry = .ok protocols
  registryBuilt : builtinRuleRegistry = .ok registry
  checks : PassesChecks protocols registry d root
  absolute : d.profiles.any (fun p => p.2.enabled) = true → Core.Path.isAbsolute root = true

lemma validateBuiltinCandidate_ok {root : Bytes} {d : ConfigDocument}
    (h : validateBuiltinCandidate d root = .ok ()) :
    ∃ protocols registry, Passed root d protocols registry := by
  unfold validateBuiltinCandidate at h
  split at h
  · next protocols registry hprotocols hregistry =>
    unfold validateCandidate at h
    cases hdocument : validateDocument d with
    | error f =>
      rw [hdocument] at h
      cases h
    | ok _ =>
      simp only [hdocument] at h
      obtain ⟨_, hprofiles, h⟩ := bind_eq_ok.mp h
      cases hpath : resolveApplicationLogPath d.application root with
      | error e =>
        rw [hpath] at h
        cases h
      | ok path =>
        simp only [hpath] at h
        refine ⟨protocols, registry, hprotocols, hregistry, ⟨hdocument, hprofiles, path, hpath⟩,
          fun hany => ?_⟩
        simp only [hany, if_true] at h
        by_contra hrelative
        rw [Bool.not_eq_true] at hrelative
        simp [RuntimeCompiler.compile, hrelative] at h
  · cases h
  · cases h

/-- Only the document, the profiles and the path of the log can make a candidate fail. -/
lemma validateBuiltinCandidate_eq {root : Bytes} {d : ConfigDocument}
    {protocols : ProtocolRegistry} {registry : RuleRegistry}
    (hprotocols : builtinProtocolRegistry = .ok protocols)
    (hregistry : builtinRuleRegistry = .ok registry) (hdocument : validateDocument d = .ok ())
    (hpath : ∃ path, resolveApplicationLogPath d.application root = .ok path)
    (habsolute : d.profiles.any (fun p => p.2.enabled) = true →
      Core.Path.isAbsolute root = true) :
    validateBuiltinCandidate d root = checkCandidateProfiles protocols registry [] d.profiles := by
  obtain ⟨path, hpath⟩ := hpath
  simp only [validateBuiltinCandidate, hprotocols, hregistry, validateCandidate, hdocument, hpath]
  cases hprofiles : checkCandidateProfiles protocols registry [] d.profiles with
  | error f => rfl
  | ok u =>
    rw [ok_bind]
    cases hany : d.profiles.any (fun p => p.2.enabled) with
    | false => simp
    | true =>
      obtain ⟨s, hs⟩ := compile_of_passes (builtin_methodsValid hprotocols) (habsolute hany)
        ⟨hdocument, hprofiles, path, hpath⟩ hany
      simp [hs]

/-- A draft passes the check, unless a profile lacks a protocol. -/
def Passes (root : Bytes) (draft : ConfigurationSnapshot) : Prop :=
  checkDraft root draft = .ok () ∨
    ∃ f, checkDraft root draft = .error f ∧ f.field = str "protocol"

/-- The rules compile with what is built in. -/
def Compile (p : StoredProfile) (defs : List RuleDefinition) : Prop :=
  ∀ protocols registry, builtinProtocolRegistry = .ok protocols →
    builtinRuleRegistry = .ok registry →
      RulesCompile protocols registry (p.definition defs) defs

/-- A draft that passes the check, and the profiles of its document when one of them gets other
rules. -/
structure Replaced (root : Bytes) (draft : ConfigurationSnapshot) (p : StoredProfile)
    (stored : List StoredRule) (defs : List RuleDefinition) where
  as : List (Bytes × ProfileDefinition)
  bs : List (Bytes × ProfileDefinition)
  d : ProfileDefinition
  protocols : ProtocolRegistry
  registry : RuleRegistry
  enabled : d.enabled = p.enabled
  protocol : d.protocol = p.protocol
  passed : Passed root ⟨draft.application, as ++ (p.profileId, d) :: bs⟩ protocols registry
  converted : convertProfiles 0 [] (draft.profiles.map (storedWithRules p.profileId stored)) =
    .ok (as ++ (p.profileId, { d with rules := defs }) :: bs)

variable {root : Bytes} {draft : ConfigurationSnapshot} {p : StoredProfile}
  {stored : List StoredRule} {defs : List RuleDefinition}

lemma exists_replaced (hdraft : checkDraft root draft = .ok ()) (hp : p ∈ draft.profiles)
    (hdefs : stored.mapM storedRuleToDefinition = .ok defs) :
    Nonempty (Replaced root draft p stored defs) := by
  unfold checkDraft at hdraft
  split at hdraft
  · cases hdraft
  next document hdocument =>
  split at hdraft
  · cases hdraft
  next hcandidate =>
  obtain ⟨protocols, registry, hpassed⟩ := validateBuiltinCandidate_ok hcandidate
  obtain ⟨out, hout, hdocument⟩ := bind_eq_ok.mp hdocument
  obtain ⟨_, -, hdocument⟩ := bind_eq_ok.mp hdocument
  cases hdocument
  obtain ⟨as, bs, j, d, hd, rfl, hnew⟩ := convertProfiles_replaced hdefs hout hp
  obtain ⟨old, -, hd⟩ := bind_eq_ok.mp hd
  cases hd
  exact ⟨⟨as, bs, _, protocols, registry, rfl, rfl, hpassed, hnew⟩⟩

lemma Replaced.compile_iff (h : Replaced root draft p stored defs) :
    Compile p defs ↔ RulesCompile h.protocols h.registry h.d defs := by
  have hsame : RulesCompile h.protocols h.registry h.d defs ↔
      RulesCompile h.protocols h.registry (p.definition defs) defs := by
    unfold RulesCompile
    rw [h.enabled, h.protocol]
    rfl
  rw [hsame]
  refine ⟨fun hc => hc _ _ h.passed.protocolsBuilt h.passed.registryBuilt, ?_⟩
  intro hc protocols' registry' hprotocols' hregistry'
  rw [h.passed.protocolsBuilt] at hprotocols'
  rw [h.passed.registryBuilt] at hregistry'
  cases hprotocols'
  cases hregistry'
  exact hc

/-- The rules that may be there make a document. -/
lemma document_of_allowed (hdraft : checkDraft root draft = .ok ()) (hp : p ∈ draft.profiles)
    (hdefs : stored.mapM storedRuleToDefinition = .ok defs) (hallowed : RulesAllowed defs) :
    ∃ document, configurationSnapshotToConfigDocument { draft with
      profiles := draft.profiles.map (storedWithRules p.profileId stored) } = .ok document := by
  obtain ⟨h⟩ := exists_replaced hdraft hp hdefs
  have hvalid := (validateDocument_rules h.passed.checks.document defs).1.mpr hallowed
  refine ⟨_, bind_eq_ok.mpr ⟨_, h.converted, bind_eq_ok.mpr ⟨(), hvalid, rfl⟩⟩⟩

/-- **Other rules for one profile of a draft** that passes the check. -/
theorem passes_iff (hdraft : checkDraft root draft = .ok ()) (hp : p ∈ draft.profiles)
    (hdefs : stored.mapM storedRuleToDefinition = .ok defs) :
    Passes root { draft with profiles := draft.profiles.map (storedWithRules p.profileId stored) } ↔
      RulesAllowed defs ∧ Compile p defs := by
  obtain ⟨hreplaced⟩ := exists_replaced hdraft hp hdefs
  rw [hreplaced.compile_iff]
  obtain ⟨as, bs, d, protocols, registry, -, -, hpassed, hnew⟩ := hreplaced
  obtain ⟨hallowed, hrefused⟩ := validateDocument_rules hpassed.checks.document defs
  have hrules : str "rules" ≠ str "protocol" := by decide
  unfold Passes checkDraft configurationSnapshotToConfigDocument
  simp only [hnew, ok_bind]
  cases hvalid : validateDocument ⟨draft.application,
      as ++ (p.profileId, { d with rules := defs }) :: bs⟩ with
  | error f =>
    have hfield := hrefused f hvalid
    rw [hvalid] at hallowed
    simp only [error_bind, reduceCtorEq, false_or, Except.error.injEq, exists_eq_left']
    refine ⟨fun h => absurd (hfield.symm.trans h) hrules, fun h => ?_⟩
    exact absurd (hallowed.mpr h.1) nofun
  | ok _ =>
    have hdefsAllowed := hallowed.mp hvalid
    have hcheck := @validateBuiltinCandidate_eq _ root _ _ _ hpassed.protocolsBuilt
      hpassed.registryBuilt hvalid hpassed.checks.logPath (by simpa using hpassed.absolute)
    simp only [ok_bind, pure_eq_ok, hcheck, hdefsAllowed, true_and]
    obtain ⟨before, after, hbefore, hrest, hsplit⟩ :=
      checkCandidateProfiles_split hpassed.checks.profiles
    have hprofile : validateProfileImpl p.profileId { d with rules := defs } d.enabled = .ok () :=
      (validateDocument_iff.mp hvalid).2.2.1 (p.profileId, { d with rules := defs }) (by simp)
    obtain ⟨hyes, hno⟩ := checkCandidateProfile_rules hbefore hprofile
    rw [hsplit]
    constructor
    · intro hpasses
      by_contra hnot
      obtain ⟨f, hf, hfield⟩ := hno hnot
      rw [hf] at hpasses
      simp only [error_bind, reduceCtorEq, false_or, Except.error.injEq, exists_eq_left'] at hpasses
      exact hfield hpasses
    · intro hcompiles
      rcases hyes hcompiles with hok | ⟨f, hf, hfield⟩
      · rw [hok, ok_bind, hrest]
        exact Or.inl rfl
      · rw [hf]
        exact Or.inr ⟨_, rfl, hfield⟩

/-! ### The check of the store -/

/-- What the store demands of the size of profiles. -/
structure StoreFits (profiles : List StoredProfile) : Prop where
  options : ∀ p ∈ profiles, ∀ r ∈ p.rules, r.optionsJson.length ≤ kMaxStoredRuleOptionsBytes
  each : ∀ p ∈ profiles, p.rules ≠ [] → p.size ≤ kMaxStoredProfileRulesTextBytes
  payload : (profiles.map StoredProfile.size).sum ≤ kMaxStoredProfilePayloadBytes

omit [Library] in
lemma size_committedProfile (p : StoredProfile) : (committedProfile p).size = p.size := by
  have hrules : ((committedProfile p).rules.map StoredRule.size) = p.rules.map StoredRule.size := by
    simp only [committedProfile, List.map_map]
    rfl
  unfold StoredProfile.size
  rw [hrules]
  rfl

/-- The rules of a committed profile are read by the store as by the document. -/
lemma rulesRead_committed {rules : List StoredRule} {defs : List RuleDefinition}
    (hdefs : rules.mapM storedRuleToDefinition = .ok defs)
    (hsize : ∀ r ∈ rules, r.optionsJson.length ≤ kMaxStoredRuleOptionsBytes) :
    RulesRead false (rules.map committedRule) (defs.map RuleDefinition.unkeyed) := by
  refine ⟨fun r hr => ?_, ?_⟩
  · obtain ⟨q, -, rfl⟩ := List.mem_map.mp hr
    exact decide_eq_true (committedKey_nonneg q.key)
  · induction rules generalizing defs with
    | nil =>
      cases hdefs
      exact .nil
    | cons r rules ih =>
      rw [List.forall_mem_cons] at hsize
      obtain ⟨d, ds, hd, hds, rfl⟩ := mapM_cons_eq_ok.mp hdefs
      refine .cons ?_ (ih hds hsize.2)
      exact (parseRuleOptions_iff hd).mpr hsize.1

/-- **A sound draft that is a document is accepted by the store** when its sizes are. -/
theorem accepted_iff_fits {begun : List StoredProfile} {d : Keyed} (hd : Sound begun d)
    {s : ConfigurationSnapshot} {document : ConfigDocument} (hs : s.profiles = d.profiles)
    (hdocument : configurationSnapshotToConfigDocument s = .ok document) :
    Accepted false (d.profiles.map committedProfile) ↔ StoreFits d.profiles := by
  constructor
  · intro h
    refine ⟨fun p hp r hr => ?_, fun p hp hne => ?_, ?_⟩
    · obtain ⟨defs, hread, -⟩ := (h.each _ (List.mem_map_of_mem hp)).reads
      have hmem : committedRule r ∈ (committedProfile p).rules := List.mem_map_of_mem hr
      obtain ⟨x, -, hx⟩ := hread.exists_definition _ hmem
      by_contra hlong
      have hlong' : (committedRule r).optionsJson.length > kMaxStoredRuleOptionsBytes :=
        not_le.mp hlong
      simp [parseRuleOptions, hlong'] at hx
    · have hsize := (h.each _ (List.mem_map_of_mem hp)).size (by simpa [committedProfile] using hne)
      rw [← size_committedProfile]
      exact hsize
    · have hsum := h.payload
      rw [List.map_map] at hsum
      simpa [Function.comp_def, size_committedProfile] using hsum
  · intro h
    obtain ⟨out, hout, hdocument⟩ := bind_eq_ok.mp hdocument
    obtain ⟨_, hvalid, -⟩ := bind_eq_ok.mp hdocument
    obtain ⟨-, hcount, hprofiles, hroutes⟩ := validateDocument_iff.mp hvalid
    obtain ⟨-, -, hall⟩ := convertProfiles_ok hout List.Pairwise.nil
    obtain ⟨hlength, hcounts⟩ := convertProfiles_counts hout
    rw [hs] at hall hlength hcounts
    have hkeys := keysFresh_committed hd.keys
    refine
      { count := ?_, each := ?_, ids := ?_, keys := ?_, ruleKeys := ?_, payload := ?_,
        routes := ?_ }
    · rw [List.length_map]
      simpa [hlength] using hcount
    · intro q hq
      obtain ⟨p, hp, rfl⟩ := List.mem_map.mp hq
      obtain ⟨j, x, hx, hmem⟩ := hall p hp
      obtain ⟨defs, hdefs, hx⟩ := bind_eq_ok.mp hx
      have haccepted := hprofiles _ hmem
      cases hx
      refine ⟨decide_eq_true (committedKey_nonneg p.key), ?_, fun hne => ?_,
        defs.map RuleDefinition.unkeyed, rulesRead_committed hdefs (h.options p hp), ?_⟩
      · have hcountRules := (validateProfileImpl_rules haccepted).count
        have hdefsLength := length_of_mapM hdefs
        simpa [committedProfile, StoredProfile.definition, hdefsLength] using hcountRules
      · have hsize := h.each p hp (by simpa [committedProfile] using hne)
        rw [← size_committedProfile] at hsize
        exact hsize
      · have hunkeyed := validateProfileImpl_unkeyed p.profileId (p.definition defs) p.enabled
        have hsame : validateProfileImpl p.profileId (p.definition defs) p.enabled = .ok () :=
          haccepted
        rw [hsame] at hunkeyed
        show validateProfileDefinition p.profileId _ p.enabled = .ok ()
        unfold validateProfileDefinition
        rw [show (committedProfile p).definition (defs.map RuleDefinition.unkeyed) =
          (p.definition defs).unkeyed from rfl, hunkeyed]
    · rw [List.map_map]
      exact hd.ids
    · rw [List.map_map] at hkeys ⊢
      exact hkeys
    · rw [ruleKeys_committed]
      exact keysFresh_committed hd.ruleKeys
    · rw [List.map_map]
      simpa [Function.comp_def, size_committedProfile] using h.payload
    · rw [List.map_map]
      have hsum : (d.profiles.map (StoredProfile.routeCount ∘ committedProfile)).sum =
          (d.profiles.map StoredProfile.routeCount).sum := rfl
      have hnone : routeCount [] = 0 := rfl
      rw [hsum]
      rw [hnone, Nat.zero_add] at hcounts
      exact hcounts ▸ hroutes

omit [Library] in
/-- In a sound draft, the profile of a key is the profile of its id. -/
lemma putFirst_eq_map {profiles : List StoredProfile} {p : StoredProfile} {key : ℤ}
    (hids : (profiles.map StoredProfile.profileId).Nodup)
    (hfind : findProfile profiles key = some p) (rules : List StoredRule) :
    putFirst (fun q => q.key == key) { p with rules := rules } profiles =
      profiles.map (storedWithRules p.profileId rules) := by
  obtain ⟨as, bs, rfl, hput, -⟩ := split_of_find hfind
  rw [List.map_append, List.map_cons, List.nodup_append, List.nodup_cons] at hids
  obtain ⟨-, ⟨hbs, -⟩, has⟩ := hids
  have hother : ∀ ps : List StoredProfile, (∀ q ∈ ps, q.profileId ≠ p.profileId) →
      ps.map (storedWithRules p.profileId rules) = ps := by
    intro ps hps
    refine (List.map_congr_left fun q hq => ?_).trans ps.map_id
    simp [storedWithRules, hps q hq]
  rw [hput, List.map_append, List.map_cons, hother as, hother bs]
  · simp [storedWithRules]
  · intro q hq heq
    exact hbs (List.mem_map.mpr ⟨q, hq, heq⟩)
  · intro q hq heq
    exact has _ (List.mem_map_of_mem hq) _ (List.mem_cons_self ..) heq

end Library

/-! ### Saving -/

section Saving

variable [Library] [Sqlite]

/-- The profiles that a draft asks the store to save. -/
def desiredOf (base draft : ConfigurationSnapshot) : ProfileStoreSnapshot :=
  { Repository.storedProfiles base with profiles := (committedDraft draft).profiles }

/-- The store does not refuse a draft for what it says. -/
def Storable (t : Tables) (base draft : ConfigurationSnapshot) : Prop :=
  ∀ f, save t (desiredOf base draft) = .error f → f.failure ≠ .invalidData

omit [Sqlite] in
/-- The keys of a sound draft are those of what is stored. -/
lemma Sound.desirable {begun : List StoredProfile} {d : Keyed} (hd : Sound begun d)
    (hpos : ∀ b ∈ begun, 0 < b.key) (h : Accepted false (d.profiles.map committedProfile)) :
    Desirable begun (d.profiles.map committedProfile) := by
  refine ⟨h, fun p hp hkey => ?_, fun p hp r hr hkey => ?_⟩
  · obtain ⟨q, hq, rfl⟩ := List.mem_map.mp hp
    have hsame : (committedProfile q).key = q.key := committedKey_pos hkey
    rw [hsame] at hkey ⊢
    exact hd.stored q hq hkey
  · obtain ⟨q, hq, rfl⟩ := List.mem_map.mp hp
    obtain ⟨x, hx, rfl⟩ := List.mem_map.mp hr
    have hsame : (committedRule x).key = x.key := committedKey_pos hkey
    rw [hsame] at hkey ⊢
    obtain ⟨b, hb, hbkey, y, hy, hykey⟩ := hd.storedRules q hq x hx hkey
    have hbpos := hpos b hb
    refine ⟨b, hb, ?_, hykey ▸ List.mem_map_of_mem hy⟩
    show b.key = committedKey q.key
    rw [hbkey, committedKey, if_neg (by omega)]

/-- The store refuses a sound draft for what it says only when it does not accept it. -/
lemma storable_iff {t : Tables} {base draft : ConfigurationSnapshot} {d : Keyed} (ht : t.Valid)
    (hread : readSnapshot t = .ok (Repository.storedProfiles base))
    (hd : Sound base.profiles d) (hdraft : draft.profiles = d.profiles) :
    Storable t base draft ↔ Accepted false (d.profiles.map committedProfile) := by
  have hdesired : (desiredOf base draft).profiles = d.profiles.map committedProfile := by
    rw [← hdraft]
    rfl
  obtain ⟨-, haccepted, ⟨-, hpos, horigin⟩, hrevision, hsha⟩ := stores_of_readSnapshot ht hread
  have hnonneg : ¬ (desiredOf base draft).revision < 0 := by
    show ¬ (Repository.storedProfiles base).revision < 0
    omega
  constructor
  · intro h
    rw [← validateProfiles_ok, ← hdesired]
    cases hvalid : Storage.validateProfiles false (desiredOf base draft).profiles with
    | ok u => rfl
    | error e =>
      have hrefused : save t (desiredOf base draft) = .error ⟨.invalidData, e⟩ := by
        simp only [save, checkDesired, hnonneg, if_false, hvalid, error_bind]
      exact absurd rfl (h _ hrefused)
  · intro h f hf
    have hdesirable := Sound.desirable hd (fun b hb => (haccepted.each b hb).key_pos) h
    rw [← hdesired] at hdesirable
    have hsame : (desiredOf base draft).migratedFromSha256 =
        (Repository.storedProfiles base).migratedFromSha256 := rfl
    have hcheck : checkDesired (desiredOf base draft) = .ok () := by
      have horigin' : (desiredOf base draft).migratedFromSha256.all validSha256 = true := by
        rw [hsame, hsha]
        exact horigin
      simp [checkDesired, hnonneg, validateProfiles_ok.mpr hdesirable.accepted, horigin']
    have hrevisions : (Repository.storedProfiles base).revision =
        (desiredOf base draft).revision := rfl
    by_cases heq : desiredOf base draft = Repository.storedProfiles base
    · simp only [save, hcheck, ok_bind, hread, ne_eq, not_true_eq_false, if_false, ← heq, if_true,
        pure_eq_ok, reduceCtorEq] at hf
    by_cases hmax : (desiredOf base draft).revision = int64Max
    · simp only [save, hcheck, ok_bind, hread, hrevisions, ne_eq, not_true_eq_false, if_false,
        ← hsame, Ne.symm heq, hmax, if_true] at hf
      cases hf
      decide
    · obtain ⟨written, t', hsave, -⟩ := save_eq ht hread hrevisions.symm hsame hdesirable heq hmax
      rw [hsave] at hf
      cases hf

end Saving

/-! ### Texts of rules -/

section Text

variable [TextLibrary]

/-- Beyond being read, a text must meet this for the draft to be saved: the document may have
the options of its rules, the rules compile, and the store has room for them. -/
def TextFits (e : ConfigurationEditor) (key : ℤ) (content : Bytes) : Prop :=
  ∃ p parsed defs, findProfile e.draft.profiles key = some p ∧
    parseRulesText content p.rules = .ok parsed ∧
    (assignKeys e.nextDraftRuleKey parsed).2.mapM storedRuleToDefinition = .ok defs ∧
    (∀ d ∈ defs, d.OptionsOk) ∧ Compile p defs ∧
    StoreFits (profilesWithText e key p parsed)

/-- The rules of a text may be in the document, but for their options. -/
lemma rulesAllowed_iff {content : Bytes} {existing parsed : List StoredRule} {next : ℤ}
    {defs : List RuleDefinition} (hparsed : parseRulesText content existing = .ok parsed)
    (hdefs : List.Forall₂ (fun (r : StoredRule) (d : RuleDefinition) =>
      ∃ ms, d = ⟨r.ruleId, r.enabled, r.type, ms, r.key⟩) (assignKeys next parsed).2 defs) :
    RulesAllowed defs ↔ ∀ d ∈ defs, d.OptionsOk := by
  refine ⟨fun h d hd => (h.each d hd).options, fun h => ?_⟩
  obtain ⟨registry, -, haccepted, hnodup, hcount⟩ := parseRulesText_ok hparsed
  have hids : defs.map RuleDefinition.id = parsed.map StoredRule.ruleId := by
    rw [← assignKeys_map StoredRule.ruleId (fun _ _ => rfl) next parsed]
    exact map_eq_of_forall₂ hdefs fun r d ⟨_, hd⟩ => by rw [hd]
  have htypes : defs.map RuleDefinition.type = parsed.map StoredRule.type := by
    rw [← assignKeys_map StoredRule.type (fun _ _ => rfl) next parsed]
    exact map_eq_of_forall₂ hdefs fun r d ⟨_, hd⟩ => by rw [hd]
  refine ⟨?_, fun d hd => ⟨?_, ?_, h d hd⟩, hids ▸ hnodup⟩
  · have hlength := congrArg List.length hids
    rw [List.length_map, List.length_map] at hlength
    rw [hlength]
    exact hcount
  · have hmem : d.id ∈ parsed.map StoredRule.ruleId := hids ▸ List.mem_map_of_mem hd
    obtain ⟨r, hr, hrid⟩ := List.mem_map.mp hmem
    exact hrid ▸ (haccepted r hr).id
  · have hmem : d.type ∈ parsed.map StoredRule.type := htypes ▸ List.mem_map_of_mem hd
    obtain ⟨r, hr, hrtype⟩ := List.mem_map.mp hmem
    exact hrtype ▸ (haccepted r hr).type

variable [Sqlite] {W : Type} {repository : ConfigurationRepository W}

/-- **What the editor of rules accepts can be saved when it fits.** A draft that was begun from
what is stored, changed by any operations and found valid gets the rules of a text. It still
passes the check, but for profiles that lack a protocol, and the store does not refuse it for
what it says, if and only if the text fits. -/
theorem replaced_rules_saved {e₀ e₁ e' : ConfigurationEditor} {w₀ w : W} {u v : Unit}
    {t : Tables} {key : ℤ} {content : Bytes} (hbegin : begin repository (e₀, w₀) = .ok u (e₁, w))
    (ht : t.Valid)
    (hread : readSnapshot t = .ok (Repository.storedProfiles (repository.snapshot w)))
    (os : List Operation) :
    let e := runAll repository.root os e₁
    checkDraft repository.root e.draft = .ok () → replaceRulesText key content e = .ok v e' →
    (Passes repository.root e'.draft ∧ Storable t (repository.snapshot w) e'.draft ↔
      TextFits e key content) := by
  intro e hvalid h
  obtain ⟨hdraft, hkeyed, -⟩ := begin_ok hbegin
  obtain ⟨-, haccepted, -⟩ := stores_of_readSnapshot ht hread
  have hinitial : SoundDraft (repository.snapshot w).profiles e₁ := by
    show Sound _ e₁.keyed
    rw [hkeyed, hdraft]
    exact sound_of_accepted haccepted
  have hsound : SoundDraft (repository.snapshot w).profiles e := soundDraft_runAll _ os hinitial
  have hafter : SoundDraft (repository.snapshot w).profiles e' :=
    keeps_replaceRulesText key content e v e' h hsound
  obtain ⟨p, parsed, hfind, hparsed, hdraft'⟩ := replaceRulesText_ok h
  have hp : p ∈ e.draft.profiles := List.mem_of_find?_eq_some hfind
  have hprofiles : e'.draft.profiles = profilesWithText e key p parsed := by rw [hdraft']
  let put := storedWithRules p.profileId (assignKeys e.nextDraftRuleKey parsed).2
  have hmap : profilesWithText e key p parsed = e.draft.profiles.map put :=
    putFirst_eq_map hsound.ids hfind _
  have hreplaced : e'.draft = { e.draft with profiles := e.draft.profiles.map put } := by
    rw [hdraft', hmap]
  -- the rules that were read have canonical options, so that they are definitions
  have hcanonical : ∀ r ∈ (assignKeys e.nextDraftRuleKey parsed).2,
      CanonicalOptions r.optionsJson := by
    refine hafter.options { p with rules := _ } ?_
    show _ ∈ e'.draft.profiles
    rw [hreplaced]
    refine List.mem_map.mpr ⟨p, hp, ?_⟩
    simp [put, storedWithRules]
  obtain ⟨defs, hdefs, hforall⟩ := definitions_canonical hcanonical
  have hallowed := rulesAllowed_iff hparsed hforall
  have hpasses : Passes repository.root e'.draft ↔ (∀ d ∈ defs, d.OptionsOk) ∧ Compile p defs := by
    rw [← hallowed, hreplaced]
    exact passes_iff hvalid hp hdefs
  have hstorable : Passes repository.root e'.draft →
      (Storable t (repository.snapshot w) e'.draft ↔
        StoreFits (profilesWithText e key p parsed)) := by
    intro hpass
    obtain ⟨document, hdocument⟩ := document_of_allowed hvalid hp hdefs
      (hallowed.mpr (hpasses.mp hpass).1)
    rw [← hreplaced] at hdocument
    rw [storable_iff ht hread hafter rfl, accepted_iff_fits hafter rfl hdocument]
    show StoreFits e'.draft.profiles ↔ _
    rw [hprofiles]
  constructor
  · rintro ⟨hpass, hstore⟩
    obtain ⟨hoptions, hcompile⟩ := hpasses.mp hpass
    exact ⟨p, parsed, defs, hfind, hparsed, hdefs, hoptions, hcompile, (hstorable hpass).mp hstore⟩
  · rintro ⟨q, parsed', defs', hfind', hparsed', hdefs', hoptions, hcompile, hfits⟩
    rw [hfind] at hfind'
    cases hfind'
    rw [hparsed] at hparsed'
    cases hparsed'
    rw [hdefs] at hdefs'
    cases hdefs'
    have hpass := hpasses.mpr ⟨hoptions, hcompile⟩
    exact ⟨hpass, (hstorable hpass).mpr hfits⟩

end Text

/-! ### A text that fits, and one that does not -/

section Plain

/-- The tables of one disabled profile without rules. -/
def oneTables : Tables where
  profiles := ⟨[⟨1, str "a", 0, 0, none, none, none, none, none, none⟩], 1⟩
  rules := ⟨[], 0⟩

def oneSnapshot : ConfigurationSnapshot where
  profiles := [{ key := 1, profileId := str "a" }]

/-- A text of one disabled rule with one option. -/
def oneRuleText (type option : String) : Bytes :=
  str "\x7b\"schema_version\":\"ccs-trans.rules/v1\",\"rules\":[\x7b\"id\":\"x\",\"enabled\":false," ++
  str "\"type\":\"" ++ str type ++ str "\",\"options\":\x7b\"" ++ str option ++ str "\":1\x7d\x7d]\x7d"

/-- The draft begins as the snapshot. -/
def oneEditor : ConfigurationEditor := { draft := oneSnapshot, active := true }

lemma oneTables_valid : let _ : TextLibrary := plainText
    let _ : Sqlite := parserSqlite
    oneTables.Valid := by
  intro _ _
  exact
    { profiles := by decide
      profilesOk := by decide
      rules := by decide
      rulesOk := by decide
      foreign := by decide
      revision := by decide
      profileSequence := by unfold Table.Bounded; decide
      ruleSequence := by unfold Table.Bounded; decide }

/-- The field at which a draft is refused. -/
def refusedField : Except ConfigurationEditFailure Unit → Option Bytes
  | .ok _ => none
  | .error f => some f.field

/-- A save was refused for what it should save. -/
def refusedData {α : Type} : Except StoreError α → Bool
  | .ok _ => false
  | .error f => f.failure == .invalidData

/-- A disabled rule of a type that is not known is accepted with an option that the document
may not have. -/
theorem replaced_rules_refused :
    let _ : TextLibrary := plainText
    let _ : Sqlite := parserSqlite
    let content := oneRuleText "custom" "Bad-Name"
    begin plainRepository ({}, oneSnapshot) = .ok () (oneEditor, oneSnapshot) ∧
      readSnapshot oneTables = .ok (Repository.storedProfiles oneSnapshot) ∧
      checkDraft plainRepository.root oneEditor.draft = .ok () ∧
      ∃ e', replaceRulesText 1 content oneEditor = .ok () e' ∧
        ¬ Passes plainRepository.root e'.draft ∧ ¬ Storable oneTables oneSnapshot e'.draft := by
  intro _ _ content
  refine ⟨rfl, toOption_eq_some.mp (by decide +kernel), toOption_eq_some.mp (by decide +kernel), ?_⟩
  have hfails : InPlace.failed (replaceRulesText 1 content oneEditor) = false := by decide +kernel
  have hcheck : refusedField (checkDraft plainRepository.root
      (InPlace.left (replaceRulesText 1 content oneEditor)).draft) = some (str "rules") := by
    decide +kernel
  have hsave : refusedData (save oneTables (desiredOf oneSnapshot
      (InPlace.left (replaceRulesText 1 content oneEditor)).draft)) = true := by decide +kernel
  cases h : replaceRulesText 1 content oneEditor with
  | error error e' =>
    rw [h] at hfails
    cases hfails
  | ok u e' =>
    rw [h, InPlace.left_ok] at hcheck hsave
    refine ⟨e', rfl, ?_, fun hstorable => ?_⟩
    · rintro (hok | ⟨f, hf, hfield⟩)
      · rw [hok] at hcheck
        cases hcheck
      · rw [hf, refusedField, hfield] at hcheck
        exact absurd hcheck (by decide)
    · cases hf : save oneTables (desiredOf oneSnapshot e'.draft) with
      | ok x =>
        rw [hf] at hsave
        cases hsave
      | error f =>
        rw [hf] at hsave
        exact hstorable f hf (by simpa [refusedData] using hsave)

/-- The text of a rule of a known type fits. -/
theorem replaced_rules_saved_one :
    let _ : TextLibrary := plainText
    let _ : Sqlite := parserSqlite
    let content := oneRuleText "set_field" "value"
    ∃ e', replaceRulesText 1 content oneEditor = .ok () e' ∧
      Passes plainRepository.root e'.draft ∧ Storable oneTables oneSnapshot e'.draft := by
  intro _ _ content
  have hbegin : begin plainRepository ({}, oneSnapshot) = .ok () (oneEditor, oneSnapshot) := rfl
  have hread : readSnapshot oneTables = .ok (Repository.storedProfiles oneSnapshot) :=
    toOption_eq_some.mp (by decide +kernel)
  have hvalid : checkDraft plainRepository.root oneEditor.draft = .ok () :=
    toOption_eq_some.mp (by decide +kernel)
  have hfails : InPlace.failed (replaceRulesText 1 content oneEditor) = false := by decide +kernel
  cases h : replaceRulesText 1 content oneEditor with
  | error error e' =>
    rw [h] at hfails
    cases hfails
  | ok u e' =>
    refine ⟨e', rfl, (replaced_rules_saved hbegin oneTables_valid hread [] hvalid h).mpr ?_⟩
    let parsed : List StoredRule :=
      [⟨0, str "x", false, str "set_field", str "\x7b\"value\":1\x7d"⟩]
    let rules := (assignKeys (-1) parsed).2
    have hdefs : (rules.mapM storedRuleToDefinition).toOption.map (fun defs =>
        (decide (validateRules [] [] defs = .ok ()), defs.any RuleDefinition.enabled)) =
        some (true, false) := by decide +kernel
    obtain ⟨defs, hread, hdefs⟩ := Option.map_eq_some_iff.mp hdefs
    simp only [Prod.mk.injEq, decide_eq_true_eq] at hdefs
    refine ⟨{ key := 1, profileId := str "a" }, parsed, defs, rfl,
      toOption_eq_some.mp (by decide +kernel), toOption_eq_some.mp hread, ?_, ?_, ?_⟩
    · intro d hd
      exact ((validateRules_iff.mp hdefs.1).1 d hd).1.options
    · intro protocols registry _ _ hneeds
      rcases hneeds with hneeds | hneeds
      · cases hneeds
      · rw [hdefs.2] at hneeds
        cases hneeds
    · exact ⟨by decide +kernel, by decide +kernel, by decide +kernel⟩

end Plain

end CcsTrans.Editor
