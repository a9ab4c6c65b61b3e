import CcsTrans.Config.Agreement
import CcsTrans.Config.DocumentCodec
import CcsTrans.Config.Unkeyed

/-!
What the checks say when the rules of one profile change.

A document that passes all checks still has its settings, its routes and its other profiles
when the rules of one profile are replaced. What can go wrong then is said here: the check of
the document may refuse the options of a rule, and the check of the candidate may refuse to
compile the rules, or ask for a protocol that the profile does not have.
-/

namespace CcsTrans.Config

open CcsTrans.Text CcsTrans.Json CcsTrans.Storage CcsTrans.Protocols CcsTrans.Rules
open CcsTrans.Fallible

/-! ### The check of the document -/

lemma validateOptions_iff {label id : Bytes} {options : List (Bytes × Value)} :
    validateOptions label id options = .ok () ↔
      ∀ o ∈ options, isValidRuleOptionName o.1 = true ∧ ∃ n, validateRuleJson 0 0 o.2 = .ok n := by
  refine ⟨validateOptions_optionsOk, fun h => ?_⟩
  induction options with
  | nil => rfl
  | cons o options ih =>
    obtain ⟨k, v⟩ := o
    obtain ⟨⟨hname, n, hn⟩, hrest⟩ := List.forall_mem_cons.mp h
    rw [validateOptions, check_bind_eq_ok]
    refine ⟨hname, ?_⟩
    simp only [hn]
    exact ih hrest

/-- A rule that the document may have. -/
structure RuleDefinition.Allowed (r : RuleDefinition) : Prop where
  id : isValidRuleId r.id = true
  type : isValidRuleType r.type = true
  options : r.OptionsOk

lemma validateRules_iff {label : Bytes} {seen : List Bytes} {rules : List RuleDefinition} :
    validateRules label seen rules = .ok () ↔
      (∀ r ∈ rules, r.Allowed ∧ r.id ∉ seen) ∧ (rules.map RuleDefinition.id).Nodup := by
  induction rules generalizing seen with
  | nil => simp [validateRules]
  | cons r rules ih =>
    rw [validateRules, check_bind_eq_ok, check_bind_eq_ok, check_bind_eq_ok, bind_eq_ok]
    constructor
    · rintro ⟨hid, hseen, htype, _, hoptions, hrest⟩
      obtain ⟨hall, hnodup⟩ := ih.mp hrest
      have hunseen : r.id ∉ seen := by simpa using hseen
      refine ⟨List.forall_mem_cons.mpr ⟨⟨⟨hid, htype, validateOptions_iff.mp hoptions⟩, hunseen⟩,
        fun q hq => ⟨(hall q hq).1, fun hmem => (hall q hq).2 (by simp [hmem])⟩⟩, ?_⟩
      rw [List.map_cons, List.nodup_cons]
      refine ⟨fun hmem => ?_, hnodup⟩
      obtain ⟨q, hq, hqid⟩ := List.mem_map.mp hmem
      exact (hall q hq).2 (by simp [hqid])
    · rintro ⟨hall, hnodup⟩
      obtain ⟨⟨hr, hunseen⟩, hrest⟩ := List.forall_mem_cons.mp hall
      rw [List.map_cons, List.nodup_cons] at hnodup
      refine ⟨hr.id, by simpa using hunseen, hr.type, (), validateOptions_iff.mpr hr.options,
        ih.mpr ⟨fun q hq => ⟨(hrest q hq).1, ?_⟩, hnodup.2⟩⟩
      intro hmem
      rcases List.mem_cons.mp hmem with heq | hmem
      · exact hnodup.1 (List.mem_map.mpr ⟨q, hq, heq⟩)
      · exact (hrest q hq).2 hmem

/-- The rules of a profile are checked apart from everything else in it. -/
lemma validateProfileImpl_iff {id : Bytes} {p : ProfileDefinition} {complete : Bool} :
    validateProfileImpl id p complete = .ok () ↔
      validateProfileImpl id { p with rules := [] } complete = .ok () ∧
      p.rules.length ≤ kMaxRulesPerProfile ∧
      validateRules (str "profile " ++ id) [] p.rules = .ok () := by
  have hnone : ∀ label, validateRules label [] [] = .ok () := fun _ => rfl
  have hfew : ∀ field detail : Bytes, check (decide (([] : List RuleDefinition).length ≤
      kMaxRulesPerProfile)) field detail = .ok () := fun _ _ => rfl
  unfold validateProfileImpl
  simp only [bind_eq_ok]
  constructor
  · rintro ⟨_, h1, _, h2, _, h3, _, h4, _, h5, _, h6, _, h7, _, hcount, _, hrules, hcomplete⟩
    exact ⟨⟨_, h1, _, h2, _, h3, _, h4, _, h5, _, h6, _, h7, (), hfew _ _, (), hnone _, hcomplete⟩,
      by simpa using check_eq_ok.mp hcount, hrules⟩
  · rintro ⟨⟨_, h1, _, h2, _, h3, _, h4, _, h5, _, h6, _, h7, _, -, _, -, hcomplete⟩, hcount,
      hrules⟩
    exact ⟨_, h1, _, h2, _, h3, _, h4, _, h5, _, h6, _, h7, (),
      check_eq_ok.mpr (by simpa using hcount), (), hrules, hcomplete⟩

lemma validateProfiles_iff {ps : List (Bytes × ProfileDefinition)} :
    validateProfiles ps = .ok () ↔
      ∀ p ∈ ps, validateProfileImpl p.1 p.2 p.2.enabled = .ok () := by
  induction ps with
  | nil => simp [validateProfiles]
  | cons p ps ih =>
    obtain ⟨id, p⟩ := p
    rw [validateProfiles, List.forall_mem_cons]
    cases hp : validateProfileImpl id p p.enabled with
    | error r => simp
    | ok u => simp [ih]

lemma validateDocument_iff {d : ConfigDocument} : validateDocument d = .ok () ↔
    validateSettingsImpl d.application = .ok () ∧ d.profiles.length ≤ kMaxConfigProfiles ∧
      (∀ p ∈ d.profiles, validateProfileImpl p.1 p.2 p.2.enabled = .ok ()) ∧
      routeCount d.profiles ≤ kMaxConfigRoutes := by
  rw [← validateProfiles_iff]
  refine ⟨validateDocument_parts, fun ⟨hsettings, hcount, hprofiles, hroutes⟩ => ?_⟩
  unfold validateDocument
  simp only [hsettings, not_lt.mpr hcount, gt_iff_lt, if_false, hprofiles, ok_bind,
    not_lt.mpr hroutes]
  rfl

/-! ### What is reported -/

lemma check_error {ok : Bool} {field detail : Bytes} {r : Rejection}
    (h : check ok field detail = .error r) : r.field = field := by
  cases ok with
  | true => cases h
  | false =>
    cases h
    rfl

lemma validateOptions_error {label id : Bytes} {options : List (Bytes × Value)} {r : Rejection}
    (h : validateOptions label id options = .error r) : r.field = str "rules" := by
  induction options with
  | nil => cases h
  | cons o options ih =>
    obtain ⟨k, v⟩ := o
    rw [validateOptions] at h
    rcases bind_eq_error.mp h with h | ⟨_, -, h⟩
    · exact check_error h
    · cases hv : validateRuleJson 0 0 v with
      | error e =>
        rw [hv] at h
        cases h
        rfl
      | ok n =>
        rw [hv] at h
        exact ih h

/-- Whatever is wrong with rules is reported at the field of rules. -/
lemma validateRules_error {label : Bytes} {seen : List Bytes} {rules : List RuleDefinition}
    {r : Rejection} (h : validateRules label seen rules = .error r) : r.field = str "rules" := by
  induction rules generalizing seen with
  | nil => cases h
  | cons rule rules ih =>
    rw [validateRules] at h
    rcases bind_eq_error.mp h with h | ⟨_, -, h⟩
    · exact check_error h
    rcases bind_eq_error.mp h with h | ⟨_, -, h⟩
    · exact check_error h
    rcases bind_eq_error.mp h with h | ⟨_, -, h⟩
    · exact check_error h
    rcases bind_eq_error.mp h with h | ⟨_, -, h⟩
    · exact validateOptions_error h
    · exact ih h

/-! ### One profile of a document -/

/-- The rules of a profile may be there. -/
structure RulesAllowed (rules : List RuleDefinition) : Prop where
  count : rules.length ≤ kMaxRulesPerProfile
  each : ∀ r ∈ rules, r.Allowed
  ids : (rules.map RuleDefinition.id).Nodup

lemma validateProfileImpl_rules_iff {id : Bytes} {p : ProfileDefinition} {complete : Bool}
    {rules : List RuleDefinition} (h : validateProfileImpl id p complete = .ok ()) :
    validateProfileImpl id { p with rules := rules } complete = .ok () ↔ RulesAllowed rules := by
  rw [validateProfileImpl_iff, validateRules_iff]
  have hrest : validateProfileImpl id { p with rules := [] } complete = .ok () :=
    (validateProfileImpl_iff.mp h).1
  constructor
  · rintro ⟨-, hcount, hall, hids⟩
    exact ⟨hcount, fun r hr => (hall r hr).1, hids⟩
  · rintro ⟨hcount, hall, hids⟩
    exact ⟨hrest, hcount, fun r hr => ⟨hall r hr, by simp⟩, hids⟩

/-- A profile that was accepted is refused for its new rules only. -/
lemma validateProfileImpl_rules_error {id : Bytes} {p : ProfileDefinition} {complete : Bool}
    {rules : List RuleDefinition} {r : Rejection} (h : validateProfileImpl id p complete = .ok ())
    (he : validateProfileImpl id { p with rules := rules } complete = .error r) :
    r.field = str "rules" := by
  unfold validateProfileImpl at h he
  obtain ⟨_, h1, h⟩ := bind_eq_ok.mp h
  obtain ⟨_, h2, h⟩ := bind_eq_ok.mp h
  obtain ⟨_, h3, h⟩ := bind_eq_ok.mp h
  obtain ⟨_, h4, h⟩ := bind_eq_ok.mp h
  obtain ⟨_, h5, h⟩ := bind_eq_ok.mp h
  obtain ⟨_, h6, h⟩ := bind_eq_ok.mp h
  obtain ⟨_, h7, h⟩ := bind_eq_ok.mp h
  obtain ⟨_, -, h⟩ := bind_eq_ok.mp h
  obtain ⟨_, -, hcomplete⟩ := bind_eq_ok.mp h
  simp only [h1, h2, h3, h4, h5, h6, h7, ok_bind] at he
  rcases bind_eq_error.mp he with he | ⟨_, -, he⟩
  · exact check_error he
  rcases bind_eq_error.mp he with he | ⟨_, -, he⟩
  · exact validateRules_error he
  · have hsame : (if complete then
        requireComplete (str "profile " ++ id) { p with rules := rules } else pure PUnit.unit) =
        (.ok () : Except Rejection Unit) := hcomplete
    rw [hsame] at he
    cases he

section Split

variable {as bs : List (Bytes × ProfileDefinition)} {id : Bytes} {p : ProfileDefinition}

/-- When all other profiles are in order, the check of one decides. -/
lemma validateProfiles_split (h : validateProfiles (as ++ (id, p) :: bs) = .ok ())
    (q : ProfileDefinition) : validateProfiles (as ++ (id, q) :: bs) =
      match validateProfileImpl id q q.enabled with
      | .error r => .error ⟨id, r.field, r.detail⟩
      | .ok _ => .ok () := by
  induction as with
  | nil =>
    have hrest : validateProfiles bs = .ok () := validateProfiles_iff.mpr fun m hm =>
      validateProfiles_iff.mp h m (by simp [hm])
    cases hq : validateProfileImpl id q q.enabled with
    | error r => simp only [List.nil_append, validateProfiles, hq]
    | ok _ => simp only [List.nil_append, validateProfiles, hq, hrest]
  | cons a as ih =>
    obtain ⟨k, a⟩ := a
    have hfirst : validateProfileImpl k a a.enabled = .ok () :=
      validateProfiles_iff.mp h (k, a) (by simp)
    rw [List.cons_append, validateProfiles, hfirst]
    rw [List.cons_append, validateProfiles, hfirst] at h
    exact ih h

lemma routeCount_rules (rules : List RuleDefinition) :
    routeCount (as ++ (id, { p with rules := rules }) :: bs) =
      routeCount (as ++ (id, p) :: bs) := by
  simp [routeCount]

lemma validateDocument_split {a : ApplicationSettings}
    (h : validateDocument ⟨a, as ++ (id, p) :: bs⟩ = .ok ()) (rules : List RuleDefinition) :
    validateDocument ⟨a, as ++ (id, { p with rules := rules }) :: bs⟩ =
      match validateProfileImpl id { p with rules := rules } p.enabled with
      | .error r => .error ⟨id, r.field, r.detail⟩
      | .ok _ => .ok () := by
  obtain ⟨hsettings, hcount, hprofiles, hroutes⟩ := validateDocument_parts h
  have hlength : ¬ (as ++ (id, { p with rules := rules }) :: bs).length > kMaxConfigProfiles := by
    simpa using hcount
  have hfew : ¬ routeCount (as ++ (id, { p with rules := rules }) :: bs) > kMaxConfigRoutes := by
    rw [routeCount_rules]
    exact not_lt.mpr hroutes
  simp only [validateDocument, hsettings, if_neg hlength, validateProfiles_split hprofiles]
  cases validateProfileImpl id { p with rules := rules } p.enabled with
  | error r => rfl
  | ok u =>
    simp only [ok_bind, if_neg hfew]
    rfl

/-- **The rules of one profile of a document.** The document is accepted with other rules when
they may be there, and refused at the field of rules otherwise. -/
theorem validateDocument_rules {a : ApplicationSettings}
    (h : validateDocument ⟨a, as ++ (id, p) :: bs⟩ = .ok ()) (rules : List RuleDefinition) :
    let d : ConfigDocument := ⟨a, as ++ (id, { p with rules := rules }) :: bs⟩
    (validateDocument d = .ok () ↔ RulesAllowed rules) ∧
      ∀ f, validateDocument d = .error f → f.field = str "rules" := by
  intro d
  obtain ⟨-, -, hprofiles, -⟩ := validateDocument_parts h
  have hp : validateProfileImpl id p p.enabled = .ok () :=
    validateProfiles_iff.mp hprofiles (id, p) (by simp)
  rw [validateDocument_split h rules]
  cases hq : validateProfileImpl id { p with rules := rules } p.enabled with
  | error r =>
    have hnot : ¬ RulesAllowed rules := fun hallowed => by
      rw [(validateProfileImpl_rules_iff hp).mpr hallowed] at hq
      cases hq
    refine ⟨⟨(fun h => by cases h), fun hallowed => absurd hallowed hnot⟩, fun f hf => ?_⟩
    cases hf
    exact validateProfileImpl_rules_error hp hq
  | ok u =>
    exact ⟨⟨fun _ => (validateProfileImpl_rules_iff hp).mp hq, fun _ => rfl⟩, fun f hf => by cases hf⟩

end Split

/-! ### One profile of a candidate -/

section Candidate

variable {α : Type} {protocols : ProtocolRegistry} {registry : RuleRegistry} {id : Bytes}
  {p : ProfileDefinition}

/-- The rules compile for the protocol of a profile, should the profile need them to and have
a protocol that is known. -/
def RulesCompile (protocols : ProtocolRegistry) (registry : RuleRegistry) (p : ProfileDefinition)
    (rules : List RuleDefinition) : Prop :=
  p.enabled = true ∨ rules.any RuleDefinition.enabled = true →
    ∀ handler, p.protocol.bind protocols.find = some handler →
      (p.enabled = true → protocols.validateSpecializedRules handler rules = .ok ()) ∧
      ∃ pipeline, registry.compilePipeline rules handler = .ok pipeline

/-- A profile that was valid for its protocol still is, but for its new rules. -/
lemma validateProfile_rules {handler : ProtocolDescriptor} {rules : List RuleDefinition}
    (h : protocols.validateProfile handler id p = .ok ())
    (hrules : validateProfileImpl id { p with rules := rules } true = .ok ()) :
    protocols.validateProfile handler id { p with rules := rules } =
      protocols.validateSpecializedRules handler rules := by
  obtain ⟨hfind, hhandler⟩ := ProtocolRegistry.validateProfile_ok h
  have hdef : validateProfileDefinition id { p with rules := rules } true = .ok () := by
    simp only [validateProfileDefinition, hrules]
  have hsame : handler.validateProfile id { p with rules := rules } = .ok () := by
    obtain ⟨_, -, hhandler⟩ := bind_eq_ok.mp hhandler
    unfold ProtocolDescriptor.validateProfile
    rw [hdef, ok_bind]
    exact hhandler
  unfold ProtocolRegistry.validateProfile
  simp only [hfind, hsame, ne_eq, not_true_eq_false, if_false, ok_bind]

/-- What an enabled profile of a candidate has, and where its routes go. -/
lemma checkCandidateProfile_enabled_ok {routes routes' : CandidateRoutes} (hen : p.enabled = true)
    (h : checkCandidateProfile protocols registry routes id p = .ok routes') :
    ∃ handler, p.protocol.bind protocols.find = some handler ∧
      protocols.validateProfile handler id p = .ok () ∧
      ∀ rules, protocols.validateProfile handler id { p with rules := rules } = .ok () →
        ∀ pipeline, registry.compilePipeline rules handler = .ok pipeline →
          checkCandidateProfile protocols registry routes id { p with rules := rules } =
            .ok routes' := by
  unfold checkCandidateProfile at h
  simp only [hen, Bool.not_true, Bool.false_and, Bool.false_eq_true, if_false, if_true] at h
  split at h
  · cases h
  next protocol hprotocol =>
  split at h
  · cases h
  next handler hfind =>
  split at h
  · cases h
  next hvalid =>
  split at h
  · cases h
  next hpipeline =>
  refine ⟨handler, by rw [hprotocol]; exact hfind, hvalid, fun rules hvalid' pipeline hpipeline => ?_⟩
  unfold checkCandidateProfile
  simp only [hen, hprotocol] at hvalid'
  simp only [hen, Bool.not_true, Bool.false_and, Bool.false_eq_true, if_false, if_true, hprotocol,
    hfind, hvalid', hpipeline]
  exact h

/-- A profile that is refused for something else than its protocol. -/
def RefusedForRules (m : Except ConfigValidationFailure α) : Prop :=
  ∃ f, m = .error f ∧ f.field ≠ str "protocol"

/-- A profile that passes, or lacks a protocol. -/
def PassesButProtocol (m : Except ConfigValidationFailure α) (a : α) : Prop :=
  m = .ok a ∨ ∃ f, m = .error f ∧ f.field = str "protocol"

/-- **The rules of one profile of a candidate.** The profile passes with other rules if these
compile, or lacks a protocol for them; it is refused for the rules otherwise. -/
theorem checkCandidateProfile_rules {routes routes' : CandidateRoutes}
    {rules : List RuleDefinition}
    (h : checkCandidateProfile protocols registry routes id p = .ok routes')
    (hrules : validateProfileImpl id { p with rules := rules } p.enabled = .ok ()) :
    let checked := checkCandidateProfile protocols registry routes id { p with rules := rules }
    (RulesCompile protocols registry p rules → PassesButProtocol checked routes') ∧
      (¬ RulesCompile protocols registry p rules → RefusedForRules checked) := by
  intro checked
  have hfield : str "rules" ≠ str "protocol" := by decide
  have hother : [] ≠ str "protocol" := by decide
  cases hen : p.enabled with
  | true =>
    obtain ⟨handler, hfind, hvalid, hroutes⟩ := checkCandidateProfile_enabled_ok hen h
    rw [hen] at hrules
    have hspecial := validateProfile_rules hvalid hrules
    constructor
    · intro hcompile
      obtain ⟨hspecialized, pipeline, hpipeline⟩ := hcompile (Or.inl hen) handler hfind
      exact Or.inl (hroutes rules (hspecial.trans (hspecialized hen)) pipeline hpipeline)
    · intro hcompile
      obtain ⟨protocol, hprotocol, hhandler⟩ := Option.bind_eq_some_iff.mp hfind
      simp only [hen, hprotocol] at hspecial
      simp only [checked, checkCandidateProfile, hen, Bool.not_true, Bool.false_and,
        Bool.false_eq_true, if_false, if_true, hprotocol, hhandler, hspecial]
      cases hspecialized : protocols.validateSpecializedRules handler rules with
      | error e => exact ⟨_, rfl, hother⟩
      | ok u =>
        cases hpipeline : registry.compilePipeline rules handler with
        | error e => exact ⟨_, rfl, hfield⟩
        | ok pipeline =>
          refine absurd ?_ hcompile
          intro _ handler' hfind'
          rw [hfind] at hfind'
          cases hfind'
          exact ⟨fun _ => hspecialized, pipeline, hpipeline⟩
  | false =>
    have hsame := checkCandidateProfile_disabled hen h
    subst hsame
    cases hany : rules.any RuleDefinition.enabled with
    | false =>
      constructor
      · intro _
        left
        simp [checked, checkCandidateProfile, hen, hany]
      · intro hcompile
        refine absurd ?_ hcompile
        rintro (hp | hr)
        · rw [hen] at hp
          cases hp
        · rw [hany] at hr
          cases hr
    | true =>
      simp only [checked, checkCandidateProfile, hen, hany, Bool.not_true, Bool.and_false,
        Bool.false_eq_true, if_false]
      cases hprotocol : p.protocol with
      | none =>
        refine ⟨fun _ => Or.inr ⟨_, rfl, rfl⟩, fun hcompile => absurd ?_ hcompile⟩
        intro _ handler hfind
        rw [hprotocol] at hfind
        cases hfind
      | some protocol =>
        cases hfind : protocols.find protocol with
        | none =>
          simp only [hfind]
          refine ⟨fun _ => Or.inr ⟨_, rfl, rfl⟩, fun hcompile => absurd ?_ hcompile⟩
          intro _ handler hhandler
          rw [hprotocol, Option.bind_some, hfind] at hhandler
          cases hhandler
        | some handler =>
          simp only [hfind]
          cases hpipeline : registry.compilePipeline rules handler with
          | error e =>
            refine ⟨fun hcompile => ?_, fun _ => ⟨_, rfl, hfield⟩⟩
            obtain ⟨-, pipeline, hok⟩ := hcompile (Or.inr hany) handler (by rw [hprotocol]; exact hfind)
            rw [hpipeline] at hok
            cases hok
          | ok pipeline =>
            refine ⟨fun _ => Or.inl rfl, fun hcompile => absurd ?_ hcompile⟩
            intro _ handler' hfind'
            rw [hprotocol, Option.bind_some, hfind] at hfind'
            cases hfind'
            exact ⟨fun hp => absurd hp (by simp [hen]), pipeline, hpipeline⟩

/-- When all other profiles pass, one decides. -/
lemma checkCandidateProfiles_split {as bs : List (Bytes × ProfileDefinition)}
    {routes : CandidateRoutes}
    (h : checkCandidateProfiles protocols registry routes (as ++ (id, p) :: bs) = .ok ()) :
    ∃ before after, checkCandidateProfile protocols registry before id p = .ok after ∧
      checkCandidateProfiles protocols registry after bs = .ok () ∧
      ∀ q, checkCandidateProfiles protocols registry routes (as ++ (id, q) :: bs) =
        (checkCandidateProfile protocols registry before id q >>= fun r =>
          checkCandidateProfiles protocols registry r bs) := by
  induction as generalizing routes with
  | nil =>
    obtain ⟨after, hp, hrest⟩ := bind_eq_ok.mp h
    exact ⟨routes, after, hp, hrest, fun _ => rfl⟩
  | cons a as ih =>
    obtain ⟨k, a⟩ := a
    obtain ⟨next, ha, hrest⟩ := bind_eq_ok.mp h
    obtain ⟨before, after, hp, hbs, hall⟩ := ih hrest
    refine ⟨before, after, hp, hbs, fun q => ?_⟩
    rw [List.cons_append, checkCandidateProfiles, ha, ok_bind]
    exact hall q

end Candidate

/-! ### The document of a snapshot -/

section Conversion

variable [Library] {id : Bytes} {stored : List StoredRule} {rules : List RuleDefinition}

/-- The profile of an id gets other rules. -/
def withRules (id : Bytes) (rules : List RuleDefinition) (k : Bytes) (p : ProfileDefinition) :
    ProfileDefinition :=
  if k = id then { p with rules := rules } else p

def storedWithRules (id : Bytes) (rules : List StoredRule) (p : StoredProfile) : StoredProfile :=
  if p.profileId = id then { p with rules := rules } else p

omit [Library] in
lemma profileId_storedWithRules (p : StoredProfile) :
    (storedWithRules id stored p).profileId = p.profileId := by
  unfold storedWithRules
  split_ifs <;> rfl

lemma storedProfileToDefinition_rules (hrules : stored.mapM storedRuleToDefinition = .ok rules)
    {i : ℕ} {p : StoredProfile} {d : ProfileDefinition}
    (h : storedProfileToDefinition i p = .ok d) :
    storedProfileToDefinition i (storedWithRules id stored p) =
      .ok (withRules id rules p.profileId d) := by
  unfold storedWithRules withRules
  split_ifs with hid
  · obtain ⟨old, -, h⟩ := bind_eq_ok.mp h
    cases h
    simp only [storedProfileToDefinition, hrules, ok_bind]
    rfl
  · exact h

/-- The profiles are converted one by one: other rules of one of them change nothing else. -/
lemma convertProfiles_rules (hrules : stored.mapM storedRuleToDefinition = .ok rules) {i : ℕ}
    {acc out : List (Bytes × ProfileDefinition)} {ps : List StoredProfile}
    (h : convertProfiles i acc ps = .ok out) :
    convertProfiles i (acc.map fun m => (m.1, withRules id rules m.1 m.2))
        (ps.map (storedWithRules id stored)) =
      .ok (out.map fun m => (m.1, withRules id rules m.1 m.2)) := by
  induction ps generalizing i acc with
  | nil =>
    cases h
    rfl
  | cons p ps ih =>
    rw [convertProfiles] at h
    split at h
    · cases h
    next d hd =>
    split_ifs at h with hnew
    rw [List.map_cons, convertProfiles, storedProfileToDefinition_rules hrules hd]
    simp only [profileId_storedWithRules, contains_map, if_neg hnew, insertMember_map]
    exact ih h

/-- Every profile is in the document, and the document is sorted. -/
lemma convertProfiles_ok {i : ℕ} {acc out : List (Bytes × ProfileDefinition)}
    {ps : List StoredProfile} (h : convertProfiles i acc ps = .ok out) :
    (acc.Pairwise fun a b => a.1 < b.1) → (out.Pairwise fun a b => a.1 < b.1) ∧
      (∀ m ∈ acc, m ∈ out) ∧
      ∀ p ∈ ps, ∃ j d, storedProfileToDefinition j p = .ok d ∧ (p.profileId, d) ∈ out := by
  induction ps generalizing i acc with
  | nil =>
    cases h
    exact fun hacc => ⟨hacc, fun m hm => hm, by simp⟩
  | cons p ps ih =>
    rw [convertProfiles] at h
    split at h
    · cases h
    next d hd =>
    split_ifs at h with hnew
    intro hacc
    have hfresh : ∀ m ∈ acc, m.1 ≠ p.profileId := by
      intro m hm hid
      exact hnew (contains_of_mem (hid ▸ List.mem_map_of_mem hm))
    have hperm := perm_insertMember (v := d) hfresh
    obtain ⟨hsorted, hkept, hall⟩ := ih h (pairwise_insertMember hacc)
    refine ⟨hsorted, fun m hm => hkept m (hperm.mem_iff.mpr (by simp [hm])), ?_⟩
    refine List.forall_mem_cons.mpr ⟨⟨i, d, hd, hkept _ (hperm.mem_iff.mpr (by simp))⟩, hall⟩

/-- The document has as many profiles and routes as what it was made from. -/
lemma convertProfiles_counts {i : ℕ} {acc out : List (Bytes × ProfileDefinition)}
    {ps : List StoredProfile} (h : convertProfiles i acc ps = .ok out) :
    out.length = acc.length + ps.length ∧
      routeCount out = routeCount acc + (ps.map StoredProfile.routeCount).sum := by
  induction ps generalizing i acc with
  | nil =>
    cases h
    exact ⟨rfl, rfl⟩
  | cons p ps ih =>
    rw [convertProfiles] at h
    split at h
    · cases h
    next d hd =>
    split_ifs at h with hnew
    have hfresh : ∀ m ∈ acc, m.1 ≠ p.profileId := by
      intro m hm hid
      exact hnew (contains_of_mem (hid ▸ List.mem_map_of_mem hm))
    have hperm := perm_insertMember (v := d) hfresh
    obtain ⟨hlength, hroutes⟩ := ih h
    obtain ⟨defs, -, hd⟩ := bind_eq_ok.mp hd
    have hcount : routeCount (insertMember p.profileId d acc) = p.routeCount + routeCount acc := by
      unfold routeCount
      rw [(hperm.map _).sum_eq, List.map_cons, List.sum_cons]
      cases hd
      rfl
    refine ⟨?_, ?_⟩
    · rw [hlength, hperm.length_eq, List.length_cons, List.length_cons]
      omega
    · rw [hroutes, hcount, List.map_cons, List.sum_cons]
      omega

omit [Library] in
/-- In a sorted list, the members of an id are one. -/
lemma map_withRules (rules : List RuleDefinition) {ms : List (Bytes × ProfileDefinition)} {p : ProfileDefinition}
    (hsorted : ms.Pairwise fun a b => a.1 < b.1) (h : (id, p) ∈ ms) :
    ∃ as bs, ms = as ++ (id, p) :: bs ∧
      (ms.map fun m => (m.1, withRules id rules m.1 m.2)) =
        as ++ (id, { p with rules := rules }) :: bs := by
  obtain ⟨as, bs, rfl⟩ := List.append_of_mem h
  obtain ⟨-, hbs, hab⟩ := List.pairwise_append.mp hsorted
  have hother : ∀ ns : List (Bytes × ProfileDefinition), (∀ m ∈ ns, m.1 ≠ id) →
      (ns.map fun m => (m.1, withRules id rules m.1 m.2)) = ns := by
    intro ns hns
    refine (List.map_congr_left fun m hm => ?_).trans ns.map_id
    simp [withRules, hns m hm]
  refine ⟨as, bs, rfl, ?_⟩
  rw [List.map_append, List.map_cons, hother as, hother bs]
  · simp [withRules]
  · intro m hm heq
    have hlt := (List.pairwise_cons.mp hbs).1 m hm
    rw [heq] at hlt
    exact List.lt_irrefl _ hlt
  · intro m hm heq
    have hlt := hab m hm (id, p) (by simp)
    rw [heq] at hlt
    exact List.lt_irrefl _ hlt

/-- **Other rules for one profile of a snapshot** come to other rules in one place of the
document. -/
theorem convertProfiles_replaced (hrules : stored.mapM storedRuleToDefinition = .ok rules)
    {ps : List StoredProfile} {out : List (Bytes × ProfileDefinition)} {p : StoredProfile}
    (h : convertProfiles 0 [] ps = .ok out) (hp : p ∈ ps) :
    ∃ as bs j d, storedProfileToDefinition j p = .ok d ∧ out = as ++ (p.profileId, d) :: bs ∧
      convertProfiles 0 [] (ps.map (storedWithRules p.profileId stored)) =
        .ok (as ++ (p.profileId, { d with rules := rules }) :: bs) := by
  obtain ⟨hsorted, -, hall⟩ := convertProfiles_ok h List.Pairwise.nil
  obtain ⟨j, d, hd, hmem⟩ := hall p hp
  obtain ⟨as, bs, hout, hmap⟩ := map_withRules rules hsorted hmem
  refine ⟨as, bs, j, d, hd, hout, ?_⟩
  rw [← hmap]
  exact convertProfiles_rules hrules h

end Conversion

end CcsTrans.Config
