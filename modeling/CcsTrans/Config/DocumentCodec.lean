import CcsTrans.Config.ApplicationConfig

/-!
The codecs of the configuration file.

A v2 file of an accepted document reads back as the same document, but for what is not in the
file: the keys and places of the storage and the limit on bytes in flight. The numbers of its
options may come back as others that are equal to them.
-/

namespace CcsTrans.Config

open CcsTrans.Text CcsTrans.Json CcsTrans.Fallible

/-! ### Options -/

/-- The node count and the depth of a value are those of what its text denotes. -/
lemma validateRuleJson_canon {S : Bytes → Prop} {v : Value} (h : Proper S v) (depth nodes : ℕ) :
    validateRuleJson depth nodes (canon v) = validateRuleJson depth nodes v := by
  induction v using Value.induction generalizing depth nodes with
  | null | bool | uint | str => rfl
  | int n =>
    rw [canon]
    split
    · simp only [validateRuleJson]
    · rfl
  | float d =>
    rw [Proper] at h
    rw [canon, if_pos h]
  | arr xs ih =>
    have hitems : ∀ ys ⊆ xs, ∀ depth nodes,
        validateRuleItems depth nodes (canonItems ys) = validateRuleItems depth nodes ys := by
      intro ys
      induction ys with
      | nil =>
        intro _ depth nodes
        rfl
      | cons y ys ihy =>
        intro hsub depth nodes
        obtain ⟨hy, hys⟩ := List.cons_subset.mp hsub
        rw [canonItems, validateRuleItems, validateRuleItems, ih y hy (proper_arr.mp h y hy)]
        cases validateRuleJson depth nodes y with
        | error e => rfl
        | ok n => exact ihy hys depth n
    simp only [canon, validateRuleJson, hitems xs (List.Subset.refl _)]
  | obj ms ih =>
    have hmembers : ∀ ns ⊆ ms, ∀ depth nodes,
        validateRuleMembers depth nodes (canonMembers ns) = validateRuleMembers depth nodes ns := by
      intro ns
      induction ns with
      | nil =>
        intro _ depth nodes
        rfl
      | cons n ns ihn =>
        obtain ⟨k, v⟩ := n
        intro hsub depth nodes
        obtain ⟨hn, hns⟩ := List.cons_subset.mp hsub
        have hv := ih (k, v) hn ((proper_obj.mp h).2 _ hn).2
        dsimp only at hv
        rw [canonMembers, validateRuleMembers, validateRuleMembers, hv]
        cases validateRuleJson depth nodes v with
        | error e => rfl
        | ok m => rw [ok_bind, ok_bind, ihn hns depth m]
    simp only [canon, validateRuleJson, hmembers ms (List.Subset.refl _)]

/-- The options are a map, and their values are documents. -/
structure RuleDefinition.Formed (r : RuleDefinition) : Prop where
  sorted : r.options.Pairwise fun a b => a.1 < b.1
  values : ∀ o ∈ r.options, Document o.2

/-- The profiles are a map, and so are the options of their rules. -/
structure ConfigDocument.Formed (d : ConfigDocument) : Prop where
  sorted : d.profiles.Pairwise fun a b => a.1 < b.1
  rules : ∀ p ∈ d.profiles, ∀ r ∈ p.2.rules, r.Formed

/-! ### What reads back -/

def RuleDefinition.readBack (r : RuleDefinition) : RuleDefinition :=
  { r with options := r.options.map fun o => (o.1, canon o.2), storageKey := 0 }

def ProfileDefinition.readBack (p : ProfileDefinition) : ProfileDefinition :=
  { p with rules := p.rules.map RuleDefinition.readBack, storageKey := 0, storagePosition := none }

def ApplicationSettings.readBack (a : ApplicationSettings) : ApplicationSettings :=
  { a with runtime := { a.runtime with maxInflightBytes := ({} : RuntimeSettings).maxInflightBytes } }

def ConfigDocument.readBack (d : ConfigDocument) : ConfigDocument :=
  ⟨d.application.readBack, d.profiles.map fun p => (p.1, p.2.readBack)⟩

/-! ### Rules -/

/-- The fields that every rule has. -/
def isRuleField (k : Bytes) : Prop := k = str "id" ∨ k = str "enabled" ∨ k = str "type"

instance : DecidablePred isRuleField := fun _ => inferInstanceAs (Decidable (_ ∨ _))

lemma not_isRuleField {k : Bytes} (h : isValidRuleOptionName k = true) : ¬ isRuleField k := by
  simp only [isValidRuleOptionName, Bool.and_eq_true, bne_iff_ne] at h
  obtain ⟨⟨⟨⟨⟨⟨hid, henabled⟩, htype⟩, -⟩, -⟩, -⟩, -⟩ := h
  rintro (rfl | rfl | rfl)
  · exact hid rfl
  · exact henabled rfl
  · exact htype rfl

/-- The options of a rule are accepted. -/
def RuleDefinition.OptionsOk (r : RuleDefinition) : Prop :=
  ∀ o ∈ r.options, isValidRuleOptionName o.1 = true ∧ ∃ n, validateRuleJson 0 0 o.2 = .ok n

lemma validateOptions_optionsOk {label id : Bytes} {options : List (Bytes × Value)}
    (h : validateOptions label id options = .ok ()) :
    ∀ o ∈ options, isValidRuleOptionName o.1 = true ∧ ∃ n, validateRuleJson 0 0 o.2 = .ok n := by
  induction options with
  | nil => simp
  | cons o options ih =>
    obtain ⟨k, v⟩ := o
    rw [validateOptions] at h
    obtain ⟨_, hname, h⟩ := bind_eq_ok.mp h
    split at h
    · cases h
    next n hn => exact List.forall_mem_cons.mpr ⟨⟨check_eq_ok.mp hname, n, hn⟩, ih h⟩

lemma validateRules_optionsOk {label : Bytes} {seen : List Bytes} {rules : List RuleDefinition}
    (h : validateRules label seen rules = .ok ()) : ∀ r ∈ rules, r.OptionsOk := by
  induction rules generalizing seen with
  | nil => simp
  | cons r rules ih =>
    rw [validateRules] at h
    obtain ⟨_, -, h⟩ := bind_eq_ok.mp h
    obtain ⟨_, -, h⟩ := bind_eq_ok.mp h
    obtain ⟨_, -, h⟩ := bind_eq_ok.mp h
    obtain ⟨_, hoptions, h⟩ := bind_eq_ok.mp h
    exact List.forall_mem_cons.mpr ⟨validateOptions_optionsOk hoptions, ih h⟩

def ruleFields (r : RuleDefinition) : Members :=
  [(str "enabled", .bool r.enabled), (str "id", .str r.id), (str "type", .str r.type)]

/-- The members of a rule in the file. -/
def ruleMembers (r : RuleDefinition) : Members :=
  r.options.foldl (fun ms o => insertMember o.1 o.2 ms) (ruleFields r)

lemma ruleJson_eq (r : RuleDefinition) : ruleJson r = .obj (ruleMembers r) := rfl

lemma isRuleField_of_mem {r : RuleDefinition} {m : Bytes × Value} (h : m ∈ ruleFields r) :
    isRuleField m.1 := by
  simp only [ruleFields, List.mem_cons, List.not_mem_nil, or_false] at h
  rcases h with rfl | rfl | rfl
  · exact .inr (.inl rfl)
  · exact .inl rfl
  · exact .inr (.inr rfl)

lemma sorted_ruleMembers (r : RuleDefinition) :
    (ruleMembers r).Pairwise fun a b => a.1 < b.1 := by
  apply pairwise_foldl_insertMember
  have hnames : ([str "enabled", str "id", str "type"] : List Bytes).Pairwise (· < ·) := by decide
  exact List.pairwise_map.mp (show ((ruleFields r).map Prod.fst).Pairwise (· < ·) from hnames)

lemma perm_ruleMembers {r : RuleDefinition} (hr : r.Formed) (hok : r.OptionsOk) :
    (ruleMembers r).Perm (r.options ++ ruleFields r) := by
  apply perm_foldl_insertMember
  have hnames : ([str "enabled", str "id", str "type"] : List Bytes).Pairwise (· ≠ ·) := by decide
  refine List.pairwise_append.mpr ⟨hr.sorted.imp fun hlt heq => ?_,
    List.pairwise_map.mp (show ((ruleFields r).map Prod.fst).Pairwise (· ≠ ·) from hnames), ?_⟩
  · rw [heq] at hlt
    exact List.lt_irrefl _ hlt
  · intro o ho m hm heq
    apply not_isRuleField (hok o ho).1
    rw [heq]
    exact isRuleField_of_mem hm

/-- The options are found among the members of a rule. -/
lemma filter_ruleMembers {r : RuleDefinition} (hr : r.Formed) (hok : r.OptionsOk) :
    (ruleMembers r).filter (fun m => ¬ isRuleField m.1) = r.options := by
  refine eq_of_perm_of_pairwise_lt ((sorted_ruleMembers r).filter _) hr.sorted ?_
  have hperm := (perm_ruleMembers hr hok).filter fun m => ¬ isRuleField m.1
  have hoptions : r.options.filter (fun m => ¬ isRuleField m.1) = r.options :=
    List.filter_eq_self.mpr fun o ho => by simpa using not_isRuleField (hok o ho).1
  have hfields : (ruleFields r).filter (fun m => ¬ isRuleField m.1) = [] :=
    List.filter_eq_nil_iff.mpr fun m hm => by simpa using isRuleField_of_mem hm
  rwa [List.filter_append, hoptions, hfields, List.append_nil] at hperm

lemma parseOptions_eq {path : Bytes} {ms : Members}
    (h : ∀ m ∈ ms, isRuleField m.1 ∨
      isValidRuleOptionName m.1 = true ∧ ∃ n, validateRuleJson 0 0 m.2 = .ok n) :
    parseOptions path ms = .ok (ms.filter fun m => ¬ isRuleField m.1) := by
  induction ms with
  | nil => rfl
  | cons m ms ih =>
    obtain ⟨k, v⟩ := m
    have hrest := ih fun m hm => h m (by simp [hm])
    rw [parseOptions]
    rcases h (k, v) (by simp) with hfield | ⟨hname, n, hn⟩
    · have hk : k = str "id" ∨ k = str "enabled" ∨ k = str "type" := hfield
      rw [if_pos hk, hrest, List.filter_cons_of_neg (by simpa using hfield)]
    · have hfield := not_isRuleField hname
      have hk : ¬ (k = str "id" ∨ k = str "enabled" ∨ k = str "type") := hfield
      rw [if_neg hk, List.filter_cons_of_pos (by simpa using hfield)]
      simp only [hname, Bool.not_true, Bool.false_eq_true, if_false, hn, hrest, ok_bind, pure_eq_ok]

/-- A rule reads back. -/
lemma parseRule_canon {r : RuleDefinition} (hr : r.Formed) (hok : r.OptionsOk) (path : Bytes) :
    parseRule (canon (ruleJson r)) path = .ok r.readBack := by
  have hmem := perm_ruleMembers hr hok
  let ms : Members := (ruleMembers r).map fun m => (m.1, canon m.2)
  have hdistinct : ms.Pairwise fun a b => a.1 ≠ b.1 := by
    apply List.pairwise_map.mpr
    exact (sorted_ruleMembers r).imp fun hlt heq => by
      rw [heq] at hlt
      exact List.lt_irrefl _ hlt
  have hfind : ∀ m ∈ ruleFields r, find m.1 ms = some (canon m.2) := by
    intro m hm
    exact find_of_mem hdistinct (List.mem_map.mpr ⟨m, hmem.mem_iff.mpr (by simp [hm]), rfl⟩)
  have hid : find (str "id") ms = some (.str r.id) := hfind (str "id", .str r.id) (by simp [ruleFields])
  have htype : find (str "type") ms = some (.str r.type) :=
    hfind (str "type", .str r.type) (by simp [ruleFields])
  have henabled : find (str "enabled") ms = some (.bool r.enabled) :=
    hfind (str "enabled", .bool r.enabled) (by simp [ruleFields])
  have hoptions : parseOptions path ms = .ok (r.options.map fun o => (o.1, canon o.2)) := by
    rw [parseOptions_eq]
    · congr 1
      rw [List.filter_map, ← filter_ruleMembers hr hok]
      rfl
    · intro m hm
      obtain ⟨m', hm', rfl⟩ := List.mem_map.mp hm
      rcases List.mem_append.mp (hmem.mem_iff.mp hm') with ho | hf
      · obtain ⟨hname, n, hn⟩ := hok m' ho
        exact .inr ⟨hname, n, by rw [validateRuleJson_canon (hr.values m' ho), hn]⟩
      · exact .inl (isRuleField_of_mem (m := m') hf)
  have hcanon : canon (ruleJson r) = .obj ms := by rw [ruleJson_eq, canon, canonMembers_eq]
  rw [hcanon, parseRule]
  simp only [contains, hid, htype, henabled, readString, optionalBool, readBool, hoptions,
    Option.isSome_some, Bool.not_true, Bool.or_self, Bool.false_eq_true, if_false, if_true, ok_bind,
    pure_eq_ok, RuleDefinition.readBack]

lemma parseRules_canon {rules : List RuleDefinition} (hr : ∀ r ∈ rules, r.Formed)
    (hok : ∀ r ∈ rules, r.OptionsOk) {ids : List Bytes} (hids : ∀ r ∈ rules, r.id ∉ ids)
    (hnodup : (rules.map RuleDefinition.id).Nodup) (path : Bytes) (index : ℕ) :
    parseRules path index ids (rules.map fun r => canon (ruleJson r)) =
      .ok (rules.map RuleDefinition.readBack) := by
  induction rules generalizing ids index with
  | nil => rfl
  | cons r rules ih =>
    obtain ⟨hnew, hnodup⟩ := List.nodup_cons.mp hnodup
    have hseen : ids.contains r.readBack.id = false := by
      rw [show r.readBack.id = r.id from rfl]
      simpa using hids r (by simp)
    have hrest : ∀ q ∈ rules, q.id ∉ r.id :: ids := by
      intro q hq hmem
      rcases List.mem_cons.mp hmem with heq | hmem
      · exact hnew (List.mem_map.mpr ⟨q, hq, heq⟩)
      · exact hids q (by simp [hq]) hmem
    have htail := ih (fun q hq => hr q (by simp [hq])) (fun q hq => hok q (by simp [hq])) hrest hnodup
      (index + 1)
    rw [List.map_cons, parseRules, parseRule_canon (hr r (by simp)) (hok r (by simp)), ok_bind]
    simp only [hseen, Bool.false_eq_true, if_false]
    rw [show r.readBack.id = r.id from rfl, htail]
    rfl

/-! ### Profiles -/

/-- The members of a profile in the file, its rules as they read back. -/
def profileMembers (p : ProfileDefinition) : Members :=
  [(str "enabled", .bool p.enabled)] ++ optionalObject "local" (localJson p.localRoutes) ++
    optionalMember "protocol" p.protocol ++
    [(str "rules", .arr (p.rules.map fun r => canon (ruleJson r)))] ++
    optionalObject "upstream" (upstreamJson p.upstream)

lemma canonMembers_append (ms ns : Members) :
    canonMembers (ms ++ ns) = canonMembers ms ++ canonMembers ns := by
  simp only [canonMembers_eq, List.map_append]

lemma canonMembers_optionalMember (key : String) (value : Option Bytes) :
    canonMembers (optionalMember key value) = optionalMember key value := by
  cases value with
  | none => rfl
  | some v => rfl

lemma canonMembers_optionalObject {key : String} {ms : Members} (h : canonMembers ms = ms) :
    canonMembers (optionalObject key ms) = optionalObject key ms := by
  cases ms with
  | nil => rfl
  | cons m ms =>
    rw [show optionalObject key (m :: ms) = [(str key, .obj (m :: ms))] from rfl, canonMembers, canon, h]
    rfl

lemma canon_profileJson (p : ProfileDefinition) : canon (profileJson p) = .obj (profileMembers p) := by
  have hlocal : canonMembers (localJson p.localRoutes) = localJson p.localRoutes := by
    simp only [localJson, canonMembers_append, canonMembers_optionalMember]
  have hupstream : canonMembers (upstreamJson p.upstream) = upstreamJson p.upstream := by
    simp only [upstreamJson, canonMembers_append, canonMembers_optionalMember]
  simp only [profileJson, profileMembers, canon, canonMembers_append, canonMembers_optionalMember,
    canonMembers_optionalObject hlocal, canonMembers_optionalObject hupstream, canonMembers,
    canonItems_eq, List.map_map]
  rfl

/-- The parts of a profile that reads back. -/
lemma profileMembers_parts (p : ProfileDefinition) (path : Bytes) :
    checkObjectKeys (.obj (profileMembers p)) path
      [str "enabled", str "protocol", str "local", str "upstream", str "rules"] [] =
        .ok (profileMembers p) ∧
    optionalBool (profileMembers p) "enabled" path = .ok p.enabled ∧
    optionalString (profileMembers p) "protocol" path = .ok p.protocol ∧
    find (str "local") (profileMembers p) = (if (localJson p.localRoutes).isEmpty then none else
      some (.obj (localJson p.localRoutes))) ∧
    find (str "upstream") (profileMembers p) = (if (upstreamJson p.upstream).isEmpty then none else
      some (.obj (upstreamJson p.upstream))) ∧
    find (str "rules") (profileMembers p) =
      some (.arr (p.rules.map fun r => canon (ruleJson r))) := by
  unfold profileMembers
  generalize localJson p.localRoutes = l
  generalize upstreamJson p.upstream = u
  generalize p.rules.map (fun r => canon (ruleJson r)) = rules
  cases l with
  | nil =>
    cases u with
    | nil => cases p.protocol <;> exact ⟨rfl, rfl, rfl, rfl, rfl, rfl⟩
    | cons => cases p.protocol <;> exact ⟨rfl, rfl, rfl, rfl, rfl, rfl⟩
  | cons =>
    cases u with
    | nil => cases p.protocol <;> exact ⟨rfl, rfl, rfl, rfl, rfl, rfl⟩
    | cons => cases p.protocol <;> exact ⟨rfl, rfl, rfl, rfl, rfl, rfl⟩

lemma localJson_parts (l : LocalRoutes) (path : Bytes) :
    checkObjectKeys (.obj (localJson l)) path [str "request_path", str "usage_path"] [] =
      .ok (localJson l) ∧
    optionalString (localJson l) "request_path" path = .ok l.requestPath ∧
    optionalString (localJson l) "usage_path" path = .ok l.usagePath ∧
    ((localJson l).isEmpty = true → l = {}) := by
  obtain ⟨request, usage⟩ := l
  cases request <;> cases usage <;> exact ⟨rfl, rfl, rfl, by simp [localJson, optionalMember]⟩

lemma upstreamJson_parts (u : UpstreamDefinition) (path : Bytes) :
    checkObjectKeys (.obj (upstreamJson u)) path
      [str "base_url", str "request_path", str "usage_path"] [] = .ok (upstreamJson u) ∧
    optionalString (upstreamJson u) "base_url" path = .ok u.baseUrl ∧
    optionalString (upstreamJson u) "request_path" path = .ok u.requestPath ∧
    optionalString (upstreamJson u) "usage_path" path = .ok u.usagePath ∧
    ((upstreamJson u).isEmpty = true → u = {}) := by
  obtain ⟨base, request, usage⟩ := u
  cases base <;> cases request <;> cases usage <;>
    exact ⟨rfl, rfl, rfl, rfl, by simp [upstreamJson, optionalMember]⟩

/-- A profile reads back. -/
lemma parseProfile_canon {p : ProfileDefinition} (hr : ∀ r ∈ p.rules, r.Formed)
    (hok : ∀ r ∈ p.rules, r.OptionsOk) (hnodup : (p.rules.map RuleDefinition.id).Nodup)
    (hcount : p.rules.length ≤ kMaxRulesPerProfile) (id : Bytes) :
    parseProfile (canon (profileJson p)) id = .ok p.readBack := by
  obtain ⟨hkeys, henabled, hprotocol, hlocal, hupstream, hrules⟩ :=
    profileMembers_parts p (str "$.profiles." ++ id)
  obtain ⟨hlkeys, hlrequest, hlusage, hlempty⟩ :=
    localJson_parts p.localRoutes (str "$.profiles." ++ id ++ str ".local")
  obtain ⟨hukeys, hubase, hurequest, huusage, huempty⟩ :=
    upstreamJson_parts p.upstream (str "$.profiles." ++ id ++ str ".upstream")
  have hparsed := parseRules_canon hr hok (fun r _ => List.not_mem_nil) hnodup
    (str "$.profiles." ++ id) 0
  have hlen : ¬ (p.rules.map fun r => canon (ruleJson r)).length > kMaxRulesPerProfile := by
    rw [List.length_map]
    omega
  rw [canon_profileJson, parseProfile, hkeys, ok_bind, henabled, ok_bind, hprotocol, ok_bind, hrules]
  simp only [contains, member, hlocal, hupstream, hlen, if_false, hparsed]
  cases hl : (localJson p.localRoutes).isEmpty <;> cases hu : (upstreamJson p.upstream).isEmpty
  · simp only [Bool.false_eq_true, if_false, if_true, Option.isSome_some, Option.getD_some, ok_bind,
      pure_eq_ok, hlkeys, hlrequest, hlusage, hukeys, hubase, hurequest, huusage,
      ProfileDefinition.readBack]
  · simp only [Bool.false_eq_true, if_false, if_true, Option.isSome_some, Option.isSome_none,
      Option.getD_some, ok_bind, pure_eq_ok, hlkeys, hlrequest, hlusage, huempty hu,
      ProfileDefinition.readBack]
  · simp only [Bool.false_eq_true, if_false, if_true, Option.isSome_some, Option.isSome_none,
      Option.getD_some, ok_bind, pure_eq_ok, hlempty hl, hukeys, hubase, hurequest, huusage,
      ProfileDefinition.readBack]
  · simp only [Bool.false_eq_true, if_false, if_true, Option.isSome_none, ok_bind, pure_eq_ok,
      hlempty hl, huempty hu, ProfileDefinition.readBack]

/-! ### Documents -/

/-- What is accepted of the rules of a profile. -/
structure ProfileDefinition.RulesAccepted (p : ProfileDefinition) : Prop where
  count : p.rules.length ≤ kMaxRulesPerProfile
  options : ∀ r ∈ p.rules, r.OptionsOk
  nodup : (p.rules.map RuleDefinition.id).Nodup

lemma validateProfileImpl_rules {id : Bytes} {p : ProfileDefinition} {complete : Bool}
    (h : validateProfileImpl id p complete = .ok ()) : p.RulesAccepted := by
  unfold validateProfileImpl at h
  iterate 7 obtain ⟨-, -, h⟩ := bind_eq_ok.mp h
  obtain ⟨_, hcount, h⟩ := bind_eq_ok.mp h
  obtain ⟨_, hrules, -⟩ := bind_eq_ok.mp h
  exact ⟨by simpa using check_eq_ok.mp hcount, validateRules_optionsOk hrules,
    (validateRules_ok hrules).nodup⟩

lemma validateProfiles_forall {ps : List (Bytes × ProfileDefinition)}
    (h : validateProfiles ps = .ok ()) : ∀ p ∈ ps, p.2.RulesAccepted := by
  induction ps with
  | nil => simp
  | cons p ps ih =>
    obtain ⟨id, p⟩ := p
    rw [validateProfiles] at h
    split at h
    · cases h
    next hp => exact List.forall_mem_cons.mpr ⟨validateProfileImpl_rules hp, ih h⟩

lemma validateDocument_parts {d : ConfigDocument} (h : validateDocument d = .ok ()) :
    validateSettingsImpl d.application = .ok () ∧ d.profiles.length ≤ kMaxConfigProfiles ∧
      validateProfiles d.profiles = .ok () ∧ routeCount d.profiles ≤ kMaxConfigRoutes := by
  unfold validateDocument at h
  split at h
  · cases h
  next hsettings =>
  split at h
  · cases h
  next hcount =>
  obtain ⟨_, hprofiles, h⟩ := bind_eq_ok.mp h
  split_ifs at h with hroutes
  exact ⟨hsettings, by omega, hprofiles, by omega⟩

lemma parseProfiles_canon {ps : List (Bytes × ProfileDefinition)}
    (hr : ∀ p ∈ ps, ∀ r ∈ p.2.rules, r.Formed) (hok : ∀ p ∈ ps, p.2.RulesAccepted) :
    parseProfiles (ps.map fun p => (p.1, canon (profileJson p.2))) =
      .ok (ps.map fun p => (p.1, p.2.readBack)) := by
  induction ps with
  | nil => rfl
  | cons p ps ih =>
    have hp := hok p (by simp)
    have hrest := ih (fun q hq => hr q (by simp [hq])) fun q hq => hok q (by simp [hq])
    rw [List.map_cons, parseProfiles,
      parseProfile_canon (hr p (by simp)) hp.options hp.nodup hp.count, ok_bind, hrest]
    rfl

/-- The root of the file of a document, as it reads back. -/
def documentRoot (d : ConfigDocument) : Members :=
  [(str "listener", .obj (listenerJson d.application.listener)),
    (str "logging", .obj (loggingJson d.application.logging)),
    (str "profiles", .obj (d.profiles.map fun p => (p.1, canon (profileJson p.2)))),
    (str "runtime", .obj (runtimeJson d.application.runtime)),
    (str "schema_version", .str kSchemaVersion),
    (str "timeouts", .obj (readTimeoutsJson d.application.timeouts))]

lemma canon_documentRoot {d : ConfigDocument} (h : SettingsOk d.application) :
    canon (documentToJson d) = .obj (documentRoot d) := by
  simp [documentToJson, documentRoot, canon, canonMembers, canonMembers_eq, listenerJson, loggingJson,
    runtimeJson, timeoutsJson, readTimeoutsJson, uint32, canon_int32 h.connect.le,
    canon_int32 h.resolve.le, canon_int32 h.header.le, canon_int32 h.send.le, canon_int32 h.idle.le,
    canon_int32 h.total]

lemma document_optionalMember {key : String} {value : Option Bytes} :
    ∀ m ∈ optionalMember key value, Document m.2 := by
  cases value <;> simp [optionalMember, Proper]

lemma document_localJson (l : LocalRoutes) : Document (.obj (localJson l)) := by
  refine proper_obj.mpr ⟨?_, fun m hm => ⟨trivial, ?_⟩⟩
  · obtain ⟨request, usage⟩ := l
    cases request <;> cases usage <;> simp [localJson, optionalMember]
    decide
  · rcases List.mem_append.mp hm with hm | hm
    · exact document_optionalMember m hm
    · exact document_optionalMember m hm

lemma document_upstreamJson (u : UpstreamDefinition) : Document (.obj (upstreamJson u)) := by
  refine proper_obj.mpr ⟨?_, fun m hm => ⟨trivial, ?_⟩⟩
  · obtain ⟨base, request, usage⟩ := u
    cases base <;> cases request <;> cases usage <;> simp [upstreamJson, optionalMember] <;> decide
  · simp only [upstreamJson, List.mem_append] at hm
    rcases hm with (hm | hm) | hm
    · exact document_optionalMember m hm
    · exact document_optionalMember m hm
    · exact document_optionalMember m hm

lemma document_ruleJson {r : RuleDefinition} (hr : r.Formed) (hok : r.OptionsOk) :
    Document (ruleJson r) := by
  refine proper_obj.mpr ⟨sorted_ruleMembers r, fun m hm => ⟨trivial, ?_⟩⟩
  rcases List.mem_append.mp ((perm_ruleMembers hr hok).mem_iff.mp hm) with ho | hf
  · exact hr.values m ho
  · simp only [ruleFields, List.mem_cons, List.not_mem_nil, or_false] at hf
    rcases hf with rfl | rfl | rfl <;> trivial

lemma document_profileJson {p : ProfileDefinition} (hr : ∀ r ∈ p.rules, r.Formed)
    (hok : p.RulesAccepted) : Document (profileJson p) := by
  have hrules : Document (.arr (p.rules.map ruleJson)) := by
    refine proper_arr.mpr fun v hv => ?_
    obtain ⟨r, hmem, rfl⟩ := List.mem_map.mp hv
    exact document_ruleJson (hr r hmem) (hok.options r hmem)
  have hlocal := document_localJson p.localRoutes
  have hupstream := document_upstreamJson p.upstream
  unfold profileJson
  generalize localJson p.localRoutes = l at hlocal
  generalize upstreamJson p.upstream = u at hupstream
  generalize p.rules.map ruleJson = rules at hrules
  have henabled : Document (.bool p.enabled) := trivial
  have hname : ∀ s, Document (.str s) := fun _ => trivial
  -- the names that are there are in order whichever of the three others are left out
  refine proper_obj.mpr ⟨?_, ?_⟩
  · apply List.pairwise_map.mp
    cases l <;> cases u <;> cases p.protocol <;>
      simp only [optionalObject, optionalMember, List.isEmpty_nil, List.isEmpty_cons, if_true,
        Bool.false_eq_true, if_false, Option.toList_none, Option.toList_some, List.map_nil,
        List.map_cons, List.append_nil, List.nil_append, List.cons_append] <;> decide
  · cases l <;> cases u <;> cases p.protocol <;>
      simp only [optionalObject, optionalMember, List.isEmpty_nil, List.isEmpty_cons, if_true,
        Bool.false_eq_true, if_false, Option.toList_none, Option.toList_some, List.map_nil,
        List.map_cons, List.append_nil, List.nil_append, List.cons_append, List.forall_mem_cons,
        hlocal, hupstream, hrules, henabled, hname, true_and, List.not_mem_nil, false_imp_iff,
        implies_true]

lemma document_profilesJson {d : ConfigDocument} (hd : d.Formed)
    (hok : ∀ p ∈ d.profiles, p.2.RulesAccepted) :
    Document (.obj (d.profiles.map fun (id, p) => (id, profileJson p))) := by
  refine proper_obj.mpr ⟨List.pairwise_map.mpr hd.sorted, fun m hm => ⟨trivial, ?_⟩⟩
  obtain ⟨p, hp, rfl⟩ := List.mem_map.mp hm
  exact document_profileJson (hd.rules p hp) (hok p hp)

lemma document_documentToJson {d : ConfigDocument} (hd : d.Formed)
    (hok : ∀ p ∈ d.profiles, p.2.RulesAccepted) : Document (documentToJson d) := by
  have hprofiles := document_profilesJson hd hok
  refine document_obj ((legacyRoot {}).map Prod.fst) rfl (by decide) ?_
  simp only [List.forall_mem_cons, document_listenerJson, document_loggingJson, hprofiles,
    document_runtimeJson, document_timeoutsJson, true_and]
  simp [Proper]

/-! ### Validation of what reads back -/

lemma validateOptions_readBack (label id : Bytes) {options : List (Bytes × Value)}
    (h : ∀ o ∈ options, Document o.2) :
    validateOptions label id (options.map fun o => (o.1, canon o.2)) =
      validateOptions label id options := by
  induction options with
  | nil => rfl
  | cons o options ih =>
    obtain ⟨k, v⟩ := o
    have hv := h (k, v) (by simp)
    have hrest := ih fun o ho => h o (by simp [ho])
    rw [List.map_cons, validateOptions, validateOptions, validateRuleJson_canon hv, hrest]

lemma validateRules_readBack (label : Bytes) (seen : List Bytes) {rules : List RuleDefinition}
    (h : ∀ r ∈ rules, r.Formed) :
    validateRules label seen (rules.map RuleDefinition.readBack) = validateRules label seen rules := by
  induction rules generalizing seen with
  | nil => rfl
  | cons r rules ih =>
    have hoptions := validateOptions_readBack label r.id (h r (by simp)).values
    have hrest := fun seen => ih seen fun r hr => h r (by simp [hr])
    simp only [List.map_cons, validateRules, hrest]
    simp only [RuleDefinition.readBack, hoptions]

lemma validateProfileImpl_readBack {id : Bytes} {p : ProfileDefinition} {complete : Bool}
    (h : ∀ r ∈ p.rules, r.Formed) :
    validateProfileImpl id p.readBack complete = validateProfileImpl id p complete := by
  simp only [validateProfileImpl, ProfileDefinition.readBack, requireComplete, List.length_map,
    validateRules_readBack _ _ h]

lemma validateProfiles_readBack {ps : List (Bytes × ProfileDefinition)}
    (h : ∀ p ∈ ps, ∀ r ∈ p.2.rules, r.Formed) :
    validateProfiles (ps.map fun p => (p.1, p.2.readBack)) = validateProfiles ps := by
  induction ps with
  | nil => rfl
  | cons p ps ih =>
    obtain ⟨id, p⟩ := p
    have hp := h (id, p) (by simp)
    have hrest := ih fun q hq => h q (by simp [hq])
    simp only [List.map_cons, validateProfiles, validateProfileImpl_readBack hp, hrest]
    rfl

lemma validateConfigDocument_readBack {d : ConfigDocument} (hd : d.Formed)
    (h : validateDocument d = .ok ()) : validateConfigDocument d.readBack = .ok () := by
  obtain ⟨hsettings, hcount, hprofiles, hroutes⟩ := validateDocument_parts h
  have hdefault : validateSettingsImpl d.application.readBack = .ok () :=
    (settingsOk hsettings).inflight ({} : RuntimeSettings).maxInflightBytes (by decide) (by decide)
  have hsame : routeCount (d.profiles.map fun p => (p.1, p.2.readBack)) = routeCount d.profiles := by
    simp [routeCount, ProfileDefinition.readBack, Function.comp_def]
  simp only [validateConfigDocument, validateDocument, ConfigDocument.readBack, hdefault,
    List.length_map, validateProfiles_readBack hd.rules, hprofiles, hsame, not_lt.mpr hcount,
    not_lt.mpr hroutes, if_false, ok_bind, pure_eq_ok]

/-! ### The text of what reads back -/

lemma canonMembers_foldl (options ms : Members) :
    canonMembers (options.foldl (fun ms o => insertMember o.1 o.2 ms) ms) =
      (options.map fun o => (o.1, canon o.2)).foldl (fun ms o => insertMember o.1 o.2 ms)
        (canonMembers ms) := by
  induction options generalizing ms with
  | nil => rfl
  | cons o options ih => rw [List.foldl_cons, ih, canonMembers_insertMember, List.map_cons, List.foldl_cons]

lemma canon_ruleJson_readBack (r : RuleDefinition) :
    canon (ruleJson r.readBack) = canon (ruleJson r) := by
  simp only [ruleJson, canon, canonMembers_foldl, RuleDefinition.readBack, List.map_map]
  simp only [Function.comp_def, canon_canon]

lemma canon_profileJson_readBack (p : ProfileDefinition) :
    canon (profileJson p.readBack) = canon (profileJson p) := by
  simp only [canon_profileJson, profileMembers, ProfileDefinition.readBack, List.map_map]
  simp only [Function.comp_def, canon_ruleJson_readBack]

section Files

variable [Library]

/-- A document has the text of what reads back of it. -/
lemma dumpPretty_readBack {d : ConfigDocument} (hsettings : validateSettingsImpl d.application = .ok ()) :
    dumpPretty (documentToJson d.readBack) = dumpPretty (documentToJson d) := by
  have hok := settingsOk hsettings
  have hdefault : SettingsOk d.readBack.application :=
    settingsOk (hok.inflight ({} : RuntimeSettings).maxInflightBytes (by decide) (by decide))
  have hroot : documentRoot d.readBack = documentRoot d := by
    simp only [documentRoot, ConfigDocument.readBack, List.map_map, Function.comp_def,
      canon_profileJson_readBack]
    rfl
  calc dumpPretty (documentToJson d.readBack)
    _ = dumpPretty (canon (documentToJson d.readBack)) := (dumpAt_canon _ _ _).symm
    _ = dumpPretty (canon (documentToJson d)) := by
      rw [canon_documentRoot hdefault, hroot, canon_documentRoot hok]
    _ = dumpPretty (documentToJson d) := dumpAt_canon _ _ _

lemma serializeConfigDocument_ok {d : ConfigDocument} {u : Bytes}
    (h : serializeConfigDocument d = .ok u) : validateDocument d = .ok () ∧
      ∃ text, dumpPretty (documentToJson d) = some text ∧ u = text ++ [ch '\n'] ∧
        u.length ≤ kMaxConfigDocumentBytes := by
  unfold serializeConfigDocument at h
  obtain ⟨_, hvalid, h⟩ := bind_eq_ok.mp h
  split at h
  · cases h
  next text htext =>
  dsimp only at h
  split at h
  · cases h
  next hlen =>
  cases h
  refine ⟨?_, text, htext, rfl, not_lt.mp hlen⟩
  unfold validateConfigDocument at hvalid
  split at hvalid
  next hv => exact hv
  · cases hvalid

/-- A document that is written reads back, and is written again with the same text. -/
lemma parse_serializeConfigDocument {d : ConfigDocument} {u : Bytes} (hd : d.Formed)
    (h : serializeConfigDocument d = .ok u) :
    parseConfigDocument u = .ok d.readBack ∧ serializeConfigDocument d.readBack = .ok u := by
  obtain ⟨hvalid, text, htext, rfl, hlen⟩ := serializeConfigDocument_ok h
  obtain ⟨hsettings, hcount, hprofiles, -⟩ := validateDocument_parts hvalid
  have haccepted := validateProfiles_forall hprofiles
  have hok := settingsOk hsettings
  have hback := validateConfigDocument_readBack hd hvalid
  constructor
  · have hroot : parseRoot (text ++ [ch '\n']) = .ok (documentRoot d) :=
      parseRoot_text (document_documentToJson hd haccepted) (canon_documentRoot hok) htext
        (ends_cons [] (by decide)) rfl hlen
    have hversion : find (str "schema_version") (documentRoot d) = some (.str kSchemaVersion) := rfl
    have hkeys : checkObjectKeys (.obj (documentRoot d)) (str "$") documentKeys documentKeys =
        .ok (documentRoot d) := checkObjectKeys_ok rfl rfl
    have hfind : find (str "profiles") (documentRoot d) =
        some (.obj (d.profiles.map fun p => (p.1, canon (profileJson p.2)))) := rfl
    have hlistener : readListener (documentRoot d) = .ok d.application.listener :=
      readListener_legacyRoot hok
    have hruntime : readRuntime (documentRoot d) = .ok d.application.readBack.runtime :=
      readRuntime_legacyRoot hok
    have htimeouts : readTimeouts (documentRoot d) = .ok d.application.timeouts :=
      readTimeouts_legacyRoot hok
    have hlogging : readLogging (documentRoot d) = .ok d.application.logging :=
      readLogging_legacyRoot hok
    simp only [parseConfigDocument, hroot, ok_bind, hversion, ne_eq, not_true_eq_false, if_false,
      hkeys, readRequiredApplicationSettings, hlistener, hruntime, htimeouts, hlogging, pure_eq_ok,
      hfind, List.length_map, not_lt.mpr hcount, parseProfiles_canon hd.rules haccepted]
    have hdoc : d.readBack = ⟨⟨d.application.listener, d.application.readBack.runtime,
        d.application.timeouts, d.application.logging⟩,
        d.profiles.map fun p => (p.1, p.2.readBack)⟩ := rfl
    rw [← hdoc, hback]
    rfl
  · simp only [serializeConfigDocument, hback, ok_bind, dumpPretty_readBack hsettings, htext,
      gt_iff_lt, not_lt.mpr hlen, if_false, pure_eq_ok]

/-! ### Documents that were read -/

omit [Library] in
lemma checkObjectKeys_members {v : Value} {path : Bytes} {allowed required : List Bytes} {ms : Members}
    (h : checkObjectKeys v path allowed required = .ok ms) : v = .obj ms := by
  unfold checkObjectKeys at h
  split at h
  · split at h
    · cases h
    split at h
    · cases h
    · cases h
      rfl
  · cases h

omit [Library] in
lemma parseOptions_sublist {path : Bytes} {ms options : Members}
    (h : parseOptions path ms = .ok options) : options.Sublist ms := by
  induction ms generalizing options with
  | nil =>
    cases h
    exact .slnil
  | cons m ms ih =>
    obtain ⟨k, v⟩ := m
    rw [parseOptions] at h
    split_ifs at h
    · exact (ih h).cons _
    split at h
    · cases h
    · obtain ⟨rest, hrest, h⟩ := bind_eq_ok.mp h
      cases h
      exact (ih hrest).cons_cons _

omit [Library] in
lemma parseRule_formed {source : Value} {path : Bytes} {r : RuleDefinition} (hs : Document source)
    (h : parseRule source path = .ok r) : r.Formed := by
  unfold parseRule at h
  split at h
  next ms =>
    split_ifs at h
    obtain ⟨_, -, h⟩ := bind_eq_ok.mp h
    obtain ⟨_, -, h⟩ := bind_eq_ok.mp h
    obtain ⟨_, -, h⟩ := bind_eq_ok.mp h
    obtain ⟨options, hoptions, h⟩ := bind_eq_ok.mp h
    cases h
    obtain ⟨hsorted, hvalues⟩ := proper_obj.mp hs
    have hsub := parseOptions_sublist hoptions
    exact ⟨hsorted.sublist hsub, fun o ho => (hvalues o (hsub.subset ho)).2⟩
  · cases h

omit [Library] in
lemma parseRules_formed {sources : List Value} {path : Bytes} {index : ℕ} {ids : List Bytes}
    {rules : List RuleDefinition} (hs : ∀ v ∈ sources, Document v)
    (h : parseRules path index ids sources = .ok rules) : ∀ r ∈ rules, r.Formed := by
  induction sources generalizing index ids rules with
  | nil =>
    cases h
    simp
  | cons source sources ih =>
    obtain ⟨rule, hrule, h⟩ := bind_eq_ok.mp h
    split at h
    · cases h
    obtain ⟨rest, hrest, h⟩ := bind_eq_ok.mp h
    cases h
    have hfirst := parseRule_formed (hs source (by simp)) hrule
    exact List.forall_mem_cons.mpr ⟨hfirst, ih (fun v hv => hs v (by simp [hv])) hrest⟩

omit [Library] in
/-- The rules are read last, whatever was read before. -/
lemma readRules_formed {ms : Members} {id : Bytes} {enabled : Bool} {protocol : Option Bytes}
    {l : LocalRoutes} {u : UpstreamDefinition} {p : ProfileDefinition} (hs : Document (.obj ms))
    (h : (match find (str "rules") ms with
      | none => do
        let rules ← pure []
        pure (⟨enabled, protocol, l, u, rules, 0, none⟩ : ProfileDefinition)
      | some (.arr xs) =>
        if xs.length > kMaxRulesPerProfile then do
          let rules ← throw (str "$.profiles." ++ id ++ str ".rules exceeds the maximum of " ++
            decimal kMaxRulesPerProfile)
          pure (⟨enabled, protocol, l, u, rules, 0, none⟩ : ProfileDefinition)
        else do
          let rules ← parseRules (str "$.profiles." ++ id) 0 [] xs
          pure (⟨enabled, protocol, l, u, rules, 0, none⟩ : ProfileDefinition)
      | some _ => do
        let rules ← throw (str "$.profiles." ++ id ++ str ".rules must be a JSON array")
        pure (⟨enabled, protocol, l, u, rules, 0, none⟩ : ProfileDefinition) :
        Except Bytes ProfileDefinition) = .ok p) : ∀ r ∈ p.rules, r.Formed := by
  split at h
  · cases h
    simp
  next xs hxs =>
    split at h
    · cases h
    obtain ⟨rules, hparsed, h⟩ := bind_eq_ok.mp h
    cases h
    exact parseRules_formed (proper_arr.mp (Proper.find hs hxs)) hparsed
  · cases h

omit [Library] in
lemma parseProfile_formed {source : Value} {id : Bytes} {p : ProfileDefinition}
    (hs : Document source) (h : parseProfile source id = .ok p) : ∀ r ∈ p.rules, r.Formed := by
  unfold parseProfile at h
  obtain ⟨ms, hkeys, h⟩ := bind_eq_ok.mp h
  obtain ⟨enabled, -, h⟩ := bind_eq_ok.mp h
  obtain ⟨protocol, -, h⟩ := bind_eq_ok.mp h
  rw [checkObjectKeys_members hkeys] at hs
  dsimp only at h
  split at h
  · obtain ⟨_, -, h⟩ := bind_eq_ok.mp h
    obtain ⟨_, -, h⟩ := bind_eq_ok.mp h
    obtain ⟨_, -, h⟩ := bind_eq_ok.mp h
    obtain ⟨_, -, h⟩ := bind_eq_ok.mp h
    split at h
    · obtain ⟨_, -, h⟩ := bind_eq_ok.mp h
      obtain ⟨_, -, h⟩ := bind_eq_ok.mp h
      obtain ⟨_, -, h⟩ := bind_eq_ok.mp h
      obtain ⟨_, -, h⟩ := bind_eq_ok.mp h
      obtain ⟨_, -, h⟩ := bind_eq_ok.mp h
      exact readRules_formed hs h
    · obtain ⟨_, -, h⟩ := bind_eq_ok.mp h
      exact readRules_formed hs h
  · obtain ⟨_, -, h⟩ := bind_eq_ok.mp h
    split at h
    · obtain ⟨_, -, h⟩ := bind_eq_ok.mp h
      obtain ⟨_, -, h⟩ := bind_eq_ok.mp h
      obtain ⟨_, -, h⟩ := bind_eq_ok.mp h
      obtain ⟨_, -, h⟩ := bind_eq_ok.mp h
      obtain ⟨_, -, h⟩ := bind_eq_ok.mp h
      exact readRules_formed hs h
    · obtain ⟨_, -, h⟩ := bind_eq_ok.mp h
      exact readRules_formed hs h

omit [Library] in
lemma parseProfiles_formed {ms : Members} {ps : List (Bytes × ProfileDefinition)}
    (hs : ∀ m ∈ ms, Document m.2) (h : parseProfiles ms = .ok ps) :
    ps.map Prod.fst = ms.map Prod.fst ∧ ∀ p ∈ ps, ∀ r ∈ p.2.rules, r.Formed := by
  induction ms generalizing ps with
  | nil =>
    cases h
    simp
  | cons m ms ih =>
    obtain ⟨id, source⟩ := m
    obtain ⟨profile, hprofile, h⟩ := bind_eq_ok.mp h
    obtain ⟨rest, hrest, h⟩ := bind_eq_ok.mp h
    cases h
    obtain ⟨hnames, hrules⟩ := ih (fun m hm => hs m (by simp [hm])) hrest
    have hfirst := parseProfile_formed (hs (id, source) (by simp)) hprofile
    exact ⟨by simp [hnames], List.forall_mem_cons.mpr ⟨hfirst, hrules⟩⟩

lemma parseRoot_document {content : Bytes} {root : Members} (h : parseRoot content = .ok root) :
    Document (.obj root) := by
  unfold parseRoot at h
  split at h
  · cases h
  split at h
  · cases h
  next tree htree =>
  split at h
  · cases h
  split at h
  next ms hms =>
    cases h
    have hwritable := parseTree_writable htree
    rw [hms] at hwritable
    exact hwritable.mono fun _ _ => trivial
  · cases h

/-- A document that was read is made of maps. -/
lemma parseConfigDocument_formed {text : Bytes} {d : ConfigDocument}
    (h : parseConfigDocument text = .ok d) : d.Formed := by
  unfold parseConfigDocument at h
  obtain ⟨root, hroot, h⟩ := bind_eq_ok.mp h
  have hdoc : Document (.obj root) := parseRoot_document hroot
  split at h
  · split at h
    · cases h
    obtain ⟨root', hkeys, h⟩ := bind_eq_ok.mp h
    have hsame := checkObjectKeys_members hkeys
    rw [hsame] at hdoc
    obtain ⟨application, -, h⟩ := bind_eq_ok.mp h
    split at h
    next ms hms =>
      split at h
      · cases h
      obtain ⟨profiles, hprofiles, h⟩ := bind_eq_ok.mp h
      obtain ⟨_, -, h⟩ := bind_eq_ok.mp h
      cases h
      obtain ⟨hsorted, hvalues⟩ := proper_obj.mp (Proper.find hdoc hms)
      obtain ⟨hnames, hrules⟩ := parseProfiles_formed (fun m hm => (hvalues m hm).2) hprofiles
      refine ⟨List.pairwise_map.mp ?_, hrules⟩
      rw [hnames]
      exact List.pairwise_map.mpr hsorted
    · cases h
  · cases h

/-! ### The codecs -/

/-- Two rules are the same but for their keys; options are compared as the library compares them. -/
structure RuleDefinition.Same (r r' : RuleDefinition) : Prop where
  fields : r'.id = r.id ∧ r'.enabled = r.enabled ∧ r'.type = r.type
  options : equalMembers r'.options r.options = true

structure ProfileDefinition.Same (p p' : ProfileDefinition) : Prop where
  fields : p'.enabled = p.enabled ∧ p'.protocol = p.protocol ∧ p'.localRoutes = p.localRoutes ∧
    p'.upstream = p.upstream
  rules : List.Forall₂ RuleDefinition.Same p.rules p'.rules

/-- Two documents are the same but for the keys and places of the storage and the limit on bytes
in flight. -/
structure ConfigDocument.Same (d d' : ConfigDocument) : Prop where
  application : { d'.application with runtime := { d'.application.runtime with
    maxInflightBytes := d.application.runtime.maxInflightBytes } } = d.application
  profiles : List.Forall₂ (fun p p' => p'.1 = p.1 ∧ p.2.Same p'.2) d.profiles d'.profiles

lemma RuleDefinition.same_readBack {r : RuleDefinition} (h : r.Formed) : r.Same r.readBack := by
  refine ⟨⟨rfl, rfl, rfl⟩, ?_⟩
  have hobj : Document (.obj r.options) :=
    proper_obj.mpr ⟨h.sorted, fun o ho => ⟨trivial, h.values o ho⟩⟩
  have hequal := equal_canon hobj
  rw [canon, equal, canonMembers_eq] at hequal
  exact hequal

lemma ConfigDocument.same_readBack {d : ConfigDocument} (h : d.Formed) : d.Same d.readBack := by
  refine ⟨rfl, List.forall₂_map_right_iff.mpr (List.forall₂_same.mpr fun p hp => ⟨rfl, ?_⟩)⟩
  refine ⟨⟨rfl, rfl, rfl, rfl⟩, ?_⟩
  exact List.forall₂_map_right_iff.mpr (List.forall₂_same.mpr fun r hr =>
    RuleDefinition.same_readBack (h.rules p hp r hr))

omit [Library] in
lemma validUtf8_of_mem_levels {level : Bytes} (h : level ∈ levels) : validUtf8 level = true := by
  revert level
  decide

omit [Library] in
lemma writable_settingsRoot {a : ApplicationSettings} (hok : SettingsOk a)
    (hhost : validUtf8 a.listener.host = true) (hpath : validUtf8 a.logging.path = true) :
    Writable (.obj (settingsRoot a)) := by
  have hlistener : Writable (.obj (listenerJson a.listener)) :=
    proper_of_names ((listenerJson {}).map Prod.fst) rfl (by decide) (by decide)
      (by simp [listenerJson, Proper, hhost])
  have hlogging : Writable (.obj (loggingJson a.logging)) :=
    proper_of_names ((loggingJson {}).map Prod.fst) rfl (by decide) (by decide)
      (by simp [loggingJson, Proper, uint32, hpath, validUtf8_of_mem_levels hok.level])
  have hruntime : Writable (.obj (inflightRuntimeJson a.runtime)) :=
    proper_of_names ((inflightRuntimeJson {}).map Prod.fst) rfl (by decide) (by decide)
      (by simp [inflightRuntimeJson, Proper, uint32])
  have htimeouts : Writable (.obj (readTimeoutsJson a.timeouts)) :=
    proper_of_names ((readTimeoutsJson {}).map Prod.fst) rfl (by decide) (by decide)
      (by simp [readTimeoutsJson, Proper, readsAs])
  have hversion : Writable (.str kApplicationConfigSchema) := by
    show validUtf8 kApplicationConfigSchema = true
    decide
  refine proper_of_names ((settingsRoot {}).map Prod.fst) rfl (by decide) (by decide) ?_
  simp only [settingsRoot, List.forall_mem_cons, hlistener, hlogging, hruntime, htimeouts, hversion,
    true_and]
  simp

/-- The files of accepted settings are far below the limit. -/
lemma widthAt_settings {a : ApplicationSettings} (h : SettingsOk a) :
    widthAt 2 0 (.obj (legacyRoot a)) < kMaxConfigDocumentBytes ∧
      widthAt 2 0 (.obj (settingsRoot a)) < kMaxConfigDocumentBytes := by
  have hlevel := length_of_mem_levels h.level
  have hhost := h.host
  have hpath := h.path
  simp only [legacyRoot, settingsRoot, widthAt, widthMembers, listenerJson, loggingJson, runtimeJson,
    inflightRuntimeJson, readTimeoutsJson, uint32, readsAs, str, List.length_map, kSchemaVersion,
    kApplicationConfigSchema, kMaxConfigDocumentBytes]
  constructor
  · simp
    omega
  · simp
    omega

/-- Accepted settings of UTF-8 strings are written. -/
lemma serializeApplication_of_valid {a : ApplicationSettings}
    (h : validateApplicationSettings a = .ok ()) (hhost : validUtf8 a.listener.host = true)
    (hpath : validUtf8 a.logging.path = true) :
    ∃ u, serializeApplicationConfigDocument a = .ok u := by
  have hsettings : validateSettingsImpl a = .ok () := by
    unfold validateApplicationSettings at h
    split at h
    next heq => exact heq
    · cases h
  have hok := settingsOk hsettings
  obtain ⟨hlegacyWidth, hrootWidth⟩ := widthAt_settings hok
  have hwritable := writable_settingsRoot hok hhost hpath
  obtain ⟨legacy, hlegacy⟩ := dumpAt_writable (writable_legacyRoot hwritable) (some 2) 0
  obtain ⟨text, htext⟩ := dumpAt_writable hwritable (some 2) 0
  have hlegacyLen : ¬ (legacy ++ [ch '\n']).length > kMaxConfigDocumentBytes := by
    have hle := length_dumpPretty_le hlegacy
    simp only [List.length_append, List.length_singleton]
    omega
  have hlen : ¬ (text ++ [ch '\n']).length > kMaxConfigDocumentBytes := by
    have hle := length_dumpPretty_le htext
    simp only [List.length_append, List.length_singleton]
    omega
  have hpretty : dumpPretty (documentToJson { application := a }) = some legacy := by
    rw [dumpPretty, ← dumpAt_canon, canon_documentToJson hok]
    exact hlegacy
  have hserialized : serializeConfigDocument { application := a } = .ok (legacy ++ [ch '\n']) := by
    simp only [serializeConfigDocument, validateConfigDocument_settings hsettings, ok_bind, hpretty,
      hlegacyLen, if_false, pure_eq_ok]
  have hparse : parse (legacy ++ [ch '\n']) = .ok (.obj (legacyRoot a)) := by
    have htree := parseTree_dumpPretty (c := false) hlegacy
    rw [parse, htree, map_ok, canon_legacyRoot, toDom_proper (document_legacyRoot a)]
  refine ⟨text ++ [ch '\n'], ?_⟩
  simp only [serializeApplicationConfigDocument, h, ok_bind, hserialized, hparse,
    applicationRoot_legacyRoot]
  rw [show dumpPretty (.obj (settingsRoot a)) = some text from htext]
  simp only [hlen, if_false, pure_eq_ok]

/-- **The codecs of the configuration file.** Accepted settings of UTF-8 strings are written to a v3
file and read back; an accepted document with a text that fits a v2 file reads back the same but
for keys, places and the limit on bytes in flight; and the text of a document that was read is
the text of what it reads back as. -/
theorem config_codecs_round_trip :
    (∀ a : ApplicationSettings, validateApplicationSettings a = .ok () →
      validUtf8 a.listener.host = true → validUtf8 a.logging.path = true →
      ∃ u, serializeApplicationConfigDocument a = .ok u ∧ parseApplicationConfigDocument u = .ok a) ∧
    (∀ (d : ConfigDocument) (u : Bytes), d.Formed → serializeConfigDocument d = .ok u →
      ∃ d', parseConfigDocument u = .ok d' ∧ d.Same d') ∧
    ∀ (text : Bytes) (d : ConfigDocument) (u : Bytes), parseConfigDocument text = .ok d →
      serializeConfigDocument d = .ok u →
      ∃ d', parseConfigDocument u = .ok d' ∧ serializeConfigDocument d' = .ok u := by
  refine ⟨fun a ha hhost hpath => ?_, fun d u hd hu => ?_, fun text d u htext hu => ?_⟩
  · obtain ⟨u, hu⟩ := serializeApplication_of_valid ha hhost hpath
    exact ⟨u, hu, (parse_serializeApplication hu).1⟩
  · exact ⟨d.readBack, (parse_serializeConfigDocument hd hu).1, ConfigDocument.same_readBack hd⟩
  · exact ⟨d.readBack, parse_serializeConfigDocument (parseConfigDocument_formed htext) hu⟩

end Files

/-- The default settings, and a document of one profile with a rule. -/
theorem config_codecs_round_trip_default :
    let _ : Library := bitLibrary
    let rule : RuleDefinition :=
      { id := str "x", type := str "set_field", options := [(str "value", .int 5)] }
    let d : ConfigDocument := { profiles := [(str "a", { rules := [rule] })] }
    (∃ u, serializeApplicationConfigDocument {} = .ok u ∧
      parseApplicationConfigDocument u = .ok {}) ∧
    ∃ u d', serializeConfigDocument d = .ok u ∧ parseConfigDocument u = .ok d' ∧ d.Same d' := by
  intro _ rule d
  have hrun : (serializeConfigDocument d).toOption.isSome = true := by decide +kernel
  obtain ⟨u, hu⟩ := Option.isSome_iff_exists.mp hrun
  have hu := toOption_eq_some.mp hu
  have hformed : d.Formed := by
    refine ⟨List.pairwise_singleton _ _, fun p hp r hr => ?_⟩
    rw [List.mem_singleton.mp hp] at hr
    rw [List.mem_singleton.mp hr]
    exact ⟨List.pairwise_singleton _ _, by simp [rule, Proper]⟩
  obtain ⟨hsettings, hdocument, -⟩ := config_codecs_round_trip
  obtain ⟨d', hd', hsame⟩ := hdocument d u hformed hu
  exact ⟨hsettings {} (toOption_eq_some.mp (by decide)) (by decide) (by decide),
    u, d', hu, hd', hsame⟩

end CcsTrans.Config
