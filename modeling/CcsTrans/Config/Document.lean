import CcsTrans.Config.Settings
import CcsTrans.Core.Url
import CcsTrans.Json.Access

/-!
The configuration document: application settings and profiles with their rules, and what
makes a document acceptable.
-/

namespace CcsTrans.Config

open CcsTrans.Text CcsTrans.Core CcsTrans.Json CcsTrans.Fallible

def kMaxConfigDocumentBytes : ℕ := 4 * 1024 * 1024
def kMaxConfigProfiles : ℕ := 128
def kMaxConfigRoutes : ℕ := 256
def kMaxRulesPerProfile : ℕ := 64
def kMaxUrlBytes : ℕ := 8192
def kMaxRuleOptionDepth : ℕ := 32
def kMaxRuleOptionNodes : ℕ := 4096

structure LocalRoutes where
  requestPath : Option Bytes := none
  usagePath : Option Bytes := none

structure UpstreamDefinition where
  baseUrl : Option Bytes := none
  requestPath : Option Bytes := none
  usagePath : Option Bytes := none

structure RuleDefinition where
  id : Bytes
  enabled : Bool := false
  type : Bytes
  /-- Sorted by name. -/
  options : List (Bytes × Value) := []
  storageKey : ℤ := 0

structure ProfileDefinition where
  enabled : Bool := false
  protocol : Option Bytes := none
  localRoutes : LocalRoutes := {}
  upstream : UpstreamDefinition := {}
  rules : List RuleDefinition := []
  storageKey : ℤ := 0
  storagePosition : Option ℕ := none

structure ConfigDocument where
  application : ApplicationSettings := {}
  /-- Sorted by profile id. -/
  profiles : List (Bytes × ProfileDefinition) := []

/-! ### Names -/

/-- `valid_stable_id`. -/
def validStableId (value : Bytes) (lowerCaseOnly allowDot : Bool) : Bool :=
  value != [] && value.length ≤ 64 &&
  value.head?.all (fun b => if lowerCaseOnly then isLower b else isAlnum b) &&
  value.all fun b =>
    if lowerCaseOnly then isLower b || isDigit b || b == ch '-' || b == ch '_'
    else isAlnum b || b == ch '-' || b == ch '_' || (allowDot && b == ch '.')

def isValidProfileId (value : Bytes) : Bool := validStableId value false true
def isValidProtocolId (value : Bytes) : Bool := validStableId value true false
def isValidRuleId (value : Bytes) : Bool := validStableId value false true
def isValidRuleType (value : Bytes) : Bool :=
  validStableId value true false && !value.contains (ch '-')

/-- `is_valid_rule_option_name`: not one of the fields a rule has anyway. -/
def isValidRuleOptionName (value : Bytes) : Bool :=
  value != str "id" && value != str "enabled" && value != str "type" &&
  value != [] && value.length ≤ 64 && value.head?.all isLower &&
  value.all fun b => isLower b || isDigit b || b == ch '_'

/-! ### Rule options -/

mutual

/-- `validate_rule_json`: the number of nodes seen, when the value is small and flat enough. -/
def validateRuleJson (depth nodes : ℕ) (v : Value) : Except Bytes ℕ :=
  if nodes + 1 > kMaxRuleOptionNodes then
    .error (str "rule options exceed the maximum JSON node count")
  else if depth > kMaxRuleOptionDepth then
    .error (str "rule options exceed the maximum JSON nesting depth")
  else match v with
    | .float d =>
      if d.isFinite then .ok (nodes + 1)
      else .error (str "rule options must be losslessly representable as JSON text")
    | .arr xs => validateRuleItems (depth + 1) (nodes + 1) xs
    | .obj ms => validateRuleMembers (depth + 1) (nodes + 1) ms
    | _ => .ok (nodes + 1)

def validateRuleItems (depth nodes : ℕ) : List Value → Except Bytes ℕ
  | [] => .ok nodes
  | x :: xs => do validateRuleItems depth (← validateRuleJson depth nodes x) xs

def validateRuleMembers (depth nodes : ℕ) : List (Bytes × Value) → Except Bytes ℕ
  | [] => .ok nodes
  | (k, v) :: ms =>
    if k.length > 256 || containsControl k then
      .error (str "rule option object contains an invalid key")
    else do validateRuleMembers depth (← validateRuleJson depth nodes v) ms

end

/-! ### Profiles -/

/-- The management namespace, which no profile may serve. -/
def isReserved (canonical : Bytes) : Bool :=
  canonical == str "/_ccs-trans" || startsWith (str "/_ccs-trans/") canonical

/-- `validate_route_path`. -/
def validateRoutePath (value : Bytes) (isLocal : Bool) (label : Bytes) : Except Bytes Unit :=
  match canonicalizeHttpPath value with
  | .error e => .error (label ++ str ": " ++ e)
  | .ok canonical =>
    if isLocal && isReserved canonical then
      .error (label ++ str " uses the reserved /_ccs-trans management namespace")
    else .ok ()

/-- `validate_base_url`. -/
def validateBaseUrl (value label : Bytes) : Except Bytes Unit :=
  if value = [] ∨ value.length > kMaxUrlBytes ∨ containsControl value then
    .error (label ++ str " is empty, too long, or contains control characters")
  else if ch '?' ∈ value ∨ ch '#' ∈ value then
    .error (label ++ str " must not contain a query or fragment")
  else match parseHttpUrl value with
    | .error e => .error (label ++ str ": " ++ e)
    | .ok parsed =>
      if parsed.host.any isSpace then .error (label ++ str " contains an invalid host")
      else validateRoutePath parsed.basePath false (label ++ str " base path")

/-- An optional field that must pass its check when it is given. -/
def checkOptional (value : Option Bytes) (validate : Bytes → Except Bytes Unit) (field : Bytes) :
    Except Rejection Unit :=
  match value with
  | none => .ok ()
  | some v => match validate v with
    | .ok _ => .ok ()
    | .error e => .error ⟨field, e⟩

def validateOptions (label ruleId : Bytes) : List (Bytes × Value) → Except Rejection Unit
  | [] => .ok ()
  | (k, v) :: ms => do
    check (isValidRuleOptionName k) (str "rules")
      (label ++ str " rule " ++ ruleId ++ str " has an invalid option name: " ++ k)
    match validateRuleJson 0 0 v with
    | .error e =>
      throw ⟨str "rules", label ++ str " rule " ++ ruleId ++ str " option " ++ k ++ str ": " ++ e⟩
    | .ok _ => validateOptions label ruleId ms

/-- The rules of a profile, those of the names `seen` behind them. -/
def validateRules (label : Bytes) (seen : List Bytes) : List RuleDefinition → Except Rejection Unit
  | [] => .ok ()
  | rule :: rules => do
    check (isValidRuleId rule.id) (str "rules") (label ++ str " has an invalid rule id: " ++ rule.id)
    check (!seen.contains rule.id) (str "rules")
      (label ++ str " has duplicate rule id: " ++ rule.id)
    check (isValidRuleType rule.type) (str "rules")
      (label ++ str " rule " ++ rule.id ++ str " has an invalid type")
    validateOptions label rule.id rule.options
    validateRules label (rule.id :: seen) rules

/-- What a profile needs before it can be enabled. -/
def requireComplete (label : Bytes) (profile : ProfileDefinition) : Except Rejection Unit := do
  let missing := label ++ str (" is enabled but missing protocol, local.request_path, " ++
    "upstream.base_url, or upstream.request_path")
  let unpaired := label ++ str " must configure both local.usage_path and upstream.usage_path"
  check profile.protocol.isSome (str "protocol") missing
  check profile.localRoutes.requestPath.isSome (str "local.request-path") missing
  check profile.upstream.baseUrl.isSome (str "upstream.base-url") missing
  check profile.upstream.requestPath.isSome (str "upstream.request-path") missing
  check (!profile.localRoutes.usagePath.isSome || profile.upstream.usagePath.isSome)
    (str "upstream.usage-path") unpaired
  check (profile.localRoutes.usagePath.isSome || !profile.upstream.usagePath.isSome)
    (str "local.usage-path") unpaired

/-- `validate_profile_definition_impl`. -/
def validateProfileImpl (profileId : Bytes) (profile : ProfileDefinition) (complete : Bool) :
    Except Rejection Unit := do
  let label := str "profile " ++ profileId
  check (isValidProfileId profileId) (str "id") (str "invalid profile id: " ++ profileId)
  check (profile.protocol.all isValidProtocolId) (str "protocol")
    (label ++ str " has an invalid protocol id")
  checkOptional profile.localRoutes.requestPath
    (fun v => validateRoutePath v true (label ++ str " local.request_path"))
    (str "local.request-path")
  checkOptional profile.localRoutes.usagePath
    (fun v => validateRoutePath v true (label ++ str " local.usage_path"))
    (str "local.usage-path")
  checkOptional profile.upstream.baseUrl
    (fun v => validateBaseUrl v (label ++ str " upstream.base_url")) (str "upstream.base-url")
  checkOptional profile.upstream.requestPath
    (fun v => validateRoutePath v false (label ++ str " upstream.request_path"))
    (str "upstream.request-path")
  checkOptional profile.upstream.usagePath
    (fun v => validateRoutePath v false (label ++ str " upstream.usage_path"))
    (str "upstream.usage-path")
  check (profile.rules.length ≤ kMaxRulesPerProfile) (str "rules")
    (label ++ str " exceeds the maximum rule count")
  validateRules label [] profile.rules
  if complete then requireComplete label profile

/-- `validate_profile_definition`. -/
def validateProfileDefinition (profileId : Bytes) (profile : ProfileDefinition)
    (complete : Bool) : Except Bytes Unit :=
  match validateProfileImpl profileId profile complete with
  | .ok _ => .ok ()
  | .error r => .error r.detail

/-- A profile that is accepted as complete has what it needs to run. -/
lemma requestPath_of_complete {id : Bytes} {profile : ProfileDefinition}
    (h : validateProfileDefinition id profile true = .ok ()) :
    profile.localRoutes.requestPath.isSome = true := by
  unfold validateProfileDefinition at h
  cases hv : validateProfileImpl id profile true with
  | error r => simp [hv] at h
  | ok _ =>
    replace h := hv
    unfold validateProfileImpl at h
    iterate 9 obtain ⟨-, -, h⟩ := bind_eq_ok.mp h
    obtain ⟨-, -, h⟩ := bind_eq_ok.mp h
    obtain ⟨_, hp, -⟩ := bind_eq_ok.mp h
    exact check_eq_ok.mp hp

lemma validStableId_head {value : Bytes} {b : Bool} (h : validStableId value false b = true) :
    value.head?.all isAlnum = true := by
  simp only [validStableId, Bool.and_eq_true] at h
  simpa using h.1.2

/-- What is accepted of the rules of a profile. -/
structure RulesOk (seen : List Bytes) (rules : List RuleDefinition) : Prop where
  ids : ∀ r ∈ rules, isValidRuleId r.id = true
  unseen : ∀ r ∈ rules, r.id ∉ seen
  nodup : (rules.map RuleDefinition.id).Nodup
  options : ∀ r ∈ rules, ∀ o ∈ r.options, ∃ n, validateRuleJson 0 0 o.2 = .ok n

lemma validateOptions_ok {label id : Bytes} {options : List (Bytes × Value)}
    (h : validateOptions label id options = .ok ()) :
    ∀ o ∈ options, ∃ n, validateRuleJson 0 0 o.2 = .ok n := by
  induction options with
  | nil => simp
  | cons o options ih =>
    obtain ⟨k, v⟩ := o
    rw [validateOptions] at h
    obtain ⟨_, -, h⟩ := bind_eq_ok.mp h
    split at h
    · cases h
    · next n hn => exact List.forall_mem_cons.mpr ⟨⟨n, hn⟩, ih h⟩

lemma validateRules_ok {label : Bytes} {seen : List Bytes} {rules : List RuleDefinition}
    (h : validateRules label seen rules = .ok ()) : RulesOk seen rules := by
  induction rules generalizing seen with
  | nil => exact ⟨by simp, by simp, by simp, by simp⟩
  | cons r rules ih =>
    rw [validateRules] at h
    obtain ⟨_, hid, h⟩ := bind_eq_ok.mp h
    obtain ⟨_, hseen, h⟩ := bind_eq_ok.mp h
    obtain ⟨_, -, h⟩ := bind_eq_ok.mp h
    obtain ⟨_, hopt, h⟩ := bind_eq_ok.mp h
    have hrest := ih h
    have hseen : r.id ∉ seen := by simpa using check_eq_ok.mp hseen
    refine ⟨List.forall_mem_cons.mpr ⟨check_eq_ok.mp hid, hrest.ids⟩,
      List.forall_mem_cons.mpr ⟨hseen, fun q hq hmem => hrest.unseen q hq (by simp [hmem])⟩, ?_,
      List.forall_mem_cons.mpr ⟨validateOptions_ok hopt, hrest.options⟩⟩
    refine List.nodup_cons.mpr ⟨fun hmem => ?_, hrest.nodup⟩
    obtain ⟨q, hq, hqid⟩ := List.mem_map.mp hmem
    exact hrest.unseen q hq (by simp [hqid])

/-- An accepted profile has a name in order, and so have its rules. -/
lemma validateProfileDefinition_ok {id : Bytes} {profile : ProfileDefinition} {complete : Bool}
    (h : validateProfileDefinition id profile complete = .ok ()) :
    isValidProfileId id = true ∧ RulesOk [] profile.rules := by
  unfold validateProfileDefinition at h
  cases hv : validateProfileImpl id profile complete with
  | error r => simp [hv] at h
  | ok _ =>
    replace h := hv
    unfold validateProfileImpl at h
    obtain ⟨_, hid, h⟩ := bind_eq_ok.mp h
    iterate 7 obtain ⟨-, -, h⟩ := bind_eq_ok.mp h
    obtain ⟨_, hrules, -⟩ := bind_eq_ok.mp h
    exact ⟨check_eq_ok.mp hid, validateRules_ok hrules⟩

/-! ### Documents -/

/-- `ConfigDocumentValidationFailure`. -/
structure ValidationFailure where
  profileId : Bytes
  field : Bytes
  detail : Bytes

def validateProfiles : List (Bytes × ProfileDefinition) → Except ValidationFailure Unit
  | [] => .ok ()
  | (id, profile) :: ps =>
    match validateProfileImpl id profile profile.enabled with
    | .error r => .error ⟨id, r.field, r.detail⟩
    | .ok _ => validateProfiles ps

/-- How many local routes the profiles have. -/
def routeCount (profiles : List (Bytes × ProfileDefinition)) : ℕ :=
  (profiles.map fun (_, p) =>
    p.localRoutes.requestPath.toList.length + p.localRoutes.usagePath.toList.length).sum

/-- `validate_config_document`, with the place of the failure. -/
def validateDocument (d : ConfigDocument) : Except ValidationFailure Unit :=
  match validateSettingsImpl d.application with
  | .error r => .error ⟨[], r.field, r.detail⟩
  | .ok _ =>
    if d.profiles.length > kMaxConfigProfiles then
      .error ⟨[], [], str "config exceeds the maximum of " ++ decimal kMaxConfigProfiles ++
        str " profiles"⟩
    else do
      validateProfiles d.profiles
      if routeCount d.profiles > kMaxConfigRoutes then
        throw ⟨[], [], str "config exceeds the maximum of " ++ decimal kMaxConfigRoutes ++
          str " routes"⟩

/-- `validate_config_document`. -/
def validateConfigDocument (d : ConfigDocument) : Except Bytes Unit :=
  match validateDocument d with
  | .ok _ => .ok ()
  | .error f => .error f.detail

end CcsTrans.Config
