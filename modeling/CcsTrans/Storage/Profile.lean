import CcsTrans.Config.Document

/-!
Stored profiles and what makes them acceptable.

The store keeps the options of a rule as canonical JSON text. Profiles and rules have keys,
which are positive once they are stored; a key of zero asks for a new one.
-/

namespace CcsTrans.Storage

open CcsTrans.Text CcsTrans.Json CcsTrans.Config CcsTrans.Fallible

def kMaxStoredRuleOptionsBytes : ℕ := 1024 * 1024
def kMaxStoredProfileRulesTextBytes : ℕ := 4 * 1024 * 1024
def kMaxStoredProfilePayloadBytes : ℕ := 64 * 1024 * 1024

structure StoredRule where
  key : ℤ := 0
  ruleId : Bytes
  enabled : Bool := false
  type : Bytes
  optionsJson : Bytes := [ch '{', ch '}']
  deriving DecidableEq

structure StoredProfile where
  key : ℤ := 0
  profileId : Bytes
  enabled : Bool := false
  protocol : Option Bytes := none
  localRequestPath : Option Bytes := none
  localUsagePath : Option Bytes := none
  upstreamBaseUrl : Option Bytes := none
  upstreamRequestPath : Option Bytes := none
  upstreamUsagePath : Option Bytes := none
  rules : List StoredRule := []
  deriving DecidableEq

structure ProfileStoreSnapshot where
  profiles : List StoredProfile := []
  revision : ℤ := 0
  migratedFromSha256 : Option Bytes := none
  deriving DecidableEq

def validSha256 (value : Bytes) : Bool :=
  value.length == 64 && value.all fun b => isDigit b || (97 ≤ b && b ≤ 102)

section Options

variable [Library]

/-- `parse_rule_options`. -/
def parseRuleOptions (stored : StoredRule) : Except Bytes RuleDefinition :=
  if stored.optionsJson.length > kMaxStoredRuleOptionsBytes then
    .error (str "rule " ++ stored.ruleId ++ str " options exceed the 1 MiB limit")
  else match parseWithComments stored.optionsJson with
    | .ok (.obj options) =>
      if dump (.obj options) ≠ some stored.optionsJson then
        .error (str "rule " ++ stored.ruleId ++ str " options_json is not canonical JSON")
      else .ok ⟨stored.ruleId, stored.enabled, stored.type, options, 0⟩
    | _ => .error (str "rule " ++ stored.ruleId ++ str " options_json must be a JSON object")

end Options

/-- The definition of a stored profile, with the rules read from it. -/
def StoredProfile.definition (stored : StoredProfile) (rules : List RuleDefinition) :
    ProfileDefinition where
  enabled := stored.enabled
  protocol := stored.protocol
  localRoutes := ⟨stored.localRequestPath, stored.localUsagePath⟩
  upstream := ⟨stored.upstreamBaseUrl, stored.upstreamRequestPath, stored.upstreamUsagePath⟩
  rules := rules

/-- The size of a profile without its rules. -/
def StoredProfile.headSize (stored : StoredProfile) : ℕ :=
  64 + stored.profileId.length +
    ([stored.protocol, stored.localRequestPath, stored.localUsagePath, stored.upstreamBaseUrl,
      stored.upstreamRequestPath, stored.upstreamUsagePath].map fun f => (f.getD []).length).sum

def StoredRule.size (rule : StoredRule) : ℕ :=
  64 + rule.ruleId.length + rule.type.length + rule.optionsJson.length

def StoredProfile.routeCount (stored : StoredProfile) : ℕ :=
  stored.localRequestPath.toList.length + stored.localUsagePath.toList.length

/-- A key is acceptable: positive when it must be stored already, not negative otherwise. -/
def keyAllowed (persisted : Bool) (key : ℤ) : Bool := if persisted then 0 < key else 0 ≤ key

/-- A positive key joins those that were seen, unless it is one of them. -/
def seeKey (keys : List ℤ) (key : ℤ) : Option (List ℤ) :=
  if 0 < key then if keys.contains key then none else some (key :: keys) else some keys

section Validate

variable [Library]

/-- The rules of a profile: the keys seen, the size so far and the definitions. -/
def validateStoredRules (persisted : Bool) (profileId : Bytes) (keys : List ℤ) (size : ℕ) :
    List StoredRule → Except Bytes (List ℤ × ℕ × List RuleDefinition)
  | [] => .ok (keys, size, [])
  | rule :: rules => do
    if !keyAllowed persisted rule.key then throw (str "profile store contains an invalid rule key")
    match seeKey keys rule.key with
    | none => throw (str "profile store contains a duplicate rule key")
    | some keys =>
      match parseRuleOptions rule with
      | .error e => throw (str "profile " ++ profileId ++ str ": " ++ e)
      | .ok definition =>
        let size := size + rule.size
        if size > kMaxStoredProfileRulesTextBytes then
          throw (str "profile " ++ profileId ++ str " canonical rules exceed 4 MiB")
        let (keys, size, definitions) ← validateStoredRules persisted profileId keys size rules
        return (keys, size, definition :: definitions)

/-- What is kept while profiles are checked. -/
structure Seen where
  profileIds : List Bytes := []
  profileKeys : List ℤ := []
  ruleKeys : List ℤ := []
  routes : ℕ := 0
  payload : ℕ := 0

def validateStoredProfile (persisted : Bool) (seen : Seen) (stored : StoredProfile) :
    Except Bytes Seen := do
  if !keyAllowed persisted stored.key then
    throw (str "profile store contains an invalid profile key")
  match seeKey seen.profileKeys stored.key with
  | none => throw (str "profile store contains a duplicate profile key")
  | some profileKeys =>
    if seen.profileIds.contains stored.profileId then
      throw (str "profile store contains duplicate profile id: " ++ stored.profileId)
    if stored.rules.length > kMaxRulesPerProfile then
      throw (str "profile " ++ stored.profileId ++ str " exceeds the maximum rule count")
    let (ruleKeys, size, rules) ← validateStoredRules persisted stored.profileId seen.ruleKeys
      stored.headSize stored.rules
    validateProfileDefinition stored.profileId (stored.definition rules) stored.enabled
    if size > kMaxStoredProfilePayloadBytes ∨
        seen.payload > kMaxStoredProfilePayloadBytes - size then
      throw (str "profile store logical payload exceeds 64 MiB")
    return ⟨stored.profileId :: seen.profileIds, profileKeys, ruleKeys,
      seen.routes + stored.routeCount, seen.payload + size⟩

/-- `validate_profiles`. -/
def validateProfiles (persisted : Bool) (profiles : List StoredProfile) : Except Bytes Unit := do
  if profiles.length > kMaxConfigProfiles then
    throw (str "profile store exceeds the maximum profile count")
  let seen ← profiles.foldlM (validateStoredProfile persisted) {}
  if seen.routes > kMaxConfigRoutes then
    throw (str "profile store exceeds the maximum route count")

end Validate

end CcsTrans.Storage
