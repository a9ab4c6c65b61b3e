import CcsTrans.Config.Document

/-!
Protocols: what a request of a protocol looks like, and the registry they are found in.
-/

namespace CcsTrans.Protocols

open CcsTrans.Text CcsTrans.Config CcsTrans.Fallible

inductive ErrorEnvelope where
  | openAI
  | anthropic
  deriving DecidableEq

/-- A protocol handler is known by its descriptor. -/
structure ProtocolDescriptor where
  id : Bytes
  requestMethod : Bytes
  usageMethod : Bytes
  supportsUsage : Bool := false
  supportsSse : Bool := false
  requestBodyIsJson : Bool := true
  errorEnvelope : ErrorEnvelope := .openAI
  specializedRuleTypes : List Bytes := []
  deriving DecidableEq

def ProtocolDescriptor.supportsSpecializedRule (p : ProtocolDescriptor) (type : Bytes) : Bool :=
  p.specializedRuleTypes.contains type

/-- `ProtocolHandler::validate_profile`. -/
def ProtocolDescriptor.validateProfile (p : ProtocolDescriptor) (profileId : Bytes)
    (profile : ProfileDefinition) : Except Bytes Unit := do
  validateProfileDefinition profileId profile true
  if profile.protocol ≠ some p.id then
    throw (str "profile " ++ profileId ++ str " protocol does not match handler " ++ p.id)
  if profile.localRoutes.usagePath.isSome && !p.supportsUsage then
    throw (str "protocol " ++ p.id ++ str " does not support a Usage route")

lemma ProtocolDescriptor.validateProfile_ok {p : ProtocolDescriptor} {profileId : Bytes}
    {profile : ProfileDefinition} (h : p.validateProfile profileId profile = .ok ()) :
    profile.protocol = some p.id ∧ profile.localRoutes.requestPath.isSome = true := by
  obtain ⟨_, hdef, h⟩ := bind_eq_ok.mp h
  refine ⟨?_, requestPath_of_complete hdef⟩
  by_contra hne
  simp only [ne_eq, hne, not_false_eq_true, if_true] at h
  cases h

def validMethod (method : Bytes) : Bool :=
  method != [] && method.length ≤ 32 &&
  method.all fun b => isUpper b || isDigit b || b == ch '-'

structure ProtocolRegistry where
  handlers : List (Bytes × ProtocolDescriptor) := []
  specializedRuleTypes : List Bytes := []

def ProtocolRegistry.find (r : ProtocolRegistry) (id : Bytes) : Option ProtocolDescriptor :=
  Json.find id r.handlers

/-- The specialized rule types a protocol declares, those of `seen` behind them. -/
def validateSpecialized (id : Bytes) (seen : List Bytes) : List Bytes → Except Bytes Unit
  | [] => .ok ()
  | type :: types =>
    if !isValidRuleType type then
      .error (str "protocol " ++ id ++ str " declares an invalid specialized rule type: " ++ type)
    else if seen.contains type then
      .error (str "protocol " ++ id ++ str " declares duplicate specialized rule type: " ++ type)
    else validateSpecialized id (type :: seen) types

/-- `ProtocolRegistry::register_handler`. -/
def ProtocolRegistry.registerHandler (r : ProtocolRegistry) (p : ProtocolDescriptor) :
    Except Bytes ProtocolRegistry := do
  if !isValidProtocolId p.id then throw (str "invalid protocol id: " ++ p.id)
  if !validMethod p.requestMethod then
    throw (str "protocol " ++ p.id ++ str " has an invalid request method")
  if p.supportsUsage && !validMethod p.usageMethod then
    throw (str "protocol " ++ p.id ++ str " has an invalid Usage method")
  validateSpecialized p.id [] p.specializedRuleTypes
  if (r.find p.id).isSome then throw (str "protocol handler already registered: " ++ p.id)
  return ⟨r.handlers ++ [(p.id, p)], r.specializedRuleTypes ++ p.specializedRuleTypes⟩

def ProtocolRegistry.isKnownSpecializedRule (r : ProtocolRegistry) (type : Bytes) : Bool :=
  r.specializedRuleTypes.contains type

/-- The enabled rules are no specialized rules of other protocols. -/
def ProtocolRegistry.validateSpecializedRules (r : ProtocolRegistry) (p : ProtocolDescriptor) :
    List RuleDefinition → Except Bytes Unit
  | [] => .ok ()
  | rule :: rules =>
    if rule.enabled && r.isKnownSpecializedRule rule.type &&
        !p.supportsSpecializedRule rule.type then
      .error (str "rule " ++ rule.id ++ str " type " ++ rule.type ++
        str " is not supported by protocol " ++ p.id)
    else r.validateSpecializedRules p rules

/-- `ProtocolRegistry::validate_profile`. -/
def ProtocolRegistry.validateProfile (r : ProtocolRegistry) (p : ProtocolDescriptor)
    (profileId : Bytes) (profile : ProfileDefinition) : Except Bytes Unit := do
  if r.find p.id ≠ some p then
    throw (str "protocol handler is not registered in this registry: " ++ p.id)
  p.validateProfile profileId profile
  r.validateSpecializedRules p profile.rules

lemma ProtocolRegistry.validateProfile_ok {r : ProtocolRegistry} {p : ProtocolDescriptor}
    {profileId : Bytes} {profile : ProfileDefinition}
    (h : r.validateProfile p profileId profile = .ok ()) :
    r.find p.id = some p ∧ p.validateProfile profileId profile = .ok () := by
  unfold ProtocolRegistry.validateProfile at h
  by_cases hfind : r.find p.id = some p
  · simp only [ne_eq, hfind, not_true_eq_false, if_false] at h
    obtain ⟨_, hp, -⟩ := bind_eq_ok.mp h
    exact ⟨hfind, hp⟩
  · simp only [ne_eq, hfind, not_false_eq_true, if_true] at h
    cases h

def responsesHandler : ProtocolDescriptor :=
  { id := str "responses", requestMethod := str "POST", usageMethod := str "GET",
    supportsUsage := true, supportsSse := true, requestBodyIsJson := true,
    errorEnvelope := .openAI, specializedRuleTypes := [str "remove_tool"] }

def chatHandler : ProtocolDescriptor := { responsesHandler with id := str "chat" }

def messagesHandler : ProtocolDescriptor :=
  { responsesHandler with id := str "messages", errorEnvelope := .anthropic }

/-- `builtin_protocol_registry`, or the text of its exception. -/
def builtinProtocolRegistry : Except Bytes ProtocolRegistry := do
  let r ← ({} : ProtocolRegistry).registerHandler responsesHandler
  let r ← r.registerHandler chatHandler
  r.registerHandler messagesHandler

end CcsTrans.Protocols
