import CcsTrans.Config.RuntimeCompiler

/-!
Candidates: what a document must meet before it replaces another.

Beyond the checks of the document itself, the profiles that are enabled and those with
enabled rules must name a protocol, their rules must compile, no two routes may collide,
and the whole must compile for a runtime.
-/

namespace CcsTrans.Config

open CcsTrans.Text CcsTrans.Core CcsTrans.Json CcsTrans.Protocols CcsTrans.Rules
open CcsTrans.Fallible

inductive ConfigValidationError where
  | invalidDocument
  | invalidProfile
  | unknownProtocol
  | invalidRules
  | routeCollision
  | invalidLogPath
  | runtimeCompileFailed
  deriving DecidableEq

structure ConfigValidationFailure where
  error : ConfigValidationError
  profileId : Bytes := []
  field : Bytes := []
  detail : Bytes

/-- The routes so far: a method and a canonical path, with the profile that has them. -/
abbrev CandidateRoutes := List ((Bytes × Bytes) × Bytes)

/-- `add_candidate_route`. -/
def addCandidateRoute (routes : CandidateRoutes) (method path profileId field : Bytes) :
    Except ConfigValidationFailure CandidateRoutes :=
  match canonicalizeHttpPath path with
  | .error e => .error ⟨.invalidProfile, profileId, field, e⟩
  | .ok canonical =>
    match routes.find? fun r => r.1 == (method, canonical) with
    | some r => .error ⟨.routeCollision, profileId, field, str "route collision for " ++ method ++
        str " " ++ canonical ++ str " between profiles " ++ r.2 ++ str " and " ++ profileId⟩
    | none => .ok (((method, canonical), profileId) :: routes)

section Candidate

variable [Library]

/-- One profile of a candidate. -/
def checkCandidateProfile (protocols : ProtocolRegistry) (rules : RuleRegistry)
    (routes : CandidateRoutes) (id : Bytes) (profile : ProfileDefinition) :
    Except ConfigValidationFailure CandidateRoutes :=
  if !profile.enabled && !profile.rules.any RuleDefinition.enabled then .ok routes
  else match profile.protocol with
    | none => .error ⟨.invalidProfile, id, str "protocol", str "profile " ++ id ++
        str " must set protocol before enabling the profile or one of its rules"⟩
    | some protocol =>
      match protocols.find protocol with
      | none => .error ⟨.unknownProtocol, id, str "protocol", str "profile " ++ id ++
          str " uses unknown protocol: " ++ protocol⟩
      | some handler => do
        if profile.enabled then
          match protocols.validateProfile handler id profile with
          | .error e => throw ⟨.invalidProfile, id, [], str "profile " ++ id ++ str ": " ++ e⟩
          | .ok _ => pure ()
        match rules.compilePipeline profile.rules handler with
        | .error e => throw ⟨.invalidRules, id, str "rules", str "profile " ++ id ++ str ": " ++ e⟩
        | .ok _ =>
          if profile.enabled then do
            let routes ← addCandidateRoute routes handler.requestMethod
              (profile.localRoutes.requestPath.getD []) id (str "local.request-path")
            match profile.localRoutes.usagePath with
            | none => return routes
            | some path =>
              addCandidateRoute routes handler.usageMethod path id (str "local.usage-path")
          else return routes

def checkCandidateProfiles (protocols : ProtocolRegistry) (rules : RuleRegistry)
    (routes : CandidateRoutes) :
    List (Bytes × ProfileDefinition) → Except ConfigValidationFailure Unit
  | [] => .ok ()
  | (id, profile) :: ps => do
    let routes ← checkCandidateProfile protocols rules routes id profile
    checkCandidateProfiles protocols rules routes ps

/-- `validate_config_candidate`, with the registries that the program has built in. -/
def validateCandidate (protocols : ProtocolRegistry) (rules : RuleRegistry) (d : ConfigDocument)
    (applicationRoot : Bytes) : Except ConfigValidationFailure Unit := do
  match validateDocument d with
  | .error f => throw ⟨.invalidDocument, f.profileId, f.field, f.detail⟩
  | .ok _ => checkCandidateProfiles protocols rules [] d.profiles
  match resolveApplicationLogPath d.application applicationRoot with
  | .error e => throw ⟨.invalidLogPath, [], str "logging.path", e⟩
  | .ok _ =>
    if d.profiles.any fun (_, p) => p.enabled then
      match RuntimeCompiler.compile ⟨applicationRoot, some protocols, some rules⟩ d {} with
      | .error e => throw ⟨.runtimeCompileFailed, [], [], e⟩
      | .ok _ => return ()

/-- `validate_config_candidate`: the text of the failure. -/
def validateConfigCandidate (d : ConfigDocument) (applicationRoot : Bytes) : Except Bytes Unit :=
  match builtinProtocolRegistry, builtinRuleRegistry with
  | .ok protocols, .ok rules =>
    match validateCandidate protocols rules d applicationRoot with
    | .ok _ => .ok ()
    | .error f => .error f.detail
  | .error e, _ => .error e
  | _, .error e => .error e

end Candidate

end CcsTrans.Config
