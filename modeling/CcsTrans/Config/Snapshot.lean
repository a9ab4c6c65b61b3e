import CcsTrans.Config.Candidate
import CcsTrans.Config.Codec
import CcsTrans.Storage.Profile

/-!
Snapshots of the configuration, and how they are converted to documents and back.

A snapshot is what the repository keeps: the settings, the profiles as they are stored, and
a revision, which is the text of the configuration file and the revision of the profiles.
-/

namespace CcsTrans.Config

open CcsTrans.Text CcsTrans.Json CcsTrans.Storage CcsTrans.Fallible

structure RepositoryRevision where
  /-- The configuration file; nothing when there is none. -/
  applicationSource : Option Bytes := none
  profileRevision : ℤ := 0
  deriving DecidableEq

structure ConfigurationSnapshot where
  application : ApplicationSettings := {}
  profiles : List StoredProfile := []
  revision : RepositoryRevision := {}
  migratedFromSha256 : Option Bytes := none
  deriving DecidableEq

section Conversion

variable [Library]

/-- `stored_rule_to_definition`. -/
def storedRuleToDefinition (stored : StoredRule) : Except Bytes RuleDefinition :=
  let invalid := str "rule " ++ stored.ruleId ++ str " has invalid canonical options_json"
  match parseWithComments stored.optionsJson with
  | .ok (.obj options) =>
    if dump (.obj options) ≠ some stored.optionsJson then .error invalid
    else .ok ⟨stored.ruleId, stored.enabled, stored.type, options, stored.key⟩
  | _ => .error invalid

/-- The definition of a stored profile at its position. -/
def storedProfileToDefinition (position : ℕ) (stored : StoredProfile) :
    Except Bytes ProfileDefinition := do
  let rules ← stored.rules.mapM storedRuleToDefinition
  return { stored.definition rules with
    storageKey := stored.key, storagePosition := some position }

/-- The profiles from a position on join those converted before. -/
def convertProfiles (position : ℕ) (converted : List (Bytes × ProfileDefinition)) :
    List StoredProfile → Except ValidationFailure (List (Bytes × ProfileDefinition))
  | [] => .ok converted
  | stored :: rest =>
    match storedProfileToDefinition position stored with
    | .error e => .error ⟨stored.profileId, str "rules",
        str "profile " ++ stored.profileId ++ str ": " ++ e⟩
    | .ok profile =>
      if contains stored.profileId converted then
        .error ⟨stored.profileId, str "id",
          str "configuration snapshot contains duplicate profile id: " ++ stored.profileId⟩
      else convertProfiles (position + 1) (insertMember stored.profileId profile converted) rest

/-- `configuration_snapshot_to_config_document`. -/
def configurationSnapshotToConfigDocument (snapshot : ConfigurationSnapshot) :
    Except ValidationFailure ConfigDocument := do
  let profiles ← convertProfiles 0 [] snapshot.profiles
  let converted : ConfigDocument := ⟨snapshot.application, profiles⟩
  validateDocument converted
  return converted

/-- A rule as it is stored: its options are one JSON object. -/
def ruleToStored (rule : RuleDefinition) : Except Bytes StoredRule :=
  let options := rule.options.foldl (fun ms o => insertMember o.1 o.2 ms) []
  match dump (.obj options) with
  | none => .error (str "failed to canonicalize rule options: " ++ Library.whatDump (.obj options))
  | some text => .ok ⟨rule.storageKey, rule.id, rule.enabled, rule.type, text⟩

def profileToStored (id : Bytes) (p : ProfileDefinition) : Except Bytes StoredProfile := do
  let rules ← p.rules.mapM ruleToStored
  return ⟨p.storageKey, id, p.enabled, p.protocol, p.localRoutes.requestPath,
    p.localRoutes.usagePath, p.upstream.baseUrl, p.upstream.requestPath, p.upstream.usagePath, rules⟩

def sizeMax : ℕ := 2 ^ 64 - 1

/-- `config_document_to_stored_profiles`. -/
def configDocumentToStoredProfiles (d : ConfigDocument) : Except Bytes (List StoredProfile) := do
  validateConfigDocument d
  let ordered ← d.profiles.mapM fun (id, p) => do
    return (p.storagePosition.getD sizeMax, ← profileToStored id p)
  return (ordered.insertionSort fun a b => a.1 ≤ b.1).map Prod.snd

end Conversion

end CcsTrans.Config
