import CcsTrans.Storage.Tables

/-!
Saving a snapshot in the profile database.

Names and positions are unique, so that profiles cannot be renamed or reordered one by one
into their new state. All rows are first given names and positions that no stored row has;
then the rows that are not wanted any more are deleted, and the others are put in their
places one after another.
-/

namespace CcsTrans.Storage

open CcsTrans.Text CcsTrans.Json CcsTrans.Config CcsTrans.Storage.Table CcsTrans.Fallible

def int64Max : ℤ := 9223372036854775807

/-! ### Statements -/

/-- The name and the position a rule has while the others are put in their places. -/
def tempRule (r : RuleRow) : RuleRow :=
  { r with ruleId := str "#ccs-temp-rule-" ++ decimalInt r.key, position := r.position + 1000000 }

def tempProfile (r : ProfileRow) : ProfileRow :=
  { r with profileId := str "#ccs-temp-profile-" ++ decimalInt r.key,
           position := r.position + 1000000 }

def boolInt (b : Bool) : ℤ := if b then 1 else 0

/-- `bind_profile`, of a row with its key. -/
def profileRow (position : ℕ) (p : StoredProfile) (key : ℤ) : ProfileRow :=
  ⟨key, p.profileId, position, boolInt p.enabled, p.protocol, p.localRequestPath, p.localUsagePath,
    p.upstreamBaseUrl, p.upstreamRequestPath, p.upstreamUsagePath⟩

/-- `bind_rule`, of a row of a profile with its key. -/
def ruleRow (profileKey : ℤ) (position : ℕ) (r : StoredRule) (key : ℤ) : RuleRow :=
  ⟨key, profileKey, r.ruleId, position, boolInt r.enabled, r.type, r.optionsJson⟩

/-- `insert_profile` and `update_profile`. -/
def profilePlacement : Placement ProfileRow StoredProfile where
  key := ProfileRow.key
  itemKey := StoredProfile.key
  mine _ := true
  make := profileRow
  assign i p r := profileRow i p r.key

/-- `insert_rule` and `update_rule`, for the rules of a profile. -/
def rulePlacement (profileKey : ℤ) : Placement RuleRow StoredRule where
  key := RuleRow.key
  itemKey := StoredRule.key
  mine r := r.profileKey = profileKey
  make := ruleRow profileKey
  assign i rule r := ruleRow r.profileKey i rule r.key

def constraintFailed : StoreError := ⟨.constraint, str "execute SQL statement failed"⟩

def placeError (what : String) : PlaceError → StoreError
  | .constraint => constraintFailed
  | .invalidKey => ⟨.io, str "inserted " ++ str what ++ str " has an invalid key"⟩
  | .notOneRow => ⟨.stale, str "update " ++ str what ++ str " did not match one row"⟩

/-- `DELETE FROM profiles`, with the rules of the profile. -/
def deleteProfile (t : Tables) (key : ℤ) : Tables :=
  { t with profiles := delete (fun r => r.key = key) t.profiles,
           rules := delete (fun r => r.profileKey = key) t.rules }

def deleteRule (t : Tables) (key : ℤ) : Tables :=
  { t with rules := delete (fun r => r.key = key) t.rules }

/-! ### The keys of the desired snapshot -/

/-- The rules that are stored, with the keys of their profiles. -/
def existingRules (current : ProfileStoreSnapshot) : List (ℤ × ℤ) :=
  current.profiles.flatMap fun p => p.rules.map fun r => (r.key, p.key)

def ruleKeyBelongs (existing : List (ℤ × ℤ)) (p : StoredProfile) (r : StoredRule) : Bool :=
  r.key == 0 || (p.key != 0 && existing.contains (r.key, p.key))

/-- The keys of the desired profiles and rules are those of stored ones. -/
def checkKeys (current : ProfileStoreSnapshot) : List StoredProfile → Except StoreError Unit
  | [] => .ok ()
  | p :: ps =>
    if 0 < p.key ∧ p.key ∉ current.profiles.map StoredProfile.key then
      .error ⟨.stale, str "profile key no longer exists"⟩
    else if !p.rules.all (ruleKeyBelongs (existingRules current) p) then
      .error ⟨.stale, str "rule key no longer belongs to the profile"⟩
    else checkKeys current ps

def desiredRuleKeys (desired : ProfileStoreSnapshot) : List ℤ :=
  desired.profiles.flatMap fun p => (p.rules.map StoredRule.key).filter (· ≠ 0)

def desiredProfileKeys (desired : ProfileStoreSnapshot) : List ℤ :=
  (desired.profiles.map StoredProfile.key).filter (0 < ·)

def unwantedRules (current desired : ProfileStoreSnapshot) : List ℤ :=
  ((existingRules current).map Prod.fst).filter (· ∉ desiredRuleKeys desired)

def unwantedProfiles (current desired : ProfileStoreSnapshot) : List ℤ :=
  (current.profiles.map StoredProfile.key).filter (· ∉ desiredProfileKeys desired)

/-! ### The transaction -/

section Save

variable [Library] [Sqlite]

/-- Give all rows temporary names and positions. -/
def renameAll (t : Tables) : Except StoreError Tables :=
  match update RuleRow.Ok RuleRow.Apart (fun _ => true) tempRule t.rules with
  | none => .error constraintFailed
  | some (_, rules) =>
    match update ProfileRow.Ok ProfileRow.Apart (fun _ => true) tempProfile t.profiles with
    | none => .error constraintFailed
    | some (_, profiles) => .ok { t with rules := rules, profiles := profiles }

/-- Delete what is stored and not desired. -/
def deleteUnwanted (current desired : ProfileStoreSnapshot) (t : Tables) : Tables :=
  (unwantedProfiles current desired).foldl deleteProfile
    ((unwantedRules current desired).foldl deleteRule t)

/-- The rules of a profile; each insertion needs the profile to be there. -/
def writeRules (t : Tables) (p : StoredProfile) : Except StoreError (StoredProfile × Tables) :=
  if p.rules.any (fun r => r.key == 0) && !t.profiles.rows.any (fun r => r.key == p.key) then
    .error constraintFailed
  else match placeAll RuleRow.Ok RuleRow.Apart (rulePlacement p.key) 0 p.rules t.rules with
    | .error e => .error (placeError "rule" e)
    | .ok (keys, rules) =>
      .ok ({ p with rules := (p.rules.zip keys).map fun (r, k) => { r with key := k } },
        { t with rules := rules })

def writeAllRules (t : Tables) : List StoredProfile → Except StoreError (List StoredProfile × Tables)
  | [] => .ok ([], t)
  | p :: ps => do
    let (p', t) ← writeRules t p
    let (ps', t) ← writeAllRules t ps
    return (p' :: ps', t)

/-- The profiles and their rules, in their places: what was written. -/
def writeProfiles (t : Tables) (ps : List StoredProfile) :
    Except StoreError (List StoredProfile × Tables) :=
  match placeAll ProfileRow.Ok ProfileRow.Apart profilePlacement 0 ps t.profiles with
  | .error e => .error (placeError "profile" e)
  | .ok (keys, profiles) =>
    writeAllRules { t with profiles := profiles } ((ps.zip keys).map fun (p, k) => { p with key := k })

/-- The revision goes up by one when it is still the expected one. -/
def updateRevision (t : Tables) (revision : ℤ) : Except StoreError Tables :=
  if t.repository.revision = revision then
    if 0 ≤ revision + 1 then
      .ok { t with repository := { t.repository with revision := revision + 1 } }
    else .error constraintFailed
  else .error ⟨.stale, str "update profile revision did not match one row"⟩

/-- What a save asks of a snapshot before it opens the database. -/
def checkDesired (desired : ProfileStoreSnapshot) : Except StoreError Unit :=
  if desired.revision < 0 then
    .error ⟨.invalidData, str "profile store revision cannot be negative"⟩
  else match validateProfiles false desired.profiles with
    | .error e => .error ⟨.invalidData, e⟩
    | .ok _ =>
      if desired.migratedFromSha256.all validSha256 then .ok ()
      else .error ⟨.invalidData, str "profile store migration hash is invalid"⟩

/-- `SqliteProfileStore::save` between the opening of the database and its closing: what was
committed, and the tables. -/
def save (t : Tables) (desired : ProfileStoreSnapshot) :
    Except StoreError (ProfileStoreSnapshot × Tables) := do
  checkDesired desired
  let current ← readSnapshot t
  if current.revision ≠ desired.revision then
    throw ⟨.stale, str "profile database revision changed"⟩
  if current.migratedFromSha256 ≠ desired.migratedFromSha256 then
    throw ⟨.invalidData, str "profile database migration origin is immutable"⟩
  if current = desired then return (current, t)
  if desired.revision = int64Max then
    throw ⟨.constraint, str "profile database revision is exhausted"⟩
  checkKeys current desired.profiles
  let t ← renameAll t
  let (profiles, t) ← writeProfiles (deleteUnwanted current desired t) desired.profiles
  let t ← updateRevision t desired.revision
  let written := { desired with profiles := profiles, revision := desired.revision + 1 }
  let verified ← readSnapshot t
  if verified ≠ written then
    throw ⟨.corrupt, str "profile database round-trip verification failed"⟩
  return (verified, t)

end Save

end CcsTrans.Storage
