import CcsTrans.Storage.Profile
import CcsTrans.Storage.Table

/-!
The profile database: its tables and their constraints, and how a snapshot is read.

The tables are those of the schema. SQLite checks JSON columns by a parser of its own; the
class `Sqlite` says what is used of it.
-/

namespace CcsTrans.Storage

open CcsTrans.Text CcsTrans.Json CcsTrans.Config CcsTrans.Storage.Table CcsTrans.Fallible

inductive ProfileStoreFailure where
  | notFound
  | io
  | busy
  | corrupt
  | unsupportedSchema
  | constraint
  | stale
  | invalidData
  deriving DecidableEq

structure StoreError where
  failure : ProfileStoreFailure
  message : Bytes

/-! ### Rows -/

structure ProfileRow where
  key : ℤ
  profileId : Bytes
  position : ℤ
  enabled : ℤ
  protocol : Option Bytes
  localRequestPath : Option Bytes
  localUsagePath : Option Bytes
  upstreamBaseUrl : Option Bytes
  upstreamRequestPath : Option Bytes
  upstreamUsagePath : Option Bytes

structure RuleRow where
  key : ℤ
  profileKey : ℤ
  ruleId : Bytes
  position : ℤ
  enabled : ℤ
  type : Bytes
  optionsJson : Bytes

/-- The row of `repository_meta`. -/
structure MetaRow where
  schemaVersion : ℤ := 1
  revision : ℤ := 0
  migratedFromSha256 : Option Bytes := none

structure Tables where
  repository : MetaRow := {}
  profiles : Rows ProfileRow := {}
  rules : Rows RuleRow := {}

mutual

/-- The levels of nesting of a value. -/
def depth : Value → ℕ
  | .arr xs => depthItems xs + 1
  | .obj ms => depthMembers ms + 1
  | _ => 0

def depthItems : List Value → ℕ
  | [] => 0
  | x :: xs => max (depth x) (depthItems xs)

def depthMembers : List (Bytes × Value) → ℕ
  | [] => 0
  | (_, v) :: ms => max (depth v) (depthMembers ms)

end

/-- What is used of SQLite: the check that a text is a JSON object, which accepts the text of
every object that is not nested too deeply. -/
class Sqlite [Library] where
  jsonObject : Bytes → Bool
  jsonObject_dump : ∀ ms u, Writable (.obj ms) → depth (.obj ms) ≤ 1000 →
    dump (.obj ms) = some u → jsonObject u = true

/-- A database that uses the parser of the program for its check. -/
@[reducible] def parserSqlite [Library] : Sqlite where
  jsonObject u := match parse u with
    | .ok (.obj _) => true
    | _ => false
  jsonObject_dump ms u hw _ hu := by
    rw [parse_dump hw hu]
    rfl

/-! ### Constraints -/

/-- The `CHECK` constraints of a profile. -/
def ProfileRow.Ok (r : ProfileRow) : Prop := 0 ≤ r.position ∧ (r.enabled = 0 ∨ r.enabled = 1)

/-- The `UNIQUE` constraints of two profiles. -/
def ProfileRow.Apart (a b : ProfileRow) : Prop :=
  a.key ≠ b.key ∧ a.profileId ≠ b.profileId ∧ a.position ≠ b.position

/-- The `UNIQUE` constraints of two rules. -/
def RuleRow.Apart (a b : RuleRow) : Prop :=
  a.key ≠ b.key ∧ ¬ (a.profileKey = b.profileKey ∧ a.ruleId = b.ruleId) ∧
    ¬ (a.profileKey = b.profileKey ∧ a.position = b.position)

instance : DecidablePred ProfileRow.Ok := fun _ => inferInstanceAs (Decidable (_ ∧ _))
instance : DecidableRel ProfileRow.Apart := fun _ _ => inferInstanceAs (Decidable (_ ∧ _))
instance : DecidableRel RuleRow.Apart := fun _ _ => inferInstanceAs (Decidable (_ ∧ _))

section Constraints

variable [Library] [Sqlite]

/-- The `CHECK` constraints of a rule. -/
def RuleRow.Ok (r : RuleRow) : Prop :=
  0 ≤ r.position ∧ (r.enabled = 0 ∨ r.enabled = 1) ∧ Sqlite.jsonObject r.optionsJson = true

instance : DecidablePred RuleRow.Ok := fun _ => inferInstanceAs (Decidable (_ ∧ _))

/-- What holds of every database of the schema: its constraints, foreign keys included, and that
`AUTOINCREMENT` remembers the largest key. -/
structure Tables.Valid (t : Tables) : Prop where
  profiles : t.profiles.rows.Pairwise ProfileRow.Apart
  profilesOk : ∀ r ∈ t.profiles.rows, r.Ok
  rules : t.rules.rows.Pairwise RuleRow.Apart
  rulesOk : ∀ r ∈ t.rules.rows, r.Ok
  foreign : ∀ r ∈ t.rules.rows, ∃ p ∈ t.profiles.rows, p.key = r.profileKey
  revision : 0 ≤ t.repository.revision
  profileSequence : Bounded ProfileRow.key t.profiles
  ruleSequence : Bounded RuleRow.key t.rules

/-! ### Reading -/

/-- `bool_column`. -/
def boolColumn (value : ℤ) : Except StoreError Bool :=
  if value = 0 then .ok false
  else if value = 1 then .ok true
  else .error ⟨.corrupt, str "profile database boolean column is invalid"⟩

/-- The profiles in the order of their positions, which count from `expected` on. -/
def readProfileRows (expected : ℤ) (keys : List ℤ) : List ProfileRow →
    Except StoreError (List StoredProfile)
  | [] => .ok []
  | r :: rows => do
    if r.position ≠ expected then throw ⟨.corrupt, str "profile positions are not contiguous"⟩
    let enabled ← boolColumn r.enabled
    if keys.contains r.key then
      throw ⟨.corrupt, str "profile database contains duplicate profile keys"⟩
    let rest ← readProfileRows (expected + 1) (r.key :: keys) rows
    return ⟨r.key, r.profileId, enabled, r.protocol, r.localRequestPath, r.localUsagePath,
      r.upstreamBaseUrl, r.upstreamRequestPath, r.upstreamUsagePath, []⟩ :: rest

/-- The rules of a profile in the order of their positions. -/
def readRuleRows (expected : ℤ) : List RuleRow → Except StoreError (List StoredRule)
  | [] => .ok []
  | r :: rows => do
    if r.position ≠ expected then throw ⟨.corrupt, str "rule positions are not contiguous"⟩
    let enabled ← boolColumn r.enabled
    let rest ← readRuleRows (expected + 1) rows
    return ⟨r.key, r.ruleId, enabled, r.type, r.optionsJson⟩ :: rest

/-- `ORDER BY position`. -/
def byPosition (rows : List ProfileRow) : List ProfileRow :=
  rows.insertionSort fun a b => a.position ≤ b.position

/-- The rules of a profile, by position: ordered by the position of the profile first, the join
of rules and profiles gives each profile these. -/
def rulesOf (rows : List RuleRow) (profileKey : ℤ) : List RuleRow :=
  (rows.filter fun r => r.profileKey = profileKey).insertionSort fun a b => a.position ≤ b.position

/-- `read_snapshot`, of a database whose schema was verified. -/
def readSnapshot (t : Tables) : Except StoreError ProfileStoreSnapshot := do
  if t.repository.schemaVersion ≠ 1 then
    throw ⟨.unsupportedSchema, str "unsupported profile database schema version"⟩
  if t.repository.revision < 0 then
    throw ⟨.corrupt, str "profile database revision is negative"⟩
  if !t.repository.migratedFromSha256.all validSha256 then
    throw ⟨.corrupt, str "profile database migration hash is invalid"⟩
  let profiles ← readProfileRows 0 [] (byPosition t.profiles.rows)
  let profiles ← profiles.mapM fun p => do
    return { p with rules := ← readRuleRows 0 (rulesOf t.rules.rows p.key) }
  match validateProfiles true profiles with
  | .error e =>
    throw ⟨.corrupt, str "profile database semantic validation failed: " ++ e⟩
  | .ok _ => return ⟨profiles, t.repository.revision, t.repository.migratedFromSha256⟩

end Constraints

end CcsTrans.Storage
