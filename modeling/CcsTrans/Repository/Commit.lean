import CcsTrans.Repository.Load

/-!
Saving a snapshot.

A snapshot that changes one of the two files replaces that file. One that changes both is a
transaction: the journal is published, the configuration and the database are changed, and
the journal is deleted. When a step fails, recovery is run at once.
-/

namespace CcsTrans.Repository

open CcsTrans.Text CcsTrans.Core CcsTrans.Json CcsTrans.Config CcsTrans.Storage CcsTrans.Fallible
open CcsTrans.Durable

section Save

variable [Library] [Sqlite] [Engine]

/-- What a snapshot must meet before any file is looked at. -/
def checkSnapshot (env : Environment) (desired : ConfigurationSnapshot) :
    Except RepositoryError Unit :=
  match validateApplicationSettings desired.application with
  | .error e => .error ⟨.invalidDocument, e⟩
  | .ok _ =>
    match configurationSnapshotToConfigDocument desired with
    | .error f => .error ⟨.invalidDocument, f.detail⟩
    | .ok validation =>
      match validateConfigCandidate validation env.root with
      | .error e => .error ⟨.invalidDocument, e⟩
      | .ok _ => .ok ()

/-- The snapshot is of the revision that is there, and its text is that of a v3 file. -/
def checkCurrent (snapshot desired : ConfigurationSnapshot) : Except RepositoryError Bytes :=
  if snapshot.revision ≠ desired.revision then
    .error ⟨.stale, str "composite repository revision changed"⟩
  else if snapshot.migratedFromSha256 ≠ desired.migratedFromSha256 then
    .error ⟨.invalidDocument, str "migration origin is immutable"⟩
  else match serializeApplicationConfigDocument desired.application with
    | .error e => .error ⟨.invalidDocument, e⟩
    | .ok newConfig => .ok newConfig

/-- `SqliteProfileStore::save` of the repository's database. -/
def storeSave (env : Environment) (desired : ProfileStoreSnapshot) :
    StoreProgram ProfileStoreSnapshot := do
  let (written, file) ← Prog.read fun d => saveFile env.now d.database.file desired
  block [storeStep (atDatabase.put file)]
  return written

def commitJournal (snapshot : ConfigurationSnapshot) (newConfig : Bytes) : RepositoryJournal where
  kind := str "commit"
  oldConfig := snapshot.revision.applicationSource
  newConfig := newConfig
  oldDatabaseExists := true
  oldProfileRevision := snapshot.revision.profileRevision
  -- the next revision, in 64 bits
  targetProfileRevision := (Int64.ofInt (snapshot.revision.profileRevision + 1)).toInt
  oldMigrationHash := snapshot.migratedFromSha256
  targetMigrationHash := snapshot.migratedFromSha256

/-- The transaction behind a published journal. -/
def commitBody (env : Environment) (journal : RepositoryJournal) (desired : ProfileStoreSnapshot) :
    Program ProfileStoreSnapshot := do
  block (writeConfigFile journal.newConfig)
  match ← (storeSave env desired).attempt with
  | .error e =>
    restoreConfig journal.oldConfig
    clearJournal env []
    throw (fromStore e)
  | .ok saved =>
    clearJournal env []
    return saved

/-- What is done when the transaction fails: recovery, and the failure stands. -/
def commitFailed (env : Environment) (e : RepositoryError) : Program ProfileStoreSnapshot := do
  let pending ← Prog.look fun d => d.transaction.isSome
  if pending then
    (recoverLocked env).tryCatch fun r => throw ⟨.recoveryRequired, r.message⟩
    throw e
  else throw e

def commitBoth (env : Environment) (journal : RepositoryJournal) (desired : ProfileStoreSnapshot) :
    Program ProfileStoreSnapshot := do
  writeJournal journal
  (commitBody env journal desired).tryCatch (commitFailed env)

def commitConfig (newConfig : Bytes) (stored : ProfileStoreSnapshot) :
    Program ProfileStoreSnapshot := do
  block (writeConfigFile newConfig)
  return stored

def commitProfiles (env : Environment) (desired : ProfileStoreSnapshot) :
    Program ProfileStoreSnapshot := do
  match ← (storeSave env desired).attempt with
  | .error e => throw (fromStore e)
  | .ok saved => return saved

/-- What is stored in the database, of a snapshot. -/
def storedProfiles (snapshot : ConfigurationSnapshot) : ProfileStoreSnapshot :=
  ⟨snapshot.profiles, snapshot.revision.profileRevision, snapshot.migratedFromSha256⟩

/-- The files that changed are written. -/
def commitChanges (env : Environment) (snapshot desired : ConfigurationSnapshot)
    (newConfig : Bytes) : Program ProfileStoreSnapshot :=
  let desiredProfiles := { storedProfiles snapshot with profiles := desired.profiles }
  if snapshot.revision.applicationSource ≠ some newConfig then
    if snapshot.profiles ≠ desired.profiles then
      commitBoth env (commitJournal snapshot newConfig) desiredProfiles
    else commitConfig newConfig (storedProfiles snapshot)
  else commitProfiles env desiredProfiles

/-- The snapshot that was committed. -/
def committedSnapshot (desired : ConfigurationSnapshot) (newConfig : Bytes)
    (saved : ProfileStoreSnapshot) : ConfigurationSnapshot :=
  ⟨desired.application, saved.profiles, ⟨some newConfig, saved.revision⟩, saved.migratedFromSha256⟩

/-- `save_snapshot` once the current snapshot was read. -/
def saveOver (env : Environment) (snapshot desired : ConfigurationSnapshot) :
    Program ConfigurationSnapshot := do
  let newConfig ← Prog.read fun _ => checkCurrent snapshot desired
  if snapshot.revision.applicationSource = some newConfig ∧ snapshot.profiles = desired.profiles then
    return snapshot
  else
    let saved ← commitChanges env snapshot desired newConfig
    match configurationSnapshotToConfigDocument (committedSnapshot desired newConfig saved) with
    | .error f => throw ⟨.corrupt, f.detail⟩
    | .ok _ => return committedSnapshot desired newConfig saved

/-- `save_snapshot`. -/
def saveSnapshot (env : Environment) (desired : ConfigurationSnapshot) :
    Program ConfigurationSnapshot := do
  Prog.read fun _ => checkSnapshot env desired
  recoverLocked env
  let snapshot ← Prog.read readReady
  saveOver env snapshot desired

end Save

end CcsTrans.Repository
