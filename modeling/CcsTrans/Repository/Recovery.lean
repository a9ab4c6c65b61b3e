import CcsTrans.Repository.Journal

/-!
Recovery: what is done with a transaction that was left behind.

Recovery compares the two files with what the journal says of them before and after the
transaction. Both must be one or the other; then the configuration follows the database. A
journal of a migration may name a backup of the database, which is put back when the
database is neither. At last the journal is deleted.
-/

namespace CcsTrans.Repository

open CcsTrans.Text CcsTrans.Core CcsTrans.Json CcsTrans.Config CcsTrans.Storage CcsTrans.Fallible
open CcsTrans.Durable

inductive JournalFile where
  | manifest
  | oldConfig
  | newConfig
  deriving DecidableEq

/-- An order in which a directory lists its files. -/
structure Listing where
  files : List JournalFile
  complete : files.Perm [.manifest, .oldConfig, .newConfig]

/-- Where and when the program runs. -/
structure Environment where
  /-- The root of the application's directories. -/
  root : Bytes
  now : Bytes
  listing : Listing

def JournalFiles.get (files : JournalFiles) : JournalFile → Option Bytes
  | .manifest => files.manifest
  | .oldConfig => files.oldConfig
  | .newConfig => files.newConfig

def JournalFiles.without (files : JournalFiles) : JournalFile → JournalFiles
  | .manifest => { files with manifest := none }
  | .oldConfig => { files with oldConfig := none }
  | .newConfig => { files with newConfig := none }

/-! ### Deleting -/

def onDatabase (f : DatabaseFiles → DatabaseFiles) (d : Disk) : Disk :=
  { d with database := f d.database }

def onMigrating (f : DatabaseFiles → DatabaseFiles) (d : Disk) : Disk :=
  { d with migrating := f d.migrating }

/-- `remove_database_family`. -/
def removeDatabaseFamily (on : (DatabaseFiles → DatabaseFiles) → Disk → Disk) : List DiskStep :=
  let words := "failed to remove temporary database: "
  [ioStep words (on fun db => { db with file := none }),
   ioStep words (on fun db => { db with wal := false }),
   ioStep words (on fun db => { db with shm := false }), syncDirectory]

def removeJournalFile (f : JournalFile) : DiskStep :=
  ioStep "failed to clear transaction journal: " fun d =>
    { d with transaction := d.transaction.map fun files => files.without f }

/-- `remove_all`, of the directory of the transaction. -/
def removeJournal (listing : Listing) : Option JournalFiles → List DiskStep
  | none => []
  | some files => (listing.files.filter fun f => (files.get f).isSome).map removeJournalFile ++
      [ioStep "failed to clear transaction journal: " fun d => { d with transaction := none }]

def clearSteps (listing : Listing) (kind : Bytes) (transaction : Option JournalFiles) :
    List DiskStep :=
  (if kind = str "migration" then removeDatabaseFamily onMigrating else []) ++
    removeJournal listing transaction ++ [syncDirectory]

/-- `clear_journal`. -/
def clearJournal (env : Environment) (kind : Bytes) : Program Unit := do
  let transaction ← Prog.look fun d => d.transaction
  block (clearSteps env.listing kind transaction)

/-- Some of the files are gone. -/
structure JournalFiles.Torn (files files' : JournalFiles) : Prop where
  rest : ∀ f, files'.get f = none ∨ files'.get f = files.get f
  gone : ∃ f, (files.get f).isSome = true ∧ files'.get f = none

/-- The disk with another journal, or none. -/
def Disk.withJournal (d : Disk) (t : Option JournalFiles) : Disk := { d with transaction := t }

/-- The disk once a journal of this kind is deleted. -/
def cleared (kind : Bytes) (d : Disk) : Disk :=
  { d with transaction := none, migrating := if kind = str "migration" then {} else d.migrating }

/-- The disk while a journal of this kind is deleted. -/
structure Clearing (kind : Bytes) (d s : Disk) : Prop where
  same : s = { d with migrating := s.migrating, transaction := s.transaction }
  migrating : kind ≠ str "migration" → s.migrating = d.migrating
  transaction : s.transaction = d.transaction ∨ s.transaction = none ∨
    ∃ files files', d.transaction = some files ∧ s.transaction = some files' ∧ files.Torn files'

lemma get_without (files : JournalFiles) (f g : JournalFile) :
    (files.without f).get g = if f = g then none else files.get g := by
  cases f <;> cases g <;> rfl

lemma trail_removeJournal {d s : Disk} {files : JournalFiles} {l : List JournalFile}
    (hl : ∀ f ∈ l, (files.get f).isSome = true)
    (hs : s ∈ trail (l.map removeJournalFile) (d.withJournal (some files))) :
    ∃ files', s = d.withJournal (some files') ∧ files.Torn files' := by
  cases l with
  | nil => cases hs
  | cons f l =>
    let I : Disk → Prop := fun s => ∃ files', s = d.withJournal (some files') ∧
      (∀ g, files'.get g = none ∨ files'.get g = files.get g) ∧ files'.get f = none
    have hfirst : I ((removeJournalFile f).act (d.withJournal (some files))) := by
      refine ⟨files.without f, rfl, fun g => ?_, ?_⟩
      · rw [get_without]
        split
        · exact .inl rfl
        · exact .inr rfl
      · simp [get_without]
    have hstep : ∀ t ∈ l.map removeJournalFile, ∀ s, I s → I (t.act s) := by
      rintro t ht s ⟨files', rfl, hrest, hgone⟩
      obtain ⟨g, -, rfl⟩ := List.mem_map.mp ht
      refine ⟨files'.without g, rfl, fun f' => ?_, ?_⟩
      · rw [get_without]
        split
        · exact .inl rfl
        · exact hrest f'
      · rw [get_without]
        split
        · rfl
        · exact hgone
    have hall : I s := by
      rcases List.mem_cons.mp hs with rfl | hs
      · exact hfirst
      · exact trail_keeps hstep hfirst s hs
    obtain ⟨files', he, hrest, hgone⟩ := hall
    exact ⟨files', he, hrest, f, hl f (by simp), hgone⟩

lemma performed_removeJournalFile (l : List JournalFile) (d : Disk) :
    (performed (l.map removeJournalFile) d).withJournal none = d.withJournal none := by
  induction l generalizing d with
  | nil => rfl
  | cons f l ih => exact ih _

lemma performed_removeJournal (listing : Listing) (d : Disk) :
    performed (removeJournal listing d.transaction) d = d.withJournal none := by
  cases hd : d.transaction with
  | none =>
    show d = d.withJournal none
    rw [Disk.withJournal, ← hd]
  | some files =>
    rw [removeJournal, performed_append]
    exact performed_removeJournalFile _ d

lemma performed_clearSteps (listing : Listing) (kind : Bytes) (d : Disk) :
    performed (clearSteps listing kind d.transaction) d = cleared kind d := by
  rw [clearSteps, performed_append, performed_append]
  split_ifs with hk
  · have h := performed_removeJournal listing { d with migrating := {} }
    rw [show performed (removeDatabaseFamily onMigrating) d = { d with migrating := {} } from rfl, h,
      cleared, if_pos hk]
    rfl
  · rw [performed_nil, performed_removeJournal, cleared, if_neg hk]
    rfl

lemma trail_removeJournal_clearing (listing : Listing) {kind : Bytes} {d s : Disk}
    {t : DatabaseFiles} (ht : kind ≠ str "migration" → t = d.migrating)
    (hs : s ∈ trail (removeJournal listing d.transaction) { d with migrating := t }) :
    Clearing kind d s := by
  cases hd : d.transaction with
  | none => rw [hd] at hs; cases hs
  | some files =>
    rw [hd, removeJournal, trail_append, List.mem_append] at hs
    rcases hs with hs | hs
    · obtain ⟨files', rfl, htorn⟩ := trail_removeJournal (d := { d with migrating := t })
        (fun f hf => (List.mem_filter.mp hf).2) hs
      exact ⟨rfl, ht, .inr (.inr ⟨files, files', hd, rfl, htorn⟩)⟩
    · simp only [trail_cons, trail_nil, List.mem_singleton] at hs
      have h := performed_removeJournalFile (listing.files.filter fun f => (files.get f).isSome)
        { d with migrating := t, transaction := some files }
      replace hs := hs.trans h
      rw [hs]
      exact ⟨rfl, ht, .inr (.inl rfl)⟩

lemma trail_clearSteps (listing : Listing) (kind : Bytes) (d : Disk) :
    ∀ s ∈ trail (clearSteps listing kind d.transaction) d, Clearing kind d s := by
  intro s hs
  rw [clearSteps, trail_append, List.mem_append] at hs
  rcases hs with hs | hs
  · rw [trail_append, List.mem_append] at hs
    rcases hs with hs | hs
    · split_ifs at hs with hk
      · simp only [removeDatabaseFamily, trail_cons, trail_nil, List.mem_cons, List.not_mem_nil,
          or_false] at hs
        rcases hs with rfl | rfl | rfl | rfl
        all_goals exact ⟨rfl, fun hne => absurd hk hne, .inl rfl⟩
      · cases hs
    · split_ifs at hs with hk
      · exact trail_removeJournal_clearing listing (fun hne => absurd hk hne) hs
      · exact trail_removeJournal_clearing (t := d.migrating) listing (fun _ => rfl) hs
  · have hd := performed_clearSteps listing kind d
    rw [clearSteps, performed_append] at hd
    simp only [trail_cons, trail_nil, List.mem_singleton] at hs
    rw [hs.trans hd]
    exact ⟨rfl, fun hne => if_neg hne, .inr (.inl rfl)⟩

/-- A journal is deleted when nothing fails. -/
lemma clearJournal_run (env : Environment) (kind : Bytes) (d : Disk) :
    ∃ v, (clearJournal env kind).run none d = ⟨.ok (), cleared kind d, v, none⟩ ∧
      ∀ s ∈ v, Clearing kind d s := by
  refine ⟨trail (clearSteps env.listing kind d.transaction) d, ?_, trail_clearSteps _ _ _⟩
  rw [clearJournal, look_bind, block_none, performed_clearSteps]

/-! ### Backups of a database -/

def kDatabaseBackupManifestSchema : Bytes := str "ccs-trans.database-replacement-backup/v1"

/-- The integer part of a finite double. -/
def truncate (d : Double) : ℤ :=
  let exponent := ((d.bits >>> 52) &&& 0x7FF).toNat
  let fraction := (d.bits &&& 0xFFFFFFFFFFFFF).toNat
  let mantissa := if exponent = 0 then fraction else fraction + 2 ^ 52
  let magnitude := mantissa * 2 ^ (exponent - 1075) / 2 ^ (1075 - max exponent 1)
  if d.bits >>> 63 = 1 then -magnitude else magnitude

/-- `value("profile_revision", -1)`, which refuses what is not a number. -/
def valueRevision (ms : Members) (key : String) : Except Bytes ℤ :=
  match find (str key) ms with
  | none => .ok (-1)
  | some (.int n) => .ok n.toInt
  | some (.uint n) => .ok n.toInt64.toInt
  | some (.float d) => .ok (truncate d)
  | some v => .error (str "[json.exception.type_error.302] type must be number, but is " ++
      str (typeName v))

/-- `optional_manifest_value_matches`. -/
def optionalManifestValueMatches (ms : Members) (key : String) (expected : Option Bytes) : Bool :=
  match find (str key) ms, expected with
  | some (.str s), some e => s == e
  | some .null, none => true
  | _, _ => false

section Backup

variable [Library] [Sqlite] [Engine]

/-- `verify_database_backup_bytes`. -/
def verifyDatabaseBackupBytes (file expectedHash : Bytes)
    (expectedSnapshot : Option ProfileStoreSnapshot) (failure : ConfigRepositoryFailure) :
    Except RepositoryError ProfileStoreSnapshot :=
  if sha256Hex file ≠ expectedHash then .error ⟨failure, str "database backup hash mismatch"⟩
  else match load (some file) with
    | .error e => .error ⟨failure, e.message⟩
    | .ok actual =>
      if expectedSnapshot.all (· = actual) then .ok actual
      else .error ⟨failure, str "database backup semantic snapshot mismatch"⟩

/-- The manifest of a backup: the size it gives for the database. -/
def checkBackupManifest (bytes sourceHash databaseHash : Bytes) (expectedRevision : ℤ)
    (expectedMigrationHash : Option Bytes) (failure : ConfigRepositoryFailure) :
    Except RepositoryError ℕ :=
  let mismatch : RepositoryError :=
    ⟨failure, str "database backup manifest does not match the replacement source"⟩
  let unreadable (e : Bytes) : RepositoryError :=
    ⟨failure, str "failed to validate database backup manifest: " ++ e⟩
  match parse bytes with
  | .error e => .error (unreadable (Library.what e))
  | .ok (.obj ms) =>
    match valueString ms "schema_version" with
    | .error e => .error (unreadable e)
    | .ok version => if version ≠ kDatabaseBackupManifestSchema then .error mismatch else
      match valueString ms "source_config_sha256" with
      | .error e => .error (unreadable e)
      | .ok source => if source ≠ sourceHash then .error mismatch else
        match valueString ms "database_sha256" with
        | .error e => .error (unreadable e)
        | .ok database => if database ≠ databaseHash then .error mismatch else
          match find (str "database_bytes") ms with
          | some (.uint size) =>
            match valueRevision ms "profile_revision" with
            | .error e => .error (unreadable e)
            | .ok revision => if revision ≠ expectedRevision then .error mismatch else
              if optionalManifestValueMatches ms "migrated_from_sha256" expectedMigrationHash then
                .ok size.toNat
              else .error mismatch
          | _ => .error mismatch
  | .ok _ => .error mismatch

/-- `validate_database_replacement_backup`: the snapshot, and the file it is kept in. -/
def validateDatabaseReplacementBackup (d : Disk) (directoryName sourceHash databaseHash : Bytes)
    (expectedRevision : ℤ) (expectedMigrationHash : Option Bytes)
    (expectedSnapshot : Option ProfileStoreSnapshot) (failure : ConfigRepositoryFailure) :
    Except RepositoryError (ProfileStoreSnapshot × Bytes) := do
  if !validDatabaseBackupDirectoryName directoryName then
    throw ⟨failure, str "database backup directory name is invalid"⟩
  match find directoryName d.migrations with
  | none => throw ⟨.io, str "database backup directory must be a non-symlink directory"⟩
  | some directory =>
    match find (str "profiles.db") directory with
    | none => throw ⟨.io, str "database backup must be a regular file"⟩
    | some file =>
      if contains (str "profiles.db-wal") directory || contains (str "profiles.db-shm") directory then
        throw ⟨failure, str "database backup must not contain SQLite sidecars"⟩
      let bytes ← readBoundedFile (find (str "manifest.json") directory) kMaxManifestBytes
        "database backup manifest"
      let size ← checkBackupManifest bytes sourceHash databaseHash expectedRevision
        expectedMigrationHash failure
      if file.length ≠ size then throw ⟨failure, str "database backup size mismatch"⟩
      let actual ← verifyDatabaseBackupBytes file databaseHash expectedSnapshot failure
      if actual.revision ≠ expectedRevision ∨ actual.migratedFromSha256 ≠ expectedMigrationHash then
        throw ⟨failure, str "database backup metadata does not match its manifest"⟩
      return (actual, file)

/-- `copy_durable_file`, to a file with a temporary name. -/
def copyDurableFile : DiskStep := ioStep "failed to copy database backup: " id

/-- `remove_database_sidecars`. -/
def removeDatabaseSidecars (db : DatabaseFiles) : List DiskStep :=
  (if db.wal then removeFileDurable (onDatabase fun db => { db with wal := false }) else []) ++
  (if db.shm then removeFileDurable (onDatabase fun db => { db with shm := false }) else [])

def noUsableBackup : RepositoryError :=
  ⟨.recoveryRequired, str "migration journal has no usable database replacement backup"⟩

/-- The backup a journal names, once it is validated: the configuration and the database. -/
def usableBackup (d : Disk) (journal : RepositoryJournal) :
    Except RepositoryError (Bytes × Bytes) :=
  match journal.oldConfig, journal.oldDatabaseSha256, journal.oldDatabaseBackupDirectory with
  | some oldConfig, some databaseHash, some directory =>
    if journal.kind ≠ str "migration" ∨ journal.oldDatabaseExists = false then .error noUsableBackup
    else match validateDatabaseReplacementBackup d directory (sha256Hex oldConfig) databaseHash
        journal.oldProfileRevision journal.oldMigrationHash none .recoveryRequired with
      | .error e => .error ⟨.recoveryRequired,
          str "database replacement backup cannot be used for recovery: " ++ e.message⟩
      | .ok (snapshot, file) => do
        let _ ← verifyDatabaseBackupBytes file databaseHash (some snapshot) .recoveryRequired
        return (oldConfig, file)
  | _, _, _ => .error noUsableBackup

/-- `restore_database_replacement_backup`. -/
def restoreDatabaseReplacementBackup (journal : RepositoryJournal) : Program Unit := do
  let (oldConfig, file) ← Prog.read fun d => usableBackup d journal
  let database ← Prog.look fun d => d.database
  block (copyDurableFile :: removeDatabaseSidecars database ++
    replaceFile (onDatabase fun db => { db with file := some file }))
  restoreConfig (some oldConfig)

end Backup

/-! ### Recovery -/

/-- `database_matches`. -/
def databaseMatches (actual : DatabaseState) (expectedExists : Bool) (expectedRevision : ℤ)
    (expectedHash expectedFileHash : Option Bytes) : Bool :=
  actual.present == expectedExists &&
    (!expectedExists || (actual.snapshot.revision == expectedRevision &&
      actual.snapshot.migratedFromSha256 == expectedHash &&
      (expectedFileHash.isNone || actual.fileSha256 == expectedFileHash)))

/-- The database is the one before the transaction. -/
def RepositoryJournal.isOld (j : RepositoryJournal) (actual : DatabaseState) : Bool :=
  databaseMatches actual j.oldDatabaseExists j.oldProfileRevision j.oldMigrationHash
    j.oldDatabaseSha256

/-- The database is the one after the transaction. -/
def RepositoryJournal.isTarget (j : RepositoryJournal) (actual : DatabaseState) : Bool :=
  databaseMatches actual true j.targetProfileRevision j.targetMigrationHash j.targetDatabaseSha256

/-- `recoverable_replacement_database_failure`. -/
def recoverableReplacementDatabaseFailure : ConfigRepositoryFailure → Bool
  | .invalidDocument | .corrupt | .unsupportedSchema | .recoveryRequired => true
  | _ => false

/-- What is to be done before the journal is deleted. -/
inductive Remedy where
  | nothing
  | restoreConfig
  | writeNewConfig
  | restoreBackup
  deriving DecidableEq

/-- How recovery compares the files with the journal. -/
def judge (journal : RepositoryJournal) (actualConfig : Option Bytes)
    (actualDatabase : Except RepositoryError DatabaseState) : Except RepositoryError Remedy :=
  match actualDatabase with
  | .error e =>
    if journal.oldDatabaseBackupDirectory.isNone ∨
        recoverableReplacementDatabaseFailure e.failure = false then .error e
    else .ok .restoreBackup
  | .ok database =>
    if actualConfig = journal.oldConfig ∧ journal.isOld database then .ok .nothing
    else if actualConfig = some journal.newConfig ∧ journal.isOld database then .ok .restoreConfig
    else if actualConfig = journal.oldConfig ∧ journal.isTarget database then .ok .writeNewConfig
    else if actualConfig = some journal.newConfig ∧ journal.isTarget database then .ok .nothing
    else if journal.oldDatabaseBackupDirectory.isSome then .ok .restoreBackup
    else .error ⟨.recoveryRequired,
      str "repository state does not match transaction old or target values"⟩

section Recover

variable [Library] [Sqlite] [Engine]

def applyRemedy (journal : RepositoryJournal) : Remedy → Program Unit
  | .nothing => pure ()
  | .restoreConfig => restoreConfig journal.oldConfig
  | .writeNewConfig => block (writeConfigFile journal.newConfig)
  | .restoreBackup => restoreDatabaseReplacementBackup journal

/-- `recover_locked`. -/
def recoverLocked (env : Environment) : Program Unit := do
  match ← Prog.look fun d => d.transaction with
  | none => return ()
  | some files =>
    let journal ← Prog.read fun _ => readJournal files
    let actualConfig ← Prog.read readConfigSource
    let remedy ← Prog.read fun d => judge journal actualConfig (readDatabaseState d true)
    applyRemedy journal remedy
    clearJournal env journal.kind

end Recover

end CcsTrans.Repository
