import CcsTrans.Core.Sha256
import CcsTrans.Durable
import CcsTrans.Config.Unkeyed
import CcsTrans.Storage.File

/-!
The files of a repository, and what can be read of them at once.

A repository is a configuration file and a profile database. While both are changed there is
a directory with a transaction; a migration keeps backups and builds the new database beside
the old one. Files with temporary names are left out: no program looks at them again.
-/

namespace CcsTrans.Repository

open CcsTrans.Text CcsTrans.Core CcsTrans.Json CcsTrans.Config CcsTrans.Storage CcsTrans.Fallible
open CcsTrans.Durable

inductive ConfigRepositoryFailure where
  | notLoaded
  | busy
  | stale
  | invalidDocument
  | migrationRequired
  | recoveryRequired
  | constraint
  | corrupt
  | unsupportedSchema
  | io
  deriving DecidableEq

structure RepositoryError where
  failure : ConfigRepositoryFailure
  message : Bytes

/-- `map_profile_failure`. -/
def mapProfileFailure : ProfileStoreFailure → ConfigRepositoryFailure
  | .notFound => .recoveryRequired
  | .busy => .busy
  | .stale => .stale
  | .constraint => .constraint
  | .invalidData => .invalidDocument
  | .corrupt => .corrupt
  | .unsupportedSchema => .unsupportedSchema
  | .io => .io

def fromStore (e : StoreError) : RepositoryError := ⟨mapProfileFailure e.failure, e.message⟩

/-! ### Files -/

/-- A database and the files SQLite keeps beside it while it is open. -/
structure DatabaseFiles where
  file : Option Bytes := none
  wal : Bool := false
  shm : Bool := false

/-- The files in the directory of a transaction. -/
structure JournalFiles where
  manifest : Option Bytes := none
  oldConfig : Option Bytes := none
  newConfig : Option Bytes := none

/-- The files in a directory of backups, by name. -/
abbrev Directory := List (Bytes × Bytes)

structure Disk where
  config : Option Bytes := none
  database : DatabaseFiles := {}
  /-- The database that a migration builds. -/
  migrating : DatabaseFiles := {}
  transaction : Option JournalFiles := none
  /-- The directories of the migrations directory, by name. -/
  migrations : List (Bytes × Directory) := []

/-- Why a step fails: the wording of the system, and for SQLite the kind of the failure. -/
structure Reason where
  text : Bytes := []
  failure : ProfileStoreFailure := .io

abbrev Program := Prog Disk Reason RepositoryError
abbrev DiskStep := Step Disk Reason RepositoryError

/-- A step that fails with these words and the reason. -/
def ioStep (words : String) (act : Disk → Disk) : DiskStep :=
  ⟨act, fun r => ⟨.io, str words ++ r.text⟩⟩

/-- `write_durable_file`, of a file with a temporary name. -/
def writeDurableFile : DiskStep := ioStep "failed to write durable file: " id

/-- `sync_directory`. -/
def syncDirectory : DiskStep := ioStep "failed to sync directory: " id

/-- `replace_file`. -/
def replaceFile (act : Disk → Disk) : List DiskStep :=
  [ioStep "failed to atomically replace file: " act, syncDirectory]

/-- `write_atomic_file`, of the configuration file. -/
def writeConfigFile (content : Bytes) : List DiskStep :=
  writeDurableFile :: replaceFile fun d => { d with config := some content }

/-- `remove_file_durable`, of a file that is there. -/
def removeFileDurable (act : Disk → Disk) : List DiskStep :=
  [ioStep "failed to remove file: " act, syncDirectory]

/-- `restore_config`. -/
def restoreConfig : Option Bytes → Program Unit
  | some content => block (writeConfigFile content)
  | none => do
    if ← Prog.look fun d => d.config.isSome then
      block (removeFileDurable fun d => { d with config := none })

/-! ### Reading -/

/-- `read_bounded_file`. -/
def readBoundedFile (file : Option Bytes) (maximum : ℕ) (label : String) :
    Except RepositoryError Bytes :=
  match file with
  | none => .error ⟨.io, str label ++ str " must be a regular file"⟩
  | some content =>
    if content.length > maximum then
      .error ⟨.invalidDocument, str label ++ str " exceeds the supported size limit"⟩
    else .ok content

/-- `read_config_source`. -/
def readConfigSource (d : Disk) : Except RepositoryError (Option Bytes) :=
  match d.config with
  | none => .ok none
  | some content => some <$> readBoundedFile (some content) kMaxConfigDocumentBytes "config file"

structure DatabaseState where
  present : Bool := false
  snapshot : ProfileStoreSnapshot := {}
  fileSha256 : Option Bytes := none

section Reading

variable [Library] [Sqlite] [Engine]

/-- `read_database_state`. -/
def readDatabaseState (d : Disk) (includeHash : Bool) : Except RepositoryError DatabaseState :=
  match d.database.file with
  | none =>
    if d.database.wal || d.database.shm then
      .error ⟨.recoveryRequired, str "SQLite sidecar exists without profiles.db"⟩
    else .ok {}
  | some file =>
    match load (some file) with
    | .error e => .error (fromStore e)
    | .ok snapshot => .ok ⟨true, snapshot, if includeHash then some (sha256Hex file) else none⟩

/-- `load_ready_locked`: the snapshot of the two files. -/
def readReady (d : Disk) : Except RepositoryError ConfigurationSnapshot := do
  match ← readConfigSource d with
  | none => throw ⟨.recoveryRequired, str "config.json is missing while profiles.db exists"⟩
  | some source =>
    match detectConfigSchema source with
    | .error e => throw ⟨.invalidDocument, e⟩
    | .ok .v2 => throw ⟨.migrationRequired,
        str "ccs-trans.config/v2 requires explicit 'ccs-trans storage migrate'"⟩
    | .ok .unsupported => throw ⟨.unsupportedSchema, str "unsupported config schema_version"⟩
    | .ok .v3 =>
      match parseApplicationConfigDocument source with
      | .error e => throw ⟨.invalidDocument, e⟩
      | .ok application =>
        let database ← readDatabaseState d false
        if !database.present then
          throw ⟨.recoveryRequired, str "profiles.db is missing for v3 config"⟩
        let snapshot : ConfigurationSnapshot := ⟨application, database.snapshot.profiles,
          ⟨some source, database.snapshot.revision⟩, database.snapshot.migratedFromSha256⟩
        match configurationSnapshotToConfigDocument snapshot with
        | .error f => throw ⟨.invalidDocument, f.detail⟩
        | .ok _ => return snapshot

omit [Library] [Sqlite] [Engine] in
lemma readConfigSource_ok {d : Disk} {source : Bytes} (h : readConfigSource d = .ok (some source)) :
    d.config = some source ∧ source.length ≤ kMaxConfigDocumentBytes := by
  unfold readConfigSource at h
  split at h
  · cases h
  · next content hc =>
    obtain ⟨b, hb, h⟩ := map_eq_ok.mp h
    cases h
    simp only [readBoundedFile] at hb
    split_ifs at hb with hlen
    cases hb
    exact ⟨hc, by omega⟩

/-- What a repository has whose two files can be read. -/
structure Reads (d : Disk) (s : ConfigurationSnapshot) : Prop where
  config : d.config = s.revision.applicationSource
  source : ∃ source, s.revision.applicationSource = some source ∧
    source.length ≤ kMaxConfigDocumentBytes ∧ detectConfigSchema source = .ok .v3 ∧
    parseApplicationConfigDocument source = .ok s.application
  database : load d.database.file =
    .ok ⟨s.profiles, s.revision.profileRevision, s.migratedFromSha256⟩
  converts : ∃ document, configurationSnapshotToConfigDocument s = .ok document

/-- A repository is read when its two files are. -/
lemma readReady_eq_ok {d : Disk} {s : ConfigurationSnapshot} : readReady d = .ok s ↔ Reads d s := by
  constructor
  · intro h
    obtain ⟨x, hsource, h⟩ := bind_eq_ok.mp h
    match x, hsource, h with
    | some source, hsource, h =>
      obtain ⟨hconfig, hlen⟩ := readConfigSource_ok hsource
      dsimp only at h
      split at h <;> try cases h
      next hschema =>
      split at h
      · cases h
      next application happ =>
      obtain ⟨database, hdb, h⟩ := bind_eq_ok.mp h
      split at h
      · cases h
      next hpresent =>
      split at h
      · cases h
      next document hdoc =>
      cases h
      refine ⟨hconfig, ⟨source, rfl, hlen, hschema, happ⟩, ?_, document, hdoc⟩
      unfold readDatabaseState at hdb
      split at hdb
      · split_ifs at hdb
        cases hdb
        simp at hpresent
      next file hfile =>
      split at hdb
      · cases hdb
      next snapshot hload =>
      cases hdb
      rw [hfile]
      exact hload
  · rintro ⟨hconfig, ⟨source, hsource, hlen, hschema, happ⟩, hload, document, hdoc⟩
    obtain ⟨application, profiles, ⟨src, revision⟩, origin⟩ := s
    dsimp only at hconfig hsource happ hload
    subst hsource
    obtain ⟨-, -, -, hsome⟩ := load_ok hload
    obtain ⟨file, hfile⟩ := Option.isSome_iff_exists.mp hsome
    rw [hfile] at hload
    have hread : readConfigSource d = .ok (some source) := by
      simp [readConfigSource, hconfig, readBoundedFile, not_lt.mpr hlen]
    have hdb : readDatabaseState d false = .ok ⟨true, ⟨profiles, revision, origin⟩, none⟩ := by
      simp only [readDatabaseState, hfile, hload]
      rfl
    simp only [readReady, hread, ok_bind, hschema, happ, hdb, Bool.not_true, Bool.false_eq_true,
      if_false, hdoc, pure_eq_ok]

end Reading

end CcsTrans.Repository
