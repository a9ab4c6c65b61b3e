import CcsTrans.Repository.Recovery
import CcsTrans.Storage.PlainFile

/-!
Recovery is correct, and can be started again.

What recovery comes to depends on the two files, the journal and the backups only. None of its
steps changes what it comes to: wherever it stops, it ends in the same two files when it is
run again.
-/

namespace CcsTrans.Repository

open CcsTrans.Text CcsTrans.Core CcsTrans.Json CcsTrans.Config CcsTrans.Storage CcsTrans.Fallible
open CcsTrans.Durable

/-- The disk with another configuration, or none. -/
def Disk.withConfig (d : Disk) (config : Option Bytes) : Disk := { d with config := config }

lemma writeConfigFile_run (content : Bytes) (d : Disk) :
    (block (writeConfigFile content)).run none d = ⟨.ok (), d.withConfig (some content),
      [d, d.withConfig (some content), d.withConfig (some content)], none⟩ :=
  block_none _ d

lemma restoreConfig_run (config : Option Bytes) (d : Disk) :
    ∃ v, (restoreConfig config).run none d = ⟨.ok (), d.withConfig config, v, none⟩ ∧
      ∀ s ∈ v, s = d ∨ s = d.withConfig config := by
  cases config with
  | some content =>
    refine ⟨_, writeConfigFile_run content d, ?_⟩
    simp
  | none =>
    cases hd : d.config with
    | none =>
      refine ⟨[], ?_, by simp⟩
      have hsame : d.withConfig none = d := by rw [Disk.withConfig, ← hd]
      rw [restoreConfig, look_bind, hd, hsame]
      rfl
    | some content =>
      refine ⟨[d.withConfig none, d.withConfig none], ?_, by simp⟩
      rw [restoreConfig, look_bind, hd]
      exact block_none _ d

section Restart

variable [Library] [Sqlite] [Engine]

omit [Sqlite] [Engine] in
/-- The configurations of a journal that can be read are not too long. -/
lemma readJournal_lengths {files : JournalFiles} {j : RepositoryJournal}
    (h : readJournal files = .ok j) :
    (∀ content ∈ j.oldConfig, content.length ≤ kMaxConfigDocumentBytes) ∧
      j.newConfig.length ≤ kMaxConfigDocumentBytes := by
  have hbounded : ∀ {file : Option Bytes} {n : ℕ} {label : String} {content : Bytes},
      readBoundedFile file n label = .ok content → content.length ≤ n := by
    intro file n label content hread
    unfold readBoundedFile at hread
    split at hread
    · cases hread
    · split_ifs at hread with hlen
      cases hread
      omega
  unfold readJournal at h
  obtain ⟨bytes, -, h⟩ := bind_eq_ok.mp h
  obtain ⟨⟨ms, existed, journal⟩, -, h⟩ := bind_eq_ok.mp h
  obtain ⟨oldConfig, hold, h⟩ := bind_eq_ok.mp h
  obtain ⟨newConfig, hnew, h⟩ := bind_eq_ok.mp h
  obtain ⟨_, -, h⟩ := bind_eq_ok.mp h
  obtain ⟨_, -, h⟩ := bind_eq_ok.mp h
  cases h
  refine ⟨fun content hc => ?_, hbounded hnew⟩
  unfold readOldConfig at hold
  split_ifs at hold
  · obtain ⟨c, hread, rfl⟩ := map_eq_ok.mp hold
    cases hc
    exact hbounded hread
  · cases hold
    cases hc

omit [Library] [Sqlite] [Engine] in
lemma readConfigSource_withConfig {config : Option Bytes} (d : Disk)
    (h : ∀ content ∈ config, content.length ≤ kMaxConfigDocumentBytes) :
    readConfigSource (d.withConfig config) = .ok config := by
  cases config with
  | none => rfl
  | some content =>
    have := h content rfl
    simp [readConfigSource, Disk.withConfig, readBoundedFile, not_lt.mpr this]

omit [Library] [Sqlite] [Engine] in
lemma readConfigSource_eq_config {d : Disk} {config : Option Bytes}
    (h : readConfigSource d = .ok config) : config = d.config := by
  cases config with
  | none =>
    unfold readConfigSource at h
    split at h
    · next hc => rw [hc]
    · obtain ⟨c, -, h⟩ := map_eq_ok.mp h
      cases h
  | some source => exact (readConfigSource_ok h).1.symm

/-! ### What recovery comes to -/

/-- The configuration and the database that recovery ends with. -/
def outcome (j : RepositoryJournal) (d : Disk) :
    Except RepositoryError (Option Bytes × Option Bytes) := do
  let actualConfig ← readConfigSource d
  match ← judge j actualConfig (readDatabaseState d true) with
  | .nothing => return (d.config, d.database.file)
  | .restoreConfig => return (j.oldConfig, d.database.file)
  | .writeNewConfig => return (some j.newConfig, d.database.file)
  | .restoreBackup =>
    let (config, file) ← usableBackup d j
    return (some config, some file)

/-- The files agree that recovery looks at. -/
structure Agrees (d s : Disk) : Prop where
  config : s.config = d.config
  database : s.database = d.database
  migrations : s.migrations = d.migrations

lemma usableBackup_congr {d s : Disk} (j : RepositoryJournal) (h : s.migrations = d.migrations) :
    usableBackup s j = usableBackup d j := by
  simp only [usableBackup, validateDatabaseReplacementBackup, h]

lemma Agrees.outcome {d s : Disk} (h : Agrees d s) (j : RepositoryJournal) :
    outcome j s = outcome j d := by
  simp only [Repository.outcome, readConfigSource, readDatabaseState, h.config, h.database,
    usableBackup_congr j h.migrations]

omit [Library] [Sqlite] [Engine] in
lemma Clearing.agrees {kind : Bytes} {d s : Disk} (h : Clearing kind d s) : Agrees d s := by
  rw [h.same]
  exact ⟨rfl, rfl, rfl⟩

/-- A backup that can be used is the one the journal describes. -/
lemma usableBackup_ok {d : Disk} {j : RepositoryJournal} {config file : Bytes}
    (h : usableBackup d j = .ok (config, file)) :
    j.oldConfig = some config ∧ j.oldDatabaseExists = true ∧
      j.oldDatabaseBackupDirectory.isSome = true ∧
      ∃ snapshot, load (some file) = .ok snapshot ∧
        j.isOld ⟨true, snapshot, some (sha256Hex file)⟩ = true := by
  unfold usableBackup at h
  split at h
  next oldConfig databaseHash directory hconfig hsha hdir =>
    split_ifs at h with hkind
    split at h
    · cases h
    next snapshot f hvalid =>
    obtain ⟨_, -, h⟩ := bind_eq_ok.mp h
    cases h
    push Not at hkind
    refine ⟨hconfig, by simpa using hkind.2, by rw [hdir]; rfl, snapshot, ?_⟩
    unfold validateDatabaseReplacementBackup at hvalid
    dsimp only at hvalid
    split at hvalid
    · cases hvalid
    split at hvalid
    · cases hvalid
    split at hvalid
    · cases hvalid
    split at hvalid
    · cases hvalid
    obtain ⟨bytes, -, hvalid⟩ := bind_eq_ok.mp hvalid
    obtain ⟨size, -, hvalid⟩ := bind_eq_ok.mp hvalid
    split at hvalid
    · cases hvalid
    obtain ⟨actual, hverify, hvalid⟩ := bind_eq_ok.mp hvalid
    split at hvalid
    · cases hvalid
    next hmeta =>
    cases hvalid
    push Not at hmeta
    unfold verifyDatabaseBackupBytes at hverify
    split_ifs at hverify with hhash
    split at hverify
    · cases hverify
    next actual hload =>
    split_ifs at hverify
    cases hverify
    refine ⟨hload, ?_⟩
    have hexists : j.oldDatabaseExists = true := by simpa using hkind.2
    have hhash : sha256Hex file = databaseHash := by simpa using hhash
    simp [RepositoryJournal.isOld, databaseMatches, hexists, hmeta.1, hmeta.2, hsha, hhash]
  next => cases h

/-! ### The remedies -/

/-- The two files as a journal has them before the transaction, or after. -/
def Settled (j : RepositoryJournal) (d : Disk) : Prop :=
  ∃ database, readDatabaseState d true = .ok database ∧
    ((d.config = j.oldConfig ∧ j.isOld database = true) ∨
      (d.config = some j.newConfig ∧ j.isTarget database = true))

/-- The configurations of a journal are short enough to be read. -/
def RepositoryJournal.Fits (j : RepositoryJournal) : Prop :=
  (∀ content ∈ j.oldConfig, content.length ≤ kMaxConfigDocumentBytes) ∧
    j.newConfig.length ≤ kMaxConfigDocumentBytes

omit [Library] [Sqlite] [Engine] in
lemma readConfigSource_old {j : RepositoryJournal} {d : Disk} (hj : j.Fits)
    (hd : d.config = j.oldConfig) : readConfigSource d = .ok j.oldConfig := by
  have h := readConfigSource_withConfig d hj.1
  rwa [show d.withConfig j.oldConfig = d by rw [Disk.withConfig, ← hd]] at h

omit [Library] [Sqlite] [Engine] in
lemma readConfigSource_new {j : RepositoryJournal} {d : Disk} (hj : j.Fits)
    (hd : d.config = some j.newConfig) : readConfigSource d = .ok (some j.newConfig) := by
  have hlen : ∀ content ∈ some j.newConfig, content.length ≤ kMaxConfigDocumentBytes := by
    rintro content ⟨⟩
    exact hj.2
  have h := readConfigSource_withConfig d hlen
  rwa [show d.withConfig (some j.newConfig) = d by rw [Disk.withConfig, ← hd]] at h

/-- With the database of before, recovery ends with the configuration of before. -/
lemma outcome_old {j : RepositoryJournal} {d : Disk} {database : DatabaseState} (hj : j.Fits)
    (hd : d.config = j.oldConfig ∨ d.config = some j.newConfig)
    (hdb : readDatabaseState d true = .ok database) (hold : j.isOld database = true) :
    outcome j d = .ok (j.oldConfig, d.database.file) := by
  by_cases hc : d.config = j.oldConfig
  · simp only [outcome, readConfigSource_old hj hc, ok_bind, judge, hdb, hold, and_self, if_true, hc,
      pure_eq_ok]
  · have hnew := hd.resolve_left hc
    have hne : some j.newConfig ≠ j.oldConfig := hnew ▸ hc
    simp only [outcome, readConfigSource_new hj hnew, ok_bind, judge, hdb, hold, hne, and_true,
      if_false, if_true, pure_eq_ok]

/-- With the database of after, it ends with the configuration of after. -/
lemma outcome_target {j : RepositoryJournal} {d : Disk} {database : DatabaseState} (hj : j.Fits)
    (hd : d.config = j.oldConfig ∨ d.config = some j.newConfig)
    (hdb : readDatabaseState d true = .ok database) (hold : j.isOld database = false)
    (htarget : j.isTarget database = true) :
    outcome j d = .ok (some j.newConfig, d.database.file) := by
  by_cases hc : d.config = j.oldConfig
  · simp only [outcome, readConfigSource_old hj hc, ok_bind, judge, hdb, hold, htarget, and_self,
      if_true, Bool.false_eq_true, and_false, if_false, pure_eq_ok]
  · have hnew := hd.resolve_left hc
    have hne : some j.newConfig ≠ j.oldConfig := hnew ▸ hc
    simp only [outcome, readConfigSource_new hj hnew, ok_bind, judge, hdb, hold, htarget, hne, hnew,
      and_true, Bool.false_eq_true, and_false, if_false, if_true, pure_eq_ok]

/-- A disk on the way from `d` to the backup: what is left of the sidecars does not matter. -/
structure Restoring (d : Disk) (config file : Bytes) (s : Disk) : Prop where
  same : s = { d with config := s.config, database := s.database }
  wal : s.database.wal = true → d.database.wal = true
  shm : s.database.shm = true → d.database.shm = true
  phase : (s.config = d.config ∧ s.database.file = d.database.file) ∨
    ((s.config = d.config ∨ s.config = some config) ∧ s.database.file = some file)

/-- The disk with the backup in place. -/
def restored (d : Disk) (config file : Bytes) : Disk :=
  { d with config := some config, database := ⟨some file, false, false⟩ }

omit [Library] [Sqlite] [Engine] in
lemma performed_removeDatabaseSidecars (d : Disk) :
    performed (removeDatabaseSidecars d.database) d =
      { d with database := ⟨d.database.file, false, false⟩ } := by
  obtain ⟨config, ⟨file, wal, shm⟩, migrating, transaction, migrations⟩ := d
  cases wal <;> cases shm <;> rfl

omit [Library] [Sqlite] [Engine] in
lemma trail_removeDatabaseSidecars (d : Disk) (config file : Bytes) :
    ∀ s ∈ trail (removeDatabaseSidecars d.database) d, Restoring d config file s := by
  let I : Disk → Prop := fun s => s = { d with database := s.database } ∧
    s.database.file = d.database.file ∧ (s.database.wal = true → d.database.wal = true) ∧
      (s.database.shm = true → d.database.shm = true)
  have hwal : ∀ t ∈ removeFileDurable (onDatabase fun db => { db with wal := false }), ∀ s, I s →
      I (t.act s) := by
    rintro t ht s ⟨he, hfile, hwal, hshm⟩
    simp only [removeFileDurable, List.mem_cons, List.not_mem_nil, or_false] at ht
    rcases ht with rfl | rfl
    · rw [he]
      exact ⟨rfl, hfile, by simp [ioStep, onDatabase], hshm⟩
    · exact ⟨he, hfile, hwal, hshm⟩
  have hshm : ∀ t ∈ removeFileDurable (onDatabase fun db => { db with shm := false }), ∀ s, I s →
      I (t.act s) := by
    rintro t ht s ⟨he, hfile, hwal, hshm⟩
    simp only [removeFileDurable, List.mem_cons, List.not_mem_nil, or_false] at ht
    rcases ht with rfl | rfl
    · rw [he]
      exact ⟨rfl, hfile, hwal, by simp [ioStep, onDatabase]⟩
    · exact ⟨he, hfile, hwal, hshm⟩
  have hstep : ∀ t ∈ removeDatabaseSidecars d.database, ∀ s, I s → I (t.act s) := by
    intro t ht
    rw [removeDatabaseSidecars, List.mem_append] at ht
    rcases ht with ht | ht
    · split_ifs at ht
      · exact hwal t ht
      · cases ht
    · split_ifs at ht
      · exact hshm t ht
      · cases ht
  intro s hs
  obtain ⟨he, hfile, hw, hsh⟩ := trail_keeps (I := I) hstep ⟨rfl, rfl, id, id⟩ s hs
  exact ⟨by rw [he], hw, hsh, .inl ⟨by rw [he], hfile⟩⟩

/-- A backup is put in its place. -/
lemma restoreDatabaseReplacementBackup_run {j : RepositoryJournal} {d : Disk} {config file : Bytes}
    (h : usableBackup d j = .ok (config, file)) :
    ∃ v, (restoreDatabaseReplacementBackup j).run none d =
        ⟨.ok (), restored d config file, v, none⟩ ∧ ∀ s ∈ v, Restoring d config file s := by
  have hdone := performed_removeDatabaseSidecars d
  let d₁ : Disk := { d with database := ⟨some file, false, false⟩ }
  have hblock : performed (copyDurableFile :: removeDatabaseSidecars d.database ++
      replaceFile (onDatabase fun db => { db with file := some file })) d = d₁ := by
    rw [performed_append, performed_cons, show copyDurableFile.act d = d from rfl, hdone]
    rfl
  obtain ⟨v, hrun, hv⟩ := restoreConfig_run (some config) d₁
  refine ⟨trail (copyDurableFile :: removeDatabaseSidecars d.database ++
      replaceFile (onDatabase fun db => { db with file := some file })) d ++ v, ?_, ?_⟩
  · rw [restoreDatabaseReplacementBackup, read_bind_ok (g := fun d => usableBackup d j) h]
    dsimp only
    rw [look_bind, run_bind_ok (block_none _ d), hblock, hrun]
    rfl
  · intro s hs
    have hd₁ : Restoring d config file d₁ := ⟨rfl, by simp [d₁], by simp [d₁], .inr ⟨.inl rfl, rfl⟩⟩
    rw [trail_append, List.mem_append, List.mem_append, trail_cons, List.mem_cons, performed_cons,
      show copyDurableFile.act d = d from rfl, hdone] at hs
    rcases hs with ((rfl | hs) | hs) | hs
    · exact ⟨rfl, id, id, .inl ⟨rfl, rfl⟩⟩
    · exact trail_removeDatabaseSidecars d config file s hs
    · simp only [replaceFile, trail_cons, trail_nil, List.mem_cons, List.not_mem_nil, or_false] at hs
      rcases hs with rfl | rfl
      · exact hd₁
      · exact hd₁
    · rcases hv s hs with rfl | rfl
      · exact hd₁
      · exact ⟨rfl, by simp [d₁, Disk.withConfig], by simp [d₁, Disk.withConfig],
          .inr ⟨.inr rfl, rfl⟩⟩

lemma readDatabaseState_some {d : Disk} {file : Bytes} {snapshot : ProfileStoreSnapshot}
    (hd : d.database.file = some file) (h : load (some file) = .ok snapshot) :
    readDatabaseState d true = .ok ⟨true, snapshot, some (sha256Hex file)⟩ := by
  simp only [readDatabaseState, hd, h, if_true]

lemma outcome_restoreBackup {j : RepositoryJournal} {d : Disk} {config file : Bytes}
    {actual : Option Bytes} (hc : readConfigSource d = .ok actual)
    (hr : judge j actual (readDatabaseState d true) = .ok .restoreBackup)
    (hb : usableBackup d j = .ok (config, file)) : outcome j d = .ok (some config, some file) := by
  simp only [outcome, hc, ok_bind, hr, hb, pure_eq_ok]

/-- The journal that names a backup has it put back when there is no database. -/
lemma judge_missing {j : RepositoryJournal} {d : Disk} {actual : Option Bytes}
    (hd : d.database.file = none) (hexists : j.oldDatabaseExists = true)
    (hbackup : j.oldDatabaseBackupDirectory.isSome = true) :
    judge j actual (readDatabaseState d true) = .ok .restoreBackup := by
  have hsome : j.oldDatabaseBackupDirectory.isNone = false := by
    rw [← Option.not_isSome, hbackup]
    rfl
  rw [readDatabaseState, hd]
  dsimp only
  split
  · simp [judge, hsome, recoverableReplacementDatabaseFailure]
  · simp [judge, RepositoryJournal.isOld, RepositoryJournal.isTarget, databaseMatches, hexists, hbackup]

/-- **Putting a backup back can be started again.** -/
lemma Restoring.outcome {j : RepositoryJournal} {d s : Disk} {config file : Bytes}
    {actual : Option Bytes} (hj : j.Fits) (hc : readConfigSource d = .ok actual)
    (hr : judge j actual (readDatabaseState d true) = .ok .restoreBackup)
    (hb : usableBackup d j = .ok (config, file)) (hs : Restoring d config file s) :
    outcome j s = .ok (some config, some file) := by
  obtain ⟨hold, hexists, hbackup, snapshot, hload, hisOld⟩ := usableBackup_ok hb
  have hb' : usableBackup s j = .ok (config, file) := by
    rw [usableBackup_congr j (d := d) (by rw [hs.same]), hb]
  have hsource : s.config = d.config → readConfigSource s = .ok actual := by
    intro he
    rw [← hc]
    simp only [readConfigSource, he]
  rcases hs.phase with ⟨hconfig, hfile⟩ | ⟨hconfig, hfile⟩
  · refine outcome_restoreBackup (hsource hconfig) ?_ hb'
    cases hd : d.database.file with
    | none => exact judge_missing (hfile.trans hd) hexists hbackup
    | some f =>
      rw [← hr]
      simp only [readDatabaseState, hfile, hd]
  · have hdb := readDatabaseState_some hfile hload
    by_cases hknown : s.config = j.oldConfig ∨ s.config = some j.newConfig
    · rw [outcome_old hj hknown hdb hisOld, hold, hfile]
    · -- the configuration is neither, so that it is still the one that was found
      have hsame : s.config = d.config := hconfig.resolve_right fun he =>
        hknown (.inl (he.trans hold.symm))
      have hactual := readConfigSource_eq_config (hsource hsame)
      push Not at hknown
      refine outcome_restoreBackup (hsource hsame) ?_ hb'
      rw [hactual, hdb]
      simp [judge, hknown.1, hknown.2, hbackup]

omit [Library] [Sqlite] [Engine] in
/-- What was found when a remedy is chosen. -/
lemma judge_ok {j : RepositoryJournal} {actual : Option Bytes}
    {state : Except RepositoryError DatabaseState} {remedy : Remedy}
    (h : judge j actual state = .ok remedy) :
    remedy = .restoreBackup ∨ ∃ database, state = .ok database ∧
      (actual = j.oldConfig ∨ actual = some j.newConfig) ∧
      ((j.isOld database = true ∧
          (remedy = .nothing ∧ actual = j.oldConfig ∨ remedy = .restoreConfig)) ∨
        (j.isOld database = false ∧ j.isTarget database = true ∧
          (remedy = .nothing ∧ actual = some j.newConfig ∨ remedy = .writeNewConfig))) := by
  unfold judge at h
  split at h
  · split_ifs at h
    cases h
    exact .inl rfl
  next database =>
  split_ifs at h with h1 h2 h3 h4 h5
  · cases h
    exact .inr ⟨database, rfl, .inl h1.1, .inl ⟨h1.2, .inl ⟨rfl, h1.1⟩⟩⟩
  · cases h
    exact .inr ⟨database, rfl, .inr h2.1, .inl ⟨h2.2, .inr rfl⟩⟩
  · cases h
    have hold : j.isOld database = false := by
      by_contra hne
      exact h1 ⟨h3.1, by simpa using hne⟩
    exact .inr ⟨database, rfl, .inl h3.1, .inr ⟨hold, h3.2, .inr rfl⟩⟩
  · cases h
    have hold : j.isOld database = false := by
      by_contra hne
      exact h2 ⟨h4.1, by simpa using hne⟩
    exact .inr ⟨database, rfl, .inr h4.1, .inr ⟨hold, h4.2, .inl ⟨rfl, h4.1⟩⟩⟩
  · cases h
    exact .inl rfl

/-- What a remedy does, by what recovery comes to: none of its steps changes that. -/
lemma applyRemedy_run {j : RepositoryJournal} {d : Disk} {actual config file : Option Bytes}
    {remedy : Remedy} (hj : j.Fits) (hc : readConfigSource d = .ok actual)
    (hr : judge j actual (readDatabaseState d true) = .ok remedy)
    (ho : outcome j d = .ok (config, file)) :
    ∃ v database, (applyRemedy j remedy).run none d =
        ⟨.ok (), { d with config := config, database := database }, v, none⟩ ∧
      database.file = file ∧ (database = d.database ∨
        database = ⟨file, false, false⟩ ∧ j.oldDatabaseBackupDirectory.isSome = true) ∧
      Settled j { d with config := config, database := database } ∧
      outcome j { d with config := config, database := database } = .ok (config, file) ∧
      ∀ s ∈ v, outcome j s = .ok (config, file) := by
  have hactual := readConfigSource_eq_config hc
  rcases judge_ok hr with rfl | ⟨database, hdb, hknown, hcase⟩
  · -- a backup is put back
    have hbackup : ∃ c f, usableBackup d j = .ok (c, f) ∧ config = some c ∧ file = some f := by
      simp only [outcome, hc, ok_bind, hr] at ho
      obtain ⟨⟨c, f⟩, hb, ho⟩ := bind_eq_ok.mp ho
      cases ho
      exact ⟨c, f, hb, rfl, rfl⟩
    obtain ⟨c, f, hb, rfl, rfl⟩ := hbackup
    obtain ⟨v, hrun, hv⟩ := restoreDatabaseReplacementBackup_run hb
    obtain ⟨hold, -, hbackup, snapshot, hload, hisOld⟩ := usableBackup_ok hb
    refine ⟨v, ⟨some f, false, false⟩, hrun, rfl, .inr ⟨rfl, hbackup⟩, ?_, ?_, fun s hs => ?_⟩
    · exact ⟨_, readDatabaseState_some rfl hload, .inl ⟨hold.symm, hisOld⟩⟩
    · exact Restoring.outcome hj hc hr hb ⟨rfl, by simp, by simp, .inr ⟨.inr rfl, rfl⟩⟩
    · exact Restoring.outcome hj hc hr hb (hv s hs)
  · rw [hactual] at hknown
    rcases hcase with ⟨hold, hremedy⟩ | ⟨hold, htarget, hremedy⟩
    · -- the database is the one of before
      have hout := outcome_old hj hknown hdb hold
      rw [hout] at ho
      cases ho
      have hend : outcome j (d.withConfig j.oldConfig) = .ok (j.oldConfig, d.database.file) :=
        outcome_old hj (.inl rfl) hdb hold
      have hsettled : Settled j (d.withConfig j.oldConfig) := ⟨database, hdb, .inl ⟨rfl, hold⟩⟩
      rcases hremedy with ⟨rfl, hsame⟩ | rfl
      · refine ⟨[], d.database, ?_, rfl, .inl rfl, hsettled, hend, by simp⟩
        rw [← hsame, hactual]
        rfl
      · obtain ⟨v, hrun, hv⟩ := restoreConfig_run j.oldConfig d
        refine ⟨v, d.database, hrun, rfl, .inl rfl, hsettled, hend, fun s hs => ?_⟩
        rcases hv s hs with rfl | rfl
        · exact hout
        · exact hend
    · -- the database is the one of after
      have hout := outcome_target hj hknown hdb hold htarget
      rw [hout] at ho
      cases ho
      have hend : outcome j (d.withConfig (some j.newConfig)) =
          .ok (some j.newConfig, d.database.file) := outcome_target hj (.inr rfl) hdb hold htarget
      have hsettled : Settled j (d.withConfig (some j.newConfig)) :=
        ⟨database, hdb, .inr ⟨rfl, htarget⟩⟩
      rcases hremedy with ⟨rfl, hsame⟩ | rfl
      · refine ⟨[], d.database, ?_, rfl, .inl rfl, hsettled, hend, by simp⟩
        rw [← hsame, hactual]
        rfl
      · refine ⟨_, d.database, writeConfigFile_run j.newConfig d, rfl, .inl rfl, hsettled, hend, ?_⟩
        intro s hs
        simp only [List.mem_cons, List.not_mem_nil, or_false] at hs
        rcases hs with rfl | rfl | rfl
        · exact hout
        · exact hend
        · exact hend

/-- What recovery does, by what it comes to. -/
lemma recoverLocked_run (env : Environment) {d : Disk} {files : JournalFiles} {j : RepositoryJournal}
    (ht : d.transaction = some files) (hj : readJournal files = .ok j) :
    (∀ e, outcome j d = .error e → (recoverLocked env).run none d = ⟨.error e, d, [], none⟩) ∧
    ∀ config file, outcome j d = .ok (config, file) →
      ∃ v database, (recoverLocked env).run none d =
        ⟨.ok (), cleared j.kind { d with config := config, database := database }, v, none⟩ ∧
        database.file = file ∧ (database = d.database ∨
          database = ⟨file, false, false⟩ ∧ j.oldDatabaseBackupDirectory.isSome = true) ∧
        Settled j { d with config := config, database := database } ∧
        ∀ s ∈ v, outcome j s = .ok (config, file) := by
  have hstart : (recoverLocked env).run none d = (do
      let actualConfig ← Prog.read readConfigSource
      let remedy ← Prog.read fun d => judge j actualConfig (readDatabaseState d true)
      applyRemedy j remedy
      clearJournal env j.kind : Program Unit).run none d := by
    rw [recoverLocked, look_bind, ht]
    dsimp only
    rw [read_bind_ok (g := fun _ => readJournal files) hj]
  rw [hstart]
  cases hc : readConfigSource d with
  | error e =>
    have hout : outcome j d = .error e := by simp only [outcome, hc, error_bind]
    refine ⟨fun e' he => ?_, fun config file ho => ?_⟩
    · rw [hout] at he
      cases he
      exact read_bind_error hc
    · rw [hout] at ho
      cases ho
  | ok actual =>
    rw [read_bind_ok hc]
    cases hr : judge j actual (readDatabaseState d true) with
    | error e =>
      have hout : outcome j d = .error e := by simp only [outcome, hc, ok_bind, hr, error_bind]
      refine ⟨fun e' he => ?_, fun config file ho => ?_⟩
      · rw [hout] at he
        cases he
        exact read_bind_error (g := fun d => judge j actual (readDatabaseState d true)) hr
      · rw [hout] at ho
        cases ho
    | ok remedy =>
      rw [read_bind_ok (g := fun d => judge j actual (readDatabaseState d true)) hr]
      refine ⟨fun e he => ?_, fun config file ho => ?_⟩
      · -- only a backup that cannot be used stops recovery here
        have hremedy : remedy = .restoreBackup ∧ usableBackup d j = .error e := by
          simp only [outcome, hc, ok_bind, hr] at he
          cases remedy with
          | restoreBackup =>
            cases hb : usableBackup d j with
            | error e' => rw [hb] at he; cases he; exact ⟨rfl, rfl⟩
            | ok x => rw [hb] at he; cases he
          | _ => cases he
        rw [hremedy.1]
        apply run_bind_error
        rw [applyRemedy, restoreDatabaseReplacementBackup,
          read_bind_error (g := fun d => usableBackup d j) hremedy.2]
      · obtain ⟨v, database, hrun, hfile, hdb, hsettled, hend, hv⟩ :=
          applyRemedy_run (readJournal_lengths hj) hc hr ho
        obtain ⟨v', hclear, hv'⟩ :=
          clearJournal_run env j.kind { d with config := config, database := database }
        refine ⟨v ++ v', database, ?_, hfile, hdb, hsettled, fun s hs => ?_⟩
        · rw [run_bind_ok hrun, hclear]
          rfl
        · rcases List.mem_append.mp hs with hs | hs
          · exact hv s hs
          · rw [(hv' s hs).agrees.outcome, hend]

/-- **Recovery is correct and can be started again.** For every journal that can be read and all
other files, recovery that succeeds ends with the two files of before or with those of after;
recovery that fails changes neither; and if it stops after any of its steps while the journal
can still be read, it ends with the same two files when it is run again. -/
theorem recoverLocked_correct (env : Environment) {d : Disk} {files : JournalFiles}
    {j : RepositoryJournal} (ht : d.transaction = some files) (hj : readJournal files = .ok j) :
    let r := (recoverLocked env).run none d
    (r.result = .ok () → Settled j r.disk) ∧
    (∀ e, r.result = .error e → r.disk.config = d.config ∧ r.disk.database = d.database) ∧
    ∀ s ∈ r.visited, ∀ files', s.transaction = some files' → readJournal files' = .ok j →
      ∀ env', ((recoverLocked env').run none s).result = r.result ∧
        ((recoverLocked env').run none s).disk.config = r.disk.config ∧
        ((recoverLocked env').run none s).disk.database.file = r.disk.database.file := by
  obtain ⟨herror, hok⟩ := recoverLocked_run env ht hj
  cases ho : outcome j d with
  | error e =>
    rw [herror e ho]
    exact ⟨by simp, by simp, by simp⟩
  | ok pair =>
    obtain ⟨config, file⟩ := pair
    obtain ⟨v, database, hrun, hfile, -, hsettled, hv⟩ := hok config file ho
    rw [hrun]
    refine ⟨fun _ => hsettled, by simp, fun s hs files' ht' hj' env' => ?_⟩
    obtain ⟨-, hok'⟩ := recoverLocked_run env' ht' hj'
    obtain ⟨v', database', hrun', hfile', -, -, -⟩ := hok' config file (hv s hs)
    rw [hrun']
    exact ⟨rfl, rfl, hfile'.trans hfile.symm⟩

end Restart

section Plain

attribute [local instance] bitLibrary parserSqlite plainEngine

def plainEnvironment : Environment where
  root := str "/app"
  now := []
  listing := ⟨[.manifest, .oldConfig, .newConfig], by decide⟩

/-- The text of the default settings. -/
def defaultConfig : Bytes := (serializeApplicationConfigDocument {}).toOption.getD []

/-- A repository with the default settings and no profile. -/
def plainDisk : Disk where
  config := some defaultConfig
  database := { file := some (Engine.created []) }

def plainJournal : RepositoryJournal where
  kind := str "commit"
  oldConfig := some (str "old")
  newConfig := str "new"
  oldDatabaseExists := true
  targetProfileRevision := 1

def plainJournalFiles : JournalFiles :=
  journalFiles plainJournal ((dumpPretty (.obj (manifestJson plainJournal))).getD [])

/-- A save that stopped before its database was changed. -/
def plainPending : Disk :=
  (plainDisk.withConfig (some (str "new"))).withJournal (some plainJournalFiles)

theorem recoverLocked_correct_plain :
    readJournal plainJournalFiles = .ok plainJournal ∧
    ((recoverLocked plainEnvironment).run none plainPending).result = .ok () ∧
    Settled plainJournal ((recoverLocked plainEnvironment).run none plainPending).disk := by
  have hread : readJournal plainJournalFiles = .ok plainJournal := by
    obtain ⟨text, htext, hread⟩ := readJournal_written (j := plainJournal)
      ⟨by decide, by decide, by decide, rfl, rfl, by decide, rfl⟩
    rw [plainJournalFiles, htext]
    exact hread
  obtain ⟨⟨config, file⟩, houtcome⟩ := Option.isSome_iff_exists.mp
    (show (outcome plainJournal plainPending).toOption.isSome = true by decide)
  obtain ⟨v, database, hrun, -⟩ :=
    (recoverLocked_run plainEnvironment rfl hread).2 config file (toOption_eq_some.mp houtcome)
  have hok : ((recoverLocked plainEnvironment).run none plainPending).result = .ok () := by rw [hrun]
  exact ⟨hread, hok, (recoverLocked_correct plainEnvironment rfl hread).1 hok⟩

end Plain

end CcsTrans.Repository
