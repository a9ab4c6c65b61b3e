import CcsTrans.Faults
import CcsTrans.Repository.Crash

/-!
What a disk holds.

A disk without a journal holds what its two files say, or nothing yet. A disk with a journal holds
what recovery makes of it. Recovery and the creation of a repository keep this, wherever they stop
and whichever of their steps fails, but for two kinds of disks: those of which the journal is torn,
and those of which the database has no schema yet under a journal. From these nothing is recovered.
-/

namespace CcsTrans.Repository

open CcsTrans.Text CcsTrans.Core CcsTrans.Json CcsTrans.Config CcsTrans.Storage CcsTrans.Fallible
open CcsTrans.Durable

section Pending

variable [Library] [Sqlite] [Engine]

/-! ### What a disk holds -/

/-- The journal cannot be read any more, or is that of a database which has no schema yet. -/
def Broken (d : Disk) : Prop :=
  ∃ files, d.transaction = some files ∧ ((∃ e, readJournal files = .error e) ∨
    ∃ j file e, readJournal files = .ok j ∧ j.oldDatabaseBackupDirectory = none ∧
      d.database.file = some file ∧ Storage.load (some file) = .error e)

/-- Every load finds the snapshot. -/
def Loads (d : Disk) (c : ConfigurationSnapshot) : Prop :=
  ∀ env, ((load env).run none d).result = .ok c

/-- A new repository, with the text of the default settings. -/
def newSnapshot (newConfig : Bytes) : ConfigurationSnapshot where
  revision := ⟨some newConfig, 0⟩

/-- There is nothing yet. -/
structure Blank (d : Disk) : Prop where
  config : d.config = none
  database : d.database = {}
  transaction : d.transaction = none

/-- There is no journal, and a load finds the snapshot. -/
inductive Rests (d : Disk) : ConfigurationSnapshot → Prop
  | blank {newConfig : Bytes} (hnew : serializeApplicationConfigDocument {} = .ok newConfig) (h : Blank d) :
      Rests d (newSnapshot newConfig)
  | ready {c : ConfigurationSnapshot} (h : Ready d c) : Rests d c

/-- There is a journal, and recovery changes no more than the configuration. -/
structure Pends (d : Disk) (c : ConfigurationSnapshot) (files : JournalFiles) (j : RepositoryJournal)
    (config : Option Bytes) : Prop where
  transaction : d.transaction = some files
  read : readJournal files = .ok j
  kind : j.kind ≠ str "migration"
  backup : j.oldDatabaseBackupDirectory = none
  torn : ∀ files', files.Torn files' → ∃ e, readJournal files' = .error e
  outcome : outcome j d = .ok (config, d.database.file)
  rests : Rests ((d.withConfig config).withJournal none) c

/-- A load finds the snapshot, after recovery or at once. -/
inductive Holds (d : Disk) (c : ConfigurationSnapshot) : Prop
  | rests (h : Rests d c)
  | pends {files : JournalFiles} {j : RepositoryJournal} {config : Option Bytes}
      (h : Pends d c files j config)

/-- The repository is lost, or it holds one of these snapshots. -/
def Safe (good : ConfigurationSnapshot → Prop) (s : Disk) : Prop := Broken s ∨ ∃ c, good c ∧ Holds s c

variable {d s : Disk} {c : ConfigurationSnapshot} {good : ConfigurationSnapshot → Prop} {files : JournalFiles}
  {j : RepositoryJournal} {config : Option Bytes}

lemma Holds.safe (h : Holds s c) (hc : good c) : Safe good s := .inr ⟨c, hc, h⟩

lemma Rests.transaction (h : Rests d c) : d.transaction = none := by
  cases h with
  | blank _ h => exact h.transaction
  | ready h => exact h.transaction

/-- A journal of which files are gone is that of a repository that is lost. -/
lemma broken_of_torn (hfiles : ∀ files', files.Torn files' → ∃ e, readJournal files' = .error e)
    {files' : JournalFiles} (hs : s.transaction = some files') (ht : files.Torn files') : Broken s :=
  ⟨files', hs, .inl (hfiles files' ht)⟩

/-! ### Recovery -/

omit [Library] [Sqlite] [Engine] in
/-- While a journal is deleted it is whole, gone or torn. -/
lemma Clearing.stages {kind : Bytes} (hkind : kind ≠ str "migration") (hd : d.transaction = some files)
    (h : Clearing kind d s) :
    s = d ∨ s = d.withJournal none ∨ ∃ files', s.transaction = some files' ∧ files.Torn files' := by
  have hsame : s = d.withJournal s.transaction := by
    rw [h.same, h.migrating hkind]
    rfl
  rcases h.transaction with ht | ht | ⟨f, files', hf, hs, htorn⟩
  · left
    rw [hsame, ht]
    rfl
  · right
    left
    rw [hsame, ht]
  · rw [hd] at hf
    cases hf
    exact .inr (.inr ⟨files', hs, htorn⟩)

/-- A remedy without a backup changes no more than the configuration. -/
lemma applyRemedy_config {remedy : Remedy} (hremedy : remedy ≠ .restoreBackup) (j : RepositoryJournal)
    (d : Disk) : ∃ config v, (applyRemedy j remedy).run none d = ⟨.ok (), d.withConfig config, v, none⟩ ∧
      ∀ s ∈ v, ∃ config', s = d.withConfig config' := by
  cases remedy with
  | nothing => exact ⟨d.config, [], rfl, by simp⟩
  | restoreConfig =>
    obtain ⟨v, hrun, hv⟩ := restoreConfig_run j.oldConfig d
    refine ⟨j.oldConfig, v, hrun, fun s hs => ?_⟩
    rcases hv s hs with rfl | rfl
    · exact ⟨s.config, rfl⟩
    · exact ⟨j.oldConfig, rfl⟩
  | writeNewConfig =>
    refine ⟨some j.newConfig, _, writeConfigFile_run j.newConfig d, fun s hs => ?_⟩
    simp only [List.mem_cons, List.not_mem_nil, or_false] at hs
    rcases hs with rfl | rfl | rfl
    · exact ⟨s.config, rfl⟩
    · exact ⟨_, rfl⟩
    · exact ⟨_, rfl⟩
  | restoreBackup => exact absurd rfl hremedy

lemma outcome_ok {pair : Option Bytes × Option Bytes} (h : Repository.outcome j d = .ok pair) :
    ∃ actual remedy, readConfigSource d = .ok actual ∧
      judge j actual (readDatabaseState d true) = .ok remedy := by
  obtain ⟨actual, hactual, h⟩ := bind_eq_ok.mp h
  obtain ⟨remedy, hremedy, -⟩ := bind_eq_ok.mp h
  exact ⟨actual, remedy, hactual, hremedy⟩

omit [Library] [Sqlite] [Engine] in
/-- Without a backup none is put back. -/
lemma judge_backup {actual : Option Bytes} {state : Except RepositoryError DatabaseState} {remedy : Remedy}
    (hbackup : j.oldDatabaseBackupDirectory = none) (h : judge j actual state = .ok remedy) :
    remedy ≠ .restoreBackup := by
  rintro rfl
  unfold judge at h
  rw [hbackup] at h
  split at h
  · simp at h
  · split_ifs at h with _ _ _ _ hsome
    all_goals cases h
    cases hsome

/-- Recovery that was started goes on from wherever it stops, unless the journal is torn. -/
lemma Pends.recover (h : Pends d c files j config) (env : Environment) :
    ∃ v, (recoverLocked env).run none d = ⟨.ok (), (d.withConfig config).withJournal none, v, none⟩ ∧
      ∀ s ∈ v, Broken s ∨ Holds s c := by
  obtain ⟨actual, remedy, hactual, hremedy⟩ := outcome_ok h.outcome
  obtain ⟨config', v, hrun, hv⟩ := applyRemedy_config (judge_backup h.backup hremedy) j d
  obtain ⟨v', database, hrun', -, -, -, hend, hv'⟩ :=
    applyRemedy_run (readJournal_lengths h.read) hactual hremedy h.outcome
  rw [hrun] at hrun'
  obtain ⟨hdisk, rfl⟩ : d.withConfig config' = { d with config := config, database := database } ∧ v = v' := by
    simpa using hrun'
  obtain rfl : config' = config := congrArg Disk.config hdisk
  rw [← hdisk] at hend
  -- a disk on the way, with the journal whole
  have hpends : ∀ config'', Repository.outcome j (d.withConfig config'') = .ok (config', d.database.file) →
      Holds (d.withConfig config'') c := fun _ hout =>
    .pends ⟨h.transaction, h.read, h.kind, h.backup, h.torn, hout, h.rests⟩
  obtain ⟨w, hclear, hw⟩ := clearJournal_run env j.kind (d.withConfig config')
  have hcleared : cleared j.kind (d.withConfig config') = (d.withConfig config').withJournal none := by
    rw [cleared, if_neg h.kind]
    rfl
  rw [hcleared] at hclear
  refine ⟨v ++ w, ?_, fun s hs => ?_⟩
  · rw [recoverLocked, look_bind, h.transaction]
    dsimp only
    rw [read_bind_ok (g := fun _ => readJournal files) h.read, read_bind_ok hactual,
      read_bind_ok (g := fun d => judge j actual (readDatabaseState d true)) hremedy, run_bind_ok hrun, hclear]
    rfl
  · rcases List.mem_append.mp hs with hs | hs
    · obtain ⟨config'', rfl⟩ := hv s hs
      exact .inr (hpends config'' (hv' _ hs))
    · have htransaction : (d.withConfig config').transaction = some files := h.transaction
      rcases (hw s hs).stages h.kind htransaction with rfl | rfl | ⟨files', hs, htorn⟩
      · exact .inr (hpends config' hend)
      · exact .inr (.rests h.rests)
      · exact .inl (broken_of_torn h.torn hs htorn)

/-- Recovery of a repository that is lost fails, and changes nothing. -/
lemma Broken.recover (h : Broken d) (env : Environment) :
    ∃ e, (recoverLocked env).run none d = ⟨.error e, d, [], none⟩ := by
  obtain ⟨files, ht, ⟨e, hread⟩ | ⟨j, file, e, hread, hbackup, hfile, hload⟩⟩ := h
  · refine ⟨e, ?_⟩
    rw [recoverLocked, look_bind, ht]
    dsimp only
    rw [read_bind_error (g := fun _ => readJournal files) hread]
  · obtain ⟨herror, -⟩ := recoverLocked_run env ht hread
    have hstate : readDatabaseState d true = .error (fromStore e) := by
      simp only [readDatabaseState, hfile, hload]
    cases hactual : readConfigSource d with
    | error e' => exact ⟨e', herror e' (by simp only [outcome, hactual, error_bind])⟩
    | ok actual =>
      refine ⟨fromStore e, herror _ ?_⟩
      simp [outcome, hactual, hstate, judge, hbackup]

/-! ### Recovery of which a step fails -/

omit [Library] [Sqlite] [Engine] in
lemma plain_restoreConfig (config : Option Bytes) (d : Disk) : Plain (restoreConfig config) d := by
  cases config with
  | some content => exact plain_block _ d
  | none =>
    refine plain_look ?_
    split
    · exact plain_block _ d
    · exact plain_still fun _ => rfl

omit [Library] [Sqlite] [Engine] in
lemma plain_clearJournal (env : Environment) (kind : Bytes) (d : Disk) : Plain (clearJournal env kind) d :=
  plain_look (plain_block _ d)

lemma plain_applyRemedy (j : RepositoryJournal) (remedy : Remedy) (d : Disk) : Plain (applyRemedy j remedy) d := by
  cases remedy with
  | nothing => exact plain_still fun _ => rfl
  | restoreConfig => exact plain_restoreConfig _ d
  | writeNewConfig => exact plain_block _ d
  | restoreBackup =>
    refine plain_read fun backup _ => ?_
    exact plain_look (plain_bind (plain_block _ _) fun _ _ => plain_restoreConfig _ _)

lemma plain_recoverLocked (env : Environment) (d : Disk) : Plain (recoverLocked env) d := by
  unfold recoverLocked
  refine plain_look ?_
  split
  · exact plain_still fun _ => rfl
  · refine plain_read fun j _ => plain_read fun actual _ => plain_read fun remedy _ => ?_
    exact plain_bind (plain_applyRemedy j remedy d) fun _ _ => plain_clearJournal env j.kind _

/-- Recovery keeps what a disk holds. -/
lemma careful_recover (env : Environment) (h : Holds d c) (hc : good c) :
    Careful (Safe good) (Safe good) (recoverLocked env) d := by
  refine (plain_recoverLocked env d).fails ?_
  cases h with
  | rests h =>
    rw [stops, recoverLocked_none env h.transaction none]
    exact List.forall_mem_singleton.mpr (Holds.safe (.rests h) hc)
  | pends h =>
    obtain ⟨v, hrun, hv⟩ := h.recover env
    rw [stops, hrun]
    refine List.forall_mem_cons.mpr ⟨Holds.safe (.pends h) hc, fun s hs => ?_⟩
    exact (hv s hs).imp_right fun hs => ⟨c, hc, hs⟩

/-! ### A new repository -/

/-- The journal of a repository that is created. -/
def initialJournal (newConfig : Bytes) : RepositoryJournal where
  kind := str "initialize"
  newConfig := newConfig

/-- The disk once the repository is created. -/
def Disk.created (d : Disk) (newConfig file : Bytes) : Disk :=
  { d with config := some newConfig, database := { file := some file } }

section New

variable {newConfig text : Bytes}

omit [Sqlite] [Engine] in
lemma exists_newConfig : ∃ newConfig, serializeApplicationConfigDocument {} = .ok newConfig :=
  serializeApplication_of_valid (toOption_eq_some.mp (by decide)) (by decide) (by decide)

omit [Library] [Sqlite] [Engine] in
lemma initialJournal_kind (newConfig : Bytes) : (initialJournal newConfig).kind ≠ str "migration" := by
  show str "initialize" ≠ str "migration"
  decide

omit [Sqlite] [Engine] in
lemma initialJournal_inOrder (hnew : serializeApplicationConfigDocument {} = .ok newConfig) :
    (initialJournal newConfig).InOrder where
  kind := by simp [initialJournal]
  oldConfig := nofun
  newConfig := (parse_serializeApplication hnew).2.2
  oldRevision := rfl
  targetRevision := rfl
  hashes := by simp [initialJournal]
  backup := rfl

variable (hj : readJournal (journalFiles (initialJournal newConfig) text) = .ok (initialJournal newConfig))

include hj

omit [Sqlite] [Engine] in
/-- There is no file but the manifest and the new configuration. -/
lemma initialJournal_torn {files : JournalFiles}
    (h : (journalFiles (initialJournal newConfig) text).Torn files) : ∃ e, readJournal files = .error e := by
  cases hr : readJournal files with
  | error e => exact ⟨e, rfl⟩
  | ok j' =>
    refine absurd hr (readJournal_torn hj (h.rest .manifest) ?_)
    obtain ⟨f, hsome, hgone⟩ := h.gone
    cases f with
    | manifest => exact .inl hgone
    | oldConfig => cases hsome
    | newConfig => exact .inr (.inl hgone)

omit hj in
lemma ready_created (hnew : serializeApplicationConfigDocument {} = .ok newConfig)
    (hd : d.transaction = none) (now : Bytes) :
    Ready (d.created newConfig (Engine.created now)) (newSnapshot newConfig) := by
  obtain ⟨hparse, hschema, hlen⟩ := parse_serializeApplication hnew
  have hvalid : validateDocument ⟨{}, []⟩ = .ok () := toOption_eq_some.mp (by decide)
  have hconverts : configurationSnapshotToConfigDocument (newSnapshot newConfig) = .ok ⟨{}, []⟩ := by
    simp only [configurationSnapshotToConfigDocument, newSnapshot, convertProfiles, ok_bind, hvalid, pure_eq_ok]
  exact ⟨hd, rfl, ⟨newConfig, rfl, hlen, hschema, hparse⟩, load_created now, _, hconverts⟩

end New

/-- The disk behind a published journal and a new configuration, with a database or without. -/
def Disk.uncreated (d : Disk) (newConfig text : Bytes) (file : Option Bytes) : Disk :=
  { d with
    config := some newConfig
    database := { file := file }
    transaction := some (journalFiles (initialJournal newConfig) text) }

section Uncreated

variable {newConfig text : Bytes} (hnew : serializeApplicationConfigDocument {} = .ok newConfig)
  (hj : readJournal (journalFiles (initialJournal newConfig) text) = .ok (initialJournal newConfig))
  (h : Blank d)

include hnew hj h

/-- Before the database is there, recovery starts over. -/
lemma holds_uncreated (hc : config = none ∨ config = some newConfig) :
    Holds ((d.withConfig config).withJournal (some (journalFiles (initialJournal newConfig) text)))
      (newSnapshot newConfig) := by
  have hdatabase : readDatabaseState ((d.withConfig config).withJournal
      (some (journalFiles (initialJournal newConfig) text))) true = .ok {} := by
    simp [readDatabaseState, Disk.withConfig, Disk.withJournal, h.database]
  have hout := outcome_old (readJournal_lengths hj) hc hdatabase rfl
  refine .pends ⟨rfl, hj, initialJournal_kind newConfig, rfl, fun _ => initialJournal_torn hj, hout, ?_⟩
  exact .blank hnew ⟨rfl, h.database, rfl⟩

lemma holds_published :
    Holds (d.withJournal (some (journalFiles (initialJournal newConfig) text))) (newSnapshot newConfig) := by
  have hsame : d.withConfig none = d := by rw [Disk.withConfig, ← h.config]
  have hholds := holds_uncreated hnew hj h (.inl rfl)
  rwa [hsame] at hholds

lemma holds_configured : Holds (d.uncreated newConfig text none) (newSnapshot newConfig) := by
  have hholds := holds_uncreated hnew hj h (.inr rfl)
  simpa only [Disk.withConfig, Disk.withJournal, Disk.uncreated, h.database] using hholds

omit h in
/-- Once it is there, recovery keeps it. -/
lemma holds_created (now : Bytes) :
    Holds (d.uncreated newConfig text (some (Engine.created now))) (newSnapshot newConfig) := by
  have hdatabase := readDatabaseState_some
    (d := d.uncreated newConfig text (some (Engine.created now))) rfl (load_created now)
  have hout := outcome_target (readJournal_lengths hj) (.inr rfl) hdatabase rfl rfl
  refine .pends ⟨rfl, hj, initialJournal_kind newConfig, rfl, fun _ => initialJournal_torn hj, hout, .ready ?_⟩
  exact ready_created hnew (d := d.withJournal none) rfl now

omit hnew h in
/-- While the database has no schema there is no recovery. -/
lemma broken_uncreated {file : Bytes} {e : StoreError} (he : Storage.load (some file) = .error e) :
    Broken (d.uncreated newConfig text (some file)) :=
  ⟨_, rfl, .inr ⟨initialJournal newConfig, file, e, hj, rfl, rfl, he⟩⟩

omit [Library] [Sqlite] [Engine] hnew hj in
lemma writeConfigFile_uncreated :
    (block (writeConfigFile newConfig)).run none
        (d.withJournal (some (journalFiles (initialJournal newConfig) text))) =
      ⟨.ok (), d.uncreated newConfig text none,
        [d.withJournal (some (journalFiles (initialJournal newConfig) text)),
          d.uncreated newConfig text none, d.uncreated newConfig text none], none⟩ := by
  rw [writeConfigFile_run]
  simp only [Disk.withJournal, Disk.withConfig, Disk.uncreated, h.database]

omit hnew hj h in
/-- A database is created in an empty file, of which nothing can be loaded before it has its schema. -/
lemma openOrCreate_uncreated (env : Environment) :
    (openOrCreate env atDatabase).run none (d.uncreated newConfig text none) =
      ⟨.ok {}, d.uncreated newConfig text (some (Engine.created env.now)),
        [d.uncreated newConfig text (some []), d.uncreated newConfig text (some Engine.header),
          d.uncreated newConfig text (some (Engine.created env.now))], none⟩ := by
  have hread : Storage.load (atDatabase.files (performed (createSteps env atDatabase)
      (d.uncreated newConfig text none))).file = .ok {} := load_created env.now
  have hnone : (atDatabase.files (d.uncreated newConfig text none)).file.isSome = false := rfl
  rw [openOrCreate, look_bind, hnone, if_neg Bool.false_ne_true, run_bind_ok (block_none _ _), run_read, hread]
  rfl

omit hnew in
/-- The journal of a new repository is deleted behind the database. -/
lemma clearJournal_created (env : Environment) (now : Bytes) :
    ∃ v, (clearJournal env []).run none (d.uncreated newConfig text (some (Engine.created now))) =
        ⟨.ok (), d.created newConfig (Engine.created now), v, none⟩ ∧
      ∀ s ∈ v, s = d.uncreated newConfig text (some (Engine.created now)) ∨
        s = d.created newConfig (Engine.created now) ∨ Broken s := by
  have hd : (d.created newConfig (Engine.created now)).transaction = none := h.transaction
  obtain ⟨v, hclear, hv⟩ := clearJournal_run env [] ((d.created newConfig (Engine.created now)).withJournal
    (some (journalFiles (initialJournal newConfig) text)))
  rw [cleared_withJournal hd] at hclear
  refine ⟨v, hclear, fun s hs => ?_⟩
  rcases (hv s hs).cases hd with rfl | rfl | ⟨files', hs, htorn⟩
  · exact .inl rfl
  · exact .inr (.inl rfl)
  · exact .inr (.inr (broken_of_torn (fun _ => initialJournal_torn hj) hs htorn))

/-- Where there is no database, the files are removed and the failure is thrown on. -/
lemma failsTo_uncreated (env : Environment) (e : RepositoryError) (file : Option Bytes)
    (hc : good (newSnapshot newConfig)) :
    FailsTo (Safe good) (Safe good) (do
      block (removeDatabaseFamily onDatabase)
      restoreConfig none
      clearJournal env []
      throw e : Program Unit) (d.uncreated newConfig text file) := by
  let d₁ := d.uncreated newConfig text none
  let files := journalFiles (initialJournal newConfig) text
  have hremove : (block (removeDatabaseFamily onDatabase)).run none (d.uncreated newConfig text file) =
      ⟨.ok (), d₁, [d₁, d₁, d₁, d₁], none⟩ := block_none _ _
  obtain ⟨v, hrestore, hv⟩ := restoreConfig_run none d₁
  have hback : d₁.withConfig none = d.withJournal (some files) := by
    simp only [d₁, files, Disk.uncreated, Disk.withConfig, Disk.withJournal, h.config, h.database]
  rw [hback] at hrestore hv
  obtain ⟨w, hclear, hw⟩ := clearJournal_run env [] (d.withJournal (some files))
  rw [cleared_withJournal h.transaction] at hclear
  have hpublished : Safe good (d.withJournal (some files)) := (holds_published hnew hj h).safe hc
  have hconfigured : Safe good d₁ := (holds_configured hnew hj h).safe hc
  have hblank : Safe good d := Holds.safe (.rests (.blank hnew h)) hc
  refine ⟨e, d, [d₁, d₁, d₁, d₁] ++ (v ++ w), ?_, hblank, fun s hs => ?_⟩
  · rw [run_bind_ok hremove, run_bind_ok hrestore, run_bind_ok hclear]
    simp
  · simp only [List.mem_append, List.mem_cons, List.not_mem_nil, or_false, or_self] at hs
    rcases hs with rfl | hs | hs
    · exact hconfigured
    · rcases hv s hs with rfl | rfl
      · exact hconfigured
      · exact hpublished
    · rcases (hw s hs).cases h.transaction with rfl | rfl | ⟨files', hs, htorn⟩
      · exact hpublished
      · exact hblank
      · exact .inl (broken_of_torn (fun _ => initialJournal_torn hj) hs htorn)

end Uncreated

/-- A repository is created. -/
lemma initializeFreshLocked_run (env : Environment) {newConfig : Bytes}
    (hnew : serializeApplicationConfigDocument {} = .ok newConfig) (h : Blank d) :
    ∃ v, (initializeFreshLocked env).run none d =
      ⟨.ok (), d.created newConfig (Engine.created env.now), v, none⟩ := by
  obtain ⟨text, v, -, hj, hjournal, -⟩ := writeJournal_run (initialJournal_inOrder hnew) h.transaction
  obtain ⟨w, hclear, -⟩ := clearJournal_created hj h env env.now
  rw [initializeFreshLocked_eq env hnew, initializeWith]
  change ∃ v, (writeJournal (initialJournal newConfig) >>= _).run none d = _
  rw [run_bind_ok hjournal, run_bind_ok (writeConfigFile_uncreated h), attempt_bind (openOrCreate_uncreated env)]
  dsimp only
  rw [if_neg (by simp), hclear]
  exact ⟨_, rfl⟩

omit [Sqlite] [Engine] in
lemma plain_writeJournal (j : RepositoryJournal) (d : Disk) : Plain (writeJournal j) d := by
  unfold writeJournal
  refine plain_look ?_
  cases d.transaction.isSome with
  | true => exact plain_still fun _ => rfl
  | false =>
    cases dumpPretty (.obj (manifestJson j)) with
    | none => exact plain_still fun _ => rfl
    | some text => exact plain_block _ _

lemma plain_openOrCreate (env : Environment) (place : Place) (d : Disk) : Plain (openOrCreate env place) d :=
  plain_look (plain_bind (plain_block _ _) fun _ _ => plain_still fun _ => rfl)

/-- A repository is created, and can be created again from wherever that stops or fails, but for the
time in which its database has no schema. -/
lemma careful_initializeFreshLocked (env : Environment) {newConfig : Bytes}
    (hnew : serializeApplicationConfigDocument {} = .ok newConfig) (h : Blank d)
    (hc : good (newSnapshot newConfig)) : Careful (Safe good) (Safe good) (initializeFreshLocked env) d := by
  obtain ⟨text, v, -, hj, hjournal, hv⟩ := writeJournal_run (initialJournal_inOrder hnew) h.transaction
  have hpublished : Safe good (d.withJournal (some (journalFiles (initialJournal newConfig) text))) :=
    (holds_published hnew hj h).safe hc
  have hconfigured : Safe good (d.uncreated newConfig text none) := (holds_configured hnew hj h).safe hc
  have hcreated : Safe good (d.uncreated newConfig text (some (Engine.created env.now))) :=
    (holds_created hnew hj env.now).safe hc
  have hempty : Safe good (d.uncreated newConfig text (some [])) := .inl (broken_uncreated hj rfl)
  have hheader : Safe good (d.uncreated newConfig text (some Engine.header)) :=
    .inl (broken_uncreated hj load_header)
  rw [initializeFreshLocked_eq env hnew, initializeWith]
  change Careful _ _ (writeJournal (initialJournal newConfig) >>= _) d
  refine careful_bind_ok ((plain_writeJournal _ d).fails ?_) hjournal ?_
  · rw [stops, hjournal]
    refine List.forall_mem_cons.mpr ⟨Holds.safe (.rests (.blank hnew h)) hc, fun s hs => ?_⟩
    rcases hv s hs with rfl | rfl
    · exact Holds.safe (.rests (.blank hnew h)) hc
    · exact hpublished
  refine careful_bind_ok ((plain_block _ _).fails ?_) (writeConfigFile_uncreated h) ?_
  · rw [stops, writeConfigFile_uncreated h]
    simp [hpublished, hconfigured]
  refine careful_attempt (Q := fun s => ∃ file, s = d.uncreated newConfig text file)
    ((plain_openOrCreate env atDatabase _).careful.mono ?_ ?_) (openOrCreate_uncreated env) ?_ ?_
  · rw [stops, openOrCreate_uncreated env]
    simp [hconfigured, hempty, hheader, hcreated]
  · rw [stops, openOrCreate_uncreated env]
    intro s hs
    simp only [List.mem_cons, List.not_mem_nil, or_false] at hs
    rcases hs with rfl | rfl | rfl | rfl
    all_goals exact ⟨_, rfl⟩
  · obtain ⟨w, hclear, hw⟩ := clearJournal_created hj h env env.now
    dsimp only
    rw [if_neg (by simp)]
    refine (plain_clearJournal env [] _).fails ?_
    rw [stops, hclear]
    refine List.forall_mem_cons.mpr ⟨hcreated, fun s hs => ?_⟩
    rcases hw s hs with rfl | rfl | hbroken
    · exact hcreated
    · exact Holds.safe (.rests (.ready (ready_created hnew h.transaction _))) hc
    · exact .inl hbroken
  · rintro e _ ⟨file, rfl⟩
    exact failsTo_uncreated hnew hj h env (fromStore e) file hc

/-! ### Loads -/

lemma Rests.ensureCreated (h : Rests d c) (env : Environment) :
    ∃ d' v, (ensureCreated env).run none d = ⟨.ok (), d', v, none⟩ ∧ Ready d' c := by
  cases h with
  | ready h =>
    refine ⟨d, [], ?_, h⟩
    obtain ⟨source, hsource, -⟩ := h.reads.source
    rw [Repository.ensureCreated, read_bind_ok h.reads.readConfigSource_eq, hsource]
    rfl
  | @blank newConfig hnew h =>
    obtain ⟨v, hrun⟩ := initializeFreshLocked_run env hnew h
    refine ⟨d.created newConfig (Engine.created env.now), v, ?_, ready_created hnew h.transaction env.now⟩
    have hsource : readConfigSource d = .ok none := by rw [readConfigSource, h.config]
    have hnothing : ((none : Option Bytes).isNone && !({} : DatabaseFiles).file.isSome) = true := rfl
    rw [Repository.ensureCreated, read_bind_ok hsource, look_bind, h.database, if_pos hnothing, hrun]

lemma careful_ensureCreated (env : Environment) (h : Rests d c) (hc : good c) :
    Careful (Safe good) (Safe good) (ensureCreated env) d := by
  cases h with
  | ready h =>
    obtain ⟨source, hsource, -⟩ := h.reads.source
    refine careful_still (x := .ok ()) fun w => ?_
    rw [ensureCreated, read_bind_ok h.reads.readConfigSource_eq, hsource]
    rfl
  | @blank newConfig hnew h =>
    refine Careful.congr (fun w => ?_) (careful_initializeFreshLocked env hnew h hc)
    have hsource : readConfigSource d = .ok none := by rw [readConfigSource, h.config]
    have hnothing : ((none : Option Bytes).isNone && !({} : DatabaseFiles).file.isSome) = true := rfl
    rw [ensureCreated, read_bind_ok hsource, look_bind, h.database, if_pos hnothing]

/-- Recovery leaves a disk without a journal. -/
lemma Holds.recover (h : Holds d c) (env : Environment) :
    ∃ d' v, (recoverLocked env).run none d = ⟨.ok (), d', v, none⟩ ∧ Rests d' c := by
  cases h with
  | rests h => exact ⟨d, [], recoverLocked_none env h.transaction none, h⟩
  | pends h =>
    obtain ⟨v, hrun, -⟩ := h.recover env
    exact ⟨_, v, hrun, h.rests⟩

/-- What is held is loaded. -/
lemma Holds.load (h : Holds d c) (env : Environment) :
    ∃ d' v, (load env).run none d = ⟨.ok c, d', v, none⟩ ∧ Ready d' c := by
  obtain ⟨d', v, hrecover, hrests⟩ := h.recover env
  obtain ⟨d'', w, hensure, hready⟩ := hrests.ensureCreated env
  refine ⟨d'', v ++ w, ?_, hready⟩
  rw [Repository.load, run_bind_ok hrecover, run_bind_ok hensure, run_read, readReady_eq_ok.mpr hready.reads]
  simp

lemma careful_load (env : Environment) (h : Holds d c) (hc : good c) :
    Careful (Safe good) (Safe good) (load env) d := by
  obtain ⟨d', v, hrecover, hrests⟩ := h.recover env
  refine careful_bind_ok (careful_recover env h hc) hrecover ?_
  exact careful_bind (careful_ensureCreated env hrests hc) fun _ _ => careful_still fun _ => rfl

lemma Holds.loads (h : Holds d c) : Loads d c := by
  intro env
  obtain ⟨d', v, hrun, -⟩ := h.load env
  rw [hrun]

lemma Broken.load (h : Broken d) (env : Environment) : ∃ e, (load env).run none d = ⟨.error e, d, [], none⟩ := by
  obtain ⟨e, hrun⟩ := h.recover env
  exact ⟨e, run_bind_error hrun⟩

/-- What is lost is not found by any load. -/
lemma Broken.not_loads (h : Broken d) (hloads : Loads d c) (env : Environment) : False := by
  obtain ⟨e, hrun⟩ := h.load env
  have hfound := hloads env
  rw [hrun] at hfound
  cases hfound

end Pending

end CcsTrans.Repository
