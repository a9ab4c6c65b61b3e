import CcsTrans.Config.DocumentCodec
import CcsTrans.Repository.Commit

/-!
A save that stops.

Wherever the process stops that saves a snapshot, the next load finds the snapshot before or
the one after, as long as the journal is whole or gone. A journal of which some files are
already deleted cannot be read any more, and nothing is loaded.
-/

namespace CcsTrans.Repository

open CcsTrans.Text CcsTrans.Core CcsTrans.Json CcsTrans.Config CcsTrans.Storage CcsTrans.Fallible
open CcsTrans.Durable

/-! ### Keys that are filled in -/

lemma unkeyed_fillsRule {a : ℤ} {r r' : StoredRule} (h : FillsRule a r r') : r'.unkeyed = r.unkeyed := by
  rw [h.same]
  rfl

lemma unkeyed_fillsProfile {a b : ℤ} {p p' : StoredProfile} (h : FillsProfile a b p p') :
    p'.unkeyed = p.unkeyed := by
  have hrules : p'.rules.map StoredRule.unkeyed = p.rules.map StoredRule.unkeyed :=
    map_eq_of_forall₂ h.rules fun r r' hr => unkeyed_fillsRule hr
  rw [h.same]
  simp only [StoredProfile.unkeyed, hrules]

lemma unkeyed_completed {current desired ps : List StoredProfile} (h : Completed current desired ps) :
    ps.map StoredProfile.unkeyed = desired.map StoredProfile.unkeyed := by
  obtain ⟨a, b, -, hfills⟩ := h.fills
  exact map_eq_of_forall₂ hfills fun p p' hp => unkeyed_fillsProfile hp

section Crash

variable [Library] [Sqlite] [Engine]

/-! ### What is saved -/

/-- A snapshot passes the checks of a save over what is there. -/
structure Saves (env : Environment) (d : Disk) (base desired : ConfigurationSnapshot)
    (newConfig : Bytes) : Prop where
  ready : Ready d base
  checked : checkSnapshot env desired = .ok ()
  current : checkCurrent base desired = .ok newConfig

variable {env : Environment} {d : Disk} {base desired : ConfigurationSnapshot} {newConfig : Bytes}

omit [Sqlite] [Engine] in
lemma checkCurrent_ok (h : checkCurrent base desired = .ok newConfig) :
    base.revision = desired.revision ∧ base.migratedFromSha256 = desired.migratedFromSha256 ∧
      serializeApplicationConfigDocument desired.application = .ok newConfig := by
  unfold checkCurrent at h
  split_ifs at h with hrev horigin
  split at h
  · cases h
  next u hu =>
  cases h
  exact ⟨by simpa using hrev, by simpa using horigin, hu⟩

omit [Sqlite] [Engine] in
lemma checkSnapshot_ok (h : checkSnapshot env desired = .ok ()) :
    ∃ document, configurationSnapshotToConfigDocument desired = .ok document := by
  unfold checkSnapshot at h
  split at h
  · cases h
  split at h
  · cases h
  next document hd => exact ⟨document, hd⟩

/-- What is committed can be read. -/
lemma Saves.reads (h : Saves env d base desired newConfig) {database : DatabaseFiles}
    {saved : ProfileStoreSnapshot} (hload : Storage.load database.file = .ok saved)
    (hsaved : saved.profiles.map StoredProfile.unkeyed = desired.profiles.map StoredProfile.unkeyed) :
    Reads { d with config := some newConfig, database := database }
      (committedSnapshot desired newConfig saved) := by
  obtain ⟨-, -, hserialize⟩ := checkCurrent_ok h.current
  obtain ⟨hparse, hschema, hlen⟩ := parse_serializeApplication hserialize
  obtain ⟨document, hconvert⟩ := checkSnapshot_ok h.checked
  refine ⟨rfl, ⟨newConfig, rfl, hlen, hschema, hparse⟩, hload, ?_⟩
  have hsame : desired.unkeyed =
      ({ desired with profiles := saved.profiles } : ConfigurationSnapshot).unkeyed := by
    simp only [ConfigurationSnapshot.unkeyed, hsaved]
  obtain ⟨document', hconvert', -⟩ := converts_of_unkeyed_eq hsame hconvert
  exact ⟨document', hconvert'⟩

lemma commitJournal_inOrder (h : Saves env d base desired newConfig) :
    (commitJournal base newConfig).InOrder := by
  obtain ⟨-, -, hserialize⟩ := checkCurrent_ok h.current
  obtain ⟨source, hsource, hlen, -, -⟩ := h.ready.reads.source
  obtain ⟨hpos, hmax, horigin, -⟩ := load_ok h.ready.reads.database
  refine ⟨by simp [commitJournal], ?_, (parse_serializeApplication hserialize).2.2, ?_, ?_, ?_, rfl⟩
  · intro content hc
    rw [commitJournal, hsource] at hc
    cases hc
    exact hlen
  · refine Int64.toInt_ofInt_of_le ?_ ?_
    · dsimp only [commitJournal] at hpos ⊢
      omega
    · have : int64Max = 9223372036854775807 := rfl
      dsimp only [commitJournal] at hmax ⊢
      omega
  · simp [commitJournal]
  · simpa [commitJournal] using horigin

/-- The database that is there is the one of before. -/
lemma Reads.isOld (h : Reads d base) {s : Disk} (hs : s.database = d.database) (newConfig : Bytes) :
    ∃ database, readDatabaseState s true = .ok database ∧
      (commitJournal base newConfig).isOld database = true := by
  obtain ⟨-, -, -, hsome⟩ := load_ok h.database
  obtain ⟨file, hfile⟩ := Option.isSome_iff_exists.mp hsome
  have hload := h.database
  rw [hfile] at hload
  refine ⟨_, readDatabaseState_some (by rw [hs, hfile]) hload, ?_⟩
  simp [RepositoryJournal.isOld, databaseMatches, commitJournal]

/-- A database that was saved is the one of after, and not the one of before. -/
lemma savedFile_isTarget {desired saved : ProfileStoreSnapshot} {file : Bytes}
    (h : SavedFile (storedProfiles base) desired saved file)
    (hrev : desired.revision = base.revision.profileRevision)
    (horigin : desired.migratedFromSha256 = base.migratedFromSha256) (newConfig : Bytes)
    (hash : Option Bytes) :
    (commitJournal base newConfig).isOld ⟨true, saved, hash⟩ = false ∧
      (commitJournal base newConfig).isTarget ⟨true, saved, hash⟩ = true := by
  obtain ⟨hpos, hmax, -, -⟩ := load_ok h.load
  have hnext := h.revision
  rw [hrev] at hnext
  have hmax' : int64Max = 9223372036854775807 := rfl
  have htarget : (Int64.ofInt (base.revision.profileRevision + 1)).toInt =
      base.revision.profileRevision + 1 := Int64.toInt_ofInt_of_le (by omega) (by omega)
  constructor
  · simp [RepositoryJournal.isOld, databaseMatches, commitJournal, hnext]
  · simp only [RepositoryJournal.isTarget, databaseMatches, commitJournal, htarget, hnext, h.origin,
      horigin]
    simp

/-! ### Recovery of a save -/

/-- The disk with both files replaced. -/
def Disk.replaced (d : Disk) (config file : Bytes) : Disk :=
  { d with config := some config, database := { d.database with file := some file } }

/-- Until the database is changed, recovery goes back. -/
lemma recover_back (h : Ready d base) {files : JournalFiles} (env : Environment)
    (hj : readJournal files = .ok (commitJournal base newConfig)) {config : Option Bytes}
    (hc : config = d.config ∨ config = some newConfig) :
    ∃ v, (recoverLocked env).run none ((d.withConfig config).withJournal (some files)) =
      ⟨.ok (), d, v, none⟩ := by
  obtain ⟨database, hdb, hold⟩ := h.reads.isOld
    (s := (d.withConfig config).withJournal (some files)) rfl newConfig
  have hconfig : (commitJournal base newConfig).oldConfig = d.config := h.reads.config.symm
  have hout := outcome_old (readJournal_lengths hj) (by rw [hconfig]; exact hc) hdb hold
  obtain ⟨v, database, hrun, -, hcase, -⟩ := (recoverLocked_run env rfl hj).2 _ _ hout
  refine ⟨v, hrun.trans ?_⟩
  rcases hcase with rfl | ⟨-, hbackup⟩
  · have hkind : ¬ (commitJournal base newConfig).kind = str "migration" := by
      show ¬ str "commit" = str "migration"
      decide
    have ht := h.transaction
    simp only [cleared, hkind, if_false, hconfig, Disk.withConfig, Disk.withJournal]
    obtain ⟨_, _, _, _, _⟩ := d
    dsimp only at ht
    rw [ht]
  · simp [commitJournal] at hbackup

/-- Once it is changed, recovery goes on. -/
lemma recover_on (h : Ready d base) {files : JournalFiles} (env : Environment)
    (hj : readJournal files = .ok (commitJournal base newConfig)) {file : Bytes}
    {saved desired : ProfileStoreSnapshot} (hfile : SavedFile (storedProfiles base) desired saved file)
    (hrev : desired.revision = base.revision.profileRevision)
    (horigin : desired.migratedFromSha256 = base.migratedFromSha256) :
    ∃ v, (recoverLocked env).run none ((d.replaced newConfig file).withJournal (some files)) =
      ⟨.ok (), d.replaced newConfig file, v, none⟩ := by
  have hdb := readDatabaseState_some (d := (d.replaced newConfig file).withJournal (some files)) rfl
    hfile.load
  obtain ⟨hold, htarget⟩ := savedFile_isTarget hfile hrev horigin newConfig (some (sha256Hex file))
  have hout := outcome_target (readJournal_lengths hj) (.inr rfl) hdb hold htarget
  obtain ⟨v, database, hrun, -, hcase, -⟩ := (recoverLocked_run env rfl hj).2 _ _ hout
  refine ⟨v, hrun.trans ?_⟩
  rcases hcase with rfl | ⟨-, hbackup⟩
  · have hkind : ¬ (commitJournal base newConfig).kind = str "migration" := by
      show ¬ str "commit" = str "migration"
      decide
    have ht := h.transaction
    simp only [cleared, hkind, if_false, Disk.replaced, Disk.withJournal]
    rw [ht]
    rfl
  · simp [commitJournal] at hbackup

/-! ### The disks of a save -/

/-- The disks between `d` and `d'` while both files are replaced. -/
inductive Stage (d d' : Disk) (files : JournalFiles) (newConfig : Bytes) : Disk → Prop
  | before : Stage d d' files newConfig d
  | after : Stage d d' files newConfig d'
  | published : Stage d d' files newConfig (d.withJournal (some files))
  | configured : Stage d d' files newConfig ((d.withConfig (some newConfig)).withJournal (some files))
  | committed : Stage d d' files newConfig (d'.withJournal (some files))
  | torn {s : Disk} {files' : JournalFiles} (ht : s.transaction = some files')
      (hf : files.Torn files') : Stage d d' files newConfig s

omit [Library] [Sqlite] [Engine] in
lemma Disk.withJournal_self {d : Disk} {t : Option JournalFiles} (h : d.transaction = t) :
    d.withJournal t = d := by
  rw [Disk.withJournal, ← h]

omit [Library] [Sqlite] [Engine] in
/-- While a journal is deleted it is whole, gone or torn. -/
lemma Clearing.cases {d s : Disk} {files : JournalFiles} (hd : d.transaction = none)
    (h : Clearing [] (d.withJournal (some files)) s) :
    s = d.withJournal (some files) ∨ s = d ∨
      ∃ files', s.transaction = some files' ∧ files.Torn files' := by
  have hsame : s = d.withJournal s.transaction := by
    have hm := h.migrating (by decide)
    rw [h.same, hm]
    rfl
  rcases h.transaction with ht | ht | ⟨f, files', hf, hs, htorn⟩
  · left
    rw [hsame, ht]
    rfl
  · right
    left
    rw [hsame, ht]
    exact Disk.withJournal_self hd
  · cases hf
    exact .inr (.inr ⟨files', hs, htorn⟩)

omit [Library] [Sqlite] [Engine] in
lemma cleared_withJournal {d : Disk} (hd : d.transaction = none) (t : Option JournalFiles) :
    cleared [] (d.withJournal t) = d := by
  have hkind : ¬ ([] : Bytes) = str "migration" := by decide
  rw [cleared, if_neg hkind]
  exact Disk.withJournal_self hd

lemma storeSave_ok {s : Disk} {desired saved : ProfileStoreSnapshot} {file : Bytes}
    (h : saveFile env.now s.database.file desired = .ok (saved, file)) :
    (storeSave env desired).run none s =
      ⟨.ok saved, atDatabase.put file s, [atDatabase.put file s], none⟩ := by
  rw [storeSave, read_bind_ok (g := fun d : Disk => saveFile env.now d.database.file desired) h]
  dsimp only
  rw [run_bind_ok (block_none _ s)]
  rfl

lemma storeSave_error {s : Disk} {desired : ProfileStoreSnapshot} {e : StoreError}
    (h : saveFile env.now s.database.file desired = .error e) (w : Option (ℕ × Reason)) :
    (storeSave env desired).run w s = ⟨.error e, s, [], w⟩ := by
  rw [storeSave, read_bind_error (g := fun d : Disk => saveFile env.now d.database.file desired) h]

/-- The snapshot that is to be stored. -/
def desiredProfiles (base desired : ConfigurationSnapshot) : ProfileStoreSnapshot :=
  { storedProfiles base with profiles := desired.profiles }

/-- All files of a transaction are there. -/
def JournalFiles.Whole (files : JournalFiles) : Prop := ∀ f, (files.get f).isSome = true

/-- There is a transaction of which a file is gone. -/
def Disk.Torn (d : Disk) : Prop := ∃ files, d.transaction = some files ∧ ¬ files.Whole

/-- What a save of both files passes through: the disk with the configuration replaced and the
database not, and, if the journal was whole, a disk with a torn one. -/
structure Passes (d : Disk) (files : JournalFiles) (newConfig : Bytes) (v : List Disk) : Prop where
  between : (d.withConfig (some newConfig)).withJournal (some files) ∈ v
  torn : files.Whole → ∃ s ∈ v, s.Torn

omit [Library] [Sqlite] [Engine] in
lemma Passes.append {files : JournalFiles} {v : List Disk} (h : Passes d files newConfig v)
    (v' : List Disk) : Passes d files newConfig (v' ++ v) :=
  ⟨List.mem_append_right _ h.between, fun hwhole => by
    obtain ⟨s, hs, htorn⟩ := h.torn hwhole
    exact ⟨s, List.mem_append_right _ hs, htorn⟩⟩

omit [Library] [Sqlite] [Engine] in
/-- A whole journal is torn while it is deleted: its first file goes before the others. -/
lemma clearJournal_tears {s s' : Disk} {files : JournalFiles} {v : List Disk}
    (ht : s.transaction = some files)
    (hrun : (clearJournal env []).run none s = ⟨.ok (), s', v, none⟩) (hwhole : files.Whole) :
    ∃ t ∈ v, t.Torn := by
  rw [clearJournal, look_bind, block_none] at hrun
  obtain rfl : trail (clearSteps env.listing [] s.transaction) s = v := by
    simpa using congrArg Run.visited hrun
  have hkind : ¬ ([] : Bytes) = str "migration" := by decide
  have hall : (env.listing.files.filter fun f => (files.get f).isSome) = env.listing.files :=
    List.filter_eq_self.mpr fun f _ => hwhole f
  have hne : env.listing.files ≠ [] := fun hnil => by
    have := env.listing.complete
    rw [hnil] at this
    exact absurd this.length_eq (by decide)
  obtain ⟨f, rest, hfiles⟩ := List.exists_cons_of_ne_nil hne
  rw [clearSteps, if_neg hkind, ht, removeJournal, hall, hfiles]
  refine ⟨_, List.mem_cons_self, files.without f, by simp [removeJournalFile, ioStep, ht], ?_⟩
  intro hstill
  have := hstill f
  rw [get_without, if_pos rfl] at this
  cases this

/-- A save the database refuses puts the configuration back. -/
lemma commitBody_refused {j : RepositoryJournal} (files : JournalFiles) {e : StoreError}
    (hd : d.transaction = none) (hold : j.oldConfig = d.config)
    {desired : ProfileStoreSnapshot} (h : saveFile env.now d.database.file desired = .error e) :
    ∃ v, (commitBody env j desired).run none (d.withJournal (some files)) =
        ⟨.error (fromStore e), d, v, none⟩ ∧ ∀ s ∈ v, Stage d d files j.newConfig s := by
  let d₁ := (d.withConfig (some j.newConfig)).withJournal (some files)
  have hconfig : (block (writeConfigFile j.newConfig)).run none (d.withJournal (some files)) =
      ⟨.ok (), d₁, [d.withJournal (some files), d₁, d₁], none⟩ := writeConfigFile_run _ _
  obtain ⟨v, hrestore, hv⟩ := restoreConfig_run j.oldConfig d₁
  have hback : d₁.withConfig j.oldConfig = d.withJournal (some files) := by rw [hold]; rfl
  rw [hback] at hrestore hv
  obtain ⟨v', hclear, hv'⟩ := clearJournal_run env [] (d.withJournal (some files))
  rw [cleared_withJournal hd] at hclear
  refine ⟨[d.withJournal (some files), d₁, d₁] ++ (v ++ v'), ?_, fun s hs => ?_⟩
  · rw [commitBody, run_bind_ok hconfig, attempt_bind (storeSave_error (s := d₁) h none)]
    dsimp only
    rw [run_bind_ok hrestore, run_bind_ok hclear]
    simp
  · simp only [List.mem_append, List.mem_cons, List.not_mem_nil, or_false] at hs
    rcases hs with (rfl | rfl | rfl) | hs | hs
    · exact .published
    · exact .configured
    · exact .configured
    · rcases hv s hs with rfl | rfl
      · exact .configured
      · exact .published
    · rcases (hv' s hs).cases hd with rfl | rfl | ⟨files', ht, htorn⟩
      · exact .published
      · exact .before
      · exact .torn ht htorn

/-- A save the database takes replaces both files. -/
lemma commitBody_taken {j : RepositoryJournal} (files : JournalFiles) {file : Bytes}
    (hd : d.transaction = none) {desired saved : ProfileStoreSnapshot}
    (h : saveFile env.now d.database.file desired = .ok (saved, file)) :
    ∃ v, (commitBody env j desired).run none (d.withJournal (some files)) =
        ⟨.ok saved, d.replaced j.newConfig file, v, none⟩ ∧
      (∀ s ∈ v, Stage d (d.replaced j.newConfig file) files j.newConfig s) ∧
      Passes d files j.newConfig v := by
  let d₁ := (d.withConfig (some j.newConfig)).withJournal (some files)
  have hconfig : (block (writeConfigFile j.newConfig)).run none (d.withJournal (some files)) =
      ⟨.ok (), d₁, [d.withJournal (some files), d₁, d₁], none⟩ := writeConfigFile_run _ _
  have hput : atDatabase.put file d₁ = (d.replaced j.newConfig file).withJournal (some files) := rfl
  obtain ⟨v, hclear, hv⟩ := clearJournal_run env []
    ((d.replaced j.newConfig file).withJournal (some files))
  have htears := clearJournal_tears (v := v) rfl hclear
  have hd' : (d.replaced j.newConfig file).transaction = none := hd
  rw [cleared_withJournal hd'] at hclear
  refine ⟨[d.withJournal (some files), d₁, d₁] ++ ([atDatabase.put file d₁] ++ v), ?_,
    fun s hs => ?_, by simp [d₁], fun hwhole => ?_⟩
  · rw [commitBody, run_bind_ok hconfig, attempt_bind (storeSave_ok (s := d₁) h)]
    dsimp only
    rw [hput, run_bind_ok hclear]
    simp
  · simp only [List.mem_append, List.mem_cons, List.not_mem_nil, or_false] at hs
    rcases hs with (rfl | rfl | rfl) | rfl | hs
    · exact .published
    · exact .configured
    · exact .configured
    · exact .committed
    · rcases (hv s hs).cases hd' with rfl | rfl | ⟨files', ht, htorn⟩
      · exact .committed
      · exact .after
      · exact .torn ht htorn
  · obtain ⟨s, hs, htorn⟩ := htears hwhole
    exact ⟨s, by simp [hs], htorn⟩

/-- The transaction as a whole, when the database refuses or takes the profiles. -/
lemma commitBoth_run (h : Saves env d base desired newConfig) :
    ∃ text, readJournal (journalFiles (commitJournal base newConfig) text) =
        .ok (commitJournal base newConfig) ∧
      (∀ e, saveFile env.now d.database.file (desiredProfiles base desired) = .error e →
        ∃ v, (commitBoth env (commitJournal base newConfig) (desiredProfiles base desired)).run none d =
          ⟨.error (fromStore e), d, v, none⟩ ∧
          ∀ s ∈ v, Stage d d (journalFiles (commitJournal base newConfig) text) newConfig s) ∧
      ∀ saved file,
        saveFile env.now d.database.file (desiredProfiles base desired) = .ok (saved, file) →
        ∃ v, (commitBoth env (commitJournal base newConfig) (desiredProfiles base desired)).run none d =
          ⟨.ok saved, d.replaced newConfig file, v, none⟩ ∧
          (∀ s ∈ v, Stage d (d.replaced newConfig file)
            (journalFiles (commitJournal base newConfig) text) newConfig s) ∧
          Passes d (journalFiles (commitJournal base newConfig) text) newConfig v := by
  have hd := h.ready.transaction
  obtain ⟨text, v, -, hread, hrun, hv⟩ := writeJournal_run (commitJournal_inOrder h) hd
  refine ⟨text, hread, fun e he => ?_, fun saved file hs => ?_⟩
  · obtain ⟨v', hbody, hv'⟩ := commitBody_refused (j := commitJournal base newConfig)
      (journalFiles (commitJournal base newConfig) text) hd h.ready.reads.config.symm he
    refine ⟨v ++ v', ?_, fun s hs => ?_⟩
    · rw [commitBoth, run_bind_ok hrun, run_tryCatch_error hbody, commitFailed, look_bind, hd]
      simp
    · rcases List.mem_append.mp hs with hs | hs
      · rcases hv s hs with rfl | rfl
        · exact .before
        · exact .published
      · exact hv' s hs
  · obtain ⟨v', hbody, hv', hpasses⟩ := commitBody_taken (j := commitJournal base newConfig)
      (journalFiles (commitJournal base newConfig) text) hd hs
    refine ⟨v ++ v', ?_, fun s hs => ?_, hpasses.append v⟩
    · rw [commitBoth, run_bind_ok hrun, run_tryCatch_ok hbody]
      rfl
    · rcases List.mem_append.mp hs with hs | hs
      · rcases hv s hs with rfl | rfl
        · exact .before
        · exact .published
      · exact hv' s hs

/-! ### What is loaded -/

omit [Library] [Sqlite] [Engine] in
lemma not_torn_of_none {s : Disk} (h : s.transaction = none) : ¬ s.Torn := by
  rintro ⟨files, hs, -⟩
  rw [h] at hs
  cases hs

omit [Library] [Sqlite] [Engine] in
lemma not_torn_of_whole {files : JournalFiles} (h : files.Whole) (d : Disk) :
    ¬ (d.withJournal (some files)).Torn := by
  rintro ⟨_, ⟨⟩, hs⟩
  exact hs h

omit [Sqlite] [Engine] in
/-- A journal with a file gone cannot be read. -/
lemma readJournal_of_torn {j : RepositoryJournal} {text : Bytes} {files : JournalFiles}
    (hj : readJournal (journalFiles j text) = .ok j) (hold : j.oldConfig.isSome = true)
    (h : (journalFiles j text).Torn files) : ∃ e, readJournal files = .error e := by
  cases hr : readJournal files with
  | error e => exact ⟨e, rfl⟩
  | ok j' =>
    refine absurd hr (readJournal_torn hj (h.rest .manifest) ?_)
    obtain ⟨f, -, hgone⟩ := h.gone
    cases f with
    | manifest => exact .inl hgone
    | oldConfig => exact .inr (.inr ⟨hold, hgone⟩)
    | newConfig => exact .inr (.inl hgone)

/-- What is loaded when the journal is torn, or not. -/
def Survives (env : Environment) (base after : ConfigurationSnapshot) (s : Disk) : Prop :=
  (¬ s.Torn ∧ (((load env).run none s).result = .ok base ∨
    ((load env).run none s).result = .ok after)) ∨
  (s.Torn ∧ ∃ e, ((load env).run none s).result = .error e)

lemma commitJournal_old (h : Ready d base) (newConfig : Bytes) :
    (commitJournal base newConfig).oldConfig.isSome = true := by
  obtain ⟨source, hsource, -⟩ := h.reads.source
  rw [commitJournal, hsource]
  rfl

/-- A save over a repository that can be read writes all files of its journal. -/
lemma journalFiles_whole (h : Ready d base) (newConfig text : Bytes) :
    (journalFiles (commitJournal base newConfig) text).Whole := by
  intro f
  cases f with
  | manifest => rfl
  | oldConfig => exact commitJournal_old h newConfig
  | newConfig => rfl

/-- What is loaded at a stop is the snapshot before or the one after, unless the journal is torn. -/
lemma Stage.load {d' s : Disk} {after : ConfigurationSnapshot} {text : Bytes} (h : Ready d base)
    (hj : readJournal (journalFiles (commitJournal base newConfig) text) =
      .ok (commitJournal base newConfig)) (h' : Ready d' after)
    (hon : ∃ v, (recoverLocked env).run none
      (d'.withJournal (some (journalFiles (commitJournal base newConfig) text))) = ⟨.ok (), d', v, none⟩)
    (hs : Stage d d' (journalFiles (commitJournal base newConfig) text) newConfig s) :
    Survives env base after s := by
  have hold := commitJournal_old h newConfig
  have hwhole := journalFiles_whole h newConfig text
  cases hs with
  | before => exact .inl ⟨not_torn_of_none h.transaction, .inl (by rw [h.load_run env])⟩
  | after => exact .inl ⟨not_torn_of_none h'.transaction, .inr (by rw [h'.load_run env])⟩
  | published =>
    obtain ⟨v, hrun⟩ := recover_back h env hj (.inl rfl)
    rw [show d.withConfig d.config = d from rfl] at hrun
    exact .inl ⟨not_torn_of_whole hwhole d, .inl (by rw [load_of_recovered env hrun h.reads])⟩
  | configured =>
    obtain ⟨v, hrun⟩ := recover_back h env hj (.inr rfl)
    exact .inl ⟨not_torn_of_whole hwhole _, .inl (by rw [load_of_recovered env hrun h.reads])⟩
  | committed =>
    obtain ⟨v, hrun⟩ := hon
    exact .inl ⟨not_torn_of_whole hwhole d', .inr (by rw [load_of_recovered env hrun h'.reads])⟩
  | torn ht hf =>
    obtain ⟨e, he⟩ := readJournal_of_torn hj hold hf
    refine .inr ⟨⟨_, ht, fun hw => ?_⟩, e, by rw [load_unreadable env ht he]⟩
    obtain ⟨f, -, hgone⟩ := hf.gone
    have := hw f
    rw [hgone] at this
    cases this

/-! ### The save as a whole -/

/-- A save of a snapshot that is refused before a step is made. -/
lemma saveSnapshot_refused {e : RepositoryError} (h : Ready d base)
    (hc : checkSnapshot env desired = .error e ∨
      checkSnapshot env desired = .ok () ∧ checkCurrent base desired = .error e)
    (w : Option (ℕ × Reason)) : (saveSnapshot env desired).run w d = ⟨.error e, d, [], w⟩ := by
  rw [saveSnapshot]
  rcases hc with hc | ⟨hc, hcurrent⟩
  · exact read_bind_error (g := fun _ => checkSnapshot env desired) hc
  · rw [read_bind_ok (g := fun _ => checkSnapshot env desired) hc,
      run_bind_ok (recoverLocked_none env h.transaction w),
      read_bind_ok (readReady_eq_ok.mpr h.reads), saveOver,
      read_bind_error (g := fun _ => checkCurrent base desired) hcurrent]
    rfl

/-- A save that passes its checks. -/
lemma saveSnapshot_checked (h : Saves env d base desired newConfig) (w : Option (ℕ × Reason)) :
    (saveSnapshot env desired).run w d =
      (if base.revision.applicationSource = some newConfig ∧ base.profiles = desired.profiles then
        return base
      else do
        let saved ← commitChanges env base desired newConfig
        match configurationSnapshotToConfigDocument (committedSnapshot desired newConfig saved) with
        | .error f => throw ⟨.corrupt, f.detail⟩
        | .ok _ => return committedSnapshot desired newConfig saved : Program _).run w d := by
  rw [saveSnapshot, read_bind_ok (g := fun _ => checkSnapshot env desired) h.checked,
    run_bind_ok (recoverLocked_none env h.ready.transaction w),
    read_bind_ok (readReady_eq_ok.mpr h.ready.reads), saveOver,
    read_bind_ok (g := fun _ => checkCurrent base desired) h.current]
  rfl

/-- What is returned once the files are written. -/
lemma saveSnapshot_committed (h : Saves env d base desired newConfig) {saved : ProfileStoreSnapshot}
    {w w' : Option (ℕ × Reason)} {d' : Disk} {v : List Disk}
    (hchange : ¬ (base.revision.applicationSource = some newConfig ∧ base.profiles = desired.profiles))
    (hrun : (commitChanges env base desired newConfig).run w d = ⟨.ok saved, d', v, w'⟩)
    (hreads : Reads d' (committedSnapshot desired newConfig saved)) :
    (saveSnapshot env desired).run w d =
      ⟨.ok (committedSnapshot desired newConfig saved), d', v, w'⟩ := by
  obtain ⟨document, hdoc⟩ := hreads.converts
  rw [saveSnapshot_checked h w, if_neg hchange, run_bind_ok hrun, hdoc]
  simp

lemma saveSnapshot_failed (h : Saves env d base desired newConfig) {e : RepositoryError}
    {w w' : Option (ℕ × Reason)} {d' : Disk} {v : List Disk}
    (hchange : ¬ (base.revision.applicationSource = some newConfig ∧ base.profiles = desired.profiles))
    (hrun : (commitChanges env base desired newConfig).run w d = ⟨.error e, d', v, w'⟩) :
    (saveSnapshot env desired).run w d = ⟨.error e, d', v, w'⟩ := by
  rw [saveSnapshot_checked h w, if_neg hchange, run_bind_error hrun]

/-- What the database takes can be read, and has the profiles that were desired. -/
lemma Saves.savedFile (h : Saves env d base desired newConfig) {saved : ProfileStoreSnapshot}
    {file : Bytes} (hprofiles : base.profiles ≠ desired.profiles)
    (hs : saveFile env.now d.database.file (desiredProfiles base desired) = .ok (saved, file)) :
    SavedFile (storedProfiles base) (desiredProfiles base desired) saved file := by
  obtain ⟨current, hload, -, -, hcase⟩ := saveFile_ok hs
  have hcurrent : current = storedProfiles base := by
    have := hload.symm.trans h.ready.reads.database
    cases this
    rfl
  rw [hcurrent] at hcase
  rcases hcase with ⟨heq, -⟩ | ⟨-, hsaved⟩
  · exact absurd (congrArg ProfileStoreSnapshot.profiles heq).symm hprofiles
  · exact hsaved

lemma Saves.ready_replaced (h : Saves env d base desired newConfig) {saved : ProfileStoreSnapshot}
    {file : Bytes} (hs : SavedFile (storedProfiles base) (desiredProfiles base desired) saved file) :
    Ready (d.replaced newConfig file) (committedSnapshot desired newConfig saved) :=
  ⟨h.ready.transaction, @Saves.reads _ _ _ _ _ _ _ _ h { d.database with file := some file } _ hs.load
    (unkeyed_completed hs.profiles)⟩

lemma Ready.survives (h : Ready d base) (env : Environment) (before : ConfigurationSnapshot) :
    Survives env before base d :=
  .inl ⟨not_torn_of_none h.transaction, .inr (by rw [h.load_run env])⟩

/-- The profiles only are written. -/
lemma commitProfiles_run (h : Saves env d base desired newConfig)
    (hconfig : base.revision.applicationSource = some newConfig)
    (hprofiles : base.profiles ≠ desired.profiles) :
    (∃ e, (commitChanges env base desired newConfig).run none d = ⟨.error e, d, [], none⟩) ∨
    ∃ saved file, (commitChanges env base desired newConfig).run none d =
        ⟨.ok saved, d.replaced newConfig file, [d.replaced newConfig file], none⟩ ∧
      Ready (d.replaced newConfig file) (committedSnapshot desired newConfig saved) := by
  have hcommit : commitChanges env base desired newConfig =
      commitProfiles env (desiredProfiles base desired) := by
    rw [commitChanges, if_neg (not_not.mpr hconfig)]
    rfl
  rw [hcommit, commitProfiles]
  cases hs : saveFile env.now d.database.file (desiredProfiles base desired) with
  | error e =>
    refine .inl ⟨fromStore e, ?_⟩
    rw [attempt_bind (storeSave_error (s := d) hs none)]
    rfl
  | ok p =>
    obtain ⟨saved, file⟩ := p
    have hput : atDatabase.put file d = d.replaced newConfig file := by
      rw [Disk.replaced, ← hconfig, ← h.ready.reads.config]
      rfl
    refine .inr ⟨saved, file, ?_, h.ready_replaced (h.savedFile hprofiles hs)⟩
    rw [attempt_bind (storeSave_ok (s := d) hs), hput]
    rfl

/-- The configuration only is written. -/
lemma commitConfig_run (h : Saves env d base desired newConfig)
    (hconfig : base.revision.applicationSource ≠ some newConfig)
    (hprofiles : base.profiles = desired.profiles) :
    (commitChanges env base desired newConfig).run none d =
        ⟨.ok (storedProfiles base), d.withConfig (some newConfig),
          [d, d.withConfig (some newConfig), d.withConfig (some newConfig)], none⟩ ∧
      Ready (d.withConfig (some newConfig))
        (committedSnapshot desired newConfig (storedProfiles base)) := by
  refine ⟨?_, h.ready.transaction,
    h.reads h.ready.reads.database (by rw [storedProfiles, hprofiles])⟩
  rw [commitChanges, if_pos hconfig, if_neg (not_not.mpr hprofiles), commitConfig,
    run_bind_ok (writeConfigFile_run newConfig d)]
  rfl

/-- Both are written, by a transaction. -/
lemma commitChanges_both (env : Environment) (hconfig : base.revision.applicationSource ≠ some newConfig)
    (hprofiles : base.profiles ≠ desired.profiles) :
    commitChanges env base desired newConfig =
      commitBoth env (commitJournal base newConfig) (desiredProfiles base desired) := by
  rw [commitChanges, if_pos hconfig, if_pos hprofiles]
  rfl

/-- A save of the profiles only. -/
lemma commitProfiles_stops {env' : Environment} (h : Saves env d base desired newConfig)
    (hconfig : base.revision.applicationSource = some newConfig)
    (hprofiles : base.profiles ≠ desired.profiles) :
    ∃ after, (after = base ∨ ((saveSnapshot env desired).run none d).result = .ok after) ∧
      ∀ s ∈ ((saveSnapshot env desired).run none d).visited, Survives env' base after s := by
  have hchange : ¬ (base.revision.applicationSource = some newConfig ∧
      base.profiles = desired.profiles) := fun hb => hprofiles hb.2
  rcases commitProfiles_run h hconfig hprofiles with ⟨e, hrun⟩ | ⟨saved, file, hrun, hready⟩
  · refine ⟨base, .inl rfl, fun s hs => ?_⟩
    rw [saveSnapshot_failed h hchange hrun] at hs
    cases hs
  · have hsave := saveSnapshot_committed h hchange hrun hready.reads
    refine ⟨_, .inr (by rw [hsave]), fun s hs => ?_⟩
    rw [hsave] at hs
    rw [List.mem_singleton.mp hs]
    exact hready.survives env' base

/-- A save of the configuration only. -/
lemma commitConfig_stops {env' : Environment} (h : Saves env d base desired newConfig)
    (hconfig : base.revision.applicationSource ≠ some newConfig)
    (hprofiles : base.profiles = desired.profiles) :
    ∃ after, (after = base ∨ ((saveSnapshot env desired).run none d).result = .ok after) ∧
      ∀ s ∈ ((saveSnapshot env desired).run none d).visited, Survives env' base after s := by
  have hchange : ¬ (base.revision.applicationSource = some newConfig ∧
      base.profiles = desired.profiles) := fun hb => hconfig hb.1
  obtain ⟨hrun, hready⟩ := commitConfig_run h hconfig hprofiles
  have hsave := saveSnapshot_committed h hchange hrun hready.reads
  refine ⟨_, .inr (by rw [hsave]), fun s hs => ?_⟩
  rw [hsave] at hs
  simp only [List.mem_cons, List.not_mem_nil, or_false] at hs
  rcases hs with rfl | rfl | rfl
  · exact .inl ⟨not_torn_of_none h.ready.transaction, .inl (by rw [h.ready.load_run env'])⟩
  · exact hready.survives env' base
  · exact hready.survives env' base

/-- A save of both. -/
lemma commitBoth_stops {env' : Environment} (h : Saves env d base desired newConfig)
    (hconfig : base.revision.applicationSource ≠ some newConfig)
    (hprofiles : base.profiles ≠ desired.profiles) :
    ∃ after, (after = base ∨ ((saveSnapshot env desired).run none d).result = .ok after) ∧
      ∀ s ∈ ((saveSnapshot env desired).run none d).visited, Survives env' base after s := by
  have hchange : ¬ (base.revision.applicationSource = some newConfig ∧
      base.profiles = desired.profiles) := fun hb => hconfig hb.1
  have hcommit := commitChanges_both env hconfig hprofiles
  obtain ⟨text, hj, hrefused, htaken⟩ := commitBoth_run h
  cases hs : saveFile env.now d.database.file (desiredProfiles base desired) with
  | error e =>
    obtain ⟨v, hrun, hv⟩ := hrefused e hs
    rw [← hcommit] at hrun
    refine ⟨base, .inl rfl, fun s hmem => ?_⟩
    rw [saveSnapshot_failed h hchange hrun] at hmem
    exact (hv s hmem).load h.ready hj h.ready (recover_back h.ready env' hj (.inl rfl))
  | ok p =>
    obtain ⟨saved, file⟩ := p
    have hfile := h.savedFile hprofiles hs
    have hready := h.ready_replaced hfile
    obtain ⟨v, hrun, hv, -⟩ := htaken saved file hs
    rw [← hcommit] at hrun
    have hsave := saveSnapshot_committed h hchange hrun hready.reads
    refine ⟨_, .inr (by rw [hsave]), fun s hmem => ?_⟩
    rw [hsave] at hmem
    exact (hv s hmem).load h.ready hj hready (recover_on h.ready env' hj hfile rfl rfl)

/-- A save of both passes through a disk with the configuration replaced and the database not, and
through one with a torn journal. -/
lemma saveSnapshot_passes (h : Saves env d base desired newConfig)
    (hconfig : base.revision.applicationSource ≠ some newConfig)
    (hprofiles : base.profiles ≠ desired.profiles) {saved : ProfileStoreSnapshot} {file : Bytes}
    (hs : saveFile env.now d.database.file (desiredProfiles base desired) = .ok (saved, file)) :
    (∃ s ∈ stops (saveSnapshot env desired) d, s.config = some newConfig ∧ s.database = d.database) ∧
      ∃ s ∈ stops (saveSnapshot env desired) d, s.Torn := by
  have hchange : ¬ (base.revision.applicationSource = some newConfig ∧
      base.profiles = desired.profiles) := fun hb => hconfig hb.1
  have hcommit := commitChanges_both env hconfig hprofiles
  obtain ⟨text, -, -, htaken⟩ := commitBoth_run h
  obtain ⟨v, hrun, -, hpasses⟩ := htaken saved file hs
  rw [← hcommit] at hrun
  have hready := h.ready_replaced (h.savedFile hprofiles hs)
  rw [stops, saveSnapshot_committed h hchange hrun hready.reads]
  obtain ⟨s, hmem, htorn⟩ := hpasses.torn (journalFiles_whole h.ready newConfig text)
  exact ⟨⟨_, List.mem_cons_of_mem _ hpasses.between, rfl, rfl⟩, s, List.mem_cons_of_mem _ hmem, htorn⟩

/-- Whatever is saved, what is loaded at a stop is the snapshot before or after. -/
lemma saveSnapshot_stops (env env' : Environment) (h : Ready d base) (desired : ConfigurationSnapshot) :
    ∃ after, (after = base ∨ ((saveSnapshot env desired).run none d).result = .ok after) ∧
      ∀ s ∈ ((saveSnapshot env desired).run none d).visited, Survives env' base after s := by
  cases hcheck : checkSnapshot env desired with
  | error e =>
    rw [saveSnapshot_refused h (.inl hcheck)]
    exact ⟨base, .inl rfl, by simp⟩
  | ok _ =>
  cases hcurrent : checkCurrent base desired with
  | error e =>
    rw [saveSnapshot_refused h (.inr ⟨hcheck, hcurrent⟩)]
    exact ⟨base, .inl rfl, by simp⟩
  | ok newConfig =>
  have hsaves : Saves env d base desired newConfig := ⟨h, hcheck, hcurrent⟩
  by_cases hconfig : base.revision.applicationSource = some newConfig
  · by_cases hprofiles : base.profiles = desired.profiles
    · rw [saveSnapshot_checked hsaves, if_pos ⟨hconfig, hprofiles⟩]
      exact ⟨base, .inl rfl, by simp⟩
    · exact commitProfiles_stops hsaves hconfig hprofiles
  · by_cases hprofiles : base.profiles = desired.profiles
    · exact commitConfig_stops hsaves hconfig hprofiles
    · exact commitBoth_stops hsaves hconfig hprofiles

/-- **Where a save may stop.** For every repository that can be read, every snapshot, every order in
which the files of the journal are deleted and every disk at which the save may stop, the next
load finds the snapshot that was there or the one that the save returns when it does not stop,
if and only if there is no journal of which some files are gone. -/
theorem saveSnapshot_crash (env env' : Environment) {d s : Disk} {base : ConfigurationSnapshot}
    (h : Ready d base) (desired : ConfigurationSnapshot) (hs : s ∈ stops (saveSnapshot env desired) d) :
    (((load env').run none s).result = .ok base ∨
      ∃ committed, ((saveSnapshot env desired).run none d).result = .ok committed ∧
        ((load env').run none s).result = .ok committed) ↔ ¬ s.Torn := by
  obtain ⟨after, hafter, hstops⟩ := saveSnapshot_stops env env' h desired
  have hsurvives : Survives env' base after s := by
    rcases List.mem_cons.mp hs with rfl | hs
    · exact .inl ⟨not_torn_of_none h.transaction, .inl (by rw [h.load_run env'])⟩
    · exact hstops s hs
  rcases hsurvives with ⟨hn, hload⟩ | ⟨ht, e, he⟩
  · refine iff_of_true ?_ hn
    rcases hload with hload | hload
    · exact .inl hload
    · rcases hafter with rfl | hafter
      · exact .inl hload
      · exact .inr ⟨after, hafter, hload⟩
  · refine iff_of_false ?_ (not_not.mpr ht)
    rw [he]
    rintro (hok | ⟨_, -, hok⟩)
    · cases hok
    · cases hok

end Crash

section Plain

attribute [local instance] bitLibrary parserSqlite plainEngine

def plainBase : ConfigurationSnapshot where
  revision := ⟨some defaultConfig, 0⟩

/-- Another port, and a profile. -/
def plainDesired : ConfigurationSnapshot :=
  { plainBase with
    application := { listener := { port := 8080 } }
    profiles := [{ profileId := str "a" }] }

lemma serialize_defaultConfig : serializeApplicationConfigDocument {} = .ok defaultConfig := by
  obtain ⟨u, hu⟩ := serializeApplication_of_valid (a := {}) (toOption_eq_some.mp (by decide))
    (by decide) (by decide)
  rw [defaultConfig, hu]
  rfl

lemma plainDisk_ready : Ready plainDisk plainBase := by
  obtain ⟨hparse, hschema, hlen⟩ := parse_serializeApplication serialize_defaultConfig
  exact ⟨rfl, rfl, ⟨defaultConfig, rfl, hlen, hschema, hparse⟩, load_created [], _, rfl⟩

/-- Other settings have another text. -/
lemma serialize_ne_default {a : ApplicationSettings} {u : Bytes}
    (h : serializeApplicationConfigDocument a = .ok u) (ha : a ≠ {}) :
    plainBase.revision.applicationSource ≠ some u := by
  intro hsame
  have hold := (parse_serializeApplication serialize_defaultConfig).1
  have hnew := (parse_serializeApplication h).1
  rw [← Option.some.inj hsame, hold] at hnew
  exact ha (Except.ok.inj hnew).symm

/-- Valid settings, and what else is desired over the revision that is there, can be saved. -/
lemma plain_saves (desired : ConfigurationSnapshot)
    (hvalid : validateApplicationSettings desired.application = .ok ())
    (hhost : validUtf8 desired.application.listener.host = true)
    (hpath : validUtf8 desired.application.logging.path = true)
    (hrevision : plainBase.revision = desired.revision)
    (horigin : plainBase.migratedFromSha256 = desired.migratedFromSha256)
    (hchecked : checkSnapshot plainEnvironment desired = .ok ()) :
    ∃ newConfig, Saves plainEnvironment plainDisk plainBase desired newConfig := by
  obtain ⟨newConfig, hnew⟩ := serializeApplication_of_valid hvalid hhost hpath
  refine ⟨newConfig, plainDisk_ready, hchecked, ?_⟩
  rw [checkCurrent, if_neg (not_not.mpr hrevision), if_neg (not_not.mpr horigin), hnew]

lemma plainStops :
    (∃ s ∈ stops (saveSnapshot plainEnvironment plainDesired) plainDisk,
      s.config ≠ plainDisk.config ∧ s.database = plainDisk.database) ∧
    ∃ s ∈ stops (saveSnapshot plainEnvironment plainDesired) plainDisk, s.Torn := by
  obtain ⟨newConfig, hsaves⟩ := plain_saves plainDesired (toOption_eq_some.mp (by decide))
    (by decide) (by decide) rfl rfl (toOption_eq_some.mp (by decide))
  have hconfig := serialize_ne_default (checkCurrent_ok hsaves.current).2.2 (by decide)
  have htaken : (saveFile plainEnvironment.now plainDisk.database.file
      (desiredProfiles plainBase plainDesired)).toOption.isSome = true := by decide
  obtain ⟨⟨saved, file⟩, hsaved⟩ := Option.isSome_iff_exists.mp htaken
  obtain ⟨⟨s, hs, hnew, hdatabase⟩, htorn⟩ := saveSnapshot_passes hsaves hconfig
    (by simp [plainBase, plainDesired]) (toOption_eq_some.mp hsaved)
  exact ⟨⟨s, hs, fun heq => hconfig (heq.symm.trans hnew), hdatabase⟩, htorn⟩

theorem saveSnapshot_crash_between : ∃ s ∈ stops (saveSnapshot plainEnvironment plainDesired) plainDisk,
    s.config ≠ plainDisk.config ∧ s.database = plainDisk.database ∧
    ((((load plainEnvironment).run none s).result = .ok plainBase ∨
      ∃ committed, ((saveSnapshot plainEnvironment plainDesired).run none plainDisk).result =
          .ok committed ∧
        ((load plainEnvironment).run none s).result = .ok committed) ↔ ¬ s.Torn) := by
  obtain ⟨s, hs, hconfig, hdatabase⟩ := plainStops.1
  exact ⟨s, hs, hconfig, hdatabase,
    saveSnapshot_crash plainEnvironment plainEnvironment plainDisk_ready plainDesired hs⟩

/-- The save stops when a file of the journal is deleted. -/
theorem saveSnapshot_crash_torn : Ready plainDisk plainBase ∧
    ∃ s ∈ stops (saveSnapshot plainEnvironment plainDesired) plainDisk,
      ¬ (((load plainEnvironment).run none s).result = .ok plainBase ∨
        ∃ committed, ((saveSnapshot plainEnvironment plainDesired).run none plainDisk).result =
            .ok committed ∧
          ((load plainEnvironment).run none s).result = .ok committed) := by
  obtain ⟨s, hs, htorn⟩ := plainStops.2
  refine ⟨plainDisk_ready, s, hs, fun hloads => ?_⟩
  exact (saveSnapshot_crash plainEnvironment plainEnvironment plainDisk_ready plainDesired hs).mp hloads
    htorn

end Plain

end CcsTrans.Repository
