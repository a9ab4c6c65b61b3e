import CcsTrans.Repository.Restart

/-!
Loading a repository: recovery first, then a new repository where there is none, then the two
files.
-/

namespace CcsTrans.Repository

open CcsTrans.Text CcsTrans.Core CcsTrans.Json CcsTrans.Config CcsTrans.Storage CcsTrans.Fallible
open CcsTrans.Durable

abbrev StoreProgram := Prog Disk Reason StoreError

/-- A step of SQLite. -/
def storeStep (act : Disk → Disk) : Step Disk Reason StoreError :=
  ⟨act, fun r => ⟨r.failure, r.text⟩⟩

/-- Where a database is. -/
structure Place where
  files : Disk → DatabaseFiles
  on : (DatabaseFiles → DatabaseFiles) → Disk → Disk

def atDatabase : Place := ⟨Disk.database, onDatabase⟩
def atMigrating : Place := ⟨Disk.migrating, onMigrating⟩

def Place.put (place : Place) (file : Bytes) : Disk → Disk :=
  place.on fun db => { db with file := some file }

section Load

variable [Library] [Sqlite] [Engine]

/-- How a database is created: an empty file, the journal mode, the schema. -/
def createSteps (env : Environment) (place : Place) : List (Step Disk Reason StoreError) :=
  [storeStep (place.put []), storeStep (place.put Engine.header),
   storeStep (place.put (Engine.created env.now))]

/-- `SqliteProfileStore::open_or_create`. -/
def openOrCreate (env : Environment) (place : Place) : StoreProgram ProfileStoreSnapshot := do
  let file ← Prog.look fun d => (place.files d).file
  block (if file.isSome then [] else createSteps env place)
  Prog.read fun d => Storage.load (place.files d).file

/-- `initialize_fresh_locked`, with the text of the default settings. -/
def initializeWith (env : Environment) (newConfig : Bytes) : Program Unit := do
  let journal : RepositoryJournal := { kind := str "initialize", newConfig := newConfig }
  writeJournal journal
  block (writeConfigFile newConfig)
  match ← (openOrCreate env atDatabase).attempt with
  | .error e =>
    block (removeDatabaseFamily onDatabase)
    restoreConfig journal.oldConfig
    clearJournal env []
    throw (fromStore e)
  | .ok profiles =>
    if profiles.revision ≠ 0 ∨ profiles.profiles ≠ [] then
      throw ⟨.corrupt, str "fresh profile database is not empty"⟩
    else clearJournal env []

/-- `initialize_fresh_locked`. -/
def initializeFreshLocked (env : Environment) : Program Unit :=
  match serializeApplicationConfigDocument {} with
  | .error e => throw ⟨.invalidDocument, e⟩
  | .ok newConfig => initializeWith env newConfig

lemma initializeFreshLocked_cases (env : Environment) :
    (∃ e, serializeApplicationConfigDocument {} = .error e ∧
      initializeFreshLocked env = throw ⟨.invalidDocument, e⟩) ∨
    ∃ newConfig, serializeApplicationConfigDocument {} = .ok newConfig ∧
      initializeFreshLocked env = initializeWith env newConfig := by
  -- unfolded before it is applied: the text of the settings is not to be evaluated
  obtain ⟨f, hf⟩ : ∃ f, f = initializeFreshLocked := ⟨_, rfl⟩
  rw [← hf]
  delta initializeFreshLocked at hf
  rw [hf]
  cases serializeApplicationConfigDocument {} with
  | error e => exact .inl ⟨e, rfl, rfl⟩
  | ok newConfig => exact .inr ⟨newConfig, rfl, rfl⟩

lemma initializeFreshLocked_eq (env : Environment) {newConfig : Bytes}
    (hnew : serializeApplicationConfigDocument {} = .ok newConfig) :
    initializeFreshLocked env = initializeWith env newConfig := by
  rcases initializeFreshLocked_cases env with ⟨e, herror, -⟩ | ⟨config, hok, heq⟩
  · rw [hnew] at herror
    cases herror
  · rw [hnew] at hok
    cases hok
    exact heq

/-- A repository is created where there is none. -/
def ensureCreated (env : Environment) : Program Unit := do
  let source ← Prog.read readConfigSource
  let databaseExists ← Prog.look fun d => d.database.file.isSome
  if source.isNone && !databaseExists then initializeFreshLocked env else pure ()

/-- `load`. -/
def load (env : Environment) : Program ConfigurationSnapshot := do
  recoverLocked env
  ensureCreated env
  Prog.read readReady

/-! ### Journals that are published -/

omit [Library] [Sqlite] [Engine] in
lemma stagingSteps_quiet (j : RepositoryJournal) (d : Disk) : ∀ s ∈ stagingSteps j, s.act d = d := by
  unfold stagingSteps
  split <;> simp [ioStep, writeDurableFile, syncDirectory]

omit [Library] [Sqlite] [Engine] in
lemma performed_journalSteps (j : RepositoryJournal) (files : JournalFiles) (d : Disk) :
    performed (stagingSteps j ++ publishSteps files) d = d.withJournal (some files) := by
  rw [performed_append, performed_quiet (stagingSteps_quiet j d)]
  rfl

omit [Sqlite] [Engine] in
/-- A journal is published as a whole, and can be read. -/
lemma writeJournal_run {j : RepositoryJournal} (hj : j.InOrder) {d : Disk}
    (hd : d.transaction = none) : ∃ text v, dumpPretty (.obj (manifestJson j)) = some text ∧
      readJournal (journalFiles j text) = .ok j ∧
      (writeJournal j).run none d =
        ⟨.ok (), d.withJournal (some (journalFiles j text)), v, none⟩ ∧
      ∀ s ∈ v, s = d ∨ s = d.withJournal (some (journalFiles j text)) := by
  obtain ⟨text, htext, hread⟩ := readJournal_written hj
  refine ⟨text, trail (stagingSteps j ++ publishSteps (journalFiles j text)) d, htext, hread, ?_, ?_⟩
  · rw [writeJournal, look_bind, hd]
    simp only [Option.isSome_none, Bool.false_eq_true, if_false, htext]
    rw [block_none, performed_journalSteps]
  · intro s hs
    rw [trail_append, List.mem_append, performed_quiet (stagingSteps_quiet j d)] at hs
    rcases hs with hs | hs
    · exact .inl (trail_quiet (stagingSteps_quiet j d) s hs)
    · simp only [publishSteps, trail_cons, trail_nil, List.mem_cons, List.not_mem_nil, or_false] at hs
      rcases hs with rfl | rfl
      · exact .inr rfl
      · exact .inr rfl

/-! ### Repositories that are there -/

/-- A repository without a journal that can be read. -/
structure Ready (d : Disk) (base : ConfigurationSnapshot) : Prop where
  transaction : d.transaction = none
  reads : Reads d base

lemma recoverLocked_none (env : Environment) {d : Disk} (h : d.transaction = none)
    (w : Option (ℕ × Reason)) : (recoverLocked env).run w d = ⟨.ok (), d, [], w⟩ := by
  rw [recoverLocked, look_bind, h]
  rfl

lemma Reads.readConfigSource_eq {d : Disk} {s : ConfigurationSnapshot} (h : Reads d s) :
    readConfigSource d = .ok s.revision.applicationSource := by
  obtain ⟨source, hs, hlen, -, -⟩ := h.source
  simp [readConfigSource, h.config, hs, readBoundedFile, not_lt.mpr hlen]

/-- What is there is loaded after recovery. -/
lemma load_of_recovered (env : Environment) {d d' : Disk} {v : List Disk}
    {base : ConfigurationSnapshot} (hr : (recoverLocked env).run none d = ⟨.ok (), d', v, none⟩)
    (hd : Reads d' base) : (load env).run none d = ⟨.ok base, d', v, none⟩ := by
  obtain ⟨source, hs, -, -, -⟩ := hd.source
  have hsome : d'.database.file.isSome = true := (load_ok hd.database).2.2.2
  have hensure : (ensureCreated env).run none d' = ⟨.ok (), d', [], none⟩ := by
    rw [ensureCreated, read_bind_ok hd.readConfigSource_eq, look_bind, hs, hsome]
    rfl
  rw [load, run_bind_ok hr, run_bind_ok hensure, run_read, readReady_eq_ok.mpr hd]
  simp

lemma Ready.load_run {d : Disk} {base : ConfigurationSnapshot} (h : Ready d base)
    (env : Environment) : (load env).run none d = ⟨.ok base, d, [], none⟩ :=
  load_of_recovered env (recoverLocked_none env h.transaction none) h.reads

/-- Without a journal that can be read nothing is loaded. -/
lemma load_unreadable (env : Environment) {d : Disk} {files : JournalFiles} {e : RepositoryError}
    (ht : d.transaction = some files) (hj : readJournal files = .error e) :
    (load env).run none d = ⟨.error e, d, [], none⟩ := by
  rw [load]
  apply run_bind_error
  rw [recoverLocked, look_bind, ht]
  dsimp only
  rw [read_bind_error (g := fun _ => readJournal files) hj]

end Load

end CcsTrans.Repository
