import CcsTrans.Repository.Pending
import CcsTrans.Runs

/-!
The life of a repository.

Processes load a repository and save to it, one after another. A step of each may fail, and each may
stop wherever it is: while it saves, while it recovers what an earlier one has left behind, while it
puts back what it failed to write, and while there is no repository yet and it creates one. What such
a life comes to depends on the disk alone. As long as the journal can be read, and the database under
it has its schema, the next load finds what was saved last; after that the repository is lost.
-/

namespace CcsTrans.Repository

open CcsTrans.Text CcsTrans.Core CcsTrans.Json CcsTrans.Config CcsTrans.Storage CcsTrans.Fallible
open CcsTrans.Durable CcsTrans.Runs

section Lives

variable [Library] [Sqlite] [Engine]

/-! ### Processes -/

/-- What a process does with a repository. -/
inductive Act where
  | load
  | save (desired : ConfigurationSnapshot)

/-- A process, the number of the step that fails and the number of the one after which it stops, if
there are such. -/
structure Process where
  env : Environment
  act : Act
  fault : Option (ℕ × Reason) := none
  stop : Option ℕ := none

def Process.program (p : Process) : Program ConfigurationSnapshot :=
  match p.act with
  | .load => load p.env
  | .save desired => saveSnapshot p.env desired

/-- What the process comes to when no step fails. -/
def Process.clean (p : Process) (d : Disk) : Run Disk Reason RepositoryError ConfigurationSnapshot :=
  p.program.run none d

/-- What it comes to when it does not stop. -/
def Process.run (p : Process) (d : Disk) : Run Disk Reason RepositoryError ConfigurationSnapshot :=
  p.program.run p.fault d

/-- The disk that a process leaves. -/
def live (d : Disk) (p : Process) : Disk :=
  match p.stop with
  | none => (p.run d).disk
  | some n => (d :: (p.run d).visited).getD n (p.run d).disk

/-- The snapshot has what was to be saved, but for the keys. -/
def Has (desired c : ConfigurationSnapshot) : Prop :=
  c.application = desired.application ∧
    c.profiles.map StoredProfile.unkeyed = desired.profiles.map StoredProfile.unkeyed

/-- What a process finds, and what it leaves: what it found or all that it was to save, or a
repository that is lost. -/
structure Lived (d : Disk) (p : Process) (c : ConfigurationSnapshot) : Prop where
  found : Loads d c
  loaded : p.act = .load → ∀ c', (p.run d).result = .ok c' → c' = c
  served : p.act = .load → p.fault = none → (p.run d).result = .ok c
  saved : ∀ desired, p.act = .save desired → ∀ c', (p.run d).result = .ok c' → Has desired c'
  done : ∀ c', (p.run d).result = .ok c' → Loads (p.run d).disk c'
  failed : p.fault = none → ∀ e, (p.run d).result = .error e → Loads (p.run d).disk c
  left : Broken (live d p) ∨ ∃ c', (c' = c ∨ (p.clean d).result = .ok c') ∧ Loads (live d p) c'

/-- A process fails in a repository that is lost, and changes nothing there; every other one is served. -/
def Fares (d : Disk) (p : Process) : Prop :=
  (Broken d ∧ live d p = d ∧ ∃ e, (p.run d).result = .error e) ∨ ∃ c, Lived d p c

variable {d s : Disk} {c : ConfigurationSnapshot} {config : Option Bytes}

/-! ### Saves -/

/-- What a program of a process comes to without a fault. -/
structure Keeps (c : ConfigurationSnapshot) (stored : ConfigurationSnapshot → Prop)
    (r : Run Disk Reason RepositoryError ConfigurationSnapshot) : Prop where
  done : ∀ c', r.result = .ok c' → stored c' ∧ Holds r.disk c'
  failed : ∀ e, r.result = .error e → Holds r.disk c

variable {stored good : ConfigurationSnapshot → Prop}

/-- A program that fails at once. -/
lemma keeps_refused (h : Holds d c) (e : RepositoryError) : Keeps c stored ⟨.error e, d, [], none⟩ where
  done := nofun
  failed _ _ := h

section Saves

variable {env : Environment} {base desired : ConfigurationSnapshot} {newConfig text : Bytes}

/-- Until the database is changed, recovery goes back. -/
lemma holds_before (h : Ready d base)
    (hj : readJournal (journalFiles (commitJournal base newConfig) text) = .ok (commitJournal base newConfig))
    (hc : config = d.config ∨ config = some newConfig) :
    Holds ((d.withConfig config).withJournal (some (journalFiles (commitJournal base newConfig) text))) base := by
  obtain ⟨database, hdb, hold⟩ := h.reads.isOld
    (s := (d.withConfig config).withJournal (some (journalFiles (commitJournal base newConfig) text))) rfl
    newConfig
  have hconfig : (commitJournal base newConfig).oldConfig = d.config := h.reads.config.symm
  have hout := outcome_old (readJournal_lengths hj) (by rw [hconfig]; exact hc) hdb hold
  refine .pends ⟨rfl, hj, by show ¬ str "commit" = str "migration"; decide, rfl,
    fun _ => readJournal_of_torn hj (commitJournal_old h newConfig), hout, ?_⟩
  rw [hconfig]
  exact .ready (Disk.withJournal_self h.transaction ▸ h)

/-- Once it is changed, recovery goes on. -/
lemma holds_after (h : Ready d base)
    (hj : readJournal (journalFiles (commitJournal base newConfig) text) = .ok (commitJournal base newConfig))
    {file : Bytes} {saved desired : ProfileStoreSnapshot}
    (hfile : SavedFile (storedProfiles base) desired saved file)
    (hrev : desired.revision = base.revision.profileRevision)
    (horigin : desired.migratedFromSha256 = base.migratedFromSha256) {after : ConfigurationSnapshot}
    (h' : Ready (d.replaced newConfig file) after) :
    Holds ((d.replaced newConfig file).withJournal
      (some (journalFiles (commitJournal base newConfig) text))) after := by
  have hdb := readDatabaseState_some (d := (d.replaced newConfig file).withJournal
    (some (journalFiles (commitJournal base newConfig) text))) rfl hfile.load
  obtain ⟨hold, htarget⟩ := savedFile_isTarget hfile hrev horigin newConfig (some (sha256Hex file))
  have hout := outcome_target (readJournal_lengths hj) (.inr rfl) hdb hold htarget
  refine .pends ⟨rfl, hj, by show ¬ str "commit" = str "migration"; decide, rfl,
    fun _ => readJournal_of_torn hj (commitJournal_old h newConfig), hout, .ready ?_⟩
  rwa [← Disk.withJournal_self h'.transaction] at h'

lemma commitChanges_profiles (hconfig : base.revision.applicationSource = some newConfig) :
    commitChanges env base desired newConfig = commitProfiles env (desiredProfiles base desired) := by
  rw [commitChanges, if_neg (not_not.mpr hconfig)]
  rfl

/-- The profiles only are to be written, and the database refuses them. -/
lemma commitProfiles_refused {e : StoreError} (hconfig : base.revision.applicationSource = some newConfig)
    (hsave : saveFile env.now d.database.file (desiredProfiles base desired) = .error e) :
    (commitChanges env base desired newConfig).run none d = ⟨.error (fromStore e), d, [], none⟩ := by
  rw [commitChanges_profiles hconfig, commitProfiles, attempt_bind (storeSave_error (s := d) hsave none)]
  rfl

/-- The database takes them. -/
lemma commitProfiles_taken (h : Saves env d base desired newConfig)
    (hconfig : base.revision.applicationSource = some newConfig) {saved : ProfileStoreSnapshot} {file : Bytes}
    (hsave : saveFile env.now d.database.file (desiredProfiles base desired) = .ok (saved, file)) :
    (commitChanges env base desired newConfig).run none d =
      ⟨.ok saved, d.replaced newConfig file, [d.replaced newConfig file], none⟩ := by
  have hput : atDatabase.put file d = d.replaced newConfig file := by
    rw [Disk.replaced, ← hconfig, ← h.ready.reads.config]
    rfl
  rw [commitChanges_profiles hconfig, commitProfiles, attempt_bind (storeSave_ok (s := d) hsave), hput]
  rfl

/-- A save stores what was desired, or leaves what was there. -/
lemma Saves.keeps (h : Saves env d base desired newConfig) :
    Keeps base (Has desired) ((saveSnapshot env desired).run none d) := by
  have hbase : Holds d base := .rests (.ready h.ready)
  obtain ⟨-, -, hserialize⟩ := checkCurrent_ok h.current
  by_cases hchange : base.revision.applicationSource = some newConfig ∧ base.profiles = desired.profiles
  · -- the application is that of the text which is there already
    have hsame : base.application = desired.application := by
      obtain ⟨source, hsource, -, -, hparse⟩ := h.ready.reads.source
      rw [hchange.1] at hsource
      cases hsource
      have hagain := (parse_serializeApplication hserialize).1
      rw [hparse] at hagain
      exact Except.ok.inj hagain
    rw [saveSnapshot_checked h, if_pos hchange]
    refine ⟨fun c' hc' => ?_, by simp⟩
    cases hc'
    exact ⟨⟨hsame, by rw [hchange.2]⟩, hbase⟩
  -- what is returned once the files are written
  have hwritten : ∀ {saved d' v},
      (commitChanges env base desired newConfig).run none d = ⟨.ok saved, d', v, none⟩ →
      Ready d' (committedSnapshot desired newConfig saved) →
      saved.profiles.map StoredProfile.unkeyed = desired.profiles.map StoredProfile.unkeyed →
      Keeps base (Has desired) ((saveSnapshot env desired).run none d) := by
    intro saved d' v hrun hready hsaved
    rw [saveSnapshot_committed h hchange hrun hready.reads]
    refine ⟨fun c' hc' => ?_, by simp⟩
    cases hc'
    exact ⟨⟨rfl, hsaved⟩, .rests (.ready hready)⟩
  by_cases hconfig : base.revision.applicationSource = some newConfig
  · have hprofiles : base.profiles ≠ desired.profiles := fun heq => hchange ⟨hconfig, heq⟩
    cases hsave : saveFile env.now d.database.file (desiredProfiles base desired) with
    | error e =>
      rw [saveSnapshot_failed h hchange (commitProfiles_refused hconfig hsave)]
      exact keeps_refused hbase _
    | ok p =>
      obtain ⟨saved, file⟩ := p
      have hfile := h.savedFile hprofiles hsave
      exact hwritten (commitProfiles_taken h hconfig hsave) (h.ready_replaced hfile)
        (unkeyed_completed hfile.profiles)
  · by_cases hprofiles : base.profiles = desired.profiles
    · obtain ⟨hrun, hready⟩ := commitConfig_run h hconfig hprofiles
      exact hwritten hrun hready (by rw [storedProfiles, hprofiles])
    · have hcommit := commitChanges_both env hconfig hprofiles
      obtain ⟨text, -, hrefused, htaken⟩ := commitBoth_run h
      cases hsave : saveFile env.now d.database.file (desiredProfiles base desired) with
      | error e =>
        obtain ⟨v, hrun, -⟩ := hrefused e hsave
        rw [← hcommit] at hrun
        rw [saveSnapshot_failed h hchange hrun]
        exact ⟨by simp, fun _ _ => hbase⟩
      | ok p =>
        obtain ⟨saved, file⟩ := p
        have hfile := h.savedFile hprofiles hsave
        obtain ⟨v, hrun, -, -⟩ := htaken saved file hsave
        rw [← hcommit] at hrun
        exact hwritten hrun (h.ready_replaced hfile) (unkeyed_completed hfile.profiles)

/-! ### Saves of which a step fails -/

/-- The database is replaced as a whole, or not at all. -/
lemma careful_storeSave {V : Disk → Prop} {desired saved : ProfileStoreSnapshot} {file : Bytes}
    (hsave : saveFile env.now s.database.file desired = .ok (saved, file)) (hput : V (atDatabase.put file s)) :
    Careful V (· = s) (storeSave env desired) s := by
  refine Careful.congr (fun w => read_bind_ok (g := fun d : Disk => saveFile env.now d.database.file desired) hsave) ?_
  refine careful_bind (careful_block (fun k hk => ?_) ?_) fun _ _ => careful_still fun _ => rfl
  · obtain rfl : k = 0 := by simpa using hk
    rfl
  · exact List.forall_mem_singleton.mpr hput

/-- Whatever a transaction that failed has left is recovered, and the failure stands. -/
lemma failsTo_commitFailed (h : Safe good s) (env : Environment) (e : RepositoryError) :
    FailsTo (Safe good) (Safe good) (commitFailed env e) s := by
  rcases h with hbroken | ⟨c, hc, hholds⟩
  · obtain ⟨files, ht, -⟩ := id hbroken
    obtain ⟨e', hrun⟩ := hbroken.recover env
    refine ⟨⟨.recoveryRequired, e'.message⟩, s, [], ?_, .inl hbroken, by simp⟩
    rw [commitFailed, look_bind, ht, Option.isSome_some, if_pos rfl]
    exact run_bind_error (run_tryCatch_error hrun)
  · have hcareful := careful_recover env hholds hc
    obtain ⟨d', v, hrun, hrests⟩ := hholds.recover env
    have hvisits := hcareful.visits
    rw [hrun] at hvisits
    by_cases ht : s.transaction.isSome = true
    · refine ⟨e, d', v, ?_, Holds.safe (.rests hrests) hc, hvisits⟩
      rw [commitFailed, look_bind, if_pos ht, run_bind_ok (run_tryCatch_ok hrun)]
      simp
    · refine ⟨e, s, [], ?_, hholds.safe hc, by simp⟩
      rw [commitFailed, look_bind, if_neg ht]
      rfl

section Both

variable (h : Ready d base)
  (hj : readJournal (journalFiles (commitJournal base newConfig) text) = .ok (commitJournal base newConfig))
  (hbase : good base)

include h hj hbase

lemma safe_published :
    Safe good (d.withJournal (some (journalFiles (commitJournal base newConfig) text))) :=
  (holds_before h hj (.inl rfl)).safe hbase

lemma safe_configured :
    Safe good ((d.withConfig (some newConfig)).withJournal
      (some (journalFiles (commitJournal base newConfig) text))) :=
  (holds_before h hj (.inr rfl)).safe hbase

/-- The configuration is put back when the database is not written. -/
lemma restored_run (env : Environment) (e : RepositoryError) :
    ∃ v, (do
        restoreConfig (commitJournal base newConfig).oldConfig
        clearJournal env []
        throw e : Program ProfileStoreSnapshot).run none ((d.withConfig (some newConfig)).withJournal
          (some (journalFiles (commitJournal base newConfig) text))) = ⟨.error e, d, v, none⟩ ∧
      ∀ s ∈ v, Safe good s := by
  have hpublished : Safe good _ := safe_published h hj hbase
  have hconfigured : Safe good _ := safe_configured h hj hbase
  obtain ⟨v, hrestore, hv⟩ := restoreConfig_run (commitJournal base newConfig).oldConfig
    ((d.withConfig (some newConfig)).withJournal (some (journalFiles (commitJournal base newConfig) text)))
  have hback : ((d.withConfig (some newConfig)).withJournal
      (some (journalFiles (commitJournal base newConfig) text))).withConfig
        (commitJournal base newConfig).oldConfig =
      d.withJournal (some (journalFiles (commitJournal base newConfig) text)) := by
    rw [show (commitJournal base newConfig).oldConfig = d.config from h.reads.config.symm]
    rfl
  rw [hback] at hrestore hv
  obtain ⟨w, hclear, hw⟩ := clearJournal_run env []
    (d.withJournal (some (journalFiles (commitJournal base newConfig) text)))
  rw [cleared_withJournal h.transaction] at hclear
  refine ⟨v ++ w, ?_, List.forall_mem_append.mpr ⟨fun s hs => ?_, fun s hs => ?_⟩⟩
  · rw [run_bind_ok hrestore, run_bind_ok hclear]
    simp
  · rcases hv s hs with rfl | rfl
    · exact hconfigured
    · exact hpublished
  · rcases (hw s hs).cases h.transaction with rfl | rfl | ⟨files', hs, htorn⟩
    · exact hpublished
    · exact Holds.safe (.rests (.ready h)) hbase
    · exact .inl (broken_of_torn (fun _ => readJournal_of_torn hj (commitJournal_old h newConfig)) hs htorn)

end Both

/-- The transaction behind a published journal. -/
lemma careful_commitBody (h : Saves env d base desired newConfig) (hprofiles : base.profiles ≠ desired.profiles)
    (hj : readJournal (journalFiles (commitJournal base newConfig) text) = .ok (commitJournal base newConfig))
    (hbase : good base) (hafter : ∀ saved file,
      saveFile env.now d.database.file (desiredProfiles base desired) = .ok (saved, file) →
      good (committedSnapshot desired newConfig saved)) :
    Careful (Safe good) (Safe good) (commitBody env (commitJournal base newConfig) (desiredProfiles base desired))
      (d.withJournal (some (journalFiles (commitJournal base newConfig) text))) := by
  have hpublished : Safe good _ := safe_published h.ready hj hbase
  have hconfigured : Safe good _ := safe_configured h.ready hj hbase
  have hrestored := restored_run h.ready hj hbase env
  have hfails : ∀ (e : StoreError) s, s = (d.withConfig (some newConfig)).withJournal
      (some (journalFiles (commitJournal base newConfig) text)) → FailsTo (Safe good) (Safe good) (do
        restoreConfig (commitJournal base newConfig).oldConfig
        clearJournal env []
        throw (fromStore e) : Program ProfileStoreSnapshot) s := by
    rintro e _ rfl
    obtain ⟨v, hrun, hv⟩ := hrestored (fromStore e)
    exact ⟨fromStore e, d, v, hrun, Holds.safe (.rests (.ready h.ready)) hbase, hv⟩
  let d₁ := (d.withConfig (some newConfig)).withJournal (some (journalFiles (commitJournal base newConfig) text))
  have hconfig : (block (writeConfigFile (commitJournal base newConfig).newConfig)).run none
      (d.withJournal (some (journalFiles (commitJournal base newConfig) text))) = ⟨.ok (), d₁, _, none⟩ :=
    writeConfigFile_run newConfig _
  refine careful_bind_ok ((plain_block _ _).fails ?_) hconfig ?_
  · rw [stops, hconfig]
    exact List.forall_mem_cons.mpr ⟨hpublished, by simpa using ⟨hpublished, hconfigured⟩⟩
  cases hsave : saveFile env.now d.database.file (desiredProfiles base desired) with
  | error e =>
    have hrefused : ∀ w, (storeSave env (desiredProfiles base desired)).run w d₁ = ⟨.error e, d₁, [], w⟩ :=
      storeSave_error (s := d₁) hsave
    refine careful_attempt (careful_still hrefused) (hrefused none) ?_ hfails
    obtain ⟨v, hrun, hv⟩ := hrestored (fromStore e)
    refine (plain_bind (plain_restoreConfig _ _) fun _ _ =>
      plain_bind (plain_clearJournal env [] _) fun _ _ => plain_still fun _ => rfl).fails ?_
    rw [stops, hrun]
    exact List.forall_mem_cons.mpr ⟨hconfigured, hv⟩
  | ok p =>
    obtain ⟨saved, file⟩ := p
    have hfile := h.savedFile hprofiles hsave
    have hready := h.ready_replaced hfile
    have hgood := hafter saved file hsave
    have hcommitted : Safe good ((d.replaced newConfig file).withJournal
        (some (journalFiles (commitJournal base newConfig) text))) :=
      (holds_after h.ready hj hfile rfl rfl hready).safe hgood
    refine careful_attempt (careful_storeSave hsave hcommitted) (storeSave_ok hsave) ?_ hfails
    obtain ⟨w, hclear, hw⟩ := clearJournal_run env []
      ((d.replaced newConfig file).withJournal (some (journalFiles (commitJournal base newConfig) text)))
    rw [cleared_withJournal hready.transaction] at hclear
    refine careful_bind (p := clearJournal env []) ((plain_clearJournal env [] _).fails ?_) fun _ _ =>
      careful_still fun _ => rfl
    show ∀ t ∈ stops (clearJournal env []) ((d.replaced newConfig file).withJournal
      (some (journalFiles (commitJournal base newConfig) text))), Safe good t
    rw [stops, hclear]
    refine List.forall_mem_cons.mpr ⟨hcommitted, fun s hs => ?_⟩
    rcases (hw s hs).cases hready.transaction with rfl | rfl | ⟨files', hs, htorn⟩
    · exact hcommitted
    · exact Holds.safe (.rests (.ready hready)) hgood
    · exact .inl (broken_of_torn (fun _ => readJournal_of_torn hj (commitJournal_old h.ready newConfig)) hs htorn)

/-- Both files. -/
lemma careful_commitBoth (h : Saves env d base desired newConfig) (hprofiles : base.profiles ≠ desired.profiles)
    (hbase : good base) (hafter : ∀ saved file,
      saveFile env.now d.database.file (desiredProfiles base desired) = .ok (saved, file) →
      good (committedSnapshot desired newConfig saved)) :
    Careful (Safe good) (Safe good)
      (commitBoth env (commitJournal base newConfig) (desiredProfiles base desired)) d := by
  have hd := h.ready.transaction
  have hfrom : Safe good d := Holds.safe (.rests (.ready h.ready)) hbase
  obtain ⟨text, v, -, hj, hwrite, hv⟩ := writeJournal_run (commitJournal_inOrder h) hd
  have hbody := careful_commitBody h hprofiles hj hbase hafter
  refine careful_bind_ok ((plain_writeJournal _ d).fails ?_) hwrite ?_
  · rw [stops, hwrite]
    refine List.forall_mem_cons.mpr ⟨hfrom, fun s hs => ?_⟩
    rcases hv s hs with rfl | rfl
    · exact hfrom
    · exact safe_published h.ready hj hbase
  have hfails : ∀ (e : RepositoryError) s, Safe good s →
      FailsTo (Safe good) (Safe good) (commitFailed env e) s := fun e _ hs => failsTo_commitFailed hs env e
  cases hsave : saveFile env.now d.database.file (desiredProfiles base desired) with
  | error e =>
    obtain ⟨v, hrun, -⟩ := commitBody_refused (j := commitJournal base newConfig)
      (journalFiles (commitJournal base newConfig) text) hd h.ready.reads.config.symm hsave
    refine careful_tryCatch hbody hrun (fun e' _ => careful_still (x := .error e') fun w => ?_) hfails
    rw [commitFailed, look_bind, hd]
    rfl
  | ok p =>
    obtain ⟨saved, file⟩ := p
    obtain ⟨v, hrun, -, -⟩ := commitBody_taken (j := commitJournal base newConfig)
      (journalFiles (commitJournal base newConfig) text) hd hsave
    exact careful_tryCatch hbody hrun (by simp) hfails

/-- The profiles only. -/
lemma careful_commitProfiles (h : Saves env d base desired newConfig)
    (hconfig : base.revision.applicationSource = some newConfig) (hprofiles : base.profiles ≠ desired.profiles)
    (hbase : good base) (hafter : ∀ saved file,
      saveFile env.now d.database.file (desiredProfiles base desired) = .ok (saved, file) →
      good (committedSnapshot desired newConfig saved)) :
    Careful (Safe good) (Safe good) (commitProfiles env (desiredProfiles base desired)) d := by
  have hfrom : Safe good d := Holds.safe (.rests (.ready h.ready)) hbase
  have hfails : ∀ (e : StoreError) s, s = d →
      FailsTo (Safe good) (Safe good) (throw (fromStore e) : Program ProfileStoreSnapshot) s := by
    rintro e s rfl
    exact ⟨fromStore e, s, [], rfl, hfrom, by simp⟩
  cases hsave : saveFile env.now d.database.file (desiredProfiles base desired) with
  | error e =>
    exact careful_attempt (careful_still (storeSave_error hsave)) (storeSave_error hsave none)
      (careful_still fun _ => rfl) hfails
  | ok p =>
    obtain ⟨saved, file⟩ := p
    have hput : atDatabase.put file d = d.replaced newConfig file := by
      rw [Disk.replaced, ← hconfig, ← h.ready.reads.config]
      rfl
    have hready := h.ready_replaced (h.savedFile hprofiles hsave)
    have hsafe : Safe good (atDatabase.put file d) := by
      rw [hput]
      exact Holds.safe (.rests (.ready hready)) (hafter saved file hsave)
    exact careful_attempt (careful_storeSave hsave hsafe) (storeSave_ok hsave) (careful_still fun _ => rfl) hfails

/-- Whatever is to be written. -/
lemma careful_commitChanges (h : Saves env d base desired newConfig)
    (hchange : ¬ (base.revision.applicationSource = some newConfig ∧ base.profiles = desired.profiles))
    (hbase : good base)
    (hafter : ∀ c', ((saveSnapshot env desired).run none d).result = .ok c' → good c') :
    Careful (Safe good) (Safe good) (commitChanges env base desired newConfig) d := by
  -- what is committed is what the save returns
  have hcommitted : ∀ {saved d' v},
      (commitChanges env base desired newConfig).run none d = ⟨.ok saved, d', v, none⟩ →
      Ready d' (committedSnapshot desired newConfig saved) → good (committedSnapshot desired newConfig saved) :=
    fun hrun hready => hafter _ (by rw [saveSnapshot_committed h hchange hrun hready.reads])
  by_cases hconfig : base.revision.applicationSource = some newConfig
  · have hprofiles : base.profiles ≠ desired.profiles := fun heq => hchange ⟨hconfig, heq⟩
    rw [commitChanges_profiles hconfig]
    refine careful_commitProfiles h hconfig hprofiles hbase fun saved file hsave => ?_
    exact hcommitted (commitProfiles_taken h hconfig hsave) (h.ready_replaced (h.savedFile hprofiles hsave))
  · by_cases hprofiles : base.profiles = desired.profiles
    · obtain ⟨hrun, hready⟩ := commitConfig_run h hconfig hprofiles
      have hfrom : Safe good d := Holds.safe (.rests (.ready h.ready)) hbase
      have hto : Safe good (d.withConfig (some newConfig)) :=
        Holds.safe (.rests (.ready hready)) (hcommitted hrun hready)
      rw [commitChanges, if_pos hconfig, if_neg (not_not.mpr hprofiles)]
      refine careful_bind ((plain_block _ _).fails ?_) fun _ _ => careful_still fun _ => rfl
      rw [stops, writeConfigFile_run]
      exact List.forall_mem_cons.mpr ⟨hfrom, by simpa using ⟨hfrom, hto⟩⟩
    · have hcommit := commitChanges_both env hconfig hprofiles
      obtain ⟨text, -, -, htaken⟩ := commitBoth_run h
      rw [hcommit]
      refine careful_commitBoth h hprofiles hbase fun saved file hsave => ?_
      obtain ⟨v, hrun, -, -⟩ := htaken saved file hsave
      rw [← hcommit] at hrun
      exact hcommitted hrun (h.ready_replaced (h.savedFile hprofiles hsave))

lemma Saves.careful (h : Saves env d base desired newConfig) (hbase : good base)
    (hafter : ∀ c', ((saveSnapshot env desired).run none d).result = .ok c' → good c') :
    Careful (Safe good) (Safe good) (saveSnapshot env desired) d := by
  refine Careful.congr (saveSnapshot_checked h) ?_
  split
  · exact careful_still fun _ => rfl
  next hchange =>
  refine careful_bind (careful_commitChanges h hchange hbase hafter) fun saved _ => ?_
  split
  · exact careful_still fun _ => rfl
  · exact careful_still fun _ => rfl

end Saves

/-- A save to a repository that rests. -/
lemma Rests.save (h : Rests d c) (env : Environment) (desired : ConfigurationSnapshot) :
    (∃ e, ∀ w, (saveSnapshot env desired).run w d = ⟨.error e, d, [], w⟩) ∨
      ∃ newConfig, Saves env d c desired newConfig := by
  cases hcheck : checkSnapshot env desired with
  | error e => exact .inl ⟨e, fun w => read_bind_error (g := fun _ => checkSnapshot env desired) hcheck⟩
  | ok _ =>
  cases h with
  | @blank newConfig hnew h =>
    have hread : ∃ e, readReady d = .error e := by
      have hsource : readConfigSource d = .ok none := by rw [readConfigSource, h.config]
      exact ⟨_, by rw [readReady, hsource, ok_bind]; rfl⟩
    obtain ⟨e, hread⟩ := hread
    refine .inl ⟨e, fun w => ?_⟩
    rw [saveSnapshot, read_bind_ok (g := fun _ => checkSnapshot env desired) hcheck,
      run_bind_ok (recoverLocked_none env h.transaction w), read_bind_error hread]
    rfl
  | ready h =>
    cases hcurrent : checkCurrent c desired with
    | error e => exact .inl ⟨e, saveSnapshot_refused h (.inr ⟨hcheck, hcurrent⟩)⟩
    | ok newConfig => exact .inr ⟨newConfig, h, hcheck, hcurrent⟩

lemma Rests.keeps (h : Rests d c) (env : Environment) (desired : ConfigurationSnapshot) :
    Keeps c (Has desired) ((saveSnapshot env desired).run none d) := by
  rcases h.save env desired with ⟨e, hrun⟩ | ⟨newConfig, hsaves⟩
  · rw [hrun]
    exact keeps_refused (.rests h) e
  · exact hsaves.keeps

lemma Rests.careful (h : Rests d c) (env : Environment) (desired : ConfigurationSnapshot) (hc : good c)
    (hafter : ∀ c', ((saveSnapshot env desired).run none d).result = .ok c' → good c') :
    Careful (Safe good) (Safe good) (saveSnapshot env desired) d := by
  rcases h.save env desired with ⟨e, hrun⟩ | ⟨newConfig, hsaves⟩
  · exact careful_still hrun
  · exact hsaves.careful hc hafter

/-- A save recovers first, and goes on as one to a repository that rests. -/
lemma saveSnapshot_recovered {env : Environment} {desired : ConfigurationSnapshot} {d' : Disk} {v : List Disk}
    (hrecover : (recoverLocked env).run none d = ⟨.ok (), d', v, none⟩) (hd' : d'.transaction = none)
    (hcheck : checkSnapshot env desired = .ok ()) :
    (saveSnapshot env desired).run none d = ((saveSnapshot env desired).run none d').after v := by
  rw [saveSnapshot, read_bind_ok (g := fun _ => checkSnapshot env desired) hcheck,
    read_bind_ok (g := fun _ => checkSnapshot env desired) hcheck, run_bind_ok hrecover,
    run_bind_ok (recoverLocked_none env hd' none), Run.after_nil]

lemma Holds.save (h : Holds d c) (env : Environment) (desired : ConfigurationSnapshot) :
    Keeps c (Has desired) ((saveSnapshot env desired).run none d) := by
  cases hcheck : checkSnapshot env desired with
  | error e =>
    rw [saveSnapshot, read_bind_error (g := fun _ => checkSnapshot env desired) hcheck]
    exact keeps_refused h e
  | ok _ =>
    obtain ⟨d', v, hrecover, hrests⟩ := h.recover env
    obtain ⟨hdone, hfailed⟩ := hrests.keeps env desired
    rw [saveSnapshot_recovered hrecover hrests.transaction hcheck]
    exact ⟨hdone, hfailed⟩

lemma careful_save (env : Environment) (desired : ConfigurationSnapshot) (h : Holds d c) (hc : good c)
    (hafter : ∀ c', ((saveSnapshot env desired).run none d).result = .ok c' → good c') :
    Careful (Safe good) (Safe good) (saveSnapshot env desired) d := by
  cases hcheck : checkSnapshot env desired with
  | error e => exact careful_still fun _ => read_bind_error (g := fun _ => checkSnapshot env desired) hcheck
  | ok _ =>
    obtain ⟨d', v, hrecover, hrests⟩ := h.recover env
    rw [saveSnapshot_recovered hrecover hrests.transaction hcheck] at hafter
    -- recovery once more changes nothing
    have hagain := hrests.careful env desired hc hafter
    refine Careful.congr (fun _ => read_bind_ok (g := fun _ => checkSnapshot env desired) hcheck) ?_
    refine careful_bind_ok (careful_recover env h hc) hrecover (Careful.congr (fun w => ?_) hagain)
    rw [saveSnapshot, read_bind_ok (g := fun _ => checkSnapshot env desired) hcheck,
      run_bind_ok (recoverLocked_none env hrests.transaction w), Run.after_nil]

/-! ### Lives -/

/-- A repository is lost, or it holds a snapshot. -/
def Sound (d : Disk) : Prop := Safe (fun _ => True) d

lemma live_cases (d : Disk) (p : Process) :
    live d p = d ∨ live d p ∈ (p.run d).visited ∨ live d p = (p.run d).disk := by
  unfold live
  split
  · exact .inr (.inr rfl)
  next n _ =>
  rw [List.getD_eq_getElem?_getD]
  cases hn : (d :: (p.run d).visited)[n]? with
  | none => exact .inr (.inr rfl)
  | some s =>
    rcases List.mem_cons.mp (List.mem_of_getElem? hn) with rfl | hs
    · exact .inl rfl
    · exact .inr (.inl hs)

lemma Broken.clean (h : Broken d) (p : Process) : ∃ e, p.clean d = ⟨.error e, d, [], none⟩ := by
  obtain ⟨env, act, fault, stop⟩ := p
  cases act with
  | load => exact h.load env
  | save desired =>
    cases hcheck : checkSnapshot env desired with
    | error e => exact ⟨e, read_bind_error (g := fun _ => checkSnapshot env desired) hcheck⟩
    | ok _ =>
      obtain ⟨e, hrun⟩ := h.recover env
      refine ⟨e, ?_⟩
      show (saveSnapshot env desired).run none d = _
      rw [saveSnapshot, read_bind_ok (g := fun _ => checkSnapshot env desired) hcheck, run_bind_error hrun]

lemma Broken.careful (h : Broken d) (p : Process) : Careful (· = d) (· = d) p.program d := by
  obtain ⟨env, act, fault, stop⟩ := p
  obtain ⟨e, hrun⟩ := h.recover env
  have hrecover : Careful (· = d) (· = d) (recoverLocked env) d := by
    refine (plain_recoverLocked env d).fails ?_
    rw [stops, hrun]
    exact List.forall_mem_singleton.mpr rfl
  have hnever : ∀ a, ((recoverLocked env).run none d).result ≠ .ok a := fun a => by
    rw [hrun]
    simp
  cases act with
  | load => exact careful_bind hrecover fun a ha => absurd ha (hnever a)
  | save desired =>
    cases hcheck : checkSnapshot env desired with
    | error e => exact careful_still fun _ => read_bind_error (g := fun _ => checkSnapshot env desired) hcheck
    | ok _ =>
      refine Careful.congr (fun _ => read_bind_ok (g := fun _ => checkSnapshot env desired) hcheck) ?_
      exact careful_bind hrecover fun a ha => absurd ha (hnever a)

/-- A process that fails behind a fault leaves what it might have left. -/
lemma live_of_careful {V : Disk → Prop} {p : Process} (h : Careful V V p.program d) (hfrom : V d)
    (hto : V (p.clean d).disk) : V (live d p) := by
  rcases h.cases p.fault with ⟨w, hrun⟩ | ⟨e, s, v, hrun, hs, hv⟩
  · have hvisited : (p.run d).visited = (p.clean d).visited := by rw [Process.run, hrun, Process.clean]
    have hdisk : (p.run d).disk = (p.clean d).disk := by rw [Process.run, hrun, Process.clean]
    rcases live_cases d p with hlive | hlive | hlive
    · rwa [hlive]
    · rw [hvisited] at hlive
      exact h.visits _ hlive
    · rwa [hlive, hdisk]
  · have hvisited : (p.run d).visited = v := congrArg Run.visited hrun
    have hdisk : (p.run d).disk = s := congrArg Run.disk hrun
    rcases live_cases d p with hlive | hlive | hlive
    · rwa [hlive]
    · rw [hvisited] at hlive
      exact hv _ hlive
    · rwa [hlive, hdisk]

/-- Nothing happens to a repository that is lost. -/
lemma Broken.fares (h : Broken d) (p : Process) : live d p = d ∧ ∃ e, (p.run d).result = .error e := by
  obtain ⟨e, hclean⟩ := h.clean p
  have hcareful := h.careful p
  refine ⟨live_of_careful hcareful rfl (by rw [hclean]), ?_⟩
  rcases hcareful.cases p.fault with ⟨w, hrun⟩ | ⟨e', s, v, hrun, -, -⟩
  · refine ⟨e, ?_⟩
    rw [Process.run, hrun]
    exact congrArg Run.result hclean
  · exact ⟨e', congrArg Run.result hrun⟩

/-- What a process is to save. -/
def Act.Wants : Act → ConfigurationSnapshot → Prop
  | .load, _ => True
  | .save desired, c => Has desired c

lemma Holds.keeps (h : Holds d c) (p : Process) :
    Keeps c p.act.Wants (p.clean d) ∧ (p.act = .load → (p.clean d).result = .ok c) := by
  obtain ⟨env, act, fault, stop⟩ := p
  cases act with
  | load =>
    obtain ⟨d', v, hrun, hready⟩ := h.load env
    have hprocess : (Process.mk env .load fault stop).clean d = ⟨.ok c, d', v, none⟩ := hrun
    rw [hprocess]
    refine ⟨⟨fun c' hc' => ?_, by simp⟩, fun _ => rfl⟩
    cases hc'
    exact ⟨trivial, .rests (.ready hready)⟩
  | save desired => exact ⟨h.save env desired, by simp⟩

lemma Holds.careful (h : Holds d c) (p : Process) :
    Careful (Safe fun c' => c' = c ∨ (p.clean d).result = .ok c')
      (Safe fun c' => c' = c ∨ (p.clean d).result = .ok c') p.program d := by
  obtain ⟨env, act, fault, stop⟩ := p
  cases act with
  | load => exact careful_load env h (.inl rfl)
  | save desired => exact careful_save env desired h (.inl rfl) fun _ hc' => .inr hc'

lemma Holds.live_safe (h : Holds d c) (p : Process) :
    Safe (fun c' => c' = c ∨ (p.clean d).result = .ok c') (live d p) := by
  obtain ⟨hkeeps, -⟩ := h.keeps p
  refine live_of_careful (h.careful p) (h.safe (.inl rfl)) ?_
  cases hresult : (p.clean d).result with
  | ok c' => exact (hkeeps.done c' hresult).2.safe (.inr rfl)
  | error e => exact (hkeeps.failed e hresult).safe (.inl rfl)

/-- A process that succeeds has not met its fault. -/
lemma Holds.succeeds (h : Holds d c) {p : Process} {c' : ConfigurationSnapshot}
    (hok : (p.run d).result = .ok c') : (p.clean d).result = .ok c' ∧ (p.run d).disk = (p.clean d).disk := by
  rcases (h.careful p).cases p.fault with ⟨w, hrun⟩ | ⟨e, s, v, hrun, -, -⟩
  · rw [Process.run, hrun] at hok ⊢
    exact ⟨hok, rfl⟩
  · rw [Process.run, hrun] at hok
    cases hok

/-- What it has stored is there. -/
lemma Holds.done (h : Holds d c) {p : Process} {c' : ConfigurationSnapshot} (hok : (p.run d).result = .ok c') :
    p.act.Wants c' ∧ Holds (p.run d).disk c' := by
  obtain ⟨hresult, hdisk⟩ := h.succeeds hok
  rw [hdisk]
  exact (h.keeps p).1.done c' hresult

/-- One that fails without a fault leaves what was there. -/
lemma Holds.failed (h : Holds d c) {p : Process} (hfault : p.fault = none) {e : RepositoryError}
    (he : (p.run d).result = .error e) : Holds (p.run d).disk c := by
  have hclean : p.run d = p.clean d := by rw [Process.run, hfault, Process.clean]
  rw [hclean] at he ⊢
  exact (h.keeps p).1.failed e he

lemma Holds.lived (h : Holds d c) (p : Process) : Lived d p c := by
  have hloaded := (h.keeps p).2
  refine ⟨h.loads, fun hact c' hc' => ?_, fun hact hfault => ?_, fun desired hact c' hc' => ?_,
    fun c' hc' => (h.done hc').2.loads, fun hfault e he => (h.failed hfault he).loads, ?_⟩
  · have hsame := (h.succeeds hc').1.symm.trans (hloaded hact)
    exact Except.ok.inj hsame
  · rw [Process.run, hfault]
    exact hloaded hact
  · have hwants := (h.done hc').1
    rwa [hact] at hwants
  · exact (h.live_safe p).imp_right fun ⟨c', hc', hholds⟩ => ⟨c', hc', hholds.loads⟩

lemma Sound.fares (h : Sound d) (p : Process) : Fares d p := by
  rcases h with h | ⟨c, -, h⟩
  · exact .inl ⟨h, h.fares p⟩
  · exact .inr ⟨c, h.lived p⟩

lemma Sound.live (h : Sound d) (p : Process) : Sound (live d p) := by
  rcases h with h | ⟨c, -, h⟩
  · rw [(h.fares p).1]
    exact .inl h
  · exact (h.live_safe p).imp_right fun ⟨c', _, hholds⟩ => ⟨c', trivial, hholds⟩

/-- **A repository lives as long as its journal can be read.** Whatever processes load it and save to
it, whichever step of each fails and wherever each stops, each finds what was saved last and leaves
that or what it was to save itself. The only way out is a disk whose journal is torn, or whose database
is without a schema under a journal; what is loaded from any other disk is a snapshot, and from these
nothing ever is. -/
theorem repository_lives (h : Rests d c) (ps : List Process) :
    Along live Fares d ps ∧ ((∃ c', Loads (ps.foldl live d) c') ↔ ¬ Broken (ps.foldl live d)) := by
  have hsound : Sound d := .inr ⟨c, trivial, .rests h⟩
  have hrun : ∀ ps : List Process, Sound (ps.foldl live d) := fun ps =>
    keeps_run (P := Sound) (fun _ p hs => hs.live p) ps hsound
  refine ⟨along_iff.mpr fun before p _ _ => (hrun before).fares p, ?_, fun hbroken => ?_⟩
  · rintro ⟨c', hloads⟩ hbroken
    exact hbroken.not_loads hloads plainEnvironment
  · rcases hrun ps with hlost | ⟨c', -, hholds⟩
    · exact absurd hlost hbroken
    · exact ⟨c', hholds.loads⟩

end Lives

section Plain

attribute [local instance] bitLibrary parserSqlite plainEngine

/-- A process creates the repository and stops before there is a database, a step of the next one
fails, and a third one saves. -/
theorem repository_lives_new : ∃ c, Rests {} c ∧
    Along live Fares {} [⟨plainEnvironment, .load, none, some 8⟩, ⟨plainEnvironment, .load, some (2, {}), none⟩,
      ⟨plainEnvironment, .save plainDesired, none, none⟩] := by
  obtain ⟨newConfig, hnew⟩ := exists_newConfig
  have hrests : Rests {} (newSnapshot newConfig) := .blank hnew ⟨rfl, rfl, rfl⟩
  exact ⟨_, hrests, (repository_lives hrests _).1⟩

end Plain

end CcsTrans.Repository
