import CcsTrans.Repository.Crash
import CcsTrans.Repository.LegacySave
import CcsTrans.Runs

/-!
Drafts of a document beside other writers.

A client loads a repository, takes its document as a draft, edits it and commits it. The save
takes the revision it expects from the snapshot that the repository object holds, and a save
that fails has read that snapshot anew.
-/

namespace CcsTrans.Repository

open CcsTrans.Text CcsTrans.Json CcsTrans.Config CcsTrans.Storage CcsTrans.Fallible
open CcsTrans.Durable CcsTrans.Runs

section Drafts

variable [Library] [Sqlite] [Engine]

/-! ### Saving a document -/

/-- What a document asks for, over the snapshot that is held. -/
def desiredOver (snapshot : ConfigurationSnapshot) (document : ConfigDocument) :
    Except RepositoryError ConfigurationSnapshot :=
  match configDocumentToStoredProfiles document with
  | .error e => .error ⟨.invalidDocument, e⟩
  | .ok converted =>
    .ok { snapshot with
      application := document.application
      profiles := mergeStableKeys snapshot.profiles converted }

/-- The part of `save_snapshot` that comes before it compares revisions. -/
def readCurrent (env : Environment) (desired : ConfigurationSnapshot) :
    Program ConfigurationSnapshot := do
  Prog.read fun _ => checkSnapshot env desired
  recoverLocked env
  Prog.read readReady

/-- `save_snapshot`, together with what it leaves in the repository object: the snapshot that it has
read, if it fails after that. -/
def saveHolding (env : Environment) (desired : ConfigurationSnapshot) :
    Program (Except RepositoryError Unit × Option ConfigurationSnapshot) := do
  match ← (readCurrent env desired).attempt with
  | .error e => return (.error e, none)
  | .ok snapshot =>
    match ← (saveOver env snapshot desired).attempt with
    | .error e => return (.error e, some snapshot)
    | .ok committed => return (.ok (), some committed)

/-! ### The client and the others -/

structure Desk where
  disk : Disk
  loaded : Bool := true
  /-- The snapshot that the repository object holds. -/
  held : ConfigurationSnapshot
  draft : Option ConfigDocument := none
  /-- How often others have changed what is stored. -/
  others : ℕ := 0
  /-- How often when the snapshot was read that is held. -/
  readAt : ℕ := 0
  /-- How often when the snapshot was read that the draft was taken from. -/
  takenAt : ℕ := 0
  /-- For each commit that succeeded: how often when its draft was read, and how often then. -/
  commits : List (ℕ × ℕ) := []

inductive DeskStep where
  /-- Another writer saves a snapshot. -/
  | other (env : Environment) (desired : ConfigurationSnapshot)
  | load (env : Environment)
  | begin
  | edit (document : ConfigDocument)
  | discard
  | commit (env : Environment)

namespace Desk

/-- The save of another changes what is stored. -/
def changes (disk : Disk) (committed : ConfigurationSnapshot) : Prop :=
  (readReady disk).toOption.map (·.revision) ≠ some committed.revision

instance (disk : Disk) (committed : ConfigurationSnapshot) : Decidable (changes disk committed) :=
  inferInstanceAs (Decidable (_ ≠ _))

def other (w : Desk) (env : Environment) (desired : ConfigurationSnapshot) : Desk :=
  let r := (saveSnapshot env desired).run none w.disk
  match r.result with
  | .error _ => { w with disk := r.disk }
  | .ok committed =>
    { w with
      disk := r.disk
      others := if changes w.disk committed then w.others + 1 else w.others }

def load (w : Desk) (env : Environment) : Desk :=
  let r := (Repository.load env).run none w.disk
  match r.result with
  | .error _ => { w with disk := r.disk, loaded := false }
  | .ok snapshot => { w with disk := r.disk, loaded := true, held := snapshot, readAt := w.others }

/-- `begin`: the draft is the document of the snapshot that is held. -/
def begin (w : Desk) : Desk :=
  if w.draft.isSome ∨ !w.loaded then w
  else match configurationSnapshotToConfigDocument w.held with
    | .error _ => w
    | .ok document => { w with draft := some document, takenAt := w.readAt }

/-- `save`. -/
def save (w : Desk) (env : Environment) (document : ConfigDocument) :
    Except RepositoryError Unit × Desk :=
  if !w.loaded then
    (.error ⟨.notLoaded, str "composite repository must be loaded before saving"⟩, w)
  else match desiredOver w.held document with
    | .error e => (.error e, w)
    | .ok desired =>
      let r := (saveHolding env desired).run none w.disk
      match r.result with
      | .error e => (.error e, { w with disk := r.disk })
      | .ok (result, none) => (result, { w with disk := r.disk })
      | .ok (result, some held) =>
        (result, { w with disk := r.disk, held := held, readAt := w.others })

def commit (w : Desk) (env : Environment) : Desk :=
  match w.draft with
  | none => w
  | some document =>
    match validateConfigCandidate document env.root with
    | .error _ => w
    | .ok _ =>
      match w.save env document with
      | (.error _, w) => w
      | (.ok _, w) => { w with draft := none, commits := w.commits ++ [(w.takenAt, w.others)] }

def step (w : Desk) : DeskStep → Desk
  | .other env desired => w.other env desired
  | .load env => w.load env
  | .begin => w.begin
  | .edit document => if w.draft.isSome then { w with draft := some document } else w
  | .discard => { w with draft := none }
  | .commit env => w.commit env

/-! ### What is asked of it -/

/-- A commit succeeds only if no other writer has changed anything since its draft was read. -/
def NoneLost (w : Desk) : Prop := ∀ c ∈ w.commits, c.1 = c.2

/-- A draft is committed only while the snapshot that is held is the one that it was taken from, and
no writer brings back the revision that is held. -/
def Steady (w : Desk) : DeskStep → Prop
  | .other env desired => ∀ committed, ((saveSnapshot env desired).run none w.disk).result =
      .ok committed → changes w.disk committed → committed.revision ≠ w.held.revision
  | .commit _ => w.takenAt = w.readAt
  | _ => True

end Desk

/-! ### A save that nothing disturbs -/

variable {env : Environment} {d : Disk} {base desired : ConfigurationSnapshot}

/-- The files that change are written, or none is. -/
lemma commitChanges_whole {newConfig : Bytes} (h : Saves env d base desired newConfig)
    (hchange : ¬ (base.revision.applicationSource = some newConfig ∧
      base.profiles = desired.profiles)) :
    (∃ e v, (commitChanges env base desired newConfig).run none d = ⟨.error e, d, v, none⟩) ∨
    ∃ saved d' v, (commitChanges env base desired newConfig).run none d = ⟨.ok saved, d', v, none⟩ ∧
      Ready d' (committedSnapshot desired newConfig saved) := by
  by_cases hprofiles : base.profiles = desired.profiles
  · -- the configuration only
    have hconfig : base.revision.applicationSource ≠ some newConfig := fun hc =>
      hchange ⟨hc, hprofiles⟩
    obtain ⟨hrun, hready⟩ := commitConfig_run h hconfig hprofiles
    exact .inr ⟨_, _, _, hrun, hready⟩
  · by_cases hconfig : base.revision.applicationSource = some newConfig
    · -- the profiles only
      rcases commitProfiles_run h hconfig hprofiles with ⟨e, hrun⟩ | ⟨saved, file, hrun, hready⟩
      · exact .inl ⟨e, _, hrun⟩
      · exact .inr ⟨saved, _, _, hrun, hready⟩
    · -- both
      obtain ⟨text, -, hrefused, htaken⟩ := commitBoth_run h
      rw [commitChanges_both env hconfig hprofiles]
      cases hs : saveFile env.now d.database.file (desiredProfiles base desired) with
      | error e =>
        obtain ⟨v, hrun, -⟩ := hrefused e hs
        exact .inl ⟨_, v, hrun⟩
      | ok p =>
        obtain ⟨saved, file⟩ := p
        obtain ⟨v, hrun, -⟩ := htaken saved file hs
        exact .inr ⟨saved, _, v, hrun, h.ready_replaced (h.savedFile hprofiles hs)⟩

/-- A save changes nothing and fails, or it commits over the revision it expects. -/
lemma saveSnapshot_whole (h : Ready d base) (env : Environment) (desired : ConfigurationSnapshot) :
    (∃ e v, (saveSnapshot env desired).run none d = ⟨.error e, d, v, none⟩) ∨
    ∃ after d' v, (saveSnapshot env desired).run none d = ⟨.ok after, d', v, none⟩ ∧
      Ready d' after ∧ base.revision = desired.revision := by
  cases hcheck : checkSnapshot env desired with
  | error e => exact .inl ⟨e, _, saveSnapshot_refused h (.inl hcheck) none⟩
  | ok _ =>
  cases hcurrent : checkCurrent base desired with
  | error e => exact .inl ⟨e, _, saveSnapshot_refused h (.inr ⟨hcheck, hcurrent⟩) none⟩
  | ok newConfig =>
  have hsaves : Saves env d base desired newConfig := ⟨h, hcheck, hcurrent⟩
  have hrevision := (checkCurrent_ok hcurrent).1
  by_cases hsame : base.revision.applicationSource = some newConfig ∧ base.profiles = desired.profiles
  · refine .inr ⟨base, d, [], ?_, h, hrevision⟩
    rw [saveSnapshot_checked hsaves, if_pos hsame]
    rfl
  · rcases commitChanges_whole hsaves hsame with ⟨e, v, hrun⟩ | ⟨saved, d', v, hrun, hready⟩
    · exact .inl ⟨e, v, saveSnapshot_failed hsaves hsame hrun⟩
    · exact .inr ⟨_, d', v, saveSnapshot_committed hsaves hsame hrun hready.reads, hready, hrevision⟩

lemma readCurrent_checked (h : Ready d base) (hcheck : checkSnapshot env desired = .ok ()) :
    (readCurrent env desired).run none d = ⟨.ok base, d, [], none⟩ := by
  rw [readCurrent, read_bind_ok (g := fun _ => checkSnapshot env desired) hcheck,
    run_bind_ok (recoverLocked_none env h.transaction none), run_read,
    readReady_eq_ok.mpr h.reads]
  rfl

lemma saveSnapshot_over (h : Ready d base) (hcheck : checkSnapshot env desired = .ok ()) :
    (saveSnapshot env desired).run none d = (saveOver env base desired).run none d := by
  rw [saveSnapshot, read_bind_ok (g := fun _ => checkSnapshot env desired) hcheck,
    run_bind_ok (recoverLocked_none env h.transaction none),
    read_bind_ok (readReady_eq_ok.mpr h.reads)]
  rfl

/-- A save that fails after the current snapshot was read leaves that snapshot in the repository
object. -/
lemma saveHolding_failed (h : Ready d base) (hcheck : checkSnapshot env desired = .ok ())
    {e : RepositoryError} {d' : Disk} {v : List Disk}
    (hrun : (saveSnapshot env desired).run none d = ⟨.error e, d', v, none⟩) :
    ((saveHolding env desired).run none d).result = .ok (.error e, some base) ∧
      ((saveHolding env desired).run none d).disk = d' := by
  rw [saveSnapshot_over h hcheck] at hrun
  rw [saveHolding, attempt_bind (readCurrent_checked h hcheck), Run.after_nil]
  simp only
  rw [attempt_bind hrun]
  exact ⟨rfl, rfl⟩

lemma saveHolding_committed (h : Ready d base) (hcheck : checkSnapshot env desired = .ok ())
    {after : ConfigurationSnapshot} {d' : Disk} {v : List Disk}
    (hrun : (saveSnapshot env desired).run none d = ⟨.ok after, d', v, none⟩) :
    ((saveHolding env desired).run none d).result = .ok (.ok (), some after) ∧
      ((saveHolding env desired).run none d).disk = d' := by
  rw [saveSnapshot_over h hcheck] at hrun
  rw [saveHolding, attempt_bind (readCurrent_checked h hcheck), Run.after_nil]
  simp only
  rw [attempt_bind hrun]
  exact ⟨rfl, rfl⟩

/-- What a save leaves on the disk and in the repository object. -/
lemma saveHolding_whole (h : Ready d base) (env : Environment) (desired : ConfigurationSnapshot) :
    (∃ e o, ((saveHolding env desired).run none d).result = .ok (.error e, o) ∧
      ((saveHolding env desired).run none d).disk = d) ∨
    ∃ after, ((saveHolding env desired).run none d).result = .ok (.ok (), some after) ∧
      Ready ((saveHolding env desired).run none d).disk after ∧ base.revision = desired.revision := by
  cases hcheck : checkSnapshot env desired with
  | error e =>
    have hread : (readCurrent env desired).run none d = ⟨.error e, d, [], none⟩ :=
      read_bind_error (g := fun _ => checkSnapshot env desired) hcheck
    refine .inl ⟨e, none, ?_⟩
    rw [saveHolding, attempt_bind hread]
    exact ⟨rfl, rfl⟩
  | ok _ =>
    rcases saveSnapshot_whole h env desired with ⟨e, v, hrun⟩ | ⟨after, d', v, hrun, hready, hrev⟩
    · exact .inl ⟨e, some base, saveHolding_failed h hcheck hrun⟩
    · obtain ⟨hresult, hdisk⟩ := saveHolding_committed h hcheck hrun
      exact .inr ⟨after, hresult, hdisk.symm ▸ hready, hrev⟩

/-! ### What a load leaves -/

lemma transaction_recoverLocked (env : Environment) (d : Disk)
    (h : ((recoverLocked env).run none d).result = .ok ()) :
    ((recoverLocked env).run none d).disk.transaction = none ∧
      ((recoverLocked env).run none d).fault = none := by
  cases ht : d.transaction with
  | none =>
    rw [recoverLocked_none env ht]
    exact ⟨ht, rfl⟩
  | some files =>
    cases hj : readJournal files with
    | error e =>
      rw [recoverLocked, look_bind, ht, read_bind_error (g := fun _ => readJournal files) hj] at h
      cases h
    | ok j =>
      obtain ⟨herror, hok⟩ := recoverLocked_run env ht hj
      cases ho : outcome j d with
      | error e =>
        rw [herror e ho] at h
        cases h
      | ok pair =>
        obtain ⟨v, database, hrun, -⟩ := hok pair.1 pair.2 ho
        rw [hrun]
        exact ⟨rfl, rfl⟩

omit [Sqlite] [Engine] in
lemma fault_writeJournal (hd : d.transaction = none) (j : RepositoryJournal) :
    ((writeJournal j).run none d).fault = none := by
  rw [writeJournal, look_bind, hd]
  simp only [Option.isSome_none, Bool.false_eq_true, if_false]
  split
  · rfl
  · rw [block_none]

lemma fault_openOrCreate (env : Environment) (d : Disk) :
    ((openOrCreate env atDatabase).run none d).fault = none := by
  rw [openOrCreate, look_bind, run_bind_ok (block_none _ _)]
  rfl

lemma transaction_initializeWith (env : Environment) (newConfig : Bytes) {d : Disk}
    (hd : d.transaction = none) (h : ((initializeWith env newConfig).run none d).result = .ok ()) :
    ((initializeWith env newConfig).run none d).disk.transaction = none := by
  unfold initializeWith at h ⊢
  obtain ⟨_, hjournal, heq⟩ := bind_result_ok h
  rw [heq, Run.result_after] at h
  rw [heq, Run.disk_after]
  rw [fault_writeJournal hd] at h ⊢
  rw [run_bind_ok (writeConfigFile_run newConfig _), Run.result_after] at h
  rw [run_bind_ok (writeConfigFile_run newConfig _), Run.disk_after]
  generalize Disk.withConfig _ _ = d₁ at h ⊢
  rcases hrun : (openOrCreate env atDatabase).run none d₁ with ⟨x, d₂, v, w⟩
  have hw : w = none := by
    have := fault_openOrCreate env d₁
    rwa [hrun] at this
  subst hw
  rw [attempt_bind hrun, Run.result_after] at h
  rw [attempt_bind hrun, Run.disk_after]
  cases x with
  | error e =>
    -- the failure of the store stands
    exact absurd h (bind_ne_ok (fun _ => bind_ne_ok fun _ => bind_ne_ok fun _ w d => throw_ne_ok _ w d ()) _ _)
  | ok profiles =>
    simp only at h ⊢
    by_cases hfresh : profiles.revision ≠ 0 ∨ profiles.profiles ≠ []
    · rw [if_pos hfresh] at h
      cases h
    · obtain ⟨v, hclear, -⟩ := clearJournal_run env [] d₂
      rw [if_neg hfresh, hclear]
      rfl

lemma transaction_initializeFresh (env : Environment) {d : Disk} (hd : d.transaction = none)
    (h : ((initializeFreshLocked env).run none d).result = .ok ()) :
    ((initializeFreshLocked env).run none d).disk.transaction = none := by
  rcases initializeFreshLocked_cases env with ⟨e, -, heq⟩ | ⟨newConfig, -, heq⟩
  · rw [heq] at h
    exact absurd h (throw_ne_ok _ _ _ _)
  · rw [heq] at h ⊢
    exact transaction_initializeWith env newConfig hd h

/-- A repository that was loaded can be read, and has no journal. -/
lemma ready_of_load (h : ((load env).run none d).result = .ok base) :
    Ready ((load env).run none d).disk base := by
  unfold Repository.load at h ⊢
  obtain ⟨_, hrecover, heq⟩ := bind_result_ok h
  obtain ⟨htransaction, hfault⟩ := transaction_recoverLocked env d hrecover
  rw [heq, Run.result_after] at h
  rw [heq, Run.disk_after]
  rw [hfault] at h ⊢
  generalize ((recoverLocked env).run none d).disk = d₁ at h htransaction ⊢
  obtain ⟨_, hcreated, heq⟩ := bind_result_ok h
  rw [heq, Run.result_after] at h
  rw [heq, Run.disk_after]
  have hensured : ((ensureCreated env).run none d₁).disk.transaction = none := by
    unfold ensureCreated at hcreated ⊢
    cases hsource : readConfigSource d₁ with
    | error e =>
      rw [read_bind_error hsource] at hcreated
      cases hcreated
    | ok source =>
      rw [read_bind_ok hsource, look_bind] at hcreated ⊢
      split_ifs at hcreated ⊢
      · exact transaction_initializeFresh env htransaction hcreated
      · exact htransaction
  exact ⟨hensured, readReady_eq_ok.mp h⟩

namespace Desk

variable {w : Desk}

/-- What the desk relies on: if others have changed what is stored since the snapshot that is held
was read, it has another revision. -/
structure Sound (w : Desk) : Prop where
  stored : ∃ stored, Ready w.disk stored ∧
    (w.others = w.readAt ∨ stored.revision ≠ w.held.revision)
  noneLost : w.NoneLost

/-! ### What each step keeps -/

lemma Sound.other (h : w.Sound) (env : Environment) (desired : ConfigurationSnapshot)
    (hs : w.Steady (.other env desired)) : (w.other env desired).Sound := by
  obtain ⟨stored, hready, hsince⟩ := h.stored
  unfold Desk.other
  rcases saveSnapshot_whole hready env desired with ⟨e, v, hrun⟩ | ⟨after, d', v, hrun, hafter, -⟩
  · rw [hrun]
    exact ⟨⟨stored, hready, hsince⟩, h.noneLost⟩
  · have hcommitted := hs after (by rw [hrun])
    rw [hrun]
    simp only
    refine ⟨⟨after, hafter, ?_⟩, h.noneLost⟩
    split_ifs with hchanges
    · exact .inr (hcommitted hchanges)
    · -- nothing has changed but what is equal
      have hsame : stored.revision = after.revision := by
        unfold changes at hchanges
        rw [readReady_eq_ok.mpr hready.reads] at hchanges
        simpa [Except.toOption] using hchanges
      simp only
      rw [← hsame]
      exact hsince

lemma Sound.load (h : w.Sound) (env : Environment) : (w.load env).Sound := by
  obtain ⟨stored, hready, -⟩ := h.stored
  unfold Desk.load
  rw [hready.load_run env]
  exact ⟨⟨stored, hready, .inl rfl⟩, h.noneLost⟩

lemma Sound.begin (h : w.Sound) : w.begin.Sound := by
  unfold Desk.begin
  split_ifs
  · exact h
  · split
    · exact h
    · exact ⟨h.stored, h.noneLost⟩

omit [Sqlite] [Engine] in
lemma desiredOver_revision {snapshot : ConfigurationSnapshot} {document : ConfigDocument}
    {desired : ConfigurationSnapshot} (h : desiredOver snapshot document = .ok desired) :
    desired.revision = snapshot.revision := by
  unfold desiredOver at h
  split at h
  · cases h
  · cases h
    rfl

/-- A save that fails leaves the disk, and one that succeeds has met the revision that was held. -/
lemma save_cases (h : w.Sound) (env : Environment) (document : ConfigDocument) :
    (∃ e w', w.save env document = (.error e, w') ∧ w'.Sound) ∨
    ∃ w', w.save env document = (.ok (), w') ∧ w'.Sound ∧ w.others = w.readAt ∧
      w'.takenAt = w.takenAt ∧ w'.others = w.others := by
  obtain ⟨stored, hready, hsince⟩ := h.stored
  unfold Desk.save
  split_ifs with hloaded
  · exact .inl ⟨_, _, rfl, h⟩
  · cases hdesired : desiredOver w.held document with
    | error e => exact .inl ⟨e, w, rfl, h⟩
    | ok desired =>
      simp only
      rcases saveHolding_whole hready env desired with
        ⟨e, o, hresult, hdisk⟩ | ⟨after, hresult, hafter, hrevision⟩
      · rw [hresult, hdisk]
        cases o with
        | none => exact .inl ⟨e, _, rfl, ⟨stored, hready, hsince⟩, h.noneLost⟩
        | some held => exact .inl ⟨e, _, rfl, ⟨stored, hready, .inl rfl⟩, h.noneLost⟩
      · rw [hresult]
        have hunchanged : w.others = w.readAt := by
          rcases hsince with hnone | hdiffers
          · exact hnone
          · rw [desiredOver_revision hdesired] at hrevision
            exact absurd hrevision hdiffers
        exact .inr ⟨_, rfl, ⟨⟨after, hafter, .inl rfl⟩, h.noneLost⟩, hunchanged, rfl, rfl⟩

lemma Sound.commit (h : w.Sound) (env : Environment) (hs : w.takenAt = w.readAt) :
    (w.commit env).Sound := by
  unfold Desk.commit
  split
  · exact h
  · rename_i document _
    split
    · exact h
    · rcases save_cases h env document with ⟨e, w', heq, hw'⟩ | ⟨w', heq, hw', hothers, htaken, hsame⟩
      · rw [heq]
        exact hw'
      · rw [heq]
        refine ⟨hw'.stored, ?_⟩
        intro c hc
        rcases List.mem_append.mp hc with hold | hnew
        · exact hw'.noneLost c hold
        · rw [List.mem_singleton.mp hnew]
          exact htaken.trans (hs.trans (hothers.symm.trans hsame.symm))

lemma Sound.step (h : w.Sound) (s : DeskStep) (hs : w.Steady s) : (w.step s).Sound := by
  cases s with
  | other env desired => exact h.other env desired hs
  | load env => exact h.load env
  | begin => exact h.begin
  | edit document =>
    unfold Desk.step
    split_ifs
    · exact ⟨h.stored, h.noneLost⟩
    · exact h
  | discard => exact ⟨h.stored, h.noneLost⟩
  | commit env => exact h.commit env hs

/-! ### A commit that passes its checks -/

/-- The draft is valid, and what it asks for over the snapshot that is held is as well. -/
structure Asks (w : Desk) (env : Environment) (document : ConfigDocument)
    (desired : ConfigurationSnapshot) : Prop where
  draft : w.draft = some document
  loaded : w.loaded = true
  valid : validateConfigCandidate document env.root = .ok ()
  wanted : desiredOver w.held document = .ok desired
  checked : checkSnapshot env desired = .ok ()

variable {env : Environment} {document : ConfigDocument} {desired stored : ConfigurationSnapshot}
  {d d' : Disk} {v : List Disk}

/-- A commit that fails has read what is stored, and the desk holds it from then on. -/
lemma commit_failed (h : w.Asks env document desired) (hd : w.disk = d) (hready : Ready d stored)
    {e : RepositoryError} (hrun : (saveSnapshot env desired).run none d = ⟨.error e, d', v, none⟩) :
    w.commit env = { w with disk := d', held := stored, readAt := w.others } := by
  obtain ⟨hresult, hdisk⟩ := saveHolding_failed hready h.checked hrun
  rw [← hd] at hresult hdisk
  have hsave : w.save env document =
      (.error e, { w with disk := d', held := stored, readAt := w.others }) := by
    simp [Desk.save, h.loaded, h.wanted, hresult, hdisk]
  simp only [Desk.commit, h.draft, h.valid, hsave]

lemma commit_committed (h : w.Asks env document desired) (hd : w.disk = d) (hready : Ready d stored)
    {after : ConfigurationSnapshot}
    (hrun : (saveSnapshot env desired).run none d = ⟨.ok after, d', v, none⟩) :
    (w.commit env).commits = w.commits ++ [(w.takenAt, w.others)] := by
  obtain ⟨hresult, hdisk⟩ := saveHolding_committed hready h.checked hrun
  rw [← hd] at hresult hdisk
  have hsave : w.save env document =
      (.ok (), { w with disk := d', held := after, readAt := w.others }) := by
    simp [Desk.save, h.loaded, h.wanted, hresult, hdisk]
  simp only [Desk.commit, h.draft, h.valid, hsave]

lemma other_committed (hd : w.disk = d) {committed : ConfigurationSnapshot}
    (hrun : (saveSnapshot env desired).run none d = ⟨.ok committed, d', v, none⟩) :
    w.other env desired =
      { w with disk := d', others := if changes d committed then w.others + 1 else w.others } := by
  rw [← hd] at hrun ⊢
  simp only [Desk.other, hrun]

lemma other_of_run (hd : w.disk = d) {committed : ConfigurationSnapshot}
    (hrun : (saveSnapshot env desired).run none d = ⟨.ok committed, d', v, none⟩) :
    (w.other env desired).disk = d' ∧ (w.other env desired).draft = w.draft := by
  rw [other_committed hd hrun]
  exact ⟨rfl, rfl⟩

/-! ### A draft after a load -/

/-- A draft that is taken after a load is of the snapshot that was read. -/
lemma takenAt_of_loaded {stored : ConfigurationSnapshot} (hready : Ready w.disk stored)
    (hdraft : w.draft = none) (env : Environment) (document : ConfigDocument) :
    (((w.load env).begin).step (.edit document)).takenAt =
      (((w.load env).begin).step (.edit document)).readAt := by
  obtain ⟨taken, htaken⟩ := hready.reads.converts
  have hloaded : w.load env =
      { w with disk := w.disk, loaded := true, held := stored, readAt := w.others } := by
    unfold Desk.load
    rw [hready.load_run env]
  have hbegun : (w.load env).begin =
      { w.load env with draft := some taken, takenAt := (w.load env).readAt } := by
    rw [hloaded]
    simp [Desk.begin, hdraft, htaken]
  rw [hbegun]
  rfl

/-! ### Whole runs -/

/-- The desk of a client that has loaded a repository. -/
def start (env : Environment) (d : Disk) (base : ConfigurationSnapshot) : Desk where
  disk := ((Repository.load env).run none d).disk
  held := base

/-- In every steady run after a load, a commit succeeds only if no other writer has changed anything
since its draft was read. -/
theorem noneLost_of_steady {env : Environment} {d : Disk} {base : ConfigurationSnapshot}
    (hload : ((Repository.load env).run none d).result = .ok base) (steps : List DeskStep)
    (h : Along step Steady (start env d base) steps) : (steps.foldl step (start env d base)).NoneLost := by
  have hstart : (start env d base).Sound :=
    ⟨⟨base, ready_of_load hload, .inl rfl⟩, by simp [NoneLost, start]⟩
  exact (h.keeps (fun _ s hs hw => hw.step s hs) hstart).noneLost

end Desk

end Drafts

section Plain

attribute [local instance] bitLibrary parserSqlite plainEngine

namespace Desk

/-- The document that is there, with another port. -/
def portDocument (port : UInt16) : ConfigDocument where
  application := { listener := { port := port } }

/-- What another writer saves. -/
def portSnapshot (port : UInt16) : ConfigurationSnapshot :=
  { plainBase with application := { listener := { port := port } } }

lemma load_plainDisk : ((Repository.load plainEnvironment).run none plainDisk).result = .ok plainBase := by
  rw [plainDisk_ready.load_run]

/-- What is stored of a port, and no profile. -/
def portStored (port : UInt16) (config : Bytes) : ConfigurationSnapshot :=
  { portSnapshot port with revision := ⟨some config, 0⟩ }

lemma plainBase_eq : plainBase = portStored ({} : ListenerSettings).port defaultConfig := rfl

/-- Another port over what is stored. -/
def portOver (port : UInt16) (base : ConfigurationSnapshot) : ConfigurationSnapshot :=
  { base with application := (portDocument port).application }

lemma checkSnapshot_portOver {old new : UInt16} {config : Bytes}
    (h : checkSnapshot plainEnvironment (portSnapshot new) = .ok ()) :
    checkSnapshot plainEnvironment (portOver new (portStored old config)) = .ok () := by
  have hsame {s t : ConfigurationSnapshot} (ha : s.application = t.application)
      (hp : s.profiles = t.profiles) :
      checkSnapshot plainEnvironment s = checkSnapshot plainEnvironment t := by
    simp only [checkSnapshot, configurationSnapshotToConfigDocument, ha, hp]
  rw [hsame (s := portOver new (portStored old config)) (t := portSnapshot new) rfl rfl]
  exact h

/-- The save of another port, with what is there afterwards. -/
lemma save_portOver {d : Disk} {old new : UInt16} {config : Bytes}
    (h : Ready d (portStored old config)) (hne : old ≠ new)
    (hvalid : validateApplicationSettings (portDocument new).application = .ok ())
    (hchecked : checkSnapshot plainEnvironment (portSnapshot new) = .ok ()) :
    ∃ newConfig d' v, (saveSnapshot plainEnvironment (portOver new (portStored old config))).run none d =
        ⟨.ok (portStored new newConfig), d', v, none⟩ ∧
      Ready d' (portStored new newConfig) ∧ config ≠ newConfig := by
  have hhost : validUtf8 ({} : ApplicationSettings).listener.host = true := by decide
  have hpath : validUtf8 ({} : ApplicationSettings).logging.path = true := by decide
  obtain ⟨newConfig, hnew⟩ := serializeApplication_of_valid hvalid hhost hpath
  have hsaves : Saves plainEnvironment d (portStored old config) (portOver new (portStored old config))
      newConfig := by
    refine ⟨h, checkSnapshot_portOver hchecked, ?_⟩
    simp only [checkCurrent, portOver, ne_eq, not_true_eq_false, if_false, hnew]
  have hdiffers : config ≠ newConfig := by
    rintro rfl
    obtain ⟨source, hsource, -, -, hparse⟩ := h.reads.source
    rw [← Option.some.inj hsource, (parse_serializeApplication hnew).1] at hparse
    exact hne (congrArg (fun a => a.listener.port) (Except.ok.inj hparse)).symm
  have hconfig : (portStored old config).revision.applicationSource ≠ some newConfig :=
    fun hsame => hdiffers (Option.some.inj hsame)
  obtain ⟨hrun, hready⟩ := commitConfig_run hsaves hconfig rfl
  exact ⟨newConfig, _, _, saveSnapshot_committed hsaves (fun hb => hconfig hb.1) hrun hready.reads, hready,
    hdiffers⟩

/-- The save of another port over what is there at first. -/
lemma save_portSnapshot (port : UInt16) (hne : ({} : ListenerSettings).port ≠ port)
    (hvalid : validateApplicationSettings (portDocument port).application = .ok ())
    (hchecked : checkSnapshot plainEnvironment (portSnapshot port) = .ok ()) :
    ∃ newConfig d' v, (saveSnapshot plainEnvironment (portSnapshot port)).run none plainDisk =
        ⟨.ok (portStored port newConfig), d', v, none⟩ ∧
      Ready d' (portStored port newConfig) ∧ (portStored port newConfig).revision ≠ plainBase.revision := by
  have hport : portSnapshot port = portOver port (portStored ({} : ListenerSettings).port defaultConfig) :=
    rfl
  obtain ⟨newConfig, d', v, hrun, hready, hdiffers⟩ :=
    save_portOver (plainBase_eq ▸ plainDisk_ready) hne hvalid hchecked
  rw [← hport] at hrun
  refine ⟨newConfig, d', v, hrun, hready, fun hsame => hdiffers ?_⟩
  exact (Option.some.inj (congrArg (·.applicationSource) hsame)).symm

/-- What the client and the other writer ask for passes the checks. -/
lemma valid_port : ∀ port ∈ [(8080 : UInt16), 9090],
    validateApplicationSettings (portDocument port).application = .ok () ∧
      checkSnapshot plainEnvironment (portSnapshot port) = .ok () := by
  simp only [List.forall_mem_cons, List.not_mem_nil, IsEmpty.forall_iff, implies_true, and_true]
  exact ⟨⟨toOption_eq_some.mp (by decide), toOption_eq_some.mp (by decide)⟩,
    toOption_eq_some.mp (by decide), toOption_eq_some.mp (by decide)⟩

/-- The other writer changes what is stored. -/
lemma save_other : ∃ newConfig d' v,
    (saveSnapshot plainEnvironment (portSnapshot 9090)).run none plainDisk =
        ⟨.ok (portStored 9090 newConfig), d', v, none⟩ ∧
      Ready d' (portStored 9090 newConfig) ∧
      (portStored 9090 newConfig).revision ≠ plainBase.revision := by
  obtain ⟨hvalid, hchecked⟩ := valid_port 9090 (by simp)
  exact save_portSnapshot 9090 (by decide) hvalid hchecked

lemma start_plainDisk :
    start plainEnvironment plainDisk plainBase = { disk := plainDisk, held := plainBase } := by
  rw [start, plainDisk_ready.load_run]

/-- Another writer commits, and the client loads again before it takes a draft and commits it. -/
theorem noneLost_of_steady_plain :
    ([.other plainEnvironment (portSnapshot 9090), .load plainEnvironment, .begin,
      .edit (portDocument 8080), .commit plainEnvironment].foldl step
        (start plainEnvironment plainDisk plainBase)).NoneLost := by
  obtain ⟨newConfig, d', v, hrun, hready, hrevision⟩ := save_other
  have hstart : (start plainEnvironment plainDisk plainBase).disk = plainDisk := by
    rw [start_plainDisk]
  refine noneLost_of_steady load_plainDisk _ ⟨?_, trivial, trivial, trivial, ?_, trivial⟩
  · intro committed hresult _
    rw [hstart, hrun] at hresult
    cases hresult
    exact hrevision
  · show Desk.takenAt _ = Desk.readAt _
    obtain ⟨hdisk, hdraft⟩ := other_of_run hstart hrun
    rw [← hdisk] at hready
    exact takenAt_of_loaded hready hdraft plainEnvironment (portDocument 8080)

/-- The draft of the client asks for its port over what is stored. -/
lemma asks_port {w : Desk} {port : UInt16} {config : Bytes} (hdraft : w.draft = some (portDocument 8080))
    (hloaded : w.loaded = true) (hheld : w.held = portStored port config) :
    w.Asks plainEnvironment (portDocument 8080) (portOver 8080 (portStored port config)) where
  draft := hdraft
  loaded := hloaded
  valid := toOption_eq_some.mp (by decide)
  wanted := by
    have hstored : configDocumentToStoredProfiles (portDocument 8080) = .ok [] :=
      toOption_eq_some.mp (by decide)
    rw [hheld, desiredOver, hstored]
    rfl
  checked := checkSnapshot_portOver (valid_port 8080 (by simp)).2

/-- The draft is taken, and then another writer commits. -/
lemma desk_of_other {committed : ConfigurationSnapshot} {d' : Disk} {v : List Disk}
    (hrun : (saveSnapshot plainEnvironment (portSnapshot 9090)).run none plainDisk =
      ⟨.ok committed, d', v, none⟩) (hrevision : committed.revision ≠ plainBase.revision) :
    ([.begin, .edit (portDocument 8080), .other plainEnvironment (portSnapshot 9090)].foldl step
      (start plainEnvironment plainDisk plainBase)) =
      { disk := d', held := plainBase, draft := some (portDocument 8080), others := 1 } := by
  obtain ⟨taken, htaken⟩ := plainDisk_ready.reads.converts
  have hbegun : (start plainEnvironment plainDisk plainBase).begin =
      { disk := plainDisk, held := plainBase, draft := some taken } := by
    rw [start_plainDisk]
    simp [Desk.begin, htaken]
  have hedited : ([.begin, .edit (portDocument 8080)].foldl step
      (start plainEnvironment plainDisk plainBase)) =
      { disk := plainDisk, held := plainBase, draft := some (portDocument 8080) } := by
    rw [List.foldl_cons, List.foldl_cons, List.foldl_nil, step, hbegun]
    rfl
  have hchanges : changes plainDisk committed := by
    rw [changes, readReady_eq_ok.mpr plainDisk_ready.reads]
    exact fun hsame => hrevision (Option.some.inj hsame).symm
  obtain ⟨w, hw⟩ : ∃ w : Desk, w = { disk := plainDisk, held := plainBase, draft := some (portDocument 8080) } :=
    ⟨_, rfl⟩
  have hother : w.step (.other plainEnvironment (portSnapshot 9090)) =
      { disk := d', held := plainBase, draft := some (portDocument 8080), others := 1 } := by
    rw [step, other_committed (by rw [hw]) hrun, if_pos hchanges, hw]
  rw [show ([.begin, .edit (portDocument 8080), .other plainEnvironment (portSnapshot 9090)] : List DeskStep) =
      [.begin, .edit (portDocument 8080)] ++ [.other plainEnvironment (portSnapshot 9090)] from rfl,
    List.foldl_append, hedited, ← hw, List.foldl_cons, List.foldl_nil, hother]

/-- Another writer commits after the draft was taken. The commit is refused, and the same commit
again is not. -/
theorem noneLost_fails :
    ((Repository.load plainEnvironment).run none plainDisk).result = .ok plainBase ∧
    ¬ ([.begin, .edit (portDocument 8080), .other plainEnvironment (portSnapshot 9090),
      .commit plainEnvironment, .commit plainEnvironment].foldl step
        (start plainEnvironment plainDisk plainBase)).NoneLost := by
  refine ⟨load_plainDisk, fun h => ?_⟩
  obtain ⟨newConfig, d', v, hrun, hready, hrevision⟩ := save_other
  obtain ⟨hvalid, hchecked⟩ := valid_port 8080 (by simp)
  obtain ⟨w, hw⟩ : ∃ w : Desk, w = { disk := d', held := plainBase, draft := some (portDocument 8080), others := 1 } :=
    ⟨_, rfl⟩
  -- the first commit expects a revision that is gone
  have hasks : w.Asks plainEnvironment (portDocument 8080) (portOver 8080 plainBase) :=
    asks_port (by rw [hw]) (by rw [hw]) (by rw [hw]; exact plainBase_eq)
  have hstale : (saveSnapshot plainEnvironment (portOver 8080 plainBase)).run none d' =
      ⟨.error ⟨.stale, str "composite repository revision changed"⟩, d', [], none⟩ :=
    saveSnapshot_refused hready (.inr ⟨hasks.checked, if_pos hrevision⟩) none
  have hfirst := commit_failed hasks (by rw [hw]) hready hstale
  -- the second one expects the revision that the first one has read
  have hasks' : (w.commit plainEnvironment).Asks plainEnvironment (portDocument 8080)
      (portOver 8080 (portStored 9090 newConfig)) := by
    rw [hfirst]
    exact asks_port hasks.draft hasks.loaded rfl
  obtain ⟨_, _, _, hrun', -, -⟩ := save_portOver hready (by decide) hvalid hchecked
  have hsecond := commit_committed hasks' (by rw [hfirst]) hready hrun'
  have hcommits : (0, 1) ∈ ((w.commit plainEnvironment).commit plainEnvironment).commits := by
    rw [hsecond, hfirst, hw]
    simp
  rw [show ([.begin, .edit (portDocument 8080), .other plainEnvironment (portSnapshot 9090),
      .commit plainEnvironment, .commit plainEnvironment] : List DeskStep) =
    [.begin, .edit (portDocument 8080), .other plainEnvironment (portSnapshot 9090)] ++
      [.commit plainEnvironment, .commit plainEnvironment] from rfl,
    List.foldl_append, desk_of_other hrun hrevision, ← hw] at h
  exact absurd (h (0, 1) hcommits) (by decide)

end Desk

end Plain

end CcsTrans.Repository
