import CcsTrans.Editor.Origin
import CcsTrans.Repository.DocumentDrafts
import CcsTrans.Repository.Lives

/-!
Editors beside each other.

Each of any number of processes has a repository object and an editor over it, and they load, begin
drafts, edit them and commit them in any order, while other processes load and save. The object keeps
the snapshot that it has read last, and a draft is begun from that one, however old it is. What a
commit compares is the revision only, and the revision tells what was stored: the text of the
configuration says what its settings are, and the number of the database grows with every change of
the profiles.
-/

namespace CcsTrans.Repository

open CcsTrans.Text CcsTrans.Core CcsTrans.Json CcsTrans.Config CcsTrans.Storage CcsTrans.Fallible
open CcsTrans.Durable CcsTrans.Runs CcsTrans.InPlace CcsTrans.Editor

/-! ### The repository of an editor -/

/-- What a repository object keeps. -/
structure Held where
  loaded : Bool := false
  snapshot : ConfigurationSnapshot := {}

section Composite

variable [Library] [Sqlite] [Engine] (env : Environment) (fault : Option (ℕ × Reason))

/-- `load`, with what it leaves in the object. -/
def loadHeld : EStateM Bytes (Disk × Held) Unit := fun (d, held) =>
  let r := (load env).run fault d
  match r.result with
  | .ok c => .ok () (r.disk, ⟨true, c⟩)
  | .error e => .error e.message (r.disk, { held with loaded := false })

/-- `save_snapshot`, with what it leaves in the object: a save that fails after it has read the current
snapshot leaves that one. -/
def saveHeld (desired : ConfigurationSnapshot) : EStateM Bytes (Disk × Held) ConfigurationSnapshot :=
  fun (d, held) =>
    let r := (saveSnapshot env desired).run fault d
    match r.result, ((readCurrent env desired).run fault d).result with
    | .ok committed, _ => .ok committed (r.disk, ⟨true, committed⟩)
    | .error e, .ok current => .error e.message (r.disk, ⟨true, current⟩)
    | .error e, .error _ => .error e.message (r.disk, held)

/-- `CompositeConfigRepository`, of which a step may fail. -/
def compositeRepository : ConfigurationRepository (Disk × Held) where
  loaded s := s.2.loaded
  load := loadHeld env fault
  snapshot s := s.2.snapshot
  saveSnapshot := saveHeld env fault
  root := env.root

end Composite

/-! ### Writers -/

structure Writer where
  held : Held := {}
  editor : ConfigurationEditor := {}
  /-- The snapshot that the draft was begun from. -/
  begun : ConfigurationSnapshot := {}

/-- The processes, and the disk that they share. -/
structure World (ι : Type) where
  disk : Disk
  writer : ι → Writer := fun _ => {}

inductive Event (ι : Type) where
  | call (i : ι) (env : Environment) (fault : Option (ℕ × Reason)) (c : Call)
  | load (i : ι) (env : Environment) (fault : Option (ℕ × Reason))
  | discard (i : ι)
  /-- The process of a writer ends, and a new one begins. -/
  | restart (i : ι)
  /-- Another process, which may stop wherever it is. -/
  | process (p : Process)

section World

variable {ι : Type} [DecidableEq ι] [TextLibrary] [Sqlite] [Engine]

def World.put (w : World ι) (i : ι) (d : Disk) (x : Writer) : World ι :=
  ⟨d, Function.update w.writer i x⟩

/-- A call on the editor of a writer. -/
def World.call (w : World ι) (i : ι) (env : Environment) (fault : Option (ℕ × Reason)) (c : Call) :
    EStateM.Result EditError (ConfigurationEditor × Disk × Held) Unit :=
  c.run (compositeRepository env fault) ((w.writer i).editor, (w.disk, (w.writer i).held))

def World.step (w : World ι) : Event ι → World ι
  | .call i env fault c =>
    let r := w.call i env fault c
    let (editor, disk, held) := left r
    let begins := c = .begin ∧ failed r = false
    w.put i disk ⟨held, editor, if begins then editor.draft else (w.writer i).begun⟩
  | .load i env fault =>
    let (disk, held) := left (loadHeld env fault (w.disk, (w.writer i).held))
    w.put i disk { w.writer i with held := held }
  | .discard i =>
    w.put i w.disk { w.writer i with editor := left (Editor.discard (w.writer i).editor) }
  | .restart i => w.put i w.disk {}
  | .process p => { w with disk := live w.disk p }

/-- A commit that succeeds replaces the very snapshot that its draft was begun from by what the draft
has; one that fails leaves what is stored, if none of its steps failed. -/
def Fair (w : World ι) : Event ι → Prop
  | .call i env fault .commit =>
    match Editor.commit (compositeRepository env fault) ((w.writer i).editor, (w.disk, (w.writer i).held)) with
    | .ok committed s => Loads w.disk (w.writer i).begun ∧ Has (w.writer i).editor.draft committed ∧
        Loads s.2.1 committed
    | .error _ s => fault = none → ∀ c, Loads w.disk c → Loads s.2.1 c
  | _ => True

end World

/-! ### What the revision tells -/

section Before

variable [Library]

/-- A snapshot was stored, and either still is or was changed since then. -/
structure Before (c c' : ConfigurationSnapshot) : Prop where
  source : ∃ source, c.revision.applicationSource = some source ∧
    parseApplicationConfigDocument source = .ok c.application
  revision : c.revision.profileRevision ≤ c'.revision.profileRevision
  profiles : c.revision.profileRevision = c'.revision.profileRevision → c.profiles = c'.profiles
  origin : c.migratedFromSha256 = c'.migratedFromSha256

variable {c c' c'' : ConfigurationSnapshot}

lemma Before.trans (h : Before c c') (h' : Before c' c'') : Before c c'' where
  source := h.source
  revision := h.revision.trans h'.revision
  profiles heq := by
    have hmiddle : c.revision.profileRevision = c'.revision.profileRevision :=
      le_antisymm h.revision (heq ▸ h'.revision)
    exact (h.profiles hmiddle).trans (h'.profiles (hmiddle ▸ heq))
  origin := h.origin.trans h'.origin

/-- What has the revision of what is stored is what is stored. -/
lemma Before.eq_of_revision (h : Before c c') (h' : Before c' c') (hrevision : c'.revision = c.revision) :
    c = c' := by
  obtain ⟨source, hsource, hparse⟩ := h.source
  obtain ⟨source', hsource', hparse'⟩ := h'.source
  rw [hrevision, hsource] at hsource'
  cases hsource'
  rw [hparse] at hparse'
  have happlication : c.application = c'.application := Except.ok.inj hparse'
  have hprofiles := h.profiles (by rw [hrevision])
  have horigin := h.origin
  cases c
  cases c'
  simp_all

end Before

section Writers

variable [Library] [Sqlite] [Engine] {d : Disk} {c c' desired : ConfigurationSnapshot}

lemma Ready.before (h : Ready d c) : Before c c := by
  obtain ⟨source, hsource, -, -, hparse⟩ := h.reads.source
  exact ⟨⟨source, hsource, hparse⟩, le_rfl, fun _ => rfl, rfl⟩

lemma Rests.before (h : Rests d c) : Before c c := by
  cases h with
  | blank hnew h => exact ⟨⟨_, rfl, (parse_serializeApplication hnew).1⟩, le_rfl, fun _ => rfl, rfl⟩
  | ready h => exact h.before

lemma Holds.before (h : Holds d c) : Before c c := by
  cases h with
  | rests h => exact h.before
  | pends h => exact h.rests.before

/-- A disk holds one snapshot. -/
lemma Holds.eq (h : Holds d c) (hloads : Loads d c') : c' = c := by
  have hresult := (hloads plainEnvironment).symm.trans (h.loads plainEnvironment)
  exact Except.ok.inj hresult

/-! ### What a save stores comes after what was there -/

lemma Saves.before {env : Environment} {newConfig : Bytes} (h : Saves env d c desired newConfig)
    (hok : ((saveSnapshot env desired).run none d).result = .ok c') : Before c c' := by
  have hfrom := h.ready.before
  by_cases hchange : c.revision.applicationSource = some newConfig ∧ c.profiles = desired.profiles
  · rw [saveSnapshot_checked h, if_pos hchange] at hok
    cases hok
    exact hfrom
  have hcommitted : ∀ {saved d' v},
      (commitChanges env c desired newConfig).run none d = ⟨.ok saved, d', v, none⟩ →
      Ready d' (committedSnapshot desired newConfig saved) →
      c' = committedSnapshot desired newConfig saved := by
    intro saved d' v hrun hready
    rw [saveSnapshot_committed h hchange hrun hready.reads] at hok
    exact (Except.ok.inj hok).symm
  have hrefused : ∀ {e d' v},
      (commitChanges env c desired newConfig).run none d ≠ ⟨.error e, d', v, none⟩ := by
    intro e d' v hrun
    rw [saveSnapshot_failed h hchange hrun] at hok
    cases hok
  -- profiles that the database takes get the next number
  have hsaved : ∀ {saved file}, c.profiles ≠ desired.profiles →
      saveFile env.now d.database.file (desiredProfiles c desired) = .ok (saved, file) →
      c' = committedSnapshot desired newConfig saved → Before c c' := by
    rintro saved file hprofiles hsave rfl
    have hfile := h.savedFile hprofiles hsave
    have hnext : saved.revision = c.revision.profileRevision + 1 := hfile.revision
    refine ⟨hfrom.source, ?_, fun heq => ?_, hfile.origin.symm⟩
    · show c.revision.profileRevision ≤ saved.revision
      omega
    · have hsame : c.revision.profileRevision = saved.revision := heq
      omega
  by_cases hconfig : c.revision.applicationSource = some newConfig
  · have hprofiles : c.profiles ≠ desired.profiles := fun heq => hchange ⟨hconfig, heq⟩
    cases hsave : saveFile env.now d.database.file (desiredProfiles c desired) with
    | error e => exact absurd (commitProfiles_refused hconfig hsave) hrefused
    | ok p =>
      obtain ⟨saved, file⟩ := p
      have hready := h.ready_replaced (h.savedFile hprofiles hsave)
      exact hsaved hprofiles hsave (hcommitted (commitProfiles_taken h hconfig hsave) hready)
  · by_cases hprofiles : c.profiles = desired.profiles
    · obtain ⟨hrun, hready⟩ := commitConfig_run h hconfig hprofiles
      obtain rfl := hcommitted hrun hready
      exact ⟨hfrom.source, le_rfl, fun _ => rfl, rfl⟩
    · have hcommit := commitChanges_both env hconfig hprofiles
      obtain ⟨text, -, hrefuse, htaken⟩ := commitBoth_run h
      cases hsave : saveFile env.now d.database.file (desiredProfiles c desired) with
      | error e =>
        obtain ⟨v, hrun, -⟩ := hrefuse e hsave
        rw [← hcommit] at hrun
        exact absurd hrun hrefused
      | ok p =>
        obtain ⟨saved, file⟩ := p
        obtain ⟨v, hrun, -, -⟩ := htaken saved file hsave
        rw [← hcommit] at hrun
        have hready := h.ready_replaced (h.savedFile hprofiles hsave)
        exact hsaved hprofiles hsave (hcommitted hrun hready)

/-- A save succeeds only over the revision that it expects. -/
lemma Holds.saved (h : Holds d c) {env : Environment}
    (hok : ((saveSnapshot env desired).run none d).result = .ok c') :
    Before c c' ∧ c.revision = desired.revision ∧ c.migratedFromSha256 = desired.migratedFromSha256 := by
  cases hcheck : checkSnapshot env desired with
  | error e =>
    rw [saveSnapshot, read_bind_error (g := fun _ => checkSnapshot env desired) hcheck] at hok
    cases hok
  | ok _ =>
    obtain ⟨d', v, hrecover, hrests⟩ := h.recover env
    rw [saveSnapshot_recovered hrecover hrests.transaction hcheck, Run.result_after] at hok
    rcases hrests.save env desired with ⟨e, hrun⟩ | ⟨newConfig, hsaves⟩
    · rw [hrun] at hok
      cases hok
    · obtain ⟨hrevision, horigin, -⟩ := checkCurrent_ok hsaves.current
      exact ⟨hsaves.before hok, hrevision, horigin⟩

/-- Whatever a process leaves comes after what was there. -/
lemma Holds.left_before (h : Holds d c) (p : Process) :
    Broken (live d p) ∨ ∃ c', Before c c' ∧ Holds (live d p) c' := by
  rcases h.live_safe p with hbroken | ⟨c', hc', hholds⟩
  · exact .inl hbroken
  refine .inr ⟨c', ?_, hholds⟩
  rcases hc' with rfl | hc'
  · exact h.before
  obtain ⟨env, act, fault, stop⟩ := p
  cases act with
  | load =>
    have hsame := ((h.keeps ⟨env, .load, fault, stop⟩).2 rfl).symm.trans hc'
    cases hsame
    exact h.before
  | save desired => exact (h.saved hc').1

/-- What a save has read is what was there. -/
lemma Holds.readCurrent {env : Environment} {fault : Option (ℕ × Reason)} (h : Holds d c)
    (hok : ((readCurrent env desired).run fault d).result = .ok c') : c' = c := by
  cases hcheck : checkSnapshot env desired with
  | error e =>
    rw [Repository.readCurrent, read_bind_error (g := fun _ => checkSnapshot env desired) hcheck] at hok
    cases hok
  | ok _ =>
    rw [Repository.readCurrent, read_bind_ok (g := fun _ => checkSnapshot env desired) hcheck] at hok
    obtain ⟨d', v, hrecover, hrests⟩ := h.recover env
    have hcareful : Careful (Safe fun _ => True) (Safe fun _ => True) (recoverLocked env) d :=
      careful_recover env h trivial
    rcases hcareful.cases fault with ⟨w, hrun⟩ | ⟨e, s, v', hrun, -⟩
    · rw [hrecover] at hrun
      rw [run_bind_ok hrun] at hok
      cases hrests with
      | blank hnew hblank =>
        have hsource : readConfigSource d' = .ok none := by rw [readConfigSource, hblank.config]
        rw [run_read, readReady, hsource, ok_bind] at hok
        cases hok
      | ready hready =>
        rw [run_read, readReady_eq_ok.mpr hready.reads] at hok
        exact (Except.ok.inj hok).symm
    · rw [run_bind_error hrun] at hok
      cases hok

end Writers

/-! ### Beginning and committing -/

section Calls

variable {W : Type} {R : ConfigurationRepository W} {e : ConfigurationEditor} {s : W}

/-- The repository of a draft that is begun. -/
def fetched (R : ConfigurationRepository W) (s : W) : EStateM.Result Bytes W Unit :=
  if R.loaded s then .ok () s else R.load s

/-- A draft that is begun is the snapshot of the repository. -/
lemma begin_cases (R : ConfigurationRepository W) (e : ConfigurationEditor) (s : W) :
    (∃ error e', begin R (e, s) = .error error (e', s) ∧ kept e' = kept e) ∨
    (∃ error error' e' s', fetched R s = .error error s' ∧ begin R (e, s) = .error error' (e', s') ∧
      kept e' = kept e) ∨
    ∃ e' s', fetched R s = .ok () s' ∧ begin R (e, s) = .ok () (e', s') ∧ e'.draft = R.snapshot s' := by
  let cleared : ConfigurationEditor := { e with lastFailure := {} }
  have hclear : onEditor clearFailure (e, s) = .ok () (cleared, s) := rfl
  by_cases hactive : e.active = true
  · refine .inl ⟨{ error := str "configuration editor already has an active draft" }, cleared, ?_, rfl⟩
    rw [begin, InPlace.bind_of_ok hclear, get_bind, rejectIf, if_pos hactive]
    rfl
  let drafted (s : ConfigurationEditor × W) : ConfigurationEditor :=
    { s.1 with
      draft := R.snapshot s.2
      nextDraftProfileKey := -1
      nextDraftRuleKey := -1
      active := true }
  have hensure : begin R (e, s) =
      (ensureLoaded R >>= fun _ => modify fun s => (drafted s, s.2)) (cleared, s) := by
    rw [begin, InPlace.bind_of_ok hclear, get_bind, rejectIf, if_neg hactive]
    rfl
  rw [hensure, ensureLoaded, bind_assoc, get_bind]
  by_cases hloaded : R.loaded s = true
  · refine .inr (.inr ⟨drafted (cleared, s), s, by rw [fetched, if_pos hloaded], ?_, rfl⟩)
    rw [if_pos hloaded]
    rfl
  rw [fetched, if_neg hloaded, if_neg hloaded]
  cases hload : R.load s with
  | ok u s' =>
    refine .inr (.inr ⟨drafted (cleared, s'), s', rfl, ?_, rfl⟩)
    have hfetch : onRepository R.load (cleared, s) = .ok () (cleared, s') := by rw [onRepository, hload]
    rw [InPlace.bind_of_ok hfetch]
    rfl
  | error error s' =>
    refine .inr (.inl ⟨error, { error }, cleared, s', rfl, ?_, rfl⟩)
    exact InPlace.bind_eq_error.mpr (.inl (by rw [onRepository, hload]))

variable [Library]

/-- A draft that is committed is saved as it is, but for the keys. -/
lemma commit_cases (R : ConfigurationRepository W) (e : ConfigurationEditor) (s : W) :
    (∃ error e', Editor.commit R (e, s) = .error error (e', s) ∧ kept e' = kept e) ∨
    (e.active = true ∧
      ((∃ error error' e' s', R.saveSnapshot (committedDraft e.draft) s = .error error s' ∧
        Editor.commit R (e, s) = .error error' (e', s') ∧ kept e' = kept e) ∨
      ∃ committed e' s', R.saveSnapshot (committedDraft e.draft) s = .ok committed s' ∧
        Editor.commit R (e, s) = .ok committed (e', s') ∧ e'.active = false)) := by
  have hquiet := quiet_validate blind_kept R.root e
  cases hvalid : validate R.root e with
  | error error e' =>
    rw [hvalid] at hquiet
    refine .inl ⟨error, e', InPlace.bind_eq_error.mpr (.inl ?_), hquiet⟩
    rw [onEditor, hvalid]
  | ok u e' =>
    rw [hvalid] at hquiet
    have hdraft : e'.draft = e.draft := (kept_eq_iff.mp hquiet).1
    have hactive : e.active = true := by
      by_contra hinactive
      obtain ⟨_, t, hclear, hvalid⟩ := InPlace.bind_eq_ok.mp hvalid
      cases hclear
      obtain ⟨_, t, hrequire, -⟩ := InPlace.bind_eq_ok.mp hvalid
      rw [requireActive, get_bind, if_neg hinactive] at hrequire
      cases hrequire
    have hcommit : Editor.commit R (e, s) = (do
        let committed ← onRepository (R.saveSnapshot (committedDraft e'.draft))
        onEditor (modify fun e => { e with draft := committed, active := false })
        return committed : EditWith W _) (e', s) := by
      have hvalidated : onEditor (validate R.root) (e, s) = .ok () (e', s) := by rw [onEditor, hvalid]
      rw [Editor.commit, InPlace.bind_of_ok hvalidated]
      rfl
    rw [hdraft] at hcommit
    refine .inr ⟨hactive, ?_⟩
    rw [hcommit]
    cases hsave : R.saveSnapshot (committedDraft e.draft) s with
    | ok committed s' =>
      refine .inr ⟨committed, { e' with draft := committed, active := false }, s', rfl, ?_, rfl⟩
      have hsaved : onRepository (R.saveSnapshot (committedDraft e.draft)) (e', s) = .ok committed (e', s') := by
        rw [onRepository, hsave]
      rw [InPlace.bind_of_ok hsaved]
      rfl
    | error error s' =>
      refine .inl ⟨error, { error }, e', s', rfl, ?_, hquiet⟩
      exact InPlace.bind_eq_error.mpr (.inl (by rw [onRepository, hsave]))

end Calls

section Calls

variable {W : Type} {R : ConfigurationRepository W} [TextLibrary]

/-- What loading and saving keep of a repository, every call on an editor keeps. -/
lemma call_keeps {P : W → Prop} (hload : ∀ s, P s → P (left (R.load s)))
    (hsave : ∀ desired s, P s → P (left (R.saveSnapshot desired s))) (call : Call)
    {e : ConfigurationEditor} {s : W} (h : P s) : P (left (call.run R (e, s))).2 := by
  cases call with
  | begin =>
    have hfetched : P (left (fetched R s)) := by
      unfold fetched
      split
      · exact h
      · exact hload s h
    show P (left (begin R (e, s))).2
    rcases begin_cases R e s with ⟨error, e', hrun, -⟩ | ⟨error, error', e', s', hfetch, hrun, -⟩ |
      ⟨e', s', hfetch, hrun, -⟩
    · rw [hrun]
      exact h
    · rw [hfetch] at hfetched
      rw [hrun]
      exact hfetched
    · rw [hfetch] at hfetched
      rw [hrun]
      exact hfetched
  | operation o =>
    show P (left (onEditor (o.run R.root) (e, s))).2
    rw [onEditor]
    cases o.run R.root e with
    | ok _ e' => exact h
    | error _ e' => exact h
  | commit =>
    have hsaved := hsave (committedDraft e.draft) s h
    show P (left ((Editor.commit R >>= fun _ => pure ()) (e, s))).2
    rcases commit_cases R e s with ⟨error, e', hrun, -⟩ |
      ⟨-, ⟨error, error', e', s', hsave, hrun, -⟩ | ⟨committed, e', s', hsave, hrun, -⟩⟩
    · rw [InPlace.bind_eq_error.mpr (.inl hrun)]
      exact h
    · rw [hsave] at hsaved
      rw [InPlace.bind_eq_error.mpr (.inl hrun)]
      exact hsaved
    · rw [hsave] at hsaved
      rw [InPlace.bind_of_ok hrun]
      exact hsaved

end Calls

/-! ### What a repository object keeps -/

section Held

variable [Library] [Sqlite] [Engine] {env : Environment} {fault : Option (ℕ × Reason)} {d : Disk} {held : Held}
  {c desired committed : ConfigurationSnapshot} {error : Bytes} {s : Disk × Held}

/-- What it keeps was stored once. -/
def Held.Knows (held : Held) (c : ConfigurationSnapshot) : Prop := held.loaded = true → Before held.snapshot c

lemma loadHeld_disk : (left (loadHeld env fault (d, held))).1 = live d ⟨env, .load, fault, none⟩ := by
  unfold loadHeld
  dsimp only
  split
  · rfl
  · rfl

lemma loadHeld_knows (h : Holds d c) : (left (loadHeld env fault (d, held))).2.Knows c := by
  unfold loadHeld
  dsimp only
  split
  next c' hc' =>
    obtain rfl : c' = c := (h.lived ⟨env, .load, fault, none⟩).loaded rfl c' hc'
    exact fun _ => h.before
  next e he => simp [Held.Knows]

lemma loadHeld_loaded (h : loadHeld env fault (d, held) = .ok () s) : s.2.loaded = true := by
  unfold loadHeld at h
  dsimp only at h
  split at h
  · cases h
    rfl
  · cases h

/-- A draft is begun from what the object keeps, or from what is loaded. -/
lemma fetched_cases (env : Environment) (fault : Option (ℕ × Reason)) (d : Disk) (held : Held) :
    (fetched (compositeRepository env fault) (d, held) = .ok () (d, held) ∧ held.loaded = true) ∨
      fetched (compositeRepository env fault) (d, held) = loadHeld env fault (d, held) := by
  by_cases hloaded : held.loaded = true
  · exact .inl ⟨if_pos hloaded, hloaded⟩
  · exact .inr (if_neg hloaded)

lemma fetched_disk (env : Environment) (fault : Option (ℕ × Reason)) (d : Disk) (held : Held) :
    (left (fetched (compositeRepository env fault) (d, held))).1 = d ∨
    ∃ p, (left (fetched (compositeRepository env fault) (d, held))).1 = live d p := by
  rcases fetched_cases env fault d held with ⟨hsame, -⟩ | hload
  · rw [hsame]
    exact .inl rfl
  · rw [hload]
    exact .inr ⟨_, loadHeld_disk⟩

lemma fetched_knows (env : Environment) (fault : Option (ℕ × Reason)) (h : Holds d c) (hheld : held.Knows c) :
    (left (fetched (compositeRepository env fault) (d, held))).2.Knows c := by
  rcases fetched_cases env fault d held with ⟨hsame, -⟩ | hload
  · rw [hsame]
    exact hheld
  · rw [hload]
    exact loadHeld_knows h

lemma fetched_loaded (h : fetched (compositeRepository env fault) (d, held) = .ok () s) : s.2.loaded = true := by
  rcases fetched_cases env fault d held with ⟨hsame, hloaded⟩ | hload
  · rw [hsame] at h
    cases h
    exact hloaded
  · rw [hload] at h
    exact loadHeld_loaded h

lemma saveHeld_disk :
    (left (saveHeld env fault desired (d, held))).1 = live d ⟨env, .save desired, fault, none⟩ := by
  unfold saveHeld
  dsimp only
  split
  · rfl
  · rfl
  · rfl

/-- What is saved is kept. -/
lemma saveHeld_ok (h : saveHeld env fault desired (d, held) = .ok committed s) :
    (Process.run ⟨env, .save desired, fault, none⟩ d).result = .ok committed ∧
      s = (live d ⟨env, .save desired, fault, none⟩, ⟨true, committed⟩) := by
  unfold saveHeld at h
  dsimp only at h
  split at h
  next hresult =>
    cases h
    exact ⟨hresult, rfl⟩
  · cases h
  · cases h

lemma saveHeld_error (h : saveHeld env fault desired (d, held) = .error error s) :
    (∃ e, (Process.run ⟨env, .save desired, fault, none⟩ d).result = .error e) ∧
      s.1 = live d ⟨env, .save desired, fault, none⟩ ∧
      (s.2 = held ∨ ∃ current, ((readCurrent env desired).run fault d).result = .ok current ∧
        s.2 = ⟨true, current⟩) := by
  unfold saveHeld at h
  dsimp only at h
  split at h
  · cases h
  next e current hresult hread =>
    cases h
    exact ⟨⟨e, hresult⟩, rfl, .inr ⟨current, hread, rfl⟩⟩
  next e e' hresult hread =>
    cases h
    exact ⟨⟨e, hresult⟩, rfl, .inl rfl⟩

/-- A save that fails leaves what was stored once. -/
lemma saveHeld_knows (h : Holds d c) (hheld : held.Knows c)
    (herror : saveHeld env fault desired (d, held) = .error error s) : s.2.Knows c := by
  obtain ⟨-, -, hsame | ⟨current, hread, hcurrent⟩⟩ := saveHeld_error herror
  · rw [hsame]
    exact hheld
  · obtain rfl := h.readCurrent hread
    rw [hcurrent]
    exact fun _ => h.before

end Held

/-! ### Any order of calls -/

section Sound

variable {ι : Type} [DecidableEq ι] [TextLibrary] [Sqlite] [Engine] {w : World ι} {x : Writer} {d : Disk}
  {c c' : ConfigurationSnapshot}

/-- Object and draft of a writer are of what was stored once. -/
structure Writer.Knows (x : Writer) (c : ConfigurationSnapshot) : Prop where
  held : x.held.Knows c
  begun : x.editor.active = true → Before x.begun c ∧ x.editor.draft.revision = x.begun.revision ∧
    x.editor.draft.migratedFromSha256 = x.begun.migratedFromSha256

omit [Sqlite] [Engine] in
lemma Writer.Knows.mono (h : x.Knows c) (hc : Before c c') : x.Knows c' where
  held hloaded := (h.held hloaded).trans hc
  begun hactive := ⟨(h.begun hactive).1.trans hc, (h.begun hactive).2⟩

omit [Sqlite] [Engine] in
/-- The draft is of what it was of. -/
lemma Writer.Knows.edited (h : x.Knows c) {e : ConfigurationEditor} (horigin : origin e = origin x.editor)
    {held : Held} (hheld : held.Knows c) : Writer.Knows ⟨held, e, x.begun⟩ c where
  held := hheld
  begun hactive := by
    obtain ⟨hsame, hrevision, hmigrated⟩ : e.active = x.editor.active ∧
        e.draft.revision = x.editor.draft.revision ∧
        e.draft.migratedFromSha256 = x.editor.draft.migratedFromSha256 := by
      simpa only [origin, Prod.mk.injEq] using horigin
    rw [hrevision, hmigrated]
    exact h.begun (hsame ▸ hactive)

omit [Sqlite] [Engine] in
/-- There is no draft. -/
lemma knows_inactive {held : Held} (hheld : held.Knows c) {e : ConfigurationEditor} (he : e.active = false)
    {begun : ConfigurationSnapshot} : Writer.Knows ⟨held, e, begun⟩ c where
  held := hheld
  begun hactive := by
    rw [he] at hactive
    cases hactive

/-- The repository is lost, or whatever a writer has was stored once. -/
def World.Sound (w : World ι) : Prop := Broken w.disk ∨ ∃ c, Holds w.disk c ∧ ∀ i, (w.writer i).Knows c

omit [Sqlite] [Engine] in
lemma put_knows (h : ∀ j, (w.writer j).Knows c) (hx : x.Knows c) (i : ι) (j : ι) :
    ((w.put i d x).writer j).Knows c := by
  simp only [World.put, Function.update_apply]
  split_ifs
  · exact hx
  · exact h j

/-- A step in which a writer stays with what was stored before it. -/
lemma sound_put (h : Holds w.disk c) (hknows : ∀ j, (w.writer j).Knows c) (i : ι)
    (hd : d = w.disk ∨ ∃ p, d = live w.disk p) (hx : x.Knows c) : (w.put i d x).Sound := by
  rcases hd with rfl | ⟨p, rfl⟩
  · exact .inr ⟨c, h, put_knows hknows hx i⟩
  · rcases h.left_before p with hbroken | ⟨c', hbefore, hholds⟩
    · exact .inl hbroken
    · exact .inr ⟨c', hholds, fun j => (put_knows hknows hx i j).mono hbefore⟩

lemma sound_begin (h : Holds w.disk c) (hknows : ∀ j, (w.writer j).Knows c) (i : ι) (env : Environment)
    (fault : Option (ℕ × Reason)) : (w.step (.call i env fault .begin)).Sound := by
  have hx := hknows i
  have hdisk := fetched_disk env fault w.disk (w.writer i).held
  have hheld := fetched_knows env fault h hx.held
  have hcall : w.call i env fault .begin =
      begin (compositeRepository env fault) ((w.writer i).editor, (w.disk, (w.writer i).held)) := rfl
  rw [World.step, hcall]
  rcases begin_cases (compositeRepository env fault) (w.writer i).editor (w.disk, (w.writer i).held) with
    ⟨error, e', hrun, hkept⟩ | ⟨error, error', e', s', hfetch, hrun, hkept⟩ | ⟨e', s', hfetch, hrun, hdraft⟩
  · rw [hrun]
    exact sound_put h hknows i (.inl rfl) (hx.edited (origin_of_kept _ _ hkept) hx.held)
  · rw [hfetch] at hdisk hheld
    rw [hrun]
    exact sound_put h hknows i hdisk (hx.edited (origin_of_kept _ _ hkept) hheld)
  · have hsnapshot : Before e'.draft c := by
      rw [hfetch] at hheld
      rw [hdraft]
      exact hheld (fetched_loaded hfetch)
    rw [hfetch] at hdisk hheld
    rw [hrun]
    exact sound_put h hknows i hdisk ⟨hheld, fun _ => ⟨hsnapshot, rfl, rfl⟩⟩

lemma sound_commit (h : Holds w.disk c) (hknows : ∀ j, (w.writer j).Knows c) (i : ι) (env : Environment)
    (fault : Option (ℕ × Reason)) : (w.step (.call i env fault .commit)).Sound := by
  have hx := hknows i
  have hcall : w.call i env fault .commit = (do
      let _ ← Editor.commit (compositeRepository env fault)
      pure () : EditWith (Disk × Held) Unit) ((w.writer i).editor, (w.disk, (w.writer i).held)) := rfl
  rw [World.step, hcall]
  rcases commit_cases (compositeRepository env fault) (w.writer i).editor (w.disk, (w.writer i).held) with
    ⟨error, e', hrun, hkept⟩ |
    ⟨-, ⟨error, error', e', s', hsave, hrun, hkept⟩ | ⟨committed, e', s', hsave, hrun, hidle⟩⟩
  · rw [InPlace.bind_eq_error.mpr (.inl hrun)]
    exact sound_put h hknows i (.inl rfl) (hx.edited (origin_of_kept _ _ hkept) hx.held)
  · obtain ⟨-, hdisk, -⟩ := saveHeld_error hsave
    rw [InPlace.bind_eq_error.mpr (.inl hrun)]
    exact sound_put h hknows i (.inr ⟨_, hdisk⟩)
      (hx.edited (origin_of_kept _ _ hkept) (saveHeld_knows h hx.held hsave))
  · obtain ⟨hresult, rfl⟩ := saveHeld_ok hsave
    obtain ⟨-, hholds⟩ := h.done hresult
    have hbefore := (h.saved (h.succeeds hresult).1).1
    rw [InPlace.bind_of_ok hrun]
    refine .inr ⟨committed, hholds, put_knows (fun j => (hknows j).mono hbefore) ?_ i⟩
    exact knows_inactive (fun _ => hholds.before) hidle

/-- Nothing is done to a repository that is lost. -/
lemma Broken.step (h : Broken w.disk) (event : Event ι) : (w.step event).disk = w.disk := by
  cases event with
  | call i env fault call =>
    refine call_keeps (P := fun s => s.1 = w.disk) (R := compositeRepository env fault) ?_ ?_ call rfl
    · rintro ⟨d, held⟩ rfl
      exact loadHeld_disk.trans (h.fares _).1
    · rintro desired ⟨d, held⟩ rfl
      exact saveHeld_disk.trans (h.fares _).1
  | load i env fault => exact loadHeld_disk.trans (h.fares _).1
  | discard i => rfl
  | restart i => rfl
  | process p => exact (h.fares p).1

lemma World.Sound.step (h : w.Sound) (event : Event ι) : (w.step event).Sound := by
  rcases h with h | ⟨c, h, hknows⟩
  · left
    rw [h.step]
    exact h
  cases event with
  | call i env fault call =>
    cases call with
    | begin => exact sound_begin h hknows i env fault
    | operation o =>
      have hx := hknows i
      have horigin := origin_step env.root o (w.writer i).editor
      have hcall : left (w.call i env fault (.operation o)) =
          (left (o.run env.root (w.writer i).editor), (w.disk, (w.writer i).held)) := by
        show left (onEditor (o.run env.root) ((w.writer i).editor, (w.disk, (w.writer i).held))) = _
        rw [onEditor]
        cases o.run env.root (w.writer i).editor with
        | ok _ e' => rfl
        | error _ e' => rfl
      rw [World.step, hcall]
      exact sound_put h hknows i (.inl rfl) (hx.edited horigin hx.held)
    | commit => exact sound_commit h hknows i env fault
  | load i env fault =>
    exact sound_put h hknows i (.inr ⟨_, loadHeld_disk⟩) ⟨loadHeld_knows h, (hknows i).begun⟩
  | discard i => exact sound_put h hknows i (.inl rfl) (knows_inactive (hknows i).held rfl)
  | restart i => exact sound_put h hknows i (.inl rfl) (knows_inactive (by simp [Held.Knows]) rfl)
  | process p =>
    rcases h.left_before p with hbroken | ⟨c', hbefore, hholds⟩
    · exact .inl hbroken
    · exact .inr ⟨c', hholds, fun j => (hknows j).mono hbefore⟩

omit [TextLibrary] [Sqlite] [Engine] [DecidableEq ι] in
lemma unkeyed_committedDraft (draft : ConfigurationSnapshot) :
    (committedDraft draft).profiles.map StoredProfile.unkeyed = draft.profiles.map StoredProfile.unkeyed := by
  simp [committedDraft, committedProfile, committedRule, StoredProfile.unkeyed, StoredRule.unkeyed,
    Function.comp_def]

omit [DecidableEq ι] in
/-- A commit that succeeds. -/
lemma committed_fair (h : w.Sound) {i : ι} {env : Environment} {fault : Option (ℕ × Reason)}
    {committed : ConfigurationSnapshot} {s : Disk × Held} (hactive : (w.writer i).editor.active = true)
    (hsave : saveHeld env fault (committedDraft (w.writer i).editor.draft) (w.disk, (w.writer i).held) =
      .ok committed s) :
    Loads w.disk (w.writer i).begun ∧ Has (w.writer i).editor.draft committed ∧ Loads s.1 committed := by
  obtain ⟨hresult, rfl⟩ := saveHeld_ok hsave
  rcases h with hbroken | ⟨c, h, hknows⟩
  · obtain ⟨e, he⟩ := (hbroken.fares ⟨env, .save (committedDraft (w.writer i).editor.draft), fault, none⟩).2
    rw [hresult] at he
    cases he
  obtain ⟨hbefore, hrevision, -⟩ := (hknows i).begun hactive
  obtain ⟨hwants, hholds⟩ := h.done hresult
  obtain ⟨-, hexpected, -⟩ := h.saved (h.succeeds hresult).1
  -- the number and the text are those of the draft, so that all is
  have hsame : (w.writer i).begun = c := hbefore.eq_of_revision h.before (hexpected.trans hrevision)
  refine ⟨by rw [hsame]; exact h.loads, ?_, hholds.loads⟩
  obtain ⟨happlication, hprofiles⟩ := hwants
  exact ⟨happlication, hprofiles.trans (unkeyed_committedDraft _)⟩

omit [DecidableEq ι] in
lemma World.Sound.fair (h : w.Sound) (event : Event ι) : Fair w event := by
  cases event with
  | call i env fault call =>
    cases call with
    | commit =>
      rw [Fair]
      rcases commit_cases (compositeRepository env fault) (w.writer i).editor (w.disk, (w.writer i).held) with
        ⟨error, e', hrun, -⟩ |
        ⟨hactive, ⟨error, error', e', s', hsave, hrun, -⟩ | ⟨committed, e', s', hsave, hrun, -⟩⟩
      · rw [hrun]
        exact fun _ _ hloads => hloads
      · obtain ⟨⟨e, he⟩, hdisk, -⟩ := saveHeld_error hsave
        rw [hrun]
        intro hfault c hloads
        rcases h with hbroken | ⟨c', h, -⟩
        · exact (hbroken.not_loads hloads env).elim
        · obtain rfl := h.eq hloads
          rw [hdisk]
          exact (h.failed hfault he).loads
      · rw [hrun]
        exact committed_fair h hactive hsave
    | begin => trivial
    | operation o => trivial
  | load i env fault => trivial
  | discard i => trivial
  | restart i => trivial
  | process p => trivial

/-- **No change is lost.** Whatever the editors of any number of processes do, in any order and beside
whatever other processes load and save, and whichever steps fail: a commit that succeeds replaces the
very snapshot from which its draft was begun, and stores what the draft has; a commit that fails, if no
step of it did, leaves what is stored. -/
theorem no_update_lost (h : Rests d c) (events : List (Event ι)) :
    Along World.step Fair ⟨d, fun _ => {}⟩ events := by
  have hsound : World.Sound (⟨d, fun _ => {}⟩ : World ι) :=
    .inr ⟨c, .rests h, fun _ => knows_inactive (by simp [Held.Knows]) rfl⟩
  refine along_iff.mpr fun before event _ _ => ?_
  exact (keeps_run (P := World.Sound) (fun _ event hw => hw.step event) before hsound).fair event

end Sound

section Plain

attribute [local instance] plainText parserSqlite plainEngine

/-- Two editors begin a draft each, and both commit. -/
theorem no_update_lost_two : ∃ c, Rests {} c ∧
    Along World.step Fair (⟨{}, fun _ => {}⟩ : World Bool)
      [.call false plainEnvironment none .begin, .call true plainEnvironment none .begin,
        .call false plainEnvironment none (.operation (.createProfile (str "a"))),
        .call false plainEnvironment none .commit, .call true plainEnvironment none .commit] := by
  obtain ⟨newConfig, hnew⟩ := exists_newConfig
  have hrests : Rests {} (newSnapshot newConfig) := .blank hnew ⟨rfl, rfl, rfl⟩
  exact ⟨_, hrests, no_update_lost hrests _⟩

end Plain

end CcsTrans.Repository
