import CcsTrans.Config.DeepText
import CcsTrans.Presentation.Effects
import CcsTrans.Runs

/-!
How the view model keeps the books on its draft.

Whoever looks at the window sees from the phase whether there are changes that were not
applied, and may make a command depend on the revision of the draft. Both are right as long
as no command changes the draft and then reports that it was rejected. The command that
formats the text of rules does, when the rules can be read but not written again.
-/

namespace CcsTrans.Presentation

open CcsTrans.Text CcsTrans.Config CcsTrans.Storage CcsTrans.Editor CcsTrans.Runs

section Bookkeeping

variable [TextLibrary] {W : Type} {env : Environment W} {request : MainWindowCommandRequest}
  {vm : MainWindowViewModel W}

/-- A draft without changes is the snapshot it was begun from. -/
def Unchanged (vm : MainWindowViewModel W) : Prop :=
  vm.state.draft.phase = .clean ∨ vm.state.draft.phase = .savedPendingRuntimeApply →
    ∀ d, theDraft vm.editor = some d → d = vm.begun

/-- A command changes the draft. -/
def Changes (env : Environment W) (request : MainWindowCommandRequest)
    (vm : MainWindowViewModel W) : Prop :=
  theDraft (execute env request vm).editor ≠ theDraft vm.editor

/-- A change of the draft is accounted for. -/
structure Accounted (env : Environment W) (request : MainWindowCommandRequest)
    (vm : MainWindowViewModel W) : Prop where
  changed : Changes env request vm →
    vm.state.draft.revision < (execute env request vm).state.draft.revision ∧
      ((execute env request vm).state.draft.phase = .dirty ∨
        request.command.releases = true ∧
          (theDraft (execute env request vm).editor = none ∨
            theDraft (execute env request vm).editor = some (execute env request vm).begun))
  refused : lastOutcome (execute env request vm) = some .rejected ∨
    lastOutcome (execute env request vm) = some .cancelled → ¬ Changes env request vm

/-- The books on the draft are right in a run: in all its states, for all its commands, and
for any two commands that expect the same revision. -/
structure Bookkept (env : Environment W) (vm : MainWindowViewModel W)
    (requests : List MainWindowCommandRequest) : Prop where
  unchanged : ∀ before after, requests = before ++ after → Unchanged (runCommands env vm before)
  accounted : ∀ before r after, requests = before ++ r :: after →
    Accounted env r (runCommands env vm before)
  once : ∀ before r between r' after n, requests = before ++ r :: (between ++ r' :: after) →
    r.expectedDraftRevision = some n → r'.expectedDraftRevision = some n →
    ¬ (Changes env r (runCommands env vm before) ∧
      Changes env r' (runCommands env vm (before ++ r :: between)))

/-- A text to be formatted is read as other rules than the profile has, and these cannot be
formatted. -/
def Misformats (request : MainWindowCommandRequest) (vm : MainWindowViewModel W) : Prop :=
  ∃ key p rules, Unformatted request vm key p rules ∧ keyedRules vm.editor rules ≠ p.rules

/-! ### Steps -/

lemma accounted_step (h : ¬ Misformats request vm) : Accounted env request vm := by
  obtain ⟨o, houtcome, heffect⟩ := effect_execute env request vm
  cases heffect with
  | kept draft => exact ⟨fun hchanges => absurd draft hchanges, fun _ hchanges => hchanges draft⟩
  | refused _ _ _ rest =>
    have draft : theDraft (execute env request vm).editor = theDraft vm.editor :=
      congrArg View.draft rest
    exact ⟨fun hchanges => absurd draft hchanges, fun _ hchanges => hchanges draft⟩
  | misformatted text changed => exact absurd ⟨_, _, _, text, changed⟩ h
  | edited draft begun phase later =>
    refine ⟨fun _ => ⟨later, .inl phase⟩, fun hrefused => ?_⟩
    rw [houtcome] at hrefused
    rcases hrefused with hrefused | hrefused <;> cases hrefused
  | renewed releases renewed =>
    refine ⟨fun _ => ⟨renewed.later, .inr ⟨releases, ?_⟩⟩, fun hrefused => ?_⟩
    · cases renewed with
      | begun draft => exact .inr draft
      | ended draft => exact .inl draft
    · rw [houtcome] at hrefused
      obtain ⟨hrejected, hcancelled⟩ := renewed.proper
      rcases hrefused with hrefused | hrefused
      · exact absurd (Option.some.inj hrefused) hrejected
      · exact absurd (Option.some.inj hrefused) hcancelled

/-- A text that cannot be formatted is in the draft, and the command says it was rejected. -/
lemma not_accounted (h : Misformats request vm) : ¬ Accounted env request vm := by
  obtain ⟨key, p, rules, htext, hchanged⟩ := h
  obtain ⟨houtcome, hview⟩ := execute_unformatted env htext
  intro haccounted
  refine haccounted.refused (.inl houtcome) ?_
  have hdraft := congrArg View.draft hview
  show (view (execute env request vm)).draft ≠ theDraft vm.editor
  rw [hdraft, theDraft_active htext.gives.active]
  intro hsame
  have hprofiles := congrArg ConfigurationSnapshot.profiles (Option.some.inj hsame)
  exact hchanged ((profilesWithText_eq_iff htext.reads.found).mp hprofiles)

lemma unchanged_step (h : ¬ Misformats request vm) (hvm : Unchanged vm) :
    Unchanged (execute env request vm) := by
  obtain ⟨o, -, heffect⟩ := effect_execute env request vm
  intro hphase d hd
  cases heffect with
  | kept draft begun phase =>
    have hbefore : vm.state.draft.phase = .clean ∨
        vm.state.draft.phase = .savedPendingRuntimeApply := by
      rcases phase with hsame | ⟨-, hdirty⟩ | ⟨hsaved, -⟩
      · rw [← show _ = vm.state.draft.phase from hsame]
        exact hphase
      · have hdirty : (execute env request vm).state.draft.phase = .dirty := hdirty
        rw [hdirty] at hphase
        rcases hphase with hphase | hphase <;> cases hphase
      · exact .inr hsaved
    have hdraft : theDraft vm.editor = some d := by
      rw [← hd]
      exact draft.symm
    rw [hvm hbefore d hdraft]
    exact begun.symm
  | refused _ _ _ rest =>
    have hdraft : theDraft vm.editor = some d := by
      rw [← hd]
      exact (congrArg View.draft rest).symm
    have hsame : (execute env request vm).state.draft.phase = vm.state.draft.phase :=
      congrArg View.phase rest
    rw [hsame] at hphase
    rw [hvm hphase d hdraft]
    exact (congrArg View.begun rest).symm
  | misformatted text changed => exact absurd ⟨_, _, _, text, changed⟩ h
  | edited _ _ phase =>
    have hdirty : (execute env request vm).state.draft.phase = .dirty := phase
    rw [hdirty] at hphase
    rcases hphase with hphase | hphase <;> cases hphase
  | renewed _ renewed =>
    cases renewed with
    | begun draft =>
      have hbegun : theDraft (execute env request vm).editor =
          some (execute env request vm).begun := draft
      exact Option.some.inj (hd.symm.trans hbegun)
    | ended draft =>
      have hnone : theDraft (execute env request vm).editor = none := draft
      rw [hnone] at hd
      cases hd

lemma revision_step (env : Environment W) (request : MainWindowCommandRequest)
    (vm : MainWindowViewModel W) :
    vm.state.draft.revision ≤ (execute env request vm).state.draft.revision := by
  obtain ⟨o, -, heffect⟩ := effect_execute env request vm
  cases heffect with
  | kept _ _ _ later => exact later
  | refused _ _ later => exact later
  | misformatted _ _ rest => exact (congrArg View.revision rest).ge
  | edited _ _ _ later => exact later.le
  | renewed _ renewed => exact renewed.later.le

lemma revision_run (env : Environment W) (vm : MainWindowViewModel W)
    (requests : List MainWindowCommandRequest) {n : ℕ} (h : n ≤ vm.state.draft.revision) :
    n ≤ (runCommands env vm requests).state.draft.revision :=
  keeps_run (P := fun vm : MainWindowViewModel W => n ≤ vm.state.draft.revision)
    (fun vm request hvm => hvm.trans (revision_step env request vm)) requests h

/-- A command that expects a revision changes only a draft of that revision. -/
lemma revision_of_changes {n : ℕ} (hexpected : request.expectedDraftRevision = some n)
    (h : Changes env request vm) : vm.state.draft.revision = n := by
  by_contra hne
  have hrefused : ∃ refused, checkDraftPrecondition request vm.state.draft = some refused := by
    unfold checkDraftPrecondition
    rw [hexpected, if_pos (by simp [Ne.symm hne])]
    exact ⟨_, rfl⟩
  obtain ⟨refused, hrefused⟩ := hrefused
  exact h (congrArg View.draft (view_execute_of_refused hrefused))

/-! ### Runs -/

lemma runCommands_append (env : Environment W) (vm : MainWindowViewModel W)
    (as bs : List MainWindowCommandRequest) :
    runCommands env vm (as ++ bs) = runCommands env (runCommands env vm as) bs :=
  List.foldl_append

/-- Two commands that expect the same revision do not both change the draft, when the first
is accounted for. -/
lemma changes_once {before between : List MainWindowCommandRequest}
    {r r' : MainWindowCommandRequest} {n : ℕ}
    (haccounted : Accounted env r (runCommands env vm before))
    (hr : r.expectedDraftRevision = some n) (hr' : r'.expectedDraftRevision = some n)
    (hchanges : Changes env r (runCommands env vm before)) :
    ¬ Changes env r' (runCommands env vm (before ++ r :: between)) := by
  intro hchanges'
  have hfirst := revision_of_changes hr hchanges
  have hsecond := revision_of_changes hr' hchanges'
  have hlater := (haccounted.changed hchanges).1
  rw [runCommands_append] at hsecond
  have hrun := revision_run env (execute env r (runCommands env vm before)) between le_rfl
  have hsame : runCommands env (execute env r (runCommands env vm before)) between =
      runCommands env (runCommands env vm before) (r :: between) := rfl
  rw [hsame] at hrun
  omega

omit [TextLibrary] in
lemma unchanged_fresh (env : Environment W) (world : W) :
    Unchanged (MainWindowViewModel.fresh env world) := by
  intro hphase
  rcases hphase with hphase | hphase <;> cases hphase

/-- **The books on the draft.** In a run of a fresh view model the phase and the revision of
the draft are right, and commands that are refused change nothing, exactly when no command
asks to format a text that is read as new rules which cannot be formatted. -/
theorem draft_bookkeeping (env : Environment W) (world : W)
    (requests : List MainWindowCommandRequest) :
    Bookkept env (MainWindowViewModel.fresh env world) requests ↔
      Along (fun vm r => execute env r vm) (fun vm r => ¬ Misformats r vm)
        (MainWindowViewModel.fresh env world) requests := by
  constructor
  · intro h
    rw [along_iff]
    intro before r after hsplit hmisformats
    exact not_accounted hmisformats (h.accounted before r after hsplit)
  · intro h
    have haccounted : ∀ before r after, requests = before ++ r :: after →
        Accounted env r (runCommands env (MainWindowViewModel.fresh env world) before) :=
      fun before r after hsplit => accounted_step (along_iff.mp h before r after hsplit)
    refine ⟨fun before after hsplit => ?_, haccounted, ?_⟩
    · subst hsplit
      exact h.left.keeps (fun vm r hr hvm => unchanged_step hr hvm) (unchanged_fresh env world)
    · rintro before r between r' after n hsplit hr hr' ⟨hchanges, hchanges'⟩
      exact changes_once (haccounted before r _ hsplit) hr hr' hchanges hchanges'

end Bookkeeping

/-! ### A text that is too deep -/

/-- A repository that is its snapshot, and a service that is stopped. -/
def plainEnvironment : Environment ConfigurationSnapshot where
  repository := plainRepository
  lastFailure _ := none
  storage := none
  databasePath := str "/opt/ccs-trans/profiles.db"
  migrationsDirectory := str "/opt/ccs-trans/migrations"
  databaseExists _ := .ok true
  application := ⟨pure (), pure (), pure (), pure (), fun w => ({}, w)⟩
  preferences := ⟨pure {}, fun _ => pure ()⟩

def oneProfile : ConfigurationSnapshot where
  profiles := [{ key := 1, profileId := str "a" }]

def loadRequest : MainWindowCommandRequest where
  command := .loadDraft

/-- Format a rule whose option is a nest of arrays. -/
def deepRequest : MainWindowCommandRequest where
  command := .formatRulesText
  profileId := str "a"
  profileKey := some 1
  text := deepText 1500

/-- The profile that is there when the command comes. -/
lemma findProfile_loaded [TextLibrary] :
    findProfile (runCommands plainEnvironment (MainWindowViewModel.fresh plainEnvironment
      oneProfile) [loadRequest]).editor.draft.profiles 1 =
      some { key := 1, profileId := str "a" } := rfl

lemma unformatted_deep [TextLibrary] : Unformatted deepRequest
    (runCommands plainEnvironment (MainWindowViewModel.fresh plainEnvironment oneProfile)
      [loadRequest]) 1 { key := 1, profileId := str "a" } [deepRule 1500] where
  gives := ⟨rfl, .inr rfl, rfl, rfl⟩
  command := rfl
  reads := ⟨findProfile_loaded, by
    rw [show deepRequest.text = deepText 1500 from rfl, normalize_deepText]
    exact parseRulesText_deepText (by norm_num)⟩
  fails := formatRulesText_deepRule le_rfl

/-- The draft has the rule, but it is not dirty, and the command was rejected. -/
theorem draft_not_bookkept :
    let _ : TextLibrary := plainText
    ¬ Bookkept plainEnvironment (MainWindowViewModel.fresh plainEnvironment oneProfile)
      [loadRequest, deepRequest] := by
  intro _ h
  refine not_accounted ⟨1, _, _, unformatted_deep, ?_⟩
    (h.accounted [loadRequest] deepRequest [] rfl)
  simp [keyedRules, assignKeys, deepRule]

end CcsTrans.Presentation
