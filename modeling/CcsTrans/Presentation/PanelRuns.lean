import CcsTrans.Presentation.Bookkeeping

/-!
Whether the panels belong together after every command.

Most commands rebuild all panels together. A text of rules that is refused is only put into
the rules editor, whatever profile is selected; and a text that is taken but cannot be
formatted changes the draft behind the list.
-/

namespace CcsTrans.Presentation

open CcsTrans.Text CcsTrans.Config CcsTrans.Storage CcsTrans.Editor CcsTrans.Runs

section Panels

variable [TextLibrary] {W : Type} {env : Environment W} {request : MainWindowCommandRequest}
  {vm : MainWindowViewModel W}

/-- The panels belong to the draft, if there is one, and to each other. -/
def Shown (vm : MainWindowViewModel W) : Prop :=
  ∀ d, theDraft vm.editor = some d → Coherent vm.state.panels d

/-- A text is refused that was given for another profile than the selected one. -/
def Misplaces (request : MainWindowCommandRequest) (vm : MainWindowViewModel W) : Prop :=
  ∃ key, TextRefused request vm key ∧ vm.state.selectedProfileKey ≠ some key

/-- How many rules there are, and how many of them are enabled. -/
def ruleCounts (rules : List StoredRule) : ℕ × ℕ :=
  (rules.length, rules.countP StoredRule.enabled)

/-- A text to be formatted is read as more or fewer rules than the profile has, or as rules
of which more or fewer are enabled, and these cannot be formatted. -/
def Miscounts (request : MainWindowCommandRequest) (vm : MainWindowViewModel W) : Prop :=
  ∃ key p rules, Unformatted request vm key p rules ∧ ruleCounts rules ≠ ruleCounts p.rules

/-! ### Lists with one profile replaced -/

section Lists

variable {α β : Type} {f : α → β} {q : α → Bool} {x y : α} {xs : List α}

omit [TextLibrary] in
/-- What is seen of a list is what is seen of the item that was put in, where the old one
was. -/
lemma map_putFirst_iff (h : xs.find? q = some y) :
    (putFirst q x xs).map f = xs.map f ↔ f x = f y := by
  induction xs with
  | nil => cases h
  | cons z zs ih =>
    rw [List.find?_cons] at h
    rw [putFirst]
    split at h
    · next hz =>
      cases h
      rw [if_pos hz, List.map_cons, List.map_cons, List.cons.injEq]
      exact and_iff_left rfl
    · next hz =>
      rw [if_neg (by simp [hz]), List.map_cons, List.map_cons, List.cons.injEq, ih h]
      exact and_iff_right rfl

end Lists

omit [TextLibrary] in
lemma ruleCounts_keyedRules (e : ConfigurationEditor) (rules : List StoredRule) :
    ruleCounts (keyedRules e rules) = ruleCounts rules := by
  have hmap := assignKeys_map StoredRule.enabled (fun _ _ => rfl) e.nextDraftRuleKey rules
  have hlength := congrArg List.length hmap
  have hcount := congrArg (List.countP id) hmap
  rw [List.length_map, List.length_map] at hlength
  rw [List.countP_map, List.countP_map] at hcount
  exact Prod.ext hlength hcount

omit [TextLibrary] in
/-- The list still shows the profiles when a profile has other rules, just when it has as many
of them. -/
lemma map_summaryOf_profilesWithText {e : ConfigurationEditor} {key : ℤ} {p : StoredProfile}
    (h : findProfile e.draft.profiles key = some p) (rules : List StoredRule) :
    (profilesWithText e key p rules).map summaryOf = e.draft.profiles.map summaryOf ↔
      ruleCounts rules = ruleCounts p.rules := by
  rw [profilesWithText, map_putFirst_iff h, ← ruleCounts_keyedRules e rules]
  simp only [summaryOf, ruleCounts, keyedRules, Summary.mk.injEq, Prod.mk.injEq, true_and]

/-! ### Steps -/

lemma shown_step (hplaced : ¬ Misplaces request vm) (hcounted : ¬ Miscounts request vm)
    (hvm : Shown vm) : Shown (execute env request vm) := by
  obtain ⟨o, -, heffect⟩ := effect_execute env request vm
  intro d hd
  cases heffect with
  | kept draft _ _ _ panels =>
    rcases panels with hsame | hshows
    · have hpanels : (execute env request vm).state.panels = vm.state.panels := hsame
      rw [hpanels]
      exact hvm d (draft.symm.trans hd)
    · exact hshows d hd
  | @refused key r text editor _ rest =>
    have hpanels : (execute env request vm).state.panels =
        { vm.state.panels with rulesEditor := some r } := congrArg View.panels rest
    have hcoherent := hvm d ((congrArg View.draft rest).symm.trans hd)
    have hselected : vm.state.selectedProfileKey = some key := by
      by_contra hother
      exact hplaced ⟨key, text, hother⟩
    rw [hpanels]
    refine ⟨hcoherent.list, hcoherent.empty, hcoherent.selected, hcoherent.profileEditor, ?_⟩
    intro q hq
    cases hq
    rw [editor]
    exact hselected
  | @misformatted key p rules text _ rest =>
    have hpanels : (execute env request vm).state.panels = vm.state.panels :=
      congrArg View.panels rest
    have hcounts : ruleCounts rules = ruleCounts p.rules := by
      by_contra hother
      exact hcounted ⟨key, p, rules, text, hother⟩
    have hcoherent := hvm _ (theDraft_active text.gives.active)
    obtain rfl : { vm.editor.draft with profiles := profilesWithText vm.editor key p rules } = d :=
      Option.some.inj ((congrArg View.draft rest).symm.trans hd)
    rw [hpanels]
    refine ⟨?_, hcoherent.empty, hcoherent.selected, hcoherent.profileEditor,
      hcoherent.rulesEditor⟩
    rw [hcoherent.list]
    exact ((map_summaryOf_profilesWithText text.reads.found rules).mpr hcounts).symm
  | edited _ _ _ _ shows => exact shows d hd
  | renewed _ renewed =>
    cases renewed with
    | begun _ _ _ shows => exact shows d hd
    | ended draft =>
      have hnone : theDraft (execute env request vm).editor = none := draft
      rw [hnone] at hd
      cases hd

lemma not_misplaces (h : Shown (execute env request vm)) : ¬ Misplaces request vm := by
  rintro ⟨key, htext, hother⟩
  obtain ⟨r, hkey, hview⟩ := execute_refused env htext
  have hdraft : theDraft (execute env request vm).editor = some vm.editor.draft :=
    (congrArg View.draft hview).trans (theDraft_active htext.1.active)
  have hpanels : (execute env request vm).state.panels =
      { vm.state.panels with rulesEditor := some r } := congrArg View.panels hview
  have hcoherent := h _ hdraft
  rw [hpanels] at hcoherent
  have hselected := hcoherent.rulesEditor r rfl
  rw [hkey] at hselected
  exact hother hselected

lemma not_miscounts (hvm : Shown vm) (h : Shown (execute env request vm)) :
    ¬ Miscounts request vm := by
  rintro ⟨key, p, rules, htext, hother⟩
  obtain ⟨-, hview⟩ := execute_unformatted env htext
  have hafter := (h _ (congrArg View.draft hview)).list
  have hpanels : (execute env request vm).state.panels = vm.state.panels :=
    congrArg View.panels hview
  rw [hpanels, (hvm _ (theDraft_active htext.gives.active)).list] at hafter
  exact hother ((map_summaryOf_profilesWithText htext.reads.found rules).mp hafter.symm)

/-! ### Runs -/

omit [TextLibrary] in
lemma shown_fresh (env : Environment W) (world : W) :
    Shown (MainWindowViewModel.fresh env world) := by
  intro d hd
  cases hd

/-- **The panels belong together.** In a run of a fresh view model all states have panels
that belong to the draft and to each other, exactly when no command gives a text that is
refused for a profile that is not selected, and none a text that changes how many rules are
listed and cannot be formatted. -/
theorem panels_coherent (env : Environment W) (world : W)
    (requests : List MainWindowCommandRequest) :
    (∀ before after, requests = before ++ after →
      Shown (runCommands env (MainWindowViewModel.fresh env world) before)) ↔
    Along (fun vm r => execute env r vm) (fun vm r => ¬ Misplaces r vm ∧ ¬ Miscounts r vm)
      (MainWindowViewModel.fresh env world) requests := by
  constructor
  · intro h
    rw [along_iff]
    intro before r after hsplit
    have hbefore := h before (r :: after) hsplit
    have hafter := h (before ++ [r]) after (by rw [hsplit, List.append_assoc]; rfl)
    rw [runCommands_append] at hafter
    exact ⟨not_misplaces hafter, not_miscounts hbefore hafter⟩
  · intro h before after hsplit
    subst hsplit
    exact h.left.keeps (fun vm r hr hvm => shown_step hr.1 hr.2 hvm) (shown_fresh env world)

end Panels

/-! ### A text for another profile -/

def twoProfiles : ConfigurationSnapshot where
  profiles := [{ key := 1, profileId := str "a" }, { key := 2, profileId := str "b" }]

/-- A text that is no JSON, for the second profile. -/
def strayRequest : MainWindowCommandRequest where
  command := .replaceRulesText
  profileId := str "b"
  profileKey := some 2
  text := str "x"

/-- The text of the second profile is in the editor while the first is selected. -/
theorem panels_incoherent :
    let _ : TextLibrary := plainText
    ¬ ∀ before after, [loadRequest, strayRequest] = before ++ after →
      Shown (runCommands plainEnvironment (MainWindowViewModel.fresh plainEnvironment
        twoProfiles) before) := by
  intro _ h
  let loaded := runCommands plainEnvironment (MainWindowViewModel.fresh plainEnvironment
    twoProfiles) [loadRequest]
  have hunread : (parseRulesText (normalizeRulesTextNewlines strayRequest.text) []).toOption =
      none := by decide
  have hrefused : TextRefused strayRequest loaded 2 := by
    refine ⟨⟨rfl, .inl rfl, rfl, rfl⟩, ?_⟩
    rintro ⟨p, rules, hreads⟩
    have hfound : findProfile loaded.editor.draft.profiles 2 =
        some { key := 2, profileId := str "b" } := rfl
    obtain rfl := Option.some.inj (hfound.symm.trans hreads.found)
    rw [hreads.parsed] at hunread
    cases hunread
  have hselected : loaded.state.selectedProfileKey = some 1 := by decide
  have hshown : Shown (execute plainEnvironment strayRequest loaded) :=
    h [loadRequest, strayRequest] [] rfl
  exact not_misplaces hshown ⟨2, hrefused, by rw [hselected]; decide⟩

end CcsTrans.Presentation
