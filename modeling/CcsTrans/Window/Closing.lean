import CcsTrans.Window.Dispatcher
import CcsTrans.Runs

/-!
How the window is closed.

A request to close is granted at once when there is nothing to be lost. Otherwise the user is
asked. The decision may need the draft to be applied or discarded first, by a command: the
controller then waits for such a command to finish, and closes.
-/

namespace CcsTrans.Window

open CcsTrans.Text
open CcsTrans.Gui (Snapshot CommandStatus ResultCode ErrorCode)
open CcsTrans.GuiIpc (GuiCommand)

/-! ### The controller -/

/-- Why the window was closed. -/
inductive Cause where
  /-- A request, with the local edits and the draft of its moment. -/
  | requested (localEdits draftDirty : Bool)
  /-- A decision, with the local edits that it was asked for and the draft of its moment. -/
  | resolved (decision : Bytes) (localEdits draftDirty : Bool)
  /-- A command has finished, which may be the one of the decision to close. -/
  | finished (event : CommandFinished) (own : Bool)
  deriving DecidableEq

/-- `GuiWindowController`, with the dispatcher, the state of the tray and the client. -/
structure GuiWindowController where
  state : GuiStateStore := {}
  commands : CommandDispatcher := {}
  /-- The session is over: the client sends and hears nothing more. -/
  lost : Bool := false
  windowVisible : Bool := false
  initialActivationDone : Bool := false
  closePromptVisible : Bool := false
  closeHasLocalEdits : Bool := false
  closeHasDraftEdits : Bool := false
  closeAfterCommand : Bool := false
  /-- The process is being ended. -/
  destroyed : Bool := false
  /-- The request that the last decision to close has sent, as long as it is under way. -/
  decision : Option Bytes := none
  /-- Why the window was closed, each time that it was. -/
  closes : List Cause := []

namespace GuiWindowController

/-- `performPendingClose`. -/
def performPendingClose (w : GuiWindowController) (cause : Cause) : GuiWindowController :=
  { w with
    closeAfterCommand := false
    closeHasLocalEdits := false
    closeHasDraftEdits := false
    closePromptVisible := false
    destroyed := w.destroyed || w.state.lightweightMode
    lost := w.lost || w.state.lightweightMode
    windowVisible := w.state.lightweightMode && w.windowVisible
    closes := w.closes ++ [cause] }

/-- `requestClose`. -/
def requestClose (w : GuiWindowController) (hasLocalEdits : Bool) : GuiWindowController :=
  if w.commands.busy || w.state.commandPending then w
  else
    let w := { w with closeHasLocalEdits := hasLocalEdits, closeHasDraftEdits := w.state.draftDirty }
    if w.closeHasLocalEdits || w.closeHasDraftEdits then { w with closePromptVisible := true }
    else w.performPendingClose (.requested hasLocalEdits w.state.draftDirty)

/-- What the client makes of a command: it gives a number to the request, or fails. -/
def sending (w : GuiWindowController) (sent : Except Bytes UInt64) : Except Bytes Bytes :=
  if w.lost then .error (str "GUI IPC session is not ready")
  else sent.map fun n => str "command-" ++ decimal n.toNat

/-- `resolveClose`. The command of the decision may be sent or not. -/
def resolveClose (w : GuiWindowController) (decision : Bytes) (sent : Except Bytes UInt64) :
    GuiWindowController :=
  if !w.closePromptVisible then w
  else if decision = str "cancel" then { w with closePromptVisible := false }
  else if w.closeHasLocalEdits ∧ decision ≠ str "discard" then w
  else
    let w := { w with closePromptVisible := false }
    if w.closeHasDraftEdits then
      let r := w.commands.submit (w.sending sent)
      { w with
        closeAfterCommand := true
        commands := r.2
        decision := if r.1 then some r.2.pendingRequest else none }
    else w.performPendingClose (.resolved decision w.closeHasLocalEdits w.state.draftDirty)

/-- A command is submitted elsewhere in the window. -/
def submit (w : GuiWindowController) (sent : Except Bytes UInt64) : GuiWindowController :=
  { w with commands := (w.commands.submit (w.sending sent)).2 }

/-- `handleCommandFinished`. -/
def handleCommandFinished (w : GuiWindowController) (event : CommandFinished) (own : Bool) :
    GuiWindowController :=
  if !w.closeAfterCommand ∨
      (event.command ≠ str "apply_draft" ∧ event.command ≠ str "discard_draft") then w
  else
    let w := { w with closeAfterCommand := false }
    if (event.errorCode = str "none" ∧ event.outcome = str "succeeded") ∨
        (event.command = str "apply_draft" ∧ event.outcome = str "saved_pending_runtime_apply") then
      w.performPendingClose (.finished event own)
    else w

/-- A command status arrives. -/
def commandStatus (w : GuiWindowController) (requestId : Bytes) (status : CommandStatus) :
    GuiWindowController :=
  if w.lost then w
  else
    let r := w.commands.handleCommandStatus requestId status
    match r.1 with
    | none => w
    | some event =>
      { w with commands := r.2, decision := none }.handleCommandFinished event
        (w.decision = some requestId)

/-- `activate`. -/
def activate (w : GuiWindowController) : GuiWindowController :=
  if w.lost ∨ w.state.revision = 0 then w else { w with windowVisible := true }

/-- `handleSnapshot`, with the snapshot that the state takes. -/
def handleSnapshot (w : GuiWindowController) (s : Snapshot) : GuiWindowController :=
  if w.lost then w
  else
    let w := { w with state := ⟨some s⟩ }
    if !w.initialActivationDone && 0 < w.state.revision then
      { w with initialActivationDone := true }.activate
    else if w.initialActivationDone && w.state.lightweightMode && !w.windowVisible then
      { w with destroyed := true, lost := true }
    else w

/-- `handleShutdown`. -/
def handleShutdown (w : GuiWindowController) : GuiWindowController :=
  { w with destroyed := true, lost := true }

/-- `handleSessionLost`, of the dispatcher and the controller. -/
def sessionLost (w : GuiWindowController) : GuiWindowController :=
  { w with commands := w.commands.handleSessionLost, lost := true }

end GuiWindowController

/-! ### Runs -/

namespace Closing

/-- What happens in the window. -/
inductive Step where
  | requestClose (hasLocalEdits : Bool)
  | resolveClose (decision : Bytes) (sent : Except Bytes UInt64)
  | submit (sent : Except Bytes UInt64)
  | commandStatus (requestId : Bytes) (status : CommandStatus)
  | snapshot (s : Snapshot)
  | activate
  | hide
  | shutdown
  | sessionLost

end Closing

open Closing

namespace GuiWindowController

def step (w : GuiWindowController) : Step → GuiWindowController
  | .requestClose hasLocalEdits => w.requestClose hasLocalEdits
  | .resolveClose decision sent => w.resolveClose decision sent
  | .submit sent => w.submit sent
  | .commandStatus requestId status => w.commandStatus requestId status
  | .snapshot s => w.handleSnapshot s
  | .activate => w.activate
  | .hide => { w with windowVisible := false }
  | .shutdown => w.handleShutdown
  | .sessionLost => w.sessionLost

end GuiWindowController

/-- The window is closed because the user has said so. -/
def Cause.Decided : Cause → Prop
  | .requested localEdits draftDirty => localEdits = false ∧ draftDirty = false
  | .resolved decision localEdits draftDirty =>
    decision = str "discard" ∧ localEdits = true ∧ draftDirty = false
  | .finished event own => own = true ∧
    ((event.errorCode = str "none" ∧ event.outcome = str "succeeded") ∨
      event.command = str "apply_draft" ∧ event.outcome = str "saved_pending_runtime_apply")

namespace GuiWindowController

/-- A decision to close sends its command, if it needs one, and is about the draft that was asked
for otherwise; and the command is answered under its own name. -/
def Heeds (w : GuiWindowController) : Step → Prop
  | .resolveClose decision sent => w.closePromptVisible = true → decision ≠ str "cancel" →
      (w.closeHasLocalEdits = true → decision = str "discard") →
      if w.closeHasDraftEdits then
        w.lost = true ∨ w.commands.busy = false ∧ sent.isOk = true
      else w.state.draftDirty = false
  | .commandStatus requestId status => w.closeAfterCommand = true →
      requestId = w.commands.pendingRequest →
      status.command = str "apply_draft" ∨ status.command = str "discard_draft"
  | _ => True

/-- The controller waits for the command of a decision only. -/
structure Waiting (w : GuiWindowController) : Prop where
  decided : ∀ cause ∈ w.closes, cause.Decided
  prompt : w.closePromptVisible = true → w.closeHasLocalEdits = true ∨ w.closeHasDraftEdits = true
  waits : w.closeAfterCommand = true → w.lost = true ∨
    w.decision = some w.commands.pendingRequest ∧ w.commands.pendingRequest ≠ [] ∧
      w.commands.busy = true

variable {w : GuiWindowController}

lemma waiting_close (hdecided : ∀ cause ∈ w.closes, cause.Decided) {cause : Cause}
    (hcause : cause.Decided) : (w.performPendingClose cause).Waiting where
  decided := by
    intro cause' hmem
    rcases List.mem_append.mp hmem with hold | hnew
    · exact hdecided cause' hold
    · rw [List.mem_singleton.mp hnew]
      exact hcause
  prompt := nofun
  waits := nofun

lemma Waiting.requestClose (h : w.Waiting) (hasLocalEdits : Bool) :
    (w.requestClose hasLocalEdits).Waiting := by
  unfold GuiWindowController.requestClose
  dsimp only
  split_ifs with hbusy hask
  · exact h
  · exact ⟨h.decided, fun _ => by simpa using hask, h.waits⟩
  · rw [Bool.or_eq_true, not_or, Bool.not_eq_true, Bool.not_eq_true] at hask
    exact waiting_close h.decided hask

/-- A decision that has sent its command waits for it. -/
lemma Waiting.send (h : w.Waiting) {sent : Except Bytes UInt64} {r : Bool × CommandDispatcher}
    (hr : CommandDispatcher.Submitted w.commands (w.sending sent) r)
    (hsent : w.lost = true ∨ w.commands.busy = false ∧ sent.isOk = true) :
    Waiting { w with
      closePromptVisible := false
      closeAfterCommand := true
      commands := r.2
      decision := if r.1 then some r.2.pendingRequest else none } where
  decided := h.decided
  prompt := nofun
  waits := by
    intro _
    by_cases hlost : w.lost = true
    · exact .inl hlost
    right
    obtain ⟨hidle, hok⟩ := hsent.resolve_left hlost
    cases sent with
    | error error => exact nomatch hok
    | ok n =>
      have hsending : w.sending (.ok n) = .ok (str "command-" ++ decimal n.toNat) := by
        simp [sending, hlost, Except.map]
      rw [hsending] at hr
      cases hr with
      | refused hwhy _ _ =>
        rcases hwhy with hbusy | ⟨error, herror⟩
        · exact absurd (hidle.symm.trans hbusy) nofun
        · exact nomatch herror
      | taken hidle' hid hpending hbusy =>
        cases hid
        refine ⟨rfl, ?_, hbusy⟩
        rw [hpending]
        simp [str]

lemma Waiting.resolveClose (h : w.Waiting) {decision : Bytes} {sent : Except Bytes UInt64}
    (hheeds : w.Heeds (.resolveClose decision sent)) :
    (w.resolveClose decision sent).Waiting := by
  unfold GuiWindowController.resolveClose
  split
  · exact h
  rename_i hhidden
  have hprompt : w.closePromptVisible = true := by simpa using hhidden
  split
  · exact ⟨h.decided, nofun, h.waits⟩
  rename_i hcancel
  split
  · exact h
  rename_i hblocked
  have hlocal : w.closeHasLocalEdits = true → decision = str "discard" := by
    intro htrue
    by_contra hne
    exact hblocked ⟨htrue, hne⟩
  have hsent := hheeds hprompt hcancel hlocal
  dsimp only
  split
  · rename_i hdraft
    rw [if_pos hdraft] at hsent
    exact h.send (CommandDispatcher.submitted ..) hsent
  · rename_i hdraft
    rw [if_neg hdraft] at hsent
    have hedits := (h.prompt hprompt).resolve_right hdraft
    exact waiting_close h.decided ⟨hlocal hedits, hedits, hsent⟩

lemma Waiting.commandStatus (h : w.Waiting) {requestId : Bytes} {status : CommandStatus}
    (hheeds : w.Heeds (.commandStatus requestId status)) :
    (w.commandStatus requestId status).Waiting := by
  unfold GuiWindowController.commandStatus
  split
  · exact h
  rename_i hlost
  dsimp only
  have hanswered := w.commands.answered requestId status
  generalize w.commands.handleCommandStatus requestId status = r at hanswered
  cases hanswered with
  | ignored hother hne => exact h
  | @finished d hown hpending hbusy =>
    unfold GuiWindowController.handleCommandFinished
    dsimp only
    by_cases hwaits : w.closeAfterCommand = true
    · -- What has finished is the command that the decision waits for.
      obtain ⟨hdecision, hne, -⟩ := (h.waits hwaits).resolve_left hlost
      have hid : requestId = w.commands.pendingRequest := hown hne
      have hname := hheeds hwaits hid
      have hown' : decide (w.decision = some requestId) = true := by
        rw [hdecision, hid]
        exact decide_eq_true rfl
      rw [if_neg (by simpa [hwaits, imp_iff_not_or] using hname)]
      split
      · rename_i hsuccess
        refine waiting_close ?_ ?_
        · exact h.decided
        · exact ⟨hown', hsuccess⟩
      · exact ⟨h.decided, h.prompt, nofun⟩
    · rw [if_pos (.inl (by simpa using hwaits))]
      exact ⟨h.decided, h.prompt, fun htrue => absurd htrue hwaits⟩

lemma Waiting.activate (h : w.Waiting) : w.activate.Waiting := by
  unfold GuiWindowController.activate
  split_ifs
  · exact h
  · exact ⟨h.decided, h.prompt, h.waits⟩

lemma Waiting.handleSnapshot (h : w.Waiting) (s : Snapshot) : (w.handleSnapshot s).Waiting := by
  have h' : Waiting { w with state := ⟨some s⟩ } := ⟨h.decided, h.prompt, h.waits⟩
  unfold GuiWindowController.handleSnapshot
  dsimp only
  split_ifs
  · exact h
  · exact Waiting.activate ⟨h.decided, h.prompt, h.waits⟩
  · exact ⟨h.decided, h.prompt, fun _ => .inl rfl⟩
  · exact h'

/-- While the controller waits, no other command is under way. -/
lemma Waiting.submit (h : w.Waiting) (sent : Except Bytes UInt64) : (w.submit sent).Waiting := by
  refine ⟨h.decided, h.prompt, fun hwaits => ?_⟩
  rcases h.waits hwaits with hlost | ⟨hdecision, hne, hbusy⟩
  · exact .inl hlost
  right
  have hsubmitted := w.commands.submitted (w.sending sent)
  unfold GuiWindowController.submit
  generalize w.commands.submit (w.sending sent) = r at hsubmitted
  cases hsubmitted with
  | refused _ hpending hbusy' =>
    dsimp only
    rw [hpending, hbusy']
    exact ⟨hdecision, hne, hbusy⟩
  | taken hidle _ _ _ => exact absurd (hidle.symm.trans hbusy) nofun

lemma Waiting.step (h : w.Waiting) (s : Step) (hheeds : w.Heeds s) : (w.step s).Waiting := by
  cases s with
  | requestClose hasLocalEdits => exact h.requestClose hasLocalEdits
  | resolveClose decision sent => exact h.resolveClose hheeds
  | submit sent => exact h.submit sent
  | commandStatus requestId status => exact h.commandStatus hheeds
  | snapshot s => exact h.handleSnapshot s
  | activate => exact h.activate
  | hide => exact ⟨h.decided, h.prompt, h.waits⟩
  | shutdown => exact ⟨h.decided, h.prompt, fun _ => .inl rfl⟩
  | sessionLost => exact ⟨h.decided, h.prompt, fun _ => .inl rfl⟩

end GuiWindowController

/-- **The window is closed only because the user has said so**, as long as each decision to close
is about what was asked, sends its command, and is answered under its name. -/
theorem closes_decided {state : GuiStateStore} {steps : List Step}
    (hheeds : Runs.Along GuiWindowController.step GuiWindowController.Heeds { state := state }
      steps) {cause : Cause}
    (hcause : cause ∈ (steps.foldl GuiWindowController.step { state := state }).closes) :
    cause.Decided :=
  (hheeds.keeps (fun _ s hs h => GuiWindowController.Waiting.step h s hs)
    ⟨nofun, nofun, nofun⟩).decided cause hcause

/-! ### A decision that is not sent -/

/-- The tray has shown a draft that is not saved. -/
def dirtySnapshot : Snapshot where
  revision := 1
  draft := { phase := str "dirty" }
  lightweightMode := false

def applied : CommandStatus where
  command := str "apply_draft"

/-- The user wants to close and to apply the draft first; the command is sent, and answered. -/
def closingSteps : List Step :=
  [.snapshot dirtySnapshot, .requestClose false, .resolveClose (str "apply") (.ok 1),
    .commandStatus (str "command-1") applied]

theorem closes_decided_apply : ∃ cause ∈ (closingSteps.foldl GuiWindowController.step {}).closes,
    cause.Decided := by
  have hheeds : Runs.Along GuiWindowController.step GuiWindowController.Heeds { state := {} }
      closingSteps :=
    ⟨trivial, trivial, fun _ _ _ => .inr ⟨rfl, rfl⟩, fun _ _ => .inl rfl, trivial⟩
  have hmem : Cause.finished ⟨str "apply_draft", str "succeeded", str "none", [], []⟩ true ∈
      (closingSteps.foldl GuiWindowController.step {}).closes := by
    decide
  exact ⟨_, hmem, closes_decided hheeds hmem⟩

/-- The user wants to close and to apply the draft first, but the command cannot be sent. Later the
draft is applied by another command. -/
def unsentSteps : List Step :=
  [.snapshot dirtySnapshot, .requestClose false,
    .resolveClose (str "apply") (.error (str "GUI IPC client write queue is full")),
    .submit (.ok 2), .commandStatus (str "command-2") applied]

/-- The other command closes the window. -/
theorem closes_decided_fails :
    ∃ cause ∈ (unsentSteps.foldl GuiWindowController.step {}).closes, ¬ cause.Decided := by
  refine ⟨.finished ⟨str "apply_draft", str "succeeded", str "none", [], []⟩ false,
    by decide, ?_⟩
  rintro ⟨hown, -⟩
  exact nomatch hown

end CcsTrans.Window
