import CcsTrans.Presentation.Contract
import CcsTrans.Runs

/-!
Shutting the tray down for maintenance.

The maintenance server has one thread, which takes one connection at a time and reads one request
from it. A request for a shutdown marks the tray and is answered; only when the answer was written
does the server ask the window of the tray, by a message, to begin with it. The window has other
reasons to exit, and its thread runs beside that of the server.
-/

namespace CcsTrans.Host

open CcsTrans.Text CcsTrans.Runs
open CcsTrans.Presentation (ApplicationState applicationStateName)

/-! ### Requests and results -/

inductive MaintenanceCommand where
  | queryVersion
  | requestShutdown
  | waitForRelease
  deriving DecidableEq

def maintenanceCommandName : MaintenanceCommand → Bytes
  | .queryVersion => str "query_version"
  | .requestShutdown => str "request_shutdown"
  | .waitForRelease => str "wait_for_release"

structure MaintenanceResult where
  succeeded : Bool := false
  version : Bytes := []
  sourceCommit : Bytes := []
  state : Bytes := []
  detail : Bytes := []
  deriving DecidableEq

/-- The version and the commit of the build. -/
structure MaintenanceConfig where
  version : Bytes
  sourceCommit : Bytes

/-- What is queued for the window of the tray. -/
inductive TrayMessage where
  | maintenanceShutdown
  | guiShutdown
  | shutdownComplete (succeeded : Bool)
  | other
  deriving DecidableEq

/-! ### The two threads -/

/-- A result on its way to the client. `marked` says that its request has marked the tray. -/
structure Delivery where
  command : MaintenanceCommand
  result : MaintenanceResult
  marked : Bool
  deriving DecidableEq

/-- Where the thread of the maintenance server is. -/
inductive PipePhase where
  | listening
  | verifying
  | reading
  | parsing
  | handling (command : MaintenanceCommand)
  | serializing (d : Delivery)
  | writing (d : Delivery)
  | completing (d : Delivery)
  | disconnecting
  | stopped
  deriving DecidableEq

/-- The result that is being delivered. -/
def PipePhase.delivery : PipePhase → Option Delivery
  | .serializing d => some d
  | .writing d => some d
  | .completing d => some d
  | _ => none

/-- Where the thread of the window is: in its message loop, or in `begin_exit` and `finish_exit`
behind the statement that is named. -/
inductive TrayPhase where
  | pumping
  | exitingSet
  | requestSet
  | guiReleased
  | finishing
  | joining
  | destroyed
  deriving DecidableEq

/-- What was answered, and whether a shutdown was under way then. -/
structure MaintenanceAnswer where
  result : MaintenanceResult
  underWay : Bool

structure TrayApplication where
  config : MaintenanceConfig
  exiting : Bool := false
  maintenanceShutdownRequested : Bool := false
  guiShutdownComplete : Bool := false
  shutdownComplete : Bool := false
  exitCode : ℤ := 0
  /-- The window exists. -/
  window : Bool := true
  messages : List TrayMessage := []
  tray : TrayPhase := .pumping
  /-- The executor has the shutdown of the controller before it. -/
  executorShutdown : Bool := false
  pipe : PipePhase := .listening
  stopping : Bool := false
  acceptedRequests : ℕ := 0
  rejectedRequests : ℕ := 0
  /-- What clients were answered. -/
  answers : List MaintenanceAnswer := []

/-- What may be thrown while a request is handled, before or after the tray is marked. -/
inductive HandlerFault where
  | none
  | before (what : Bytes)
  | after (what : Bytes)

/-- One step of one of the threads, with what it meets. -/
inductive MaintenanceStep where
  /-- A client connects, or this fails. -/
  | connect (succeeded : Bool)
  | verify (succeeded : Bool)
  | read (succeeded : Bool)
  | parse (request : Option MaintenanceCommand)
  | handle (application : ApplicationState) (fault : HandlerFault)
  /-- The result, its envelope and its frame. -/
  | serialize (succeeded : Bool)
  | write (succeeded : Bool)
  /-- The event of the completion, whose record may throw. -/
  | complete (threw : Bool)
  | listen (succeeded : Bool)
  /-- The window takes a message from its queue. -/
  | pump
  /-- The window is told to exit by the menu, by its close button or by the session. -/
  | exit
  /-- The window goes on with its exit; the executor may refuse. -/
  | advance (accepted : Bool)
  /-- The executor has shut the controller down. -/
  | shutDown (succeeded : Bool)
  | postGuiShutdown
  | postOther

namespace TrayApplication

/-- A message is queued for the window, as long as there is one. -/
def postMessage (t : TrayApplication) (m : TrayMessage) : TrayApplication :=
  if t.window then { t with messages := t.messages ++ [m] } else t

/-- `handle_maintenance_request`: the result, the mark afterwards, and whether it was set now. -/
def handleMaintenanceRequest (t : TrayApplication) (application : ApplicationState) :
    MaintenanceCommand → MaintenanceResult × Bool × Bool
  | .queryVersion =>
    ({ succeeded := true, version := t.config.version, sourceCommit := t.config.sourceCommit,
       state := applicationStateName application }, t.maintenanceShutdownRequested, false)
  | .requestShutdown =>
    if t.maintenanceShutdownRequested then
      ({ version := t.config.version, sourceCommit := t.config.sourceCommit,
         state := str "shutdown_in_progress",
         detail := str "the tray is already shutting down" }, true, false)
    else
      ({ succeeded := true, version := t.config.version, sourceCommit := t.config.sourceCommit,
         state := str "shutdown_requested",
         detail := str "shutdown will begin after this response is delivered" }, true, true)
  | .waitForRelease =>
    let succeeded := t.exiting && t.guiShutdownComplete &&
      (application == .stopped || application == .shutdown)
    ({ succeeded := succeeded, version := t.config.version, sourceCommit := t.config.sourceCommit,
       state := if succeeded then str "release_ready" else str "draining",
       detail := if succeeded then str "runtime and GUI handles are released"
         else str "runtime shutdown is still in progress" },
      t.maintenanceShutdownRequested, false)

/-- `handle_maintenance_ipc_event`, behind its record. -/
def handleMaintenanceIpcEvent (t : TrayApplication) (event detail : Bytes) : TrayApplication :=
  if event = str "request_completed" ∧ detail = str "request_shutdown" then
    t.postMessage .maintenanceShutdown
  else t

/-- A shutdown has begun, or the window is asked for it. -/
def underWay (t : TrayApplication) : Bool :=
  t.exiting || t.messages.contains .maintenanceShutdown

/-- The connection ends without an answer. -/
def reject (t : TrayApplication) : TrayApplication :=
  { t with pipe := .disconnecting, rejectedRequests := t.rejectedRequests + 1 }

/-- The result when the handler throws, with what the server fills in. -/
def thrownResult (t : TrayApplication) (what : Bytes) : MaintenanceResult where
  version := t.config.version
  sourceCommit := t.config.sourceCommit
  detail := what

/-- The handler is called; what it throws becomes the detail of a result. -/
def handle (t : TrayApplication) (command : MaintenanceCommand) (application : ApplicationState)
    (fault : HandlerFault) : TrayApplication :=
  let (result, requested, marked) := t.handleMaintenanceRequest application command
  match fault with
  | .none =>
    { t with maintenanceShutdownRequested := requested,
             pipe := .serializing ⟨command, result, marked⟩ }
  | .before what => { t with pipe := .serializing ⟨command, t.thrownResult what, false⟩ }
  | .after what =>
    { t with maintenanceShutdownRequested := requested,
             pipe := .serializing ⟨command, t.thrownResult what, marked⟩ }

/-- `begin_exit`, up to the statement that announces it. -/
def beginExit (t : TrayApplication) : TrayApplication :=
  if t.exiting then t else { t with exiting := true, tray := TrayPhase.exitingSet }

/-- A message of the queue. -/
def handleMessage (t : TrayApplication) : TrayMessage → TrayApplication
  | .maintenanceShutdown => t.beginExit
  | .guiShutdown => t.beginExit
  | .shutdownComplete succeeded =>
    { t with tray := .finishing, exitCode := if succeeded then 0 else 1 }
  | .other => t

/-- The next statements of `begin_exit` and `finish_exit`. -/
def advance (t : TrayApplication) (accepted : Bool) : TrayApplication :=
  match t.tray with
  | .exitingSet => { t with maintenanceShutdownRequested := true, tray := .requestSet }
  | .requestSet => { t with guiShutdownComplete := true, tray := .guiReleased }
  | .guiReleased =>
    if accepted then { t with executorShutdown := true, tray := .pumping }
    else { t with tray := .finishing, exitCode := 1 }
  | .finishing => { t with shutdownComplete := true, stopping := true, tray := .joining }
  | .joining =>
    -- the thread of the maintenance server is joined before the window is destroyed
    if t.pipe = .stopped then { t with window := false, messages := [], tray := .destroyed } else t
  | _ => t

/-- One step; a step of a thread that is elsewhere changes nothing. -/
def step (t : TrayApplication) : MaintenanceStep → TrayApplication
  | .connect succeeded =>
    if t.pipe ≠ .listening then t
    else if t.stopping then { t with pipe := .stopped }
    else { t with pipe := if succeeded then .verifying else .disconnecting }
  | .verify succeeded =>
    if t.pipe ≠ .verifying then t
    else if succeeded then { t with pipe := .reading } else t.reject
  | .read succeeded =>
    if t.pipe ≠ .reading then t
    else if succeeded then { t with pipe := .parsing } else t.reject
  | .parse request =>
    if t.pipe ≠ .parsing then t
    else match request with
      | some command => { t with pipe := .handling command }
      | none => t.reject
  | .handle application fault =>
    match t.pipe with
    | .handling command => t.handle command application fault
    | _ => t
  | .serialize succeeded =>
    match t.pipe with
    | .serializing d => if succeeded then { t with pipe := .writing d } else t.reject
    | _ => t
  | .write succeeded =>
    match t.pipe with
    | .writing d =>
      if succeeded then
        { t with pipe := .completing d, answers := t.answers ++ [⟨d.result, t.underWay⟩] }
      else t.reject
    | _ => t
  | .complete threw =>
    match t.pipe with
    | .completing d =>
      let t := { t with pipe := .disconnecting, acceptedRequests := t.acceptedRequests + 1 }
      -- whatever the record throws is caught, and the message is not sent
      if threw then t
      else t.handleMaintenanceIpcEvent (str "request_completed") (maintenanceCommandName d.command)
    | _ => t
  | .listen succeeded =>
    if t.pipe ≠ .disconnecting then t
    else { t with pipe := if t.stopping || !succeeded then .stopped else .listening }
  | .pump =>
    match t.tray, t.messages with
    | .pumping, m :: rest => { t with messages := rest }.handleMessage m
    | _, _ => t
  | .exit => if t.tray = .pumping then t.beginExit else t
  | .advance accepted => t.advance accepted
  | .shutDown succeeded =>
    if t.executorShutdown then
      { t with executorShutdown := false }.postMessage (.shutdownComplete succeeded)
    else t
  | .postGuiShutdown => t.postMessage .guiShutdown
  | .postOther => t.postMessage .other

/-! ### A shutdown that is not stuck -/

/-- The answer to the request that marked the tray is being delivered. -/
def delivering (t : TrayApplication) : Bool := t.pipe.delivery.any (·.marked)

/-- **A tray that is marked shuts down**: it exits, it is asked to, or the answer to the request
that marked it is still being delivered. -/
def NotStuck (t : TrayApplication) : Prop :=
  t.maintenanceShutdownRequested = true →
    t.exiting = true ∨ .maintenanceShutdown ∈ t.messages ∨ t.delivering = true

/-- Clients are told of a shutdown while there is one. -/
def Truthful (t : TrayApplication) : Prop :=
  ∀ a ∈ t.answers, a.result.state = str "shutdown_in_progress" → a.underWay = true


/-- The step gives up the answer to the request that marked the tray, or the message behind it. -/
def GivesUp (t : TrayApplication) (i : MaintenanceStep) : Prop :=
  t.delivering = true ∧
    match i, t.pipe with
    | .serialize succeeded, .serializing _ => succeeded = false
    | .write succeeded, .writing _ => succeeded = false
    | .complete threw, .completing _ => threw = true
    | _, _ => False

/-- The answer to that request is not given up before the tray exits. -/
def Delivers (t : TrayApplication) (i : MaintenanceStep) : Prop :=
  t.GivesUp i → t.exiting = true

/-- What is known of the two threads. -/
structure Sound (t : TrayApplication) : Prop where
  /-- Nothing of an exit is there before it has begun. -/
  idle : t.exiting = false → t.tray = .pumping ∧ t.executorShutdown = false ∧
    t.window = true ∧ ∀ b, .shutdownComplete b ∉ t.messages
  notStuck : t.NotStuck
  told : ∀ d, t.pipe.delivery = some d → d.result.state = str "shutdown_in_progress" →
    t.underWay = true
  asked : ∀ d, t.pipe.delivery = some d → d.marked = true → d.command = .requestShutdown
  truthful : t.Truthful

section Steps

variable {t : TrayApplication}

lemma underWay_iff : t.underWay = true ↔
    t.exiting = true ∨ .maintenanceShutdown ∈ t.messages := by
  simp [underWay]

/-- Another place of the server's thread. -/
lemma Sound.setPipe (h : t.Sound) {p : PipePhase}
    (hmark : t.delivering = true → p.delivery.any (·.marked) = true ∨ t.exiting = true)
    (htold : ∀ d, p.delivery = some d → d.result.state = str "shutdown_in_progress" →
      t.underWay = true)
    (hasked : ∀ d, p.delivery = some d → d.marked = true → d.command = .requestShutdown) :
    Sound { t with pipe := p } where
  idle := h.idle
  notStuck hrequested := by
    rcases h.notStuck hrequested with hexit | hqueued | hdelivering
    · exact .inl hexit
    · exact .inr (.inl hqueued)
    · rcases hmark hdelivering with hmarked | hexit
      · exact .inr (.inr hmarked)
      · exact .inl hexit
  told := htold
  asked := hasked
  truthful := h.truthful

/-- The thread of the server is where nothing is delivered. -/
lemma Sound.undelivered (h : t.Sound) {p : PipePhase} (hp : p.delivery = none)
    (hmark : t.delivering = true → t.exiting = true) : Sound { t with pipe := p } :=
  h.setPipe (fun hd => .inr (hmark hd)) (by rw [hp]; nofun) (by rw [hp]; nofun)

lemma Sound.count (h : t.Sound) (accepted rejected : ℕ) :
    Sound { t with acceptedRequests := accepted, rejectedRequests := rejected } :=
  ⟨h.idle, h.notStuck, h.told, h.asked, h.truthful⟩

lemma Sound.reject (h : t.Sound) (hmark : t.delivering = true → t.exiting = true) :
    t.reject.Sound :=
  (@Sound.undelivered _ h .disconnecting rfl hmark).count _ _

lemma not_delivering {p : PipePhase} (hp : t.pipe = p) (hd : p.delivery = none) :
    t.delivering ≠ true := by
  rw [delivering, hp, hd]
  nofun

/-- The thread of the server goes on before there is something to deliver. -/
lemma Sound.receive (h : t.Sound) {p q : PipePhase} (hp : t.pipe = p) (hd : p.delivery = none)
    (hq : q.delivery = none) : Sound { t with pipe := q } :=
  h.undelivered hq fun hdelivering => absurd hdelivering (not_delivering hp hd)

lemma Sound.refuse (h : t.Sound) {p : PipePhase} (hp : t.pipe = p) (hd : p.delivery = none) :
    t.reject.Sound :=
  h.reject fun hdelivering => absurd hdelivering (not_delivering hp hd)

/-- A message that asks for nothing of the kind, or for a shutdown that has begun. -/
lemma Sound.postMessage (h : t.Sound) {m : TrayMessage}
    (hm : t.exiting = false → ∀ b, m ≠ .shutdownComplete b) : (t.postMessage m).Sound := by
  unfold TrayApplication.postMessage
  split_ifs with hw
  · refine ⟨fun hexit => ?_, fun hrequested => ?_, fun d hd hstate => ?_, h.asked, h.truthful⟩
    · obtain ⟨htray, hexecutor, hwindow, hmessages⟩ := h.idle hexit
      refine ⟨htray, hexecutor, hwindow, fun b hb => ?_⟩
      rcases List.mem_append.mp hb with hb | hb
      · exact hmessages b hb
      · exact hm hexit b (List.mem_singleton.mp hb).symm
    · rcases h.notStuck hrequested with hexit | hqueued | hdelivering
      · exact .inl hexit
      · exact .inr (.inl (List.mem_append_left _ hqueued))
      · exact .inr (.inr hdelivering)
    · rcases underWay_iff.mp (h.told d hd hstate) with hexit | hqueued
      · exact underWay_iff.mpr (.inl hexit)
      · exact underWay_iff.mpr (.inr (List.mem_append_left _ hqueued))
  · exact h

/-- The exit has begun: nothing more is asked. -/
lemma sound_of_exiting (hexit : t.exiting = true)
    (hasked : ∀ d, t.pipe.delivery = some d → d.marked = true → d.command = .requestShutdown)
    (htruth : t.Truthful) : t.Sound where
  idle h := by
    rw [hexit] at h
    cases h
  notStuck _ := .inl hexit
  told _ _ _ := underWay_iff.mpr (.inl hexit)
  asked := hasked
  truthful := htruth

lemma Sound.beginExit
    (hasked : ∀ d, t.pipe.delivery = some d → d.marked = true → d.command = .requestShutdown)
    (htruth : t.Truthful) : t.beginExit.Sound := by
  unfold TrayApplication.beginExit
  split_ifs with hexit
  · exact sound_of_exiting hexit hasked htruth
  · exact sound_of_exiting rfl hasked htruth

/-- What the handler answers, and how it leaves the tray. -/
lemma handleMaintenanceRequest_spec (t : TrayApplication) (application : ApplicationState)
    (command : MaintenanceCommand) :
    let (result, requested, marked) := t.handleMaintenanceRequest application command
    (requested = true → marked = true ∨ t.maintenanceShutdownRequested = true) ∧
    (result.state = str "shutdown_in_progress" → t.maintenanceShutdownRequested = true) ∧
    (marked = true → command = .requestShutdown) := by
  have hname : ∀ a, applicationStateName a ≠ str "shutdown_in_progress" := by
    intro a
    cases a <;> decide
  have hrequest : str "shutdown_requested" ≠ str "shutdown_in_progress" := by decide
  have hready : str "release_ready" ≠ str "shutdown_in_progress" := by decide
  have hdraining : str "draining" ≠ str "shutdown_in_progress" := by decide
  cases command with
  | queryVersion =>
    exact ⟨.inr, fun hstate => absurd hstate (hname application), fun hmarked => nomatch hmarked⟩
  | requestShutdown =>
    simp only [handleMaintenanceRequest]
    split_ifs with hrequested
    · exact ⟨fun _ => .inr hrequested, fun _ => hrequested, fun hmarked => nomatch hmarked⟩
    · exact ⟨fun _ => .inl rfl, fun hstate => absurd hstate hrequest, by simp⟩
  | waitForRelease =>
    refine ⟨.inr, fun hstate => absurd hstate ?_, fun hmarked => nomatch hmarked⟩
    dsimp only
    split_ifs
    · exact hready
    · exact hdraining

lemma Sound.handle (h : t.Sound) {command : MaintenanceCommand} (hp : t.pipe = .handling command)
    (application : ApplicationState) (fault : HandlerFault) :
    (t.handle command application fault).Sound := by
  have hidle : t.delivering ≠ true := not_delivering hp rfl
  -- a tray that was marked before is under way, for nothing is being delivered
  have hway : t.maintenanceShutdownRequested = true → t.underWay = true := by
    intro hrequested
    rw [underWay_iff]
    rcases h.notStuck hrequested with hexit | hqueued | hdelivering
    · exact .inl hexit
    · exact .inr hqueued
    · exact absurd hdelivering hidle
  have hspec := handleMaintenanceRequest_spec t application command
  unfold TrayApplication.handle
  generalize t.handleMaintenanceRequest application command = answer at hspec ⊢
  obtain ⟨result, requested, marked⟩ := answer
  obtain ⟨hmarked, hstate, hcommand⟩ := hspec
  have hdelivers : ∀ r, (r.state = str "shutdown_in_progress" → t.underWay = true) →
      Sound { t with maintenanceShutdownRequested := requested,
                     pipe := .serializing ⟨command, r, marked⟩ } := by
    intro r hr
    refine ⟨h.idle, fun hrequested => ?_, fun d hd => ?_, fun d hd => ?_, h.truthful⟩
    · rcases hmarked hrequested with hm | hbefore
      · exact .inr (.inr hm)
      · rcases underWay_iff.mp (hway hbefore) with hexit | hqueued
        · exact .inl hexit
        · exact .inr (.inl hqueued)
    · cases hd
      exact hr
    · cases hd
      exact hcommand
  have hthrown : ∀ what, (t.thrownResult what).state ≠ str "shutdown_in_progress" := by
    intro what
    have hempty : ([] : Bytes) ≠ str "shutdown_in_progress" := by decide
    exact hempty
  cases fault with
  | none => exact hdelivers result fun hs => hway (hstate hs)
  | before what =>
    refine h.setPipe (fun hd => absurd hd hidle) (fun d hd => ?_) fun d hd => ?_
    · cases hd
      exact fun hs => absurd hs (hthrown what)
    · cases hd
      nofun
  | after what => exact hdelivers _ fun hs => absurd hs (hthrown what)

lemma Sound.serialize (h : t.Sound) {succeeded : Bool} (hi : t.Delivers (.serialize succeeded)) :
    (t.step (.serialize succeeded)).Sound := by
  unfold TrayApplication.step
  cases hp : t.pipe with
  | serializing d =>
    have hsame : t.delivering = d.marked := by simp [delivering, hp, PipePhase.delivery]
    have htold := h.told d (by rw [hp]; rfl)
    have hasked := h.asked d (by rw [hp]; rfl)
    dsimp only
    cases succeeded with
    | true =>
      rw [if_pos rfl]
      refine h.setPipe (fun hd => .inl (by simpa [PipePhase.delivery, ← hsame] using hd)) ?_ ?_
      all_goals
        intro d' hd'
        cases hd'
        assumption
    | false =>
      rw [if_neg (by simp)]
      exact h.reject fun hd => hi ⟨hd, by simp [hp]⟩
  | _ => exact h

lemma Sound.write (h : t.Sound) {succeeded : Bool} (hi : t.Delivers (.write succeeded)) :
    (t.step (.write succeeded)).Sound := by
  unfold TrayApplication.step
  cases hp : t.pipe with
  | writing d =>
    have hsame : t.delivering = d.marked := by simp [delivering, hp, PipePhase.delivery]
    have htold := h.told d (by rw [hp]; rfl)
    have hasked := h.asked d (by rw [hp]; rfl)
    dsimp only
    cases succeeded with
    | true =>
      rw [if_pos rfl]
      have hnext : Sound { t with pipe := .completing d } := by
        refine h.setPipe (fun hd => .inl (by simpa [PipePhase.delivery, ← hsame] using hd)) ?_ ?_
        all_goals
          intro d' hd'
          cases hd'
          assumption
      refine ⟨hnext.idle, hnext.notStuck, hnext.told, hnext.asked, fun a ha hstate => ?_⟩
      rcases List.mem_append.mp ha with ha | ha
      · exact h.truthful a ha hstate
      · obtain rfl := List.mem_singleton.mp ha
        exact htold hstate
    | false =>
      rw [if_neg (by simp)]
      exact h.reject fun hd => hi ⟨hd, by simp [hp]⟩
  | _ => exact h

lemma Sound.complete (h : t.Sound) {threw : Bool} (hi : t.Delivers (.complete threw)) :
    (t.step (.complete threw)).Sound := by
  unfold TrayApplication.step
  cases hp : t.pipe with
  | completing d =>
    have hsame : t.delivering = d.marked := by simp [delivering, hp, PipePhase.delivery]
    dsimp only
    cases threw with
    | true =>
      have hgiven : t.delivering = true → t.exiting = true := fun hd => hi ⟨hd, by simp [hp]⟩
      exact (@Sound.undelivered _ h .disconnecting rfl hgiven).count _ _
    | false =>
      rw [if_neg (by simp)]
      unfold handleMaintenanceIpcEvent
      have hasked := h.asked d (by rw [hp]; rfl)
      by_cases hexit : t.exiting = true
      · -- a tray that exits needs no message any more
        have hnext := (@Sound.undelivered _ h .disconnecting rfl fun _ => hexit).count
          (t.acceptedRequests + 1) t.rejectedRequests
        split_ifs
        · exact hnext.postMessage fun _ _ => nofun
        · exact hnext
      · rw [Bool.not_eq_true] at hexit
        obtain ⟨htray, hexecutor, hwindow, hmessages⟩ := h.idle hexit
        split_ifs with hevent
        · unfold TrayApplication.postMessage
          dsimp only
          rw [if_pos hwindow]
          refine ⟨fun _ => ⟨htray, hexecutor, hwindow, fun b hb => ?_⟩, fun _ => .inr (.inl (by simp)),
            nofun, nofun, h.truthful⟩
          rcases List.mem_append.mp hb with hb | hb
          · exact hmessages b hb
          · cases List.mem_singleton.mp hb
        · have hunmarked : t.delivering = true → t.exiting = true := by
            rw [hsame]
            intro hmarked
            refine absurd ⟨rfl, ?_⟩ hevent
            rw [hasked hmarked]
            rfl
          exact (@Sound.undelivered _ h .disconnecting rfl hunmarked).count _ _
  | _ => exact h

/-- A message is taken from the queue. -/
lemma Sound.pump (h : t.Sound) {m : TrayMessage} {rest : List TrayMessage}
    (hm : t.messages = m :: rest) : ({ t with messages := rest }.handleMessage m).Sound := by
  by_cases hexit : t.exiting = true
  · cases m with
    | maintenanceShutdown => exact .beginExit h.asked h.truthful
    | guiShutdown => exact .beginExit h.asked h.truthful
    | shutdownComplete succeeded => exact sound_of_exiting hexit h.asked h.truthful
    | other => exact sound_of_exiting hexit h.asked h.truthful
  · rw [Bool.not_eq_true] at hexit
    obtain ⟨htray, hexecutor, hwindow, hmessages⟩ := h.idle hexit
    cases m with
    | maintenanceShutdown => exact .beginExit h.asked h.truthful
    | guiShutdown => exact .beginExit h.asked h.truthful
    | shutdownComplete succeeded => exact absurd (by rw [hm]; simp) (hmessages succeeded)
    | other =>
      have hqueued : .maintenanceShutdown ∈ t.messages → .maintenanceShutdown ∈ rest := by
        rw [hm]
        intro hmem
        rcases List.mem_cons.mp hmem with heq | hmem
        · cases heq
        · exact hmem
      refine ⟨fun _ => ⟨htray, hexecutor, hwindow, fun b hb => ?_⟩, fun hrequested => ?_,
        fun d hd hstate => ?_, h.asked, h.truthful⟩
      · exact hmessages b (by rw [hm]; exact List.mem_cons_of_mem _ hb)
      · rcases h.notStuck hrequested with hexit' | hmem | hdelivering
        · exact .inl hexit'
        · exact .inr (.inl (hqueued hmem))
        · exact .inr (.inr hdelivering)
      · rcases underWay_iff.mp (h.told d hd hstate) with hexit' | hmem
        · exact underWay_iff.mpr (.inl hexit')
        · exact underWay_iff.mpr (.inr (hqueued hmem))

/-- The window goes on with its exit, which has begun then. -/
lemma Sound.advance (h : t.Sound) (accepted : Bool) : (t.advance accepted).Sound := by
  by_cases hexit : t.exiting = true
  · unfold TrayApplication.advance
    split
    · exact sound_of_exiting hexit h.asked h.truthful
    · exact sound_of_exiting hexit h.asked h.truthful
    · split_ifs <;> exact sound_of_exiting hexit h.asked h.truthful
    · exact sound_of_exiting hexit h.asked h.truthful
    · split_ifs <;> exact sound_of_exiting hexit h.asked h.truthful
    · exact h
  · rw [Bool.not_eq_true] at hexit
    unfold TrayApplication.advance
    rw [(h.idle hexit).1]
    exact h

/-- **What a step keeps.** -/
lemma Sound.step (h : t.Sound) {i : MaintenanceStep} (hi : t.Delivers i) : (t.step i).Sound := by
  cases i with
  | connect succeeded =>
    unfold TrayApplication.step
    dsimp only
    split_ifs with hp hstop hconnected
    · exact h
    · exact h.receive (not_not.mp hp) rfl rfl
    · exact h.receive (not_not.mp hp) rfl rfl
    · exact h.receive (not_not.mp hp) rfl rfl
  | verify succeeded =>
    unfold TrayApplication.step
    dsimp only
    split_ifs with hp hok
    · exact h
    · exact h.receive (not_not.mp hp) rfl rfl
    · exact h.refuse (not_not.mp hp) rfl
  | read succeeded =>
    unfold TrayApplication.step
    dsimp only
    split_ifs with hp hok
    · exact h
    · exact h.receive (not_not.mp hp) rfl rfl
    · exact h.refuse (not_not.mp hp) rfl
  | parse request =>
    unfold TrayApplication.step
    dsimp only
    split_ifs with hp
    · exact h
    · cases request with
      | some command => exact h.receive (not_not.mp hp) rfl rfl
      | none => exact h.refuse (not_not.mp hp) rfl
  | handle application fault =>
    unfold TrayApplication.step
    cases hp : t.pipe with
    | handling command => exact h.handle hp application fault
    | _ => exact h
  | serialize succeeded => exact h.serialize hi
  | write succeeded => exact h.write hi
  | complete threw => exact h.complete hi
  | listen succeeded =>
    unfold TrayApplication.step
    dsimp only
    split_ifs with hp hstop
    · exact h
    · exact h.receive (not_not.mp hp) rfl rfl
    · exact h.receive (not_not.mp hp) rfl rfl
  | pump =>
    unfold TrayApplication.step
    dsimp only
    split
    · next m rest htray hmessages => exact h.pump hmessages
    · exact h
  | exit =>
    unfold TrayApplication.step
    dsimp only
    split_ifs
    · exact .beginExit h.asked h.truthful
    · exact h
  | advance accepted => exact h.advance accepted
  | shutDown succeeded =>
    unfold TrayApplication.step
    dsimp only
    split_ifs with hexecutor
    · have hexit : t.exiting = true := by
        by_contra hno
        have hidle := (h.idle (by simpa using hno)).2.1
        rw [hexecutor] at hidle
        cases hidle
      have hnext : Sound { t with executorShutdown := false } :=
        sound_of_exiting hexit h.asked h.truthful
      exact hnext.postMessage fun hno => by rw [hexit] at hno; cases hno
    · exact h
  | postGuiShutdown => exact h.postMessage fun _ _ => nofun
  | postOther => exact h.postMessage fun _ _ => nofun

end Steps

/-- **A maintenance shutdown is not stuck**, and clients are told the truth of it, in every run in
which no answer to the request for it is given up. -/
theorem maintenance_not_stuck (config : MaintenanceConfig) {steps : List MaintenanceStep}
    (h : Along step Delivers { config := config } steps) :
    (steps.foldl step { config := config }).NotStuck ∧
      (steps.foldl step { config := config }).Truthful := by
  have hsound : (steps.foldl step { config := config }).Sound := by
    refine h.keeps (fun t i hi ht => ht.step hi) ?_
    exact ⟨fun _ => ⟨rfl, rfl, rfl, by simp⟩, nofun, nofun, nofun, by simp [Truthful]⟩
  exact ⟨hsound.notStuck, hsound.truthful⟩

/-! ### A shutdown that is answered, and one whose client is gone -/

/-- A request for a shutdown, up to its answer. -/
def requested (succeeded : Bool) : List MaintenanceStep :=
  [.connect true, .verify true, .read true, .parse (some .requestShutdown), .handle .running .none,
    .serialize true, .write succeeded]

def plainConfig : MaintenanceConfig := ⟨str "1.0.0", str "abcdef"⟩

/-- It is answered, and the window begins with its exit. -/
def answeredSteps : List MaintenanceStep :=
  requested true ++ [.complete false, .listen true, .pump]

theorem maintenance_not_stuck_answered :
    Along step Delivers { config := plainConfig } answeredSteps ∧
      (answeredSteps.foldl step { config := plainConfig }).NotStuck ∧
      (answeredSteps.foldl step { config := plainConfig }).Truthful := by
  have h : Along step Delivers { config := plainConfig } answeredSteps := by
    simp [answeredSteps, requested, Along, Delivers, GivesUp, step, handle,
      handleMaintenanceRequest]
  exact ⟨h, maintenance_not_stuck plainConfig h⟩

/-- The client is gone before its answer is written, and another one asks. -/
def askedAgain : List MaintenanceStep :=
  requested false ++ .listen true :: requested true

/-- A client that is gone before its answer is written leaves the tray marked: nothing shuts it
down, and the next client is told that it is shutting down. -/
theorem maintenance_stuck :
    ¬ (∀ (config : MaintenanceConfig) (steps : List MaintenanceStep),
      (steps.foldl step { config := config }).NotStuck) ∧
    ¬ ∀ (config : MaintenanceConfig) (steps : List MaintenanceStep),
      (steps.foldl step { config := config }).Truthful := by
  constructor
  · intro h
    have hmarked : ((requested false).foldl step
        { config := plainConfig }).maintenanceShutdownRequested = true := by decide
    rcases h plainConfig (requested false) hmarked with hexit | hqueued | hdelivering
    · exact absurd hexit (by decide)
    · exact absurd hqueued (by decide)
    · exact absurd hdelivering (by decide)
  · intro h
    have htold := h plainConfig askedAgain
    have hanswers : ∃ a ∈ (askedAgain.foldl step { config := plainConfig }).answers,
        a.result.state = str "shutdown_in_progress" ∧ a.underWay = false := by decide
    obtain ⟨a, ha, hstate, hno⟩ := hanswers
    rw [htold a ha hstate] at hno
    cases hno

end TrayApplication

end CcsTrans.Host
