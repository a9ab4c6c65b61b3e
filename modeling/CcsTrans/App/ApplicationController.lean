import CcsTrans.App.AppService
import CcsTrans.Runs

/-!
The controller of the application.

It has one service at a time and keeps a status beside it. Its commands exclude each other; a
server that ends by itself is noticed by the next of them.
-/

namespace CcsTrans.App

open CcsTrans.Text CcsTrans.Config CcsTrans.Runs

/-! ### The controller -/

inductive ApplicationState where
  | stopped
  | starting
  | running
  | reloading
  | stopping
  | faulted
  | shutdown
  deriving DecidableEq

def applicationStateName : ApplicationState → Bytes
  | .stopped => str "stopped"
  | .starting => str "starting"
  | .running => str "running"
  | .reloading => str "reloading"
  | .stopping => str "stopping"
  | .faulted => str "faulted"
  | .shutdown => str "shutdown"

structure ApplicationStatus where
  state : ApplicationState := .stopped
  listenerHost : Bytes := []
  listenerPort : UInt16 := 0
  lastError : Bytes := []
  lastExitCode : ℤ := 0

structure ApplicationController where
  status : ApplicationStatus := {}
  snapshot : Option RuntimeSnapshot := none
  service : Option AppService := none
  isShutdown : Bool := false

namespace ApplicationController

/-- `update_status`. A state without a listener forgets it. -/
def updateStatus (c : ApplicationController) (state : ApplicationState) (error : Bytes := [])
    (exitCode : ℤ := 0) : ApplicationController :=
  let forgets := state = .stopped ∨ state = .faulted ∨ state = .shutdown
  { c with
    status :=
      { state := state
        listenerHost := if forgets then [] else c.status.listenerHost
        listenerPort := if forgets then 0 else c.status.listenerPort
        lastError := error
        lastExitCode := exitCode } }

/-- The service runs with a configuration, and the status says so. -/
def nowRunning (c : ApplicationController) (snapshot : RuntimeSnapshot) (service : AppService) :
    ApplicationController :=
  { c with
    status :=
      { state := .running
        listenerHost := snapshot.application.listener.host
        listenerPort := snapshot.application.listener.port }
    snapshot := some snapshot
    service := some service }

def refreshCompletedService (c : ApplicationController) : ApplicationController :=
  match c.service with
  | none => c
  | some a =>
    match a.tryWait with
    | (none, a) => { c with service := some a }
    | (some code, _) =>
      let c := { c with service := none, snapshot := none }
      if c.status.state = .stopping ∧ code = 0 then c.updateStatus .stopped
      else c.updateStatus .faulted
        (str "application service exited unexpectedly with exit code " ++ decimalInt code) code

/-- `start`. What it loads and how the service starts is given. -/
def start (c : ApplicationController) (loaded : Except Bytes RuntimeSnapshot) (o : StartOutcome) :
    Bool × Bytes × ApplicationController :=
  let c := c.refreshCompletedService
  if c.isShutdown then (false, str "application controller is shut down", c)
  else if c.status.state ≠ .stopped ∧ c.status.state ≠ .faulted then
    (false, str "application service cannot start while " ++ applicationStateName c.status.state, c)
  else
    let c := c.updateStatus .starting
    match loaded with
    | .error error => (false, error, c.updateStatus .faulted error 1)
    | .ok candidate =>
      match ({ snapshot := candidate } : AppService).startImpl o with
      | (false, error, a) =>
        let error := if error = [] then str "application service failed to start" else error
        (false, error, c.updateStatus .faulted error a.exitCode)
      | (true, _, a) => (true, [], c.nowRunning candidate a)

def reload (c : ApplicationController) (loaded : Except Bytes RuntimeSnapshot) (w : ServiceReload) :
    Call Bool × ApplicationController :=
  let c := c.refreshCompletedService
  if c.isShutdown then (.returned false (str "application controller is shut down"), c)
  else match c.service with
    | none => (.returned false (str "application service must be running to reload"), c)
    | some a =>
      if c.status.state ≠ .running then
        (.returned false (str "application service must be running to reload"), c)
      else
        let c := c.updateStatus .reloading
        match loaded with
        | .error error => (.returned false error, c.updateStatus .running error)
        | .ok candidate =>
          match a.reload candidate w with
          | (.threw what, a) => (.threw what, { c with service := some a })
          | (.returned true _, a) => (.returned true [], c.nowRunning candidate a)
          | (.returned false error, a) =>
            let error := if error = [] then str "application service failed to reload" else error
            if a.state = .running then
              (.returned false error, { c with service := some a }.updateStatus .running error)
            else
              (.returned false error,
                { c with service := none, snapshot := none }.updateStatus .faulted error
                  (a.tryWait.1.getD 1))

/-- `stop_impl`. A server that is stopped returns a code. -/
def stopImpl (c : ApplicationController) (code : ℤ) : Bool × Bytes × ApplicationController :=
  match c.service with
  | none => (true, [], { c with snapshot := none }.updateStatus .stopped)
  | some a =>
    if c.status.state = .stopped then (true, [], { c with service := none, snapshot := none })
    else
      let c := c.updateStatus .stopping
      let exitCode := (a.stopAndWait code).1
      let c := { c with service := none, snapshot := none }
      if exitCode ≠ 0 then
        let error := str "application service stopped with exit code " ++ decimalInt exitCode
        (false, error, c.updateStatus .faulted error exitCode)
      else (true, [], c.updateStatus .stopped)

def stop (c : ApplicationController) (code : ℤ) : Bool × Bytes × ApplicationController :=
  let c := c.refreshCompletedService
  if c.isShutdown then (false, str "application controller is shut down", c) else c.stopImpl code

def shutdown (c : ApplicationController) (code : ℤ) : Bool × Bytes × ApplicationController :=
  if c.isShutdown then (true, [], c)
  else
    let (stopped, error, c) := c.refreshCompletedService.stopImpl code
    (stopped, error,
      { c with isShutdown := true }.updateStatus .shutdown (if stopped then [] else error)
        (if stopped then 0 else c.status.lastExitCode))

/-- `status`, between two commands. -/
def reported (c : ApplicationController) : ApplicationStatus × ApplicationController :=
  (c.refreshCompletedService.status, c.refreshCompletedService)

/-- The server ends by itself. -/
def ends (c : ApplicationController) (code : ℤ) : ApplicationController :=
  match c.service with
  | some a => if a.threadComplete then c else { c with service := some (a.threadEnds code) }
  | none => c

inductive Step where
  | start (loaded : Except Bytes RuntimeSnapshot) (o : StartOutcome)
  | reload (loaded : Except Bytes RuntimeSnapshot) (w : ServiceReload)
  | stop (code : ℤ)
  | shutdown (code : ℤ)
  | status
  | ends (code : ℤ)

def step (c : ApplicationController) : Step → ApplicationController
  | .start loaded o => (c.start loaded o).2.2
  | .reload loaded w => (c.reload loaded w).2
  | .stop code => (c.stop code).2.2
  | .shutdown code => (c.shutdown code).2.2
  | .status => c.reported.2
  | .ends code => c.ends code

/-! ### What is asked of it -/

/-- A server runs with a configuration. -/
def Serves (c : ApplicationController) (s : RuntimeSnapshot) : Prop :=
  ∃ a, c.service = some a ∧ a.Runs s

/-- No server runs, and the status says why. -/
def Idle (c : ApplicationController) : Prop :=
  c.service = none ∧
    (c.status.state = .stopped ∨ c.status.state = .faulted ∨ c.status.state = .shutdown)

/-- What a reload promises: the new configuration if it returns true, the old one or none at all
if it returns false. -/
def Reloaded (c : ApplicationController) (loaded : Except Bytes RuntimeSnapshot) :
    Call Bool × ApplicationController → Prop
  | (.returned true _, c') => ∃ s, loaded = .ok s ∧ c'.Serves s ∧ c'.status.state = .running
  | (.returned false _, c') => (∃ s, c.Serves s ∧ c'.Serves s) ∨ c'.Idle
  | (.threw _, _) => True

/-- What a status promises: the listener of the configuration that is served. -/
def Reported : ApplicationStatus × ApplicationController → Prop
  | (st, c) => st.state = .running → ∃ s, c.Serves s ∧
    st.listenerHost = s.application.listener.host ∧ st.listenerPort = s.application.listener.port

structure Keeps (c : ApplicationController) : Prop where
  reload : ∀ loaded w, AppService.Steady w → c.Reloaded loaded (c.reload loaded w)
  status : Reported c.reported

/-- In a reload, the record of a swap raises nothing, and a server that has started anew is seen
to run. -/
def Steady : Step → Prop
  | .reload _ w => AppService.Steady w
  | _ => True

/-! ### What the commands rely on -/

/-- A service that is there runs or has ended, and the status has its listener. -/
structure Held (c : ApplicationController) (a : AppService) : Prop where
  service : a.Runs a.snapshot ∨ a.Ended
  state : c.status.state = .running ∨ c.status.state = .reloading
  host : c.status.listenerHost = a.snapshot.application.listener.host
  port : c.status.listenerPort = a.snapshot.application.listener.port

def Sound (c : ApplicationController) : Prop :=
  match c.service with
  | none => c.Idle
  | some a => c.Held a

variable {c : ApplicationController}

@[simp] lemma updateStatus_service (state : ApplicationState) (error : Bytes) (exitCode : ℤ) :
    (c.updateStatus state error exitCode).service = c.service := rfl

@[simp] lemma updateStatus_state (state : ApplicationState) (error : Bytes) (exitCode : ℤ) :
    (c.updateStatus state error exitCode).status.state = state := rfl

lemma Idle.sound (h : c.Idle) : c.Sound := by
  unfold Sound
  rw [h.1]
  exact h

lemma idle_updateStatus (hservice : c.service = none) {state : ApplicationState}
    (hstate : state = .stopped ∨ state = .faulted ∨ state = .shutdown) (error : Bytes)
    (exitCode : ℤ) : (c.updateStatus state error exitCode).Idle :=
  ⟨hservice, hstate⟩

lemma Sound.held (h : c.Sound) {a : AppService} (hservice : c.service = some a) : c.Held a := by
  unfold Sound at h
  rw [hservice] at h
  exact h

lemma Sound.idle (h : c.Sound) (hservice : c.service = none) : c.Idle := by
  unfold Sound at h
  rw [hservice] at h
  exact h

lemma Held.sound {a : AppService} (h : c.Held a) (hservice : c.service = some a) : c.Sound := by
  unfold Sound
  rw [hservice]
  exact h

/-- A service that has ended is let go; one that runs is left alone. -/
lemma refresh_cases (h : c.Sound) : c.refreshCompletedService.Idle ∨
    (c.refreshCompletedService = c ∧ ∃ a, c.service = some a ∧ a.Runs a.snapshot) := by
  unfold refreshCompletedService
  cases hservice : c.service with
  | none => exact .inl (h.idle hservice)
  | some a =>
    rcases (h.held hservice).service with hruns | hended
    · refine .inr ⟨?_, a, rfl, hruns⟩
      have hwait : a.tryWait = (none, a) := by
        unfold AppService.tryWait
        rw [if_pos (.inl (by simp [hruns.state]))]
      simp only [hwait]
      rw [← hservice]
    · refine .inl ?_
      have hwait : a.tryWait = (some a.exitCode, { a with server := none, joinable := false }) := by
        unfold AppService.tryWait
        rw [if_neg (by simp [hended.state, hended.complete])]
      simp only [hwait]
      split_ifs
      · exact idle_updateStatus rfl (.inl rfl) _ _
      · exact idle_updateStatus rfl (.inr (.inl rfl)) _ _

lemma Sound.refresh (h : c.Sound) : c.refreshCompletedService.Sound := by
  rcases refresh_cases h with hidle | ⟨hsame, -⟩
  · exact hidle.sound
  · rw [hsame]
    exact h

lemma Sound.reported (h : c.Sound) : Reported c.reported := by
  intro hrunning
  rcases refresh_cases h with ⟨-, hstate⟩ | ⟨hsame, a, hservice, hruns⟩
  · have hrunning' : c.refreshCompletedService.status.state = .running := hrunning
    rw [hrunning'] at hstate
    simp at hstate
  · have hheld := h.held hservice
    refine ⟨a.snapshot, ?_, ?_, ?_⟩
    · simp only [hsame]
      exact ⟨a, hservice, hruns⟩
    · simp only [hsame]
      exact hheld.host
    · simp only [hsame]
      exact hheld.port

/-- A reload that is refused changes nothing but what the refresh does. -/
lemma reloaded_refused (h : c.Sound) (loaded : Except Bytes RuntimeSnapshot) (error : Bytes) :
    c.Reloaded loaded (.returned false error, c.refreshCompletedService) := by
  rcases refresh_cases h with hidle | ⟨hsame, a, hservice, hruns⟩
  · exact .inr hidle
  · exact .inl ⟨a.snapshot, ⟨a, hservice, hruns⟩, by rw [hsame]; exact ⟨a, hservice, hruns⟩⟩

lemma held_nowRunning {s : RuntimeSnapshot} {a : AppService} (ha : a.Runs s ∨ a.Ended)
    (hs : a.snapshot = s) : (c.nowRunning s a).Held a where
  service := by rw [hs]; exact ha
  state := .inl rfl
  host := by rw [hs]; rfl
  port := by rw [hs]; rfl

/-- The status changes, and the service goes on with the same configuration. -/
lemma Held.goOn {a b : AppService} (h : c.Held a) (hb : b.Runs a.snapshot)
    {state : ApplicationState} (hstate : state = .running ∨ state = .reloading) (error : Bytes) :
    ({ c with service := some b }.updateStatus state error).Held b where
  service := .inl (by rw [hb.snapshot]; exact hb)
  state := hstate
  host := by
    rw [hb.snapshot, ← h.host]
    rcases hstate with rfl | rfl <;> rfl
  port := by
    rw [hb.snapshot, ← h.port]
    rcases hstate with rfl | rfl <;> rfl

lemma reload_spec (h : c.Sound) (loaded : Except Bytes RuntimeSnapshot) (w : ServiceReload)
    (hw : AppService.Steady w) :
    c.Reloaded loaded (c.reload loaded w) ∧ (c.reload loaded w).2.Sound := by
  have hrefused : ∀ error, c.Reloaded loaded (.returned false error, c.refreshCompletedService) ∧
      c.refreshCompletedService.Sound := fun error =>
    ⟨reloaded_refused h loaded error, h.refresh⟩
  unfold reload
  simp only
  by_cases hshutdown : c.refreshCompletedService.isShutdown
  · rw [if_pos hshutdown]
    exact hrefused _
  · rw [if_neg hshutdown]
    cases hservice : c.refreshCompletedService.service with
    | none => exact hrefused _
    | some a =>
      simp only
      by_cases hstate : c.refreshCompletedService.status.state ≠ .running
      · rw [if_pos hstate]
        exact hrefused _
      · rw [if_neg hstate]
        -- the service runs, so the refresh has changed nothing
        rcases refresh_cases h with hidle | ⟨hsame, b, hb, hruns⟩
        · rw [hidle.1] at hservice
          cases hservice
        rw [hsame] at hservice ⊢
        rw [hb, Option.some.injEq] at hservice
        subst hservice
        have hheld := h.held hb
        have hserves : c.Serves b.snapshot := ⟨b, hb, hruns⟩
        cases loaded with
        | error error =>
          refine ⟨.inl ⟨b.snapshot, hserves, b, hb, hruns⟩, Held.sound (a := b) ?_ hb⟩
          exact ⟨hheld.service, .inl rfl, hheld.host, hheld.port⟩
        | ok candidate =>
          simp only
          have hreloads := AppService.reloads hruns candidate w hw
          generalize b.reload candidate w = result at hreloads
          cases hreloads with
          | threw hkept =>
            rename_i what a
            exact ⟨trivial, (hheld.goOn hkept (.inr rfl) []).sound rfl⟩
          | done hnew =>
            rename_i error a
            refine ⟨⟨candidate, rfl, ⟨a, rfl, hnew⟩, rfl⟩, ?_⟩
            exact (held_nowRunning (.inl hnew) hnew.snapshot).sound rfl
          | kept hkept =>
            rename_i error a
            simp only
            rw [if_pos hkept.state]
            refine ⟨.inl ⟨b.snapshot, hserves, a, rfl, hkept⟩, ?_⟩
            exact (hheld.goOn hkept (.inl rfl) _).sound rfl
          | ended hended =>
            rename_i error a
            simp only
            rw [if_neg (by simp [hended.state])]
            have hidle := idle_updateStatus (c := { c.updateStatus .reloading with
              service := none, snapshot := none }) rfl (.inr (.inl rfl))
            exact ⟨.inr (hidle _ _), (hidle _ _).sound⟩

lemma stopImpl_idle (h : c.Sound) (code : ℤ) : (c.stopImpl code).2.2.Idle := by
  unfold stopImpl
  cases hservice : c.service with
  | none => exact ⟨rfl, .inl rfl⟩
  | some a =>
    have hstate : c.status.state ≠ .stopped := by
      rcases (h.held hservice).state with hrunning | hreloading
      · simp [hrunning]
      · simp [hreloading]
    simp only
    rw [if_neg hstate]
    by_cases hcode : (a.stopAndWait code).1 ≠ 0
    · rw [if_pos hcode]
      exact ⟨rfl, .inr (.inl rfl)⟩
    · rw [if_neg hcode]
      exact ⟨rfl, .inl rfl⟩

lemma Sound.stop (h : c.Sound) (code : ℤ) : (c.stop code).2.2.Sound := by
  unfold ApplicationController.stop
  simp only
  split_ifs
  · exact h.refresh
  · exact (stopImpl_idle h.refresh code).sound

lemma Sound.shutdown (h : c.Sound) (code : ℤ) : (c.shutdown code).2.2.Sound := by
  unfold ApplicationController.shutdown
  split_ifs
  · exact h
  · have hidle := stopImpl_idle h.refresh code
    generalize c.refreshCompletedService.stopImpl code = result at hidle
    obtain ⟨stopped, error, c'⟩ := result
    have hservice : c'.service = none := hidle.1
    exact Idle.sound ⟨hservice, .inr (.inr rfl)⟩

lemma Sound.start (h : c.Sound) (loaded : Except Bytes RuntimeSnapshot) (o : StartOutcome) :
    (c.start loaded o).2.2.Sound := by
  unfold ApplicationController.start
  simp only
  split_ifs with hshutdown hstate
  · exact h.refresh
  · exact h.refresh
  · -- a controller that may start has no service
    have hservice : c.refreshCompletedService.service = none := by
      cases hservice : c.refreshCompletedService.service with
      | none => rfl
      | some a =>
        rcases (h.refresh.held hservice).state with hrunning | hreloading
        · exact absurd ⟨by simp [hrunning], by simp [hrunning]⟩ hstate
        · exact absurd ⟨by simp [hreloading], by simp [hreloading]⟩ hstate
    have hfaulted : ∀ error code, ((c.refreshCompletedService.updateStatus .starting).updateStatus
        .faulted error code).Sound := fun error code =>
      (idle_updateStatus hservice (.inr (.inl rfl)) error code).sound
    cases loaded with
    | error error => exact hfaulted error 1
    | ok candidate =>
      simp only
      rcases AppService.startImpl_cases (a := { snapshot := candidate }) rfl rfl o with
        ⟨a, heq, hruns⟩ | ⟨code, a, -, heq, hended, hsnapshot⟩ | ⟨error, a, heq, -⟩
      · rw [heq]
        exact (held_nowRunning (.inl hruns) hruns.snapshot).sound rfl
      · rw [heq]
        exact (held_nowRunning (.inr hended) hsnapshot).sound rfl
      · rw [heq]
        exact hfaulted _ _

lemma Sound.ends (h : c.Sound) (code : ℤ) : (c.ends code).Sound := by
  unfold ApplicationController.ends
  split
  · rename_i a hservice
    split_ifs
    · exact h
    · have hheld := h.held hservice
      exact Held.sound (a := a.threadEnds code) ⟨.inr ⟨rfl, rfl⟩, hheld.state, hheld.host, hheld.port⟩
        rfl
  · exact h

lemma Sound.step (h : c.Sound) (s : Step) (hs : Steady s) : (c.step s).Sound := by
  cases s with
  | start loaded o => exact h.start loaded o
  | reload loaded w => exact (reload_spec h loaded w hs).2
  | stop code => exact h.stop code
  | shutdown code => exact h.shutdown code
  | status => exact h.refresh
  | ends code => exact h.ends code

/-! ### Whole runs -/

/-- In every run whose reloads are steady, each reload and each status keeps what it promises. -/
theorem keeps_of_steady (steps : List Step) (h : Along step (fun _ => Steady) {} steps) :
    (steps.foldl step {}).Keeps := by
  have hsound : (steps.foldl step {}).Sound := by
    refine h.keeps (fun c s hs hc => hc.step s hs) ?_
    exact Idle.sound ⟨rfl, .inl rfl⟩
  exact ⟨fun loaded w hw => (reload_spec hsound loaded w hw).1, hsound.reported⟩

section Cases

/-- A configuration with one route, on a port and with a path for the log. -/
def onPort (port : UInt16) (logPath : String) : RuntimeSnapshot where
  application := { listener := { port := port } }
  logPath := str logPath
  protocols := {}
  rules := {}
  routes := { size := 1 }

/-- The port changes, the restart fails and the old configuration is started again. -/
theorem keeps_of_steady_rollback :
    ([Step.start (.ok (onPort 1 "a")) .started,
      .reload (.ok (onPort 2 "a")) { restart := .failed (str "in use") 1 }, .status].foldl step
        {}).Keeps :=
  keeps_of_steady _ ⟨trivial, ⟨rfl, fun _ => nofun⟩, trivial, trivial⟩

/-- What the log of the server that runs is called. -/
def servedLogPath (c : ApplicationController) : Option Bytes :=
  (c.service.bind (·.server)).map (·.runtime.logPath)

lemma Serves.servedLogPath {s : RuntimeSnapshot} (h : c.Serves s) :
    c.servedLogPath = some s.logPath := by
  obtain ⟨a, hservice, hruns⟩ := h
  simp [ApplicationController.servedLogPath, hservice, hruns.server]

/-- The path of the log changes, and the record of the swap raises. The reload returns false with
the new configuration in place. -/
theorem keeps_fails :
    ¬ Reloaded (ApplicationController.step {} (.start (.ok (onPort 1 "a")) .started))
      (.ok (onPort 1 "b"))
      ((ApplicationController.step {} (.start (.ok (onPort 1 "a")) .started)).reload
        (.ok (onPort 1 "b")) { inPlace := { recorded := some (str "no such character") } }) := by
  set c := ApplicationController.step {} (.start (.ok (onPort 1 "a")) .started)
  set after := c.reload (.ok (onPort 1 "b"))
    { inPlace := { recorded := some (str "no such character") } }
  have hbefore : c.servedLogPath = some (str "a") := by decide
  have hafter : after.2.servedLogPath = some (str "b") := by decide
  have hfalse : ∃ error, after.1 = .returned false error := ⟨_, rfl⟩
  clear_value c after
  obtain ⟨call, c'⟩ := after
  obtain ⟨error, rfl⟩ := hfalse
  rintro (⟨s, hold, hnew⟩ | hidle)
  · have hpath : str "a" = str "b" := by
      have := hold.servedLogPath.symm.trans hbefore
      have := hnew.servedLogPath.symm.trans hafter
      simp_all
    exact absurd hpath (by decide)
  · simp [servedLogPath, hidle.1] at hafter

end Cases

end ApplicationController

end CcsTrans.App
