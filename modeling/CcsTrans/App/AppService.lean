import CcsTrans.Config.RuntimeCompiler

/-!
The service around a server.

A running server takes a new configuration in place where it can. Where it cannot, the service
stops it and starts another with the new configuration, and with the old one if that fails.

How a start or a reload of the server comes out is not decided here: each operation is given
the outcomes it meets.
-/

namespace CcsTrans.App

open CcsTrans.Text CcsTrans.Config

/-! ### The server -/

/-- A server that was started, with the configuration that its current generation runs. -/
structure Server where
  runtime : RuntimeSnapshot

inductive ReloadResult where
  | applied
  | restartRequired
  | failed
  deriving DecidableEq

/-- How the writer for a new log path comes out. -/
inductive LoggerOutcome where
  | opened
  | notOpened (error : Bytes)
  | threw (what : Option Bytes)

/-- What `Server.reload` meets on its way; `some` is an exception with its text. -/
structure ReloadOutcome where
  /-- The record of a restart that is needed. -/
  announced : Option Bytes := none
  logger : LoggerOutcome := .opened
  generation : Option Bytes := none
  /-- The record of the swap. -/
  recorded : Option Bytes := none

def listenerChanged (old new : ApplicationSettings) : Bool :=
  old.listener.host ≠ new.listener.host || old.listener.port ≠ new.listener.port

def executionChanged (old new : ApplicationSettings) : Bool :=
  old.runtime.workerThreads ≠ new.runtime.workerThreads
    || old.runtime.metricsIntervalMs ≠ new.runtime.metricsIntervalMs
    || old.runtime.maxInflightBytes ≠ new.runtime.maxInflightBytes

def sameLogWriterSettings (old new : ApplicationSettings) : Bool :=
  old.logging.level = new.logging.level
    && old.logging.queueCapacity = new.logging.queueCapacity
    && old.logging.maxTotalSize = new.logging.maxTotalSize
    && old.logging.flushIntervalMs = new.logging.flushIntervalMs

def restartNeeded (old new : RuntimeSnapshot) : Bool :=
  listenerChanged old.application new.application || executionChanged old.application new.application
    || (old.logPath = new.logPath && !sameLogWriterSettings old.application new.application)

/-- What a call comes to: it returns, with a text for its caller, or an exception leaves it. -/
inductive Call (α : Type) where
  | returned (result : α) (error : Bytes)
  | threw (what : Bytes)

namespace Server

/-- The generations are swapped, unless the new one cannot be built. What follows the swap is
caught together with it. -/
def swap (s : Server) (snapshot : RuntimeSnapshot) (o : ReloadOutcome) :
    Call ReloadResult × Server :=
  match o.generation with
  | some what => (.returned .failed (str "failed to build config generation: " ++ what), s)
  | none =>
    match o.recorded with
    | some what =>
      (.returned .failed (str "failed to build config generation: " ++ what), ⟨snapshot⟩)
    | none => (.returned .applied [], ⟨snapshot⟩)

def reload (s : Server) (snapshot : RuntimeSnapshot) (o : ReloadOutcome) :
    Call ReloadResult × Server :=
  if snapshot.routes.size = 0 then (.returned .failed (str "runtime snapshot is incomplete"), s)
  else if restartNeeded s.runtime snapshot then
    match o.announced with
    | some what => (.threw what, s)
    | none =>
      (.returned .restartRequired
        (str "configuration changes require a graceful service restart"), s)
  else if s.runtime.logPath = snapshot.logPath then s.swap snapshot o
  else match o.logger with
    | .opened => s.swap snapshot o
    | .notOpened error => (.returned .failed error, s)
    | .threw (some what) =>
      (.returned .failed (str "failed to create candidate log writer: " ++ what), s)
    | .threw none => (.returned .failed (str "failed to create candidate log writer"), s)

/-- What a reload of the server leaves, and with which result. -/
inductive Reloads (s : Server) (snapshot : RuntimeSnapshot) (o : ReloadOutcome) :
    Call ReloadResult × Server → Prop where
  | applied : restartNeeded s.runtime snapshot = false → o.recorded = none →
      Reloads s snapshot o (.returned .applied [], ⟨snapshot⟩)
  | restart (error : Bytes) : Reloads s snapshot o (.returned .restartRequired error, s)
  | failed (error : Bytes) : Reloads s snapshot o (.returned .failed error, s)
  | unrecorded (error : Bytes) : restartNeeded s.runtime snapshot = false → o.recorded ≠ none →
      Reloads s snapshot o (.returned .failed error, ⟨snapshot⟩)
  | threw (what : Bytes) : Reloads s snapshot o (.threw what, s)

lemma reloads_swap (s : Server) (snapshot : RuntimeSnapshot) (o : ReloadOutcome)
    (h : restartNeeded s.runtime snapshot = false) : Reloads s snapshot o (s.swap snapshot o) := by
  unfold swap
  split
  · exact .failed _
  · split
    · rename_i what hrecorded
      exact .unrecorded _ h (by simp [hrecorded])
    · rename_i hrecorded
      exact .applied h hrecorded

lemma reloads (s : Server) (snapshot : RuntimeSnapshot) (o : ReloadOutcome) :
    Reloads s snapshot o (s.reload snapshot o) := by
  unfold reload
  split_ifs with hroutes hrestart hpath
  · exact .failed _
  · split
    · exact .threw _
    · exact .restart _
  · exact reloads_swap s snapshot o (by simpa using hrestart)
  · split
    · exact reloads_swap s snapshot o (by simpa using hrestart)
    · exact .failed _
    · exact .failed _
    · exact .failed _

end Server

/-- A server that takes a configuration in place listens where it listened. -/
lemma listener_of_not_restartNeeded {old new : RuntimeSnapshot}
    (h : restartNeeded old new = false) :
    new.application.listener = old.application.listener := by
  have hlistener : listenerChanged old.application new.application = false := by
    simp only [restartNeeded, Bool.or_eq_false_iff] at h
    exact h.1.1
  simp only [listenerChanged, ne_eq, Bool.or_eq_false_iff, decide_eq_false_iff_not, not_not]
    at hlistener
  obtain ⟨hhost, hport⟩ := hlistener
  cases hnew : new.application.listener
  cases hold : old.application.listener
  simp_all

/-! ### The service -/

inductive ServiceState where
  | stopped
  | starting
  | running
  | reloading
  | stopping
  deriving DecidableEq

/-- How the start of a server comes out. -/
inductive StartOutcome where
  /-- The server or its thread cannot be made. -/
  | threw (what : Bytes)
  /-- It reports that it could not start, and ends. -/
  | failed (error : Bytes) (code : ℤ)
  /-- It ends and has reported nothing. -/
  | silent (code : ℤ)
  | started
  /-- It reports that it has started, and ends before the service looks. -/
  | ended (code : ℤ)

structure AppService where
  snapshot : RuntimeSnapshot
  state : ServiceState := .stopped
  threadComplete : Bool := true
  exitCode : ℤ := 1
  server : Option Server := none
  /-- The thread of the server was not joined. -/
  joinable : Bool := false

/-- What a reload of the service meets. -/
structure ServiceReload where
  inPlace : ReloadOutcome := {}
  /-- The server ends by itself while it reloads. -/
  ended : Option ℤ := none
  /-- What it returns when it is stopped. -/
  code : ℤ := 0
  restart : StartOutcome := .started
  rollback : StartOutcome := .started

namespace AppService

def startImpl (a : AppService) (o : StartOutcome) : Bool × Bytes × AppService :=
  if a.state ≠ .stopped ∨ a.joinable then (false, str "service is already running", a)
  else match o with
    | .threw what =>
      (false, what, { a with state := .stopped, threadComplete := true, exitCode := 1, server := none })
    | .failed error code =>
      (false, if error = [] then str "service startup was cancelled" else error,
        { a with state := .stopped, threadComplete := true, exitCode := code, server := none })
    | .silent code =>
      (false, str "service stopped before startup completed",
        { a with state := .stopped, threadComplete := true, exitCode := code, server := none })
    | .started =>
      (true, [],
        { a with
          state := .running, threadComplete := false, exitCode := 1, server := some ⟨a.snapshot⟩
          joinable := true })
    | .ended code =>
      (true, [],
        { a with
          state := .stopped, threadComplete := true, exitCode := code, server := some ⟨a.snapshot⟩
          joinable := true })

/-- The thread of the server ends. -/
def threadEnds (a : AppService) (code : ℤ) : AppService :=
  { a with state := .stopped, threadComplete := true, exitCode := code }

/-- The service stops its server and starts another; failing that, one as before. -/
def restart (a : AppService) (snapshot : RuntimeSnapshot) (w : ServiceReload) (error : Bytes) :
    Call Bool × AppService :=
  let previous := a.snapshot
  let a := { a.threadEnds w.code with server := none, joinable := false, snapshot := snapshot }
  match a.startImpl w.restart with
  | (true, _, a) => (.returned true error, a)
  | (false, restartError, a) =>
    match { a with snapshot := previous }.startImpl w.rollback with
    | (true, _, a) =>
      (.returned false
        (str "reload failed and the previous configuration was restored: " ++ restartError), a)
    | (false, rollbackError, a) =>
      (.returned false
        (str "reload failed: " ++ restartError ++ str "; rollback failed: " ++ rollbackError), a)

def reload (a : AppService) (snapshot : RuntimeSnapshot) (w : ServiceReload) :
    Call Bool × AppService :=
  match a.server with
  | none => (.returned false (str "service must be running to reload"), a)
  | some server =>
    if a.state ≠ .running then (.returned false (str "service must be running to reload"), a)
    else
      match server.reload snapshot w.inPlace with
      | (.threw what, server) => (.threw what, { a with server := some server })
      | (.returned result error, server) =>
        let a := { a with server := some server }
        let a := (w.ended.map a.threadEnds).getD a
        match result with
        | .applied =>
          if a.state ≠ .running then
            (.returned false (str "service state changed while applying reload"), a)
          else (.returned true error, { a with snapshot := snapshot })
        | .failed => (.returned false error, a)
        | .restartRequired =>
          if a.state ≠ .running then
            (.returned false (str "service state changed before restart reload"), a)
          else a.restart snapshot w error

/-- `stop` and `wait`. -/
def stopAndWait (a : AppService) (code : ℤ) : ℤ × AppService :=
  let a := if a.threadComplete then a else a.threadEnds code
  (a.exitCode, { a with server := none, joinable := false })

def tryWait (a : AppService) : Option ℤ × AppService :=
  if a.state ≠ .stopped ∨ !a.threadComplete then (none, a)
  else (some a.exitCode, { a with server := none, joinable := false })

/-! ### What a service is -/

/-- The service runs a server with a configuration. -/
structure Runs (a : AppService) (s : RuntimeSnapshot) : Prop where
  state : a.state = .running
  server : a.server = some ⟨s⟩
  snapshot : a.snapshot = s
  live : a.threadComplete = false

/-- The service runs nothing. -/
structure Ended (a : AppService) : Prop where
  state : a.state = .stopped
  complete : a.threadComplete = true

variable {a : AppService} {s : RuntimeSnapshot}

/-- A start that returns false leaves nothing behind; one that returns true may be over. -/
lemma startImpl_cases (hstate : a.state = .stopped) (hjoined : a.joinable = false)
    (o : StartOutcome) :
    (∃ a', a.startImpl o = (true, [], a') ∧ a'.Runs a.snapshot) ∨
    (∃ code a', o = .ended code ∧ a.startImpl o = (true, [], a') ∧ a'.Ended ∧
      a'.snapshot = a.snapshot) ∨
    (∃ error a', a.startImpl o = (false, error, a') ∧ a'.Ended ∧ a'.joinable = false) := by
  unfold startImpl
  rw [if_neg (by simp [hstate, hjoined])]
  cases o with
  | threw what => exact .inr (.inr ⟨_, _, rfl, ⟨rfl, rfl⟩, hjoined⟩)
  | failed error code => exact .inr (.inr ⟨_, _, rfl, ⟨rfl, rfl⟩, hjoined⟩)
  | silent code => exact .inr (.inr ⟨_, _, rfl, ⟨rfl, rfl⟩, hjoined⟩)
  | started => exact .inl ⟨_, rfl, rfl, rfl, rfl, rfl⟩
  | ended code => exact .inr (.inl ⟨code, _, rfl, rfl, ⟨rfl, rfl⟩, rfl⟩)

/-- What a reload of a running service leaves. -/
inductive Reloads (s new : RuntimeSnapshot) : Call Bool × AppService → Prop where
  | threw {what : Bytes} {a : AppService} : a.Runs s → Reloads s new (.threw what, a)
  | done {error : Bytes} {a : AppService} : a.Runs new → Reloads s new (.returned true error, a)
  | kept {error : Bytes} {a : AppService} : a.Runs s → Reloads s new (.returned false error, a)
  | ended {error : Bytes} {a : AppService} : a.Ended → Reloads s new (.returned false error, a)

/-- Whatever follows the swap of the generations goes well, and so does a new start, if it is
reported so. -/
structure Steady (w : ServiceReload) : Prop where
  recorded : w.inPlace.recorded = none
  restart : ∀ code, w.restart ≠ .ended code

lemma reloads_restart (new : RuntimeSnapshot) (w : ServiceReload) (error : Bytes)
    (hs : a.snapshot = s) (hw : Steady w) : Reloads s new (a.restart new w error) := by
  unfold restart
  simp only
  have hstart : ∀ b : AppService, b.state = .stopped → b.joinable = false → b.snapshot = new →
      (∃ a', b.startImpl w.restart = (true, [], a') ∧ a'.Runs new) ∨
      (∃ e a', b.startImpl w.restart = (false, e, a') ∧ a'.Ended ∧ a'.joinable = false) := by
    rintro b hstate hjoined rfl
    rcases startImpl_cases hstate hjoined w.restart with hruns | ⟨code, a', hended, -⟩ | hfailed
    · exact .inl hruns
    · exact absurd hended (hw.restart code)
    · exact .inr hfailed
  rcases hstart { a.threadEnds w.code with server := none, joinable := false, snapshot := new }
      rfl rfl rfl with ⟨a', heq, hruns⟩ | ⟨restartError, a', heq, hended, hjoined⟩
  · rw [heq]
    exact .done hruns
  · rw [heq]
    simp only
    -- the old configuration is started again, and may end at once
    have hback := startImpl_cases (a := { a' with snapshot := a.snapshot }) hended.state hjoined
      w.rollback
    rcases hback with ⟨b, heq, hruns⟩ | ⟨code, b, -, heq, hended, -⟩ |
        ⟨rollbackError, b, heq, hended, -⟩
    · rw [heq]
      exact .kept (hs ▸ hruns)
    · rw [heq]
      exact .ended hended
    · rw [heq]
      exact .ended hended

lemma reloads (h : a.Runs s) (new : RuntimeSnapshot) (w : ServiceReload) (hw : Steady w) :
    Reloads s new (a.reload new w) := by
  unfold reload
  rw [h.server]
  simp only
  rw [if_neg (by simp [h.state])]
  have hreload := Server.reloads ⟨s⟩ new w.inPlace
  generalize Server.reload ⟨s⟩ new w.inPlace = result at hreload
  -- the server that ends by itself is seen, whatever the result
  have hlook : ∀ a' : AppService, a'.state = .running →
      (w.ended.map a'.threadEnds).getD a' = a' ∨ ((w.ended.map a'.threadEnds).getD a').Ended := by
    intro a' _
    cases hended : w.ended with
    | none => exact .inl rfl
    | some code => exact .inr ⟨rfl, rfl⟩
  cases hreload with
  | threw what => exact .threw ⟨h.state, rfl, h.snapshot, h.live⟩
  | applied hrestart hrecorded =>
    simp only
    rcases hlook { a with server := some ⟨new⟩ } h.state with hsame | hended
    · rw [hsame, if_neg (by simp [h.state])]
      exact .done ⟨h.state, rfl, rfl, h.live⟩
    · rw [if_pos (by rw [hended.state]; exact nofun)]
      exact .ended hended
  | restart error =>
    simp only
    rcases hlook { a with server := some ⟨s⟩ } h.state with hsame | hended
    · rw [hsame, if_neg (by simp [h.state])]
      exact reloads_restart new w error h.snapshot hw
    · rw [if_pos (by rw [hended.state]; exact nofun)]
      exact .ended hended
  | failed error =>
    simp only
    rcases hlook { a with server := some ⟨s⟩ } h.state with hsame | hended
    · rw [hsame]
      exact .kept ⟨h.state, rfl, h.snapshot, h.live⟩
    · exact .ended hended
  | unrecorded error hrestart hrecorded => exact absurd hw.recorded hrecorded

end AppService

end CcsTrans.App
