import CcsTrans.Gui.Protocol

/-!
The outbound channel of a window, and the threads around it.

States reach the channel in two ways. The tray publishes the states that the view model
notifies: the channel keeps the latest one and queues one job for it, which reads the latest
state when its turn comes. A request for a snapshot queues a job that carries the state of the
moment of the request. A writer takes the jobs in order; it sends the state of a job as a delta
from what it has sent last, or as a snapshot if it has not sent any.

The view model changes under its lock and notifies outside of it, so that the tray may see its
states in another order. A request captures the state before its job is queued, so that other
steps may come in between.
-/

namespace CcsTrans.Gui

open CcsTrans.Text

/-! ### Messages -/

inductive MessageKind where
  | hello
  | helloResult
  | activate
  | shutdown
  | ping
  | pong
  | snapshotRequest
  | snapshot
  | stateChanged
  | command
  | commandStatus
  | maintenanceRequest
  | maintenanceResult
  deriving DecidableEq

/-- What a message carries. -/
inductive Payload where
  | text (content : Bytes)
  | snapshot (s : Snapshot)
  | delta (d : StateDelta)
  deriving DecidableEq

structure Envelope where
  kind : MessageKind := .ping
  requestId : Bytes := []
  baseRevision : Bytes := []
  result : Option ResultCode := none
  errorCode : Option ErrorCode := none
  payload : Payload := .text [ch '{', ch '}']
  deriving DecidableEq

/-- `JobKind`, with what a job of the kind has. -/
inductive Job where
  | envelope (e : Envelope)
  | snapshot (e : Envelope) (s : Snapshot)
  | state
  deriving DecidableEq

/-- What the writer reports. -/
inductive OutboundFailure where
  /-- "state delta must be non-empty and advance revision". -/
  | deltaRejected
  /-- A payload cannot be written as JSON. -/
  | serialize (detail : Bytes)
  /-- The envelope cannot be written as JSON or as a frame, or the pipe is broken. -/
  | write (detail : Bytes)
  deriving DecidableEq

/-- What the JSON library says about payloads that it cannot write. -/
structure Codec where
  snapshotError : Snapshot → Option Bytes
  deltaError : StateDelta → Option Bytes

/-- `serialize_snapshot`. -/
def serializeSnapshot (codec : Codec) (s : Snapshot) : Except OutboundFailure Payload :=
  match codec.snapshotError s with
  | some e => .error (.serialize e)
  | none => .ok (.snapshot s)

/-- `serialize_state_delta`. -/
def serializeStateDelta (codec : Codec) (d : StateDelta) : Except OutboundFailure Payload :=
  if d.revision ≤ d.fromRevision ∨ d.empty then .error .deltaRejected
  else match codec.deltaError d with
    | some e => .error (.serialize e)
    | none => .ok (.delta d)

/-! ### The channel -/

/-- What the writer is doing. -/
inductive Writer where
  | idle
  | holding (job : Job)
  | ended
  deriving DecidableEq

/-- `GuiOutboundChannel`. -/
structure GuiOutboundChannel where
  capacity : ℕ
  jobs : List Job := []
  latestState : Option Snapshot := none
  sentState : Option Snapshot := none
  stateQueued : Bool := false
  closed : Bool := false
  drain : Bool := false
  writer : Writer := .idle
  /-- What was written to the pipe. -/
  written : List Envelope := []
  /-- What was reported, by `report_failure`. -/
  failure : Option OutboundFailure := none

namespace GuiOutboundChannel

/-- `push_job`. -/
def pushJob (c : GuiOutboundChannel) (job : Job) : Bool × GuiOutboundChannel :=
  if c.closed ∨ c.jobs.length ≥ c.capacity then (false, c)
  else (true, { c with jobs := c.jobs ++ [job] })

/-- `enqueue`. -/
def enqueue (c : GuiOutboundChannel) (e : Envelope) : Bool × GuiOutboundChannel :=
  c.pushJob (.envelope e)

/-- `enqueue_snapshot`. -/
def enqueueSnapshot (c : GuiOutboundChannel) (requestId : Bytes) (s : Snapshot) :
    Bool × GuiOutboundChannel :=
  c.pushJob (.snapshot
    { kind := .snapshot, requestId := requestId, baseRevision := s.draft.baseRevision } s)

/-- `publish_state`. -/
def publishState (c : GuiOutboundChannel) (s : Snapshot) : Bool × GuiOutboundChannel :=
  if c.closed then (false, c)
  else
    let c := { c with latestState := some s }
    if c.stateQueued then (true, c)
    else if c.jobs.length ≥ c.capacity then (false, c)
    else (true, { c with jobs := c.jobs ++ [.state], stateQueued := true })

/-- `close_after_drain`. -/
def closeAfterDrain (c : GuiOutboundChannel) : GuiOutboundChannel :=
  { c with closed := true, drain := true }

/-- `stop`, up to the end of the writer. -/
def stop (c : GuiOutboundChannel) : GuiOutboundChannel :=
  { c with closed := true, drain := false, jobs := [], stateQueued := false }

/-- `report_failure`, after which the writer ends. -/
def reportFailure (c : GuiOutboundChannel) (e : OutboundFailure) : GuiOutboundChannel :=
  { c with failure := some e, closed := true, drain := false, jobs := [], stateQueued := false,
           writer := .ended }

/-- The writer takes the next job, or ends. -/
def take (c : GuiOutboundChannel) : GuiOutboundChannel :=
  match c.writer, c.jobs with
  | .idle, [] => if c.closed then { c with writer := .ended } else c
  | .idle, job :: jobs =>
    if c.closed && !c.drain then { c with writer := .ended }
    else { c with
      jobs := jobs, writer := .holding job,
      stateQueued := if job = .state then false else c.stateQueued }
  | _, _ => c

/-- What comes of preparing a job: nothing, a failure, or an envelope and perhaps a new
baseline. -/
inductive Prepared where
  | nothing
  | failed (e : OutboundFailure)
  | ready (e : Envelope) (baseline : Option Snapshot)

/-- An envelope with a payload, if it can be written. -/
def prepared (e : Envelope) (payload : Except OutboundFailure Payload) (target : Snapshot) :
    Prepared :=
  match payload with
  | .error f => .failed f
  | .ok p => .ready { e with payload := p } (some target)

/-- `prepare_job`. -/
def prepareJob (codec : Codec) (c : GuiOutboundChannel) : Job → Prepared
  | .envelope e => .ready e none
  | .snapshot e target => prepared e (serializeSnapshot codec target) target
  | .state =>
    match c.latestState with
    | none => .nothing
    | some target =>
      match c.sentState with
      | none =>
        prepared
          { kind := .snapshot, requestId := str "state-snapshot",
            baseRevision := target.draft.baseRevision }
          (serializeSnapshot codec target) target
      | some sent =>
        let delta := buildGuiStateDelta sent target
        if delta.empty then .nothing
        else prepared
          { kind := .stateChanged, requestId := str "state-changed",
            baseRevision := target.draft.baseRevision }
          (serializeStateDelta codec delta) target

/-- The writer prepares the job that it holds and writes it; the write may fail. -/
def send (codec : Codec) (c : GuiOutboundChannel) (writeError : Option Bytes) :
    GuiOutboundChannel :=
  match c.writer with
  | .holding job =>
    match c.prepareJob codec job with
    | .nothing => { c with writer := .idle }
    | .failed e => c.reportFailure e
    | .ready e baseline =>
      match writeError with
      | some detail => c.reportFailure (.write detail)
      | none => { c with
          writer := .idle, written := c.written ++ [e],
          sentState := baseline.orElse fun _ => c.sentState }
  | _ => c

/-! What the operations can do. -/

lemma pushJob_cases (c : GuiOutboundChannel) (job : Job) : (c.pushJob job).2 = c ∨
    c.closed = false ∧ (c.pushJob job).2 = { c with jobs := c.jobs ++ [job] } := by
  unfold pushJob
  split_ifs with h
  · exact Or.inl rfl
  · rw [not_or] at h
    exact Or.inr ⟨by simpa using h.1, rfl⟩

/-- The latest state is kept even when there is no room for a job. -/
inductive Published (c : GuiOutboundChannel) (s : Snapshot) : Bool × GuiOutboundChannel → Prop
  | closed (h : c.closed = true) : Published c s (false, c)
  | coalesced (h : c.stateQueued = true) : Published c s (true, { c with latestState := some s })
  | full : Published c s (false, { c with latestState := some s })
  | queued : Published c s
      (true, { c with latestState := some s, jobs := c.jobs ++ [.state], stateQueued := true })

lemma published (c : GuiOutboundChannel) (s : Snapshot) : Published c s (c.publishState s) := by
  unfold publishState
  dsimp only
  split_ifs with hclosed hqueued
  · exact .closed hclosed
  · exact .coalesced hqueued
  · exact .full
  · exact .queued

inductive Taken (c : GuiOutboundChannel) : GuiOutboundChannel → Prop
  | nothing : Taken c c
  | ended (h : c.writer = .idle) (closed : c.closed = true)
      (dropped : c.drain = true → c.jobs = []) : Taken c { c with writer := .ended }
  | job {job : Job} {jobs : List Job} (h : c.writer = .idle) (hjobs : c.jobs = job :: jobs) :
      Taken c { c with
        jobs := jobs, writer := .holding job,
        stateQueued := if job = .state then false else c.stateQueued }

lemma taken (c : GuiOutboundChannel) : Taken c c.take := by
  unfold take
  split
  · next hw hjobs =>
    split_ifs with hclosed
    · exact .ended hw hclosed fun _ => hjobs
    · exact .nothing
  · next job jobs hw hjobs =>
    split
    · next hclosed =>
      rw [Bool.and_eq_true, Bool.not_eq_true'] at hclosed
      refine .ended hw hclosed.1 fun hdrain => ?_
      rw [hclosed.2] at hdrain
      cases hdrain
    · exact .job hw hjobs
  · exact .nothing

inductive Sent (codec : Codec) (c : GuiOutboundChannel) : GuiOutboundChannel → Prop
  | nothing (h : ∀ job, c.writer ≠ .holding job) : Sent codec c c
  | skipped {job : Job} (h : c.writer = .holding job)
      (hnothing : c.prepareJob codec job = .nothing) : Sent codec c { c with writer := .idle }
  | failed {job : Job} {e : OutboundFailure} (h : c.writer = .holding job)
      (he : c.prepareJob codec job = .failed e ∨ ∃ detail, e = .write detail) :
      Sent codec c (c.reportFailure e)
  | written {job : Job} {e : Envelope} {baseline : Option Snapshot}
      (h : c.writer = .holding job) (hready : c.prepareJob codec job = .ready e baseline) :
      Sent codec c { c with
        writer := .idle, written := c.written ++ [e],
        sentState := baseline.orElse fun _ => c.sentState }

lemma sent (codec : Codec) (c : GuiOutboundChannel) (writeError : Option Bytes) :
    Sent codec c (c.send codec writeError) := by
  unfold send
  split
  · next job hw =>
    split
    · next hnothing => exact .skipped hw hnothing
    · next e he => exact .failed hw (Or.inl he)
    · next e baseline hready =>
      cases writeError with
      | some detail => exact .failed hw (Or.inr ⟨detail, rfl⟩)
      | none => exact .written hw hready
  · next hw =>
    refine .nothing fun job hjob => ?_
    exact hw job hjob

/-- What a job is sent as, and what the client is known to have then. -/
inductive Ready (c : GuiOutboundChannel) : Job → Envelope → Option Snapshot → Prop
  | envelope (e : Envelope) : Ready c (.envelope e) e none
  | snapshot {e e' : Envelope} {t : Snapshot} (h : e'.payload = .snapshot t) :
      Ready c (.snapshot e t) e' (some t)
  | first {e : Envelope} {t : Snapshot} (hlatest : c.latestState = some t)
      (hsent : c.sentState = none) (h : e.payload = .snapshot t) : Ready c .state e (some t)
  | delta {e : Envelope} {t p : Snapshot} (hlatest : c.latestState = some t)
      (hsent : c.sentState = some p) (h : e.payload = .delta (buildGuiStateDelta p t))
      (hrevision : p.revision < t.revision) (hdiffer : ¬ p.Same t) : Ready c .state e (some t)

lemma prepared_ready {e e' : Envelope} {payload : Except OutboundFailure Payload}
    {target : Snapshot} {baseline : Option Snapshot}
    (h : prepared e payload target = .ready e' baseline) :
    baseline = some target ∧ payload = .ok e'.payload := by
  cases payload with
  | error f => cases h
  | ok p =>
    cases h
    exact ⟨rfl, rfl⟩

lemma serializeSnapshot_ok {codec : Codec} {t : Snapshot} {p : Payload}
    (h : serializeSnapshot codec t = .ok p) : p = .snapshot t := by
  unfold serializeSnapshot at h
  split at h
  · cases h
  · cases h
    rfl

lemma serializeStateDelta_ok {codec : Codec} {d : StateDelta} {p : Payload}
    (h : serializeStateDelta codec d = .ok p) : p = .delta d ∧ d.fromRevision < d.revision := by
  unfold serializeStateDelta at h
  split_ifs at h with hrefused
  rw [not_or] at hrefused
  split at h
  · cases h
  · cases h
    exact ⟨rfl, not_le.mp hrefused.1⟩

lemma ready_of_prepareJob {codec : Codec} {c : GuiOutboundChannel} {job : Job} {e : Envelope}
    {baseline : Option Snapshot} (h : c.prepareJob codec job = .ready e baseline) :
    Ready c job e baseline := by
  cases job with
  | envelope e' =>
    cases h
    exact .envelope e
  | snapshot e' target =>
    obtain ⟨rfl, hpayload⟩ := prepared_ready h
    exact .snapshot (serializeSnapshot_ok hpayload)
  | state =>
    simp only [prepareJob] at h
    cases hlatest : c.latestState with
    | none =>
      simp only [hlatest] at h
      cases h
    | some target =>
      simp only [hlatest] at h
      cases hsent : c.sentState with
      | none =>
        simp only [hsent] at h
        obtain ⟨rfl, hpayload⟩ := prepared_ready h
        exact .first hlatest hsent (serializeSnapshot_ok hpayload)
      | some p =>
        simp only [hsent] at h
        split_ifs at h with hempty
        obtain ⟨rfl, hpayload⟩ := prepared_ready h
        obtain ⟨hdelta, hrevision⟩ := serializeStateDelta_ok hpayload
        rw [empty_buildGuiStateDelta] at hempty
        exact .delta hlatest hsent hdelta hrevision hempty

/-- A job comes to nothing when there is no state, or none that differs from the one sent. -/
lemma nothing_of_prepareJob {codec : Codec} {c : GuiOutboundChannel} {job : Job}
    (h : c.prepareJob codec job = .nothing) : job = .state ∧ ∀ t, c.latestState = some t →
      ∃ p, c.sentState = some p ∧ p.Same t := by
  have hprepared : ∀ {e : Envelope} {payload : Except OutboundFailure Payload} {t : Snapshot},
      prepared e payload t ≠ .nothing := by
    intro e payload t h
    cases payload <;> cases h
  cases job with
  | envelope e => cases h
  | snapshot e target => exact absurd h hprepared
  | state =>
    refine ⟨rfl, fun t hlatest => ?_⟩
    simp only [prepareJob, hlatest] at h
    cases hsent : c.sentState with
    | none =>
      simp only [hsent] at h
      exact absurd h hprepared
    | some p =>
      simp only [hsent] at h
      split_ifs at h with hempty
      · exact ⟨p, rfl, (empty_buildGuiStateDelta p t).mp hempty⟩
      · exact absurd h hprepared

/-- A delta is refused when the state to be sent is not newer than the one sent last. -/
lemma rejected_of_prepareJob {codec : Codec} {c : GuiOutboundChannel} {job : Job}
    (h : c.prepareJob codec job = .failed .deltaRejected) : job = .state ∧ ∃ t p,
      c.latestState = some t ∧ c.sentState = some p ∧ ¬ p.Same t ∧ t.revision ≤ p.revision := by
  have hsnapshot : ∀ {e : Envelope} {t : Snapshot},
      prepared e (serializeSnapshot codec t) t ≠ .failed .deltaRejected := by
    intro e t h
    unfold serializeSnapshot at h
    cases hcodec : codec.snapshotError t with
    | none =>
      rw [hcodec] at h
      cases h
    | some detail =>
      rw [hcodec] at h
      cases h
  cases job with
  | envelope e => cases h
  | snapshot e target => exact absurd h hsnapshot
  | state =>
    refine ⟨rfl, ?_⟩
    simp only [prepareJob] at h
    cases hlatest : c.latestState with
    | none =>
      simp only [hlatest] at h
      cases h
    | some t =>
      simp only [hlatest] at h
      cases hsent : c.sentState with
      | none =>
        simp only [hsent] at h
        exact absurd h hsnapshot
      | some p =>
        simp only [hsent] at h
        split_ifs at h with hempty
        refine ⟨t, p, rfl, rfl, fun hsame => hempty ((empty_buildGuiStateDelta p t).mpr hsame), ?_⟩
        by_contra hnewer
        have hgoes : ¬ ((buildGuiStateDelta p t).revision ≤ (buildGuiStateDelta p t).fromRevision ∨
            (buildGuiStateDelta p t).empty = true) := by
          rw [not_or]
          exact ⟨hnewer, hempty⟩
        rw [serializeStateDelta, if_neg hgoes] at h
        cases hcodec : codec.deltaError (buildGuiStateDelta p t) with
        | none =>
          rw [hcodec] at h
          cases h
        | some detail =>
          rw [hcodec] at h
          cases h

/-- Nothing is left to be sent. -/
def Drained (c : GuiOutboundChannel) : Prop := c.jobs = [] ∧ ∀ job, c.writer ≠ .holding job

end GuiOutboundChannel

/-! ### The client -/

/-- The client takes a message. -/
def ClientStateTracker.receive (t : ClientStateTracker) (e : Envelope) : ClientStateTracker :=
  match e.payload with
  | .text _ => t
  | .snapshot s => (t.acceptSnapshot s).2
  | .delta d => (t.applyDelta d).2

/-- The tracker of a client that has received all that was written. -/
def GuiOutboundChannel.client (c : GuiOutboundChannel) : ClientStateTracker :=
  c.written.foldl ClientStateTracker.receive {}

/-! ### The session -/

/-- The view model, the tray and the reader of the pipe, around the channel. -/
structure Session where
  /-- The state of the view model, as a snapshot. -/
  state : Snapshot
  /-- The states that were notified and that the tray has not seen. -/
  notified : List Snapshot := []
  /-- The request that the reader is answering, with the state that it has captured. -/
  captured : Option (Bytes × Snapshot) := none
  channel : GuiOutboundChannel

inductive Step where
  /-- The view model changes; the revision is its own. -/
  | change (update : Snapshot → Snapshot)
  /-- The tray sees one of the states that were notified. -/
  | publish (i : ℕ)
  /-- The reader captures a snapshot for a request. -/
  | capture (requestId : Bytes)
  /-- The reader queues what it has captured. -/
  | queue
  /-- Any thread queues another message. -/
  | enqueue (e : Envelope)
  | take
  | send (writeError : Option Bytes)
  | closeAfterDrain
  | stop

/-- Other messages than states: `kind` says that the payload is not one. -/
def Envelope.Plain (e : Envelope) : Prop := ∃ content, e.payload = .text content

instance (e : Envelope) : Decidable e.Plain :=
  match h : e.payload with
  | .text content => isTrue ⟨content, h⟩
  | .snapshot _ => isFalse fun ⟨_, h'⟩ => by rw [h] at h'; cases h'
  | .delta _ => isFalse fun ⟨_, h'⟩ => by rw [h] at h'; cases h'

def Session.step (codec : Codec) (s : Session) : Step → Session
  | .change update =>
    let state := { update s.state with revision := s.state.revision + 1 }
    { s with state := state, notified := s.notified ++ [state] }
  | .publish i =>
    match s.notified[i]? with
    | none => s
    | some t => { s with
        notified := s.notified.eraseIdx i, channel := (s.channel.publishState t).2 }
  | .capture requestId =>
    match s.captured with
    | none => { s with captured := some (requestId, s.state) }
    | some _ => s
  | .queue =>
    match s.captured with
    | none => s
    | some (requestId, t) => { s with
        captured := none, channel := (s.channel.enqueueSnapshot requestId t).2 }
  | .enqueue e => if e.Plain then { s with channel := (s.channel.enqueue e).2 } else s
  | .take => { s with channel := s.channel.take }
  | .send writeError => { s with channel := s.channel.send codec writeError }
  | .closeAfterDrain => { s with channel := s.channel.closeAfterDrain }
  | .stop => { s with channel := s.channel.stop }

/-- The session after some steps. -/
def Session.run (codec : Codec) (s : Session) (steps : List Step) : Session :=
  steps.foldl (Session.step codec) s

/-- The snapshot is somewhere in the channel. -/
def GuiOutboundChannel.Has (c : GuiOutboundChannel) (t : Snapshot) : Prop :=
  (∃ e, Job.snapshot e t ∈ c.jobs) ∨ (∃ e, c.writer = .holding (.snapshot e t)) ∨
    c.latestState = some t ∨ c.sentState = some t

/-- The snapshot is somewhere in the session. -/
def Session.Has (s : Session) (t : Snapshot) : Prop :=
  t = s.state ∨ t ∈ s.notified ∨ (∃ id, s.captured = some (id, t)) ∨ s.channel.Has t

/-- The snapshots of a session are states of one view model: there is one for each revision,
none has revision zero, and none is newer than the present state. -/
structure Session.Coherent (s : Session) (history : ℕ → Snapshot) : Prop where
  state : ∀ t, s.Has t → t = history t.revision
  positive : ∀ t, s.Has t → 0 < t.revision
  present : ∀ t, s.Has t → t.revision ≤ s.state.revision

/-- The tray starts a window when the view model has a state to show; there may be states that
were notified and that the tray has yet to see. -/
structure Session.Started (s : Session) : Prop where
  coherent : ∃ history, s.Coherent history
  channel : ∃ capacity, s.channel = { capacity }

end CcsTrans.Gui
