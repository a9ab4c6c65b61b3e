import CcsTrans.Server.Responses
import CcsTrans.Json.RoundTrip
import CcsTrans.Runs

/-!
The accept loop, call by call.

The loop waits for the listening socket, accepts a connection and queues it, or answers it that the
server is full and reads what the peer still sends. What the system answers to each call is the
peer's doing, or a signal's, or the listening socket's own error; the loop sees one error value for
all of them.
-/

namespace CcsTrans.Server

open CcsTrans.Text CcsTrans.Json CcsTrans.Runs

/-! ### What the calls answer -/

/-- The error of a call. The system tells by its number alone whether it is about the connection
that was to be accepted, aborted before it was, or about the listening socket. -/
inductive CallError where
  | interrupted
  | connection (code : ℕ)
  | listener (code : ℕ)

/-- The wait for the listening socket. -/
inductive WaitAnswer where
  | ready
  | timedOut
  /-- `POLLERR`, `POLLHUP` or `POLLNVAL`. -/
  | flagged
  | failed (error : CallError)

inductive SendAnswer where
  | sent (size : ℕ)
  | interrupted
  | failed

inductive SocketWaitResult where
  | ready
  | timeout
  | interrupted
  | failed
  deriving DecidableEq

/-- What the two platform files differ in. -/
structure Platform where
  /-- The wait reports flags. -/
  flags : Bool
  /-- `SO_NOSIGPIPE` exists, and is set for each connection. -/
  noSigpipe : Bool

def posix (noSigpipe : Bool) : Platform where
  flags := true
  noSigpipe := noSigpipe

def windows : Platform where
  flags := false
  noSigpipe := false

/-- How the loop is done with a connection that was accepted. -/
inductive QueueOutcome where
  | queued
  | full
  /-- The registry is closing. -/
  | stopped
  /-- The connection could not be registered or queued. -/
  | failed
  /-- It is queued, but no worker could be started; the record of this may throw. -/
  | scaleFailed (threw : Bool)

/-! ### The loop -/

/-- Where the loop is: before its condition, at a call, or behind the last. -/
inductive AcceptPhase where
  | testing
  | waiting
  | accepting
  | configuring
  | queueing
  /-- The answer for a full server is built. -/
  | refusing
  /-- `send_all`: what is left of this text, and the text behind it. -/
  | sending (remaining next : ℕ)
  | draining
  | returned

structure AcceptLoop where
  platform : Platform
  phase : AcceptPhase := .testing
  /-- What the condition of the loop reads: the flag, or the signal. -/
  stopRequested : Bool := false
  /-- Somebody else has requested a stop, or a signal has. -/
  asked : Bool := false
  /-- The socket calls of this iteration. -/
  calls : ℕ := 0
  /-- Those of them that a signal interrupted. -/
  interrupted : ℕ := 0
  /-- Those of them that received something of a peer that is refused. -/
  received : ℕ := 0

inductive AcceptStep where
  | test
  | wait (answer : WaitAnswer)
  | accept (error : Option CallError)
  /-- `set_no_sigpipe`. -/
  | configure (succeeded : Bool)
  | queue (outcome : QueueOutcome)
  /-- The record and the answer, which may throw. -/
  | refuse (threw : Bool)
  | send (answer : SendAnswer)
  /-- What is received; `none` is an error, or that the time is up. -/
  | receive (size : Option ℕ)
  /-- `request_stop`, or the signal for it. -/
  | stop

namespace AcceptLoop

/-- The answer for a full server. -/
def overloaded [Library] : Option HttpResponse :=
  serverError 503 (str "server is at connection capacity") (str "server_overloaded")

/-- A socket call is made. -/
def call (l : AcceptLoop) (phase : AcceptPhase) : AcceptLoop :=
  { l with calls := l.calls + 1, phase := phase }

/-- `LocalListener::accept`, as it returns to the loop. -/
def acceptReturns (l : AcceptLoop) : SocketWaitResult → AcceptLoop
  | .ready => { l with phase := .queueing }
  | .timeout => { l with phase := .testing }
  | .interrupted => { l with interrupted := l.interrupted + 1, phase := .testing }
  -- every failure is taken for one of the listener
  | .failed => { l with stopRequested := true, phase := .returned }

/-- The wait at the start of `LocalListener::accept`. -/
def wait (l : AcceptLoop) : WaitAnswer → AcceptLoop
  | .ready => l.call .accepting
  | .timedOut => (l.call .waiting).acceptReturns .timeout
  | .flagged => if l.platform.flags then (l.call .waiting).acceptReturns .failed else l.call .accepting
  | .failed .interrupted => (l.call .waiting).acceptReturns .interrupted
  | .failed _ => (l.call .waiting).acceptReturns .failed

/-- The call of `accept` itself. -/
def accept (l : AcceptLoop) : Option CallError → AcceptLoop
  | none =>
    if l.platform.noSigpipe then l.call .configuring
    else (l.call .accepting).acceptReturns .ready
  | some .interrupted => (l.call .accepting).acceptReturns .interrupted
  | some _ => (l.call .accepting).acceptReturns .failed

/-- A connection that cannot be configured is closed. -/
def configure (l : AcceptLoop) (succeeded : Bool) : AcceptLoop :=
  if succeeded then (l.call .configuring).acceptReturns .ready
  else ((l.call .configuring).call .configuring).acceptReturns .failed

def queue (l : AcceptLoop) : QueueOutcome → AcceptLoop
  | .queued => { l with phase := .testing }
  | .full => { l with phase := .refusing }
  -- the registry closes for a stop only
  | .stopped => if l.asked then l.call .returned else l
  | .failed => { l.call .returned with stopRequested := true }
  | .scaleFailed threw =>
    if threw then { l with stopRequested := true, phase := .returned }
    else { l with phase := .testing }

/-- `shutdown_send_and_drain`, up to its loop. -/
def drain (l : AcceptLoop) : AcceptLoop := (l.call .draining).call .draining

/-- `send_all` goes on with a text, then with the next. -/
def sendNext (l : AcceptLoop) (remaining next : ℕ) : AcceptLoop :=
  if 0 < remaining then { l with phase := .sending remaining next }
  else if 0 < next then { l with phase := .sending next 0 }
  else l.drain

/-- `reject_overloaded_client`, up to what it sends. -/
def refuse [Library] (l : AcceptLoop) (threw : Bool) : AcceptLoop :=
  match threw, overloaded with
  | false, some response => l.sendNext (headText response true).length response.body.length
  | _, _ => l.drain

def send (l : AcceptLoop) (remaining next : ℕ) : SendAnswer → AcceptLoop
  | .sent 0 => (l.call .draining).drain
  | .sent size => (l.call .draining).sendNext (remaining - size) next
  | .interrupted =>
    { l.call (.sending remaining next) with interrupted := l.interrupted + 1 }
  | .failed => (l.call .draining).drain

/-- The loop of `shutdown_send_and_drain`. -/
def receive (l : AcceptLoop) : Option ℕ → AcceptLoop
  | some (_ + 1) => { l.call .draining with received := l.received + 1 }
  | _ => (l.call .draining).call .testing

/-- One step; a step that does not come now changes nothing. -/
def step [Library] (l : AcceptLoop) (i : AcceptStep) : AcceptLoop :=
  match l.phase, i with
  | _, .stop => { l with stopRequested := true, asked := true }
  | .testing, .test =>
    if l.stopRequested then { l with phase := .returned }
    else { l with phase := .waiting, calls := 0, interrupted := 0, received := 0 }
  | .waiting, .wait answer => l.wait answer
  | .accepting, .accept error => l.accept error
  | .configuring, .configure succeeded => l.configure succeeded
  | .queueing, .queue outcome => l.queue outcome
  | .refusing, .refuse threw => l.refuse threw
  | .sending remaining next, .send answer => l.send remaining next answer
  | .draining, .receive size => l.receive size
  | _, _ => l

/-! ### What a peer can do -/

/-- The listening socket itself reports no error. -/
def ListenerWell : AcceptStep → Prop
  | .wait .flagged => False
  | .wait (.failed error) => error = .interrupted
  | .accept (some (.listener _)) => False
  | _ => True

/-- No connection is aborted before it is accepted and configured, nothing is thrown while it is
queued, and the peer of one that is refused is heard at most `k` times. -/
def Bounded (k : ℕ) (l : AcceptLoop) : AcceptStep → Prop
  | .accept (some (.connection _)) => False
  | .configure succeeded => succeeded = true
  | .queue .failed => False
  | .queue (.scaleFailed threw) => threw = false
  | .receive (some (_ + 1)) => l.received < k
  | _ => True

/-- The loop has ended for a stop alone. -/
def StopsOnRequest (l : AcceptLoop) : Prop := l.phase = .returned → l.asked = true

/-- The most that is sent to a connection that is refused. -/
def answerSize [Library] : ℕ :=
  match overloaded with
  | some response => (headText response true).length + response.body.length
  | none => 0

/-- The socket calls of an iteration: waiting, accepting, configuring and closing, the sends, the
end of sending, the timeout, the last receive and the close. -/
def callBound [Library] : ℕ := answerSize + 7

/-- The calls that may still come in this iteration, those that a signal interrupts and those that
receive something apart. -/
def ahead [Library] : AcceptPhase → ℕ
  | .testing => 0
  | .waiting => answerSize + 7
  | .accepting => answerSize + 6
  | .configuring => answerSize + 5
  | .queueing => answerSize + 4
  | .refusing => answerSize + 4
  | .sending remaining next => remaining + next + 4
  | .draining => 2
  | .returned => 0

/-- What is known of the loop before each step. -/
structure Sound [Library] (k : ℕ) (l : AcceptLoop) : Prop where
  spent : l.calls + ahead l.phase ≤ callBound + l.interrupted + l.received
  left : ∀ remaining next, l.phase = .sending remaining next → 0 < remaining
  heard : l.received ≤ k
  stops : l.stopRequested = true → l.asked = true
  ends : l.StopsOnRequest

section Steps

variable [Library] {k : ℕ} {l : AcceptLoop}

/-- The loop goes on elsewhere. -/
lemma Sound.goOn (h : l.Sound k) {l' : AcceptLoop} (hstop : l'.stopRequested = l.stopRequested)
    (hasked : l'.asked = l.asked) (hphase : l'.phase ≠ .returned)
    (hspent : l'.calls + ahead l'.phase ≤ callBound + l'.interrupted + l'.received)
    (hleft : ∀ remaining next, l'.phase = .sending remaining next → 0 < remaining)
    (hheard : l'.received ≤ k) : l'.Sound k where
  spent := hspent
  left := hleft
  heard := hheard
  stops hrequested := by
    rw [hstop] at hrequested
    rw [hasked]
    exact h.stops hrequested
  ends hreturned := absurd hreturned hphase

/-- The connection that is refused is heard to its end. -/
lemma Sound.drain (h : l.Sound k) {l' : AcceptLoop} (hstop : l'.stopRequested = l.stopRequested)
    (hasked : l'.asked = l.asked) (hreceived : l'.received = l.received)
    (hspent : l'.calls + 4 ≤ callBound + l'.interrupted + l'.received) : l'.drain.Sound k := by
  refine h.goOn hstop hasked (by simp [AcceptLoop.drain, call]) ?_
    (by simp [AcceptLoop.drain, call]) ?_
  · simp only [AcceptLoop.drain, call, ahead]
    omega
  · simp only [AcceptLoop.drain, call, hreceived]
    exact h.heard

lemma Sound.sendNext (h : l.Sound k) {l' : AcceptLoop} (hstop : l'.stopRequested = l.stopRequested)
    (hasked : l'.asked = l.asked) (hreceived : l'.received = l.received) {remaining next : ℕ}
    (hspent : l'.calls + (remaining + next + 4) ≤ callBound + l'.interrupted + l'.received) :
    (l'.sendNext remaining next).Sound k := by
  unfold AcceptLoop.sendNext
  split_ifs with hremaining hnext
  · refine h.goOn hstop hasked (by simp) hspent ?_ (hreceived ▸ h.heard)
    intro r n hphase
    cases hphase
    exact hremaining
  · refine h.goOn hstop hasked (by simp) ?_ ?_ (hreceived ▸ h.heard)
    · simp only [ahead]
      omega
    · intro r n hphase
      cases hphase
      exact hnext
  · exact h.drain hstop hasked hreceived (by omega)

lemma Sound.wait (h : l.Sound k) (hp : l.phase = .waiting) {answer : WaitAnswer}
    (hwell : ListenerWell (.wait answer)) : (l.wait answer).Sound k := by
  have hspent := h.spent
  rw [hp] at hspent
  simp only [ahead] at hspent
  cases answer with
  | ready =>
    refine h.goOn rfl rfl (by simp [AcceptLoop.wait, call]) ?_ (by simp [AcceptLoop.wait, call])
      h.heard
    simp only [AcceptLoop.wait, call, ahead]
    omega
  | timedOut =>
    refine h.goOn rfl rfl (by simp [AcceptLoop.wait, acceptReturns]) ?_
      (by simp [AcceptLoop.wait, acceptReturns]) h.heard
    simp only [AcceptLoop.wait, acceptReturns, call, ahead]
    omega
  | flagged => exact hwell.elim
  | failed error =>
    obtain rfl : error = .interrupted := hwell
    refine h.goOn rfl rfl (by simp [AcceptLoop.wait, acceptReturns]) ?_
      (by simp [AcceptLoop.wait, acceptReturns]) h.heard
    simp only [AcceptLoop.wait, acceptReturns, call, ahead]
    omega

lemma Sound.accept (h : l.Sound k) (hp : l.phase = .accepting) {error : Option CallError}
    (hwell : ListenerWell (.accept error)) (hbounded : Bounded k l (.accept error)) :
    (l.accept error).Sound k := by
  have hspent := h.spent
  rw [hp] at hspent
  simp only [ahead] at hspent
  match error, hwell, hbounded with
  | none, _, _ =>
    unfold AcceptLoop.accept
    dsimp only
    split_ifs
    · refine h.goOn rfl rfl (by simp [call]) ?_ (by simp [call]) h.heard
      simp only [call, ahead]
      omega
    · refine h.goOn rfl rfl (by simp [acceptReturns]) ?_ (by simp [acceptReturns]) h.heard
      simp only [acceptReturns, call, ahead]
      omega
  | some .interrupted, _, _ =>
    refine h.goOn rfl rfl (by simp [AcceptLoop.accept, acceptReturns]) ?_
      (by simp [AcceptLoop.accept, acceptReturns]) h.heard
    simp only [AcceptLoop.accept, acceptReturns, call, ahead]
    omega
  | some (.connection _), _, hbounded => exact hbounded.elim
  | some (.listener _), hwell, _ => exact hwell.elim

lemma Sound.configure (h : l.Sound k) (hp : l.phase = .configuring) :
    (l.configure true).Sound k := by
  have hspent := h.spent
  rw [hp] at hspent
  simp only [ahead] at hspent
  refine h.goOn rfl rfl (by simp [AcceptLoop.configure, acceptReturns]) ?_
    (by simp [AcceptLoop.configure, acceptReturns]) h.heard
  simp only [AcceptLoop.configure, if_true, acceptReturns, call, ahead]
  omega

lemma Sound.queue (h : l.Sound k) (hp : l.phase = .queueing) {outcome : QueueOutcome}
    (hbounded : Bounded k l (.queue outcome)) : (l.queue outcome).Sound k := by
  have hspent := h.spent
  rw [hp] at hspent
  simp only [ahead] at hspent
  cases outcome with
  | queued =>
    refine h.goOn rfl rfl (by simp [AcceptLoop.queue]) ?_ (by simp [AcceptLoop.queue]) h.heard
    simp only [AcceptLoop.queue, ahead]
    omega
  | full =>
    refine h.goOn rfl rfl (by simp [AcceptLoop.queue]) ?_ (by simp [AcceptLoop.queue]) h.heard
    simp only [AcceptLoop.queue, ahead]
    omega
  | stopped =>
    unfold AcceptLoop.queue
    dsimp only
    split_ifs with hasked
    · refine ⟨?_, by simp [call], h.heard, h.stops, fun _ => hasked⟩
      simp only [call, ahead]
      omega
    · exact h
  | failed => exact hbounded.elim
  | scaleFailed threw =>
    obtain rfl : threw = false := hbounded
    refine h.goOn rfl rfl (by simp [AcceptLoop.queue]) ?_ (by simp [AcceptLoop.queue]) h.heard
    simp only [AcceptLoop.queue, Bool.false_eq_true, if_false, ahead]
    omega

lemma Sound.refuse (h : l.Sound k) (hp : l.phase = .refusing) (threw : Bool) :
    (l.refuse threw).Sound k := by
  have hspent := h.spent
  rw [hp] at hspent
  simp only [ahead] at hspent
  unfold AcceptLoop.refuse
  split
  · next response hanswer =>
    refine h.sendNext rfl rfl rfl ?_
    simp only [answerSize, hanswer] at hspent
    omega
  · exact h.drain rfl rfl rfl (by omega)

lemma Sound.send (h : l.Sound k) {remaining next : ℕ} (hp : l.phase = .sending remaining next)
    (answer : SendAnswer) : (l.send remaining next answer).Sound k := by
  have hspent := h.spent
  have hleft := h.left remaining next hp
  rw [hp] at hspent
  simp only [ahead] at hspent
  match answer with
  | .sent 0 =>
    refine h.drain rfl rfl rfl ?_
    simp only [call]
    omega
  | .sent (size + 1) =>
    refine @Sound.sendNext _ k l h (l.call .draining) rfl rfl rfl (remaining - (size + 1)) next ?_
    simp only [call]
    omega
  | .interrupted =>
    refine h.goOn rfl rfl (by simp [AcceptLoop.send, call]) ?_ ?_ h.heard
    · simp only [AcceptLoop.send, call, ahead]
      omega
    · intro r n hphase
      cases hphase
      exact hleft
  | .failed =>
    refine h.drain rfl rfl rfl ?_
    simp only [call]
    omega

lemma Sound.receive (h : l.Sound k) (hp : l.phase = .draining) {size : Option ℕ}
    (hbounded : Bounded k l (.receive size)) : (l.receive size).Sound k := by
  have hspent := h.spent
  rw [hp] at hspent
  simp only [ahead] at hspent
  have hend : ((l.call .draining).call .testing).Sound k := by
    refine h.goOn rfl rfl (by simp [call]) ?_ (by simp [call]) h.heard
    simp only [call, ahead]
    omega
  match size, hbounded with
  | none, _ => exact hend
  | some 0, _ => exact hend
  | some (_ + 1), hbounded =>
    have hless : l.received < k := hbounded
    refine h.goOn rfl rfl (by simp [AcceptLoop.receive, call]) ?_
      (by simp [AcceptLoop.receive, call]) hless
    simp only [AcceptLoop.receive, call, ahead]
    omega

lemma Sound.test (h : l.Sound k) (hp : l.phase = .testing) : (l.step .test).Sound k := by
  unfold AcceptLoop.step
  rw [hp]
  dsimp only
  split_ifs with hstop
  · refine ⟨?_, by simp, h.heard, h.stops, fun _ => h.stops hstop⟩
    have hspent := h.spent
    rw [hp] at hspent
    exact hspent
  · refine h.goOn rfl rfl (by simp) ?_ (by simp) (Nat.zero_le k)
    simp only [ahead, callBound]
    omega

/-- **What a step keeps.** -/
lemma Sound.step (h : l.Sound k) {i : AcceptStep} (hwell : ListenerWell i)
    (hbounded : Bounded k l i) : (l.step i).Sound k := by
  cases i with
  | stop =>
    have hstop : l.step .stop = { l with stopRequested := true, asked := true } := by
      unfold AcceptLoop.step
      split <;> first | rfl | simp_all
    rw [hstop]
    exact ⟨h.spent, h.left, h.heard, fun _ => rfl, fun _ => rfl⟩
  | test =>
    cases hp : l.phase with
    | testing => exact h.test hp
    | _ => simpa [AcceptLoop.step, hp] using h
  | wait answer =>
    cases hp : l.phase with
    | waiting => simpa [AcceptLoop.step, hp] using h.wait hp hwell
    | _ => simpa [AcceptLoop.step, hp] using h
  | accept error =>
    cases hp : l.phase with
    | accepting => simpa [AcceptLoop.step, hp] using h.accept hp hwell hbounded
    | _ => simpa [AcceptLoop.step, hp] using h
  | configure succeeded =>
    obtain rfl : succeeded = true := hbounded
    cases hp : l.phase with
    | configuring => simpa [AcceptLoop.step, hp] using h.configure hp
    | _ => simpa [AcceptLoop.step, hp] using h
  | queue outcome =>
    cases hp : l.phase with
    | queueing => simpa [AcceptLoop.step, hp] using h.queue hp hbounded
    | _ => simpa [AcceptLoop.step, hp] using h
  | refuse threw =>
    cases hp : l.phase with
    | refusing => simpa [AcceptLoop.step, hp] using h.refuse hp threw
    | _ => simpa [AcceptLoop.step, hp] using h
  | send answer =>
    cases hp : l.phase with
    | sending remaining next => simpa [AcceptLoop.step, hp] using h.send hp answer
    | _ => simpa [AcceptLoop.step, hp] using h
  | receive size =>
    cases hp : l.phase with
    | draining => simpa [AcceptLoop.step, hp] using h.receive hp hbounded
    | _ => simpa [AcceptLoop.step, hp] using h

end Steps

/-- **The accept loop ends for a stop alone, after a bounded number of calls in each iteration**,
in every run in which peers are bounded. -/
theorem listener_stays [Library] (platform : Platform) (k : ℕ) {steps : List AcceptStep}
    (h : Along step (fun l i => ListenerWell i ∧ Bounded k l i) { platform := platform } steps) :
    (steps.foldl step { platform := platform }).StopsOnRequest ∧
      (steps.foldl step { platform := platform }).calls ≤
        callBound + (steps.foldl step { platform := platform }).interrupted + k := by
  have hsound : (steps.foldl step { platform := platform }).Sound k := by
    refine h.keeps (fun l i hi hl => hl.step hi.1 hi.2) ?_
    exact ⟨by simp [ahead], nofun, Nat.zero_le k, nofun, nofun⟩
  have hspent := hsound.spent
  have hheard := hsound.heard
  exact ⟨hsound.ends, by omega⟩

/-! ### A connection that is refused, one that is aborted, and one that never ends -/

/-- A connection comes while the server is full. -/
def refused : List AcceptStep :=
  [.test, .wait .ready, .accept none, .queue .full, .refuse true]

/-- It is heard once, and then it ends. -/
def refusedAndGone : List AcceptStep :=
  refused ++ [.receive (some 5), .receive (some 0), .test]

theorem listener_stays_refused :
    let _ : Library := bitLibrary
    Along step (fun l i => ListenerWell i ∧ Bounded 1 l i) { platform := posix false }
        refusedAndGone ∧
      (refusedAndGone.foldl step { platform := posix false }).StopsOnRequest ∧
      (refusedAndGone.foldl step { platform := posix false }).calls ≤
        callBound + (refusedAndGone.foldl step { platform := posix false }).interrupted + 1 := by
  intro _
  have h : Along step (fun l i => ListenerWell i ∧ Bounded 1 l i) { platform := posix false }
      refusedAndGone := by
    simp only [refusedAndGone, refused, List.cons_append, List.nil_append, Along]
    exact ⟨⟨trivial, trivial⟩, ⟨trivial, trivial⟩, ⟨trivial, trivial⟩, ⟨trivial, trivial⟩,
      ⟨trivial, trivial⟩, ⟨trivial, Nat.zero_lt_one⟩, ⟨trivial, trivial⟩, ⟨trivial, trivial⟩, trivial⟩
  exact ⟨h, listener_stays (posix false) 1 h⟩

/-- A peer that keeps sending is heard again and again. -/
lemma foldl_receive [Library] (n : ℕ) {l : AcceptLoop} (hp : l.phase = .draining) :
    ((List.replicate n (.receive (some 1))).foldl step l).calls = l.calls + n ∧
      ((List.replicate n (.receive (some 1))).foldl step l).interrupted = l.interrupted := by
  induction n generalizing l with
  | zero => exact ⟨rfl, rfl⟩
  | succ n ih =>
    have hone : l.step (.receive (some 1)) = { l.call .draining with received := l.received + 1 } := by
      simp [step, hp, receive]
    obtain ⟨hcalls, hinterrupted⟩ := @ih { l.call .draining with received := l.received + 1 } rfl
    rw [List.replicate_succ, List.foldl_cons, hone, hcalls, hinterrupted]
    simp only [call]
    exact ⟨by omega, trivial⟩

/-- One client ends the loop, or holds it for ever, though the listening socket is well. -/
theorem listener_taken_down :
    let _ : Library := bitLibrary
    (¬ ∀ (platform : Platform) (steps : List AcceptStep), (∀ i ∈ steps, ListenerWell i) →
      (steps.foldl step { platform := platform }).StopsOnRequest) ∧
    ¬ ∃ bound, ∀ (platform : Platform) (steps : List AcceptStep), (∀ i ∈ steps, ListenerWell i) →
      (steps.foldl step { platform := platform }).calls ≤
        bound + (steps.foldl step { platform := platform }).interrupted := by
  intro _
  constructor
  · -- `ECONNABORTED`
    intro h
    have hended := h (posix false) [.test, .wait .ready, .accept (some (.connection 103))]
      (by simp [ListenerWell]) rfl
    cases hended
  · rintro ⟨bound, h⟩
    have hflood := h (posix false) (refused ++ List.replicate bound (.receive (some 1)))
      (by simp [refused, ListenerWell])
    have hphase : (refused.foldl step { platform := posix false }).phase = .draining := rfl
    have hcalls : (refused.foldl step { platform := posix false }).calls = 4 := rfl
    have hinterrupted : (refused.foldl step { platform := posix false }).interrupted = 0 := rfl
    have hheard := foldl_receive bound hphase
    rw [List.foldl_append, hheard.1, hheard.2, hcalls, hinterrupted] at hflood
    omega

end AcceptLoop

end CcsTrans.Server
