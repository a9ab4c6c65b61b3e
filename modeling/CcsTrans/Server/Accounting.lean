import CcsTrans.Server.Ledger

/-!
The accounts of a running server.

A connection passes from the accept loop through the registry and the queue to a worker. The accept
loop and the workers change the queue and its counters under one mutex, the registry has another,
and a request to stop may empty the registry between any two statements. The run itself starts the
threads, joins the accept loop, closes what is registered and waits for the workers.
-/

namespace CcsTrans.Server

open CcsTrans.Runs

/-- What a run is started with; a configuration has at least one worker thread. -/
structure RunConfig where
  workerThreads : ℕ
  maxConnections : ℕ
  some_worker : 0 < workerThreads

/-! ### The threads -/

/-- Where the accept loop is. -/
inductive AcceptorAt where
  | absent
  | testing
  | accepted (client : Socket)
  /-- Inside the mutex of the queue, with the limit that was read there. -/
  | adding (client : Socket) (limit : ℕ)
  | pushing (client : Socket) (limit : ℕ)
  /-- An exception was caught; the connection may have been registered. -/
  | unqueued (client : Socket) (registered : Bool)
  | declined (client : Socket)
  | rejecting (client : Socket)
  | scaleFailed
  | failing
  | returned
  deriving DecidableEq

/-- Where a worker is. -/
inductive WorkerAt where
  | waiting
  | handling (job : Socket)
  /-- Its connection is closed, and it is still counted. -/
  | finishing (job : Socket)
  | returned
  deriving DecidableEq

/-- Where the run is: it starts the workers and the accept loop, waits for the accept loop, closes
the connections, tells the workers and waits for them. -/
inductive MainAt where
  | growing
  | starting
  | accepting
  | closing
  | announcing
  | joining
  /-- A thread could not be started. -/
  | abandoning
  | abandoned
  | returned
  deriving DecidableEq

/-- Who is in `close_all`. -/
inductive Closer where
  | request
  | main
  deriving DecidableEq

/-- A connection is admitted: how many are open, and the limit of the current generation. -/
structure Admitted where
  openConnections : ℕ
  maxConnections : ℕ

structure ServerRun where
  workerThreads : ℕ
  /-- Of the current generation. -/
  maxConnections : ℕ
  ledger : Ledger := {}
  registered : List Socket := []
  /-- The registry is closing. -/
  closing : Bool := false
  closer : Option Closer := none
  acceptor : AcceptorAt := .absent
  clientQueue : List Socket := []
  openConnections : ℕ := 0
  activeWorkerCount : ℕ := 0
  acceptingDone : Bool := false
  workers : List WorkerAt := []
  main : MainAt := .growing
  stopRequested : Bool := false
  /-- A request to stop finds the registry. -/
  clientShutdown : Bool := true
  /-- The requests to stop that have yet to close the registry. -/
  shutdowns : ℕ := 0
  /-- The jobs that were ever queued. -/
  queued : List Socket := []
  /-- The jobs that were taken, with the worker that took each. -/
  taken : List (ℕ × Socket) := []
  admissions : List Admitted := []

/-! ### What each of them does -/

inductive AcceptorStep where
  | test
  | listenerFails
  /-- The number is the operating system's choice. -/
  | accept (handle : ℕ)
  | admitClient
  | add (threw : Bool)
  /-- So many worker threads can be started. -/
  | push (threw : Bool) (started : ℕ)
  | release
  | fail
  | decline
  /-- The record that no worker could be started. -/
  | recordScale (threw : Bool)
  | reject

inductive WorkerStep where
  | take
  | handled
  | finish
  | leave
  deriving DecidableEq

inductive MainStep where
  | grow (started : ℕ)
  | startAcceptor (succeeded : Bool)
  | abandon
  | joinAcceptor
  | closeClients
  | announce
  | join

inductive RunStep where
  | acceptor (step : AcceptorStep)
  | worker (i : ℕ) (step : WorkerStep)
  | main (step : MainStep)
  | requestStop
  | signal
  | shutdownClients
  /-- The next socket of `close_all`, or its end. -/
  | closeNext
  | reload (maxConnections : ℕ)
  | connect (handle : ℕ)
  | disconnect (i : ℕ)

namespace ServerRun

/-- The accept loop is inside the mutex of the queue. -/
def inside (r : ServerRun) : Bool :=
  match r.acceptor with
  | .adding _ _ => true
  | .pushing _ _ => true
  | _ => false

/-- `close_registered`. -/
def closeRegistered (r : ServerRun) (client : Socket) : ServerRun :=
  match r.registered.find? (·.handle = client.handle) with
  | some entry => { r with registered := r.registered.erase entry, ledger := r.ledger.close client }
  | none => r

/-- `ClientConnectionRegistry::add`. -/
def add (r : ServerRun) (client : Socket) (limit : ℕ) (threw : Bool) : ServerRun :=
  if threw then { r with acceptor := .unqueued client false }
  else if r.closing then { r with acceptor := .declined client }
  else { r with registered := r.registered ++ [client], acceptor := .pushing client limit }

/-- The workers that a queue of this length asks for beyond those there are. -/
def wanted (r : ServerRun) : ℕ :=
  min r.workerThreads (r.activeWorkerCount + r.clientQueue.length) - r.workers.length

/-- `grow_workers`, which stops at the first thread that cannot be started. -/
def growWorkers (r : ServerRun) (started : ℕ) : ServerRun :=
  { r with
    workers := r.workers ++ List.replicate (min started r.wanted) .waiting
    acceptor := if started < r.wanted then .scaleFailed else .testing }

/-- The job is queued and counted. -/
def enqueue (r : ServerRun) (client : Socket) (limit : ℕ) : ServerRun :=
  { r with
    clientQueue := r.clientQueue ++ [client]
    queued := r.queued ++ [client]
    admissions := r.admissions ++ [⟨r.openConnections, limit⟩]
    openConnections := r.openConnections + 1 }

def acceptorStep (r : ServerRun) : AcceptorStep → ServerRun
  | .test =>
    if r.acceptor = .testing ∧ r.stopRequested then { r with acceptor := .returned } else r
  | .listenerFails => if r.acceptor = .testing then { r with acceptor := .failing } else r
  | .accept handle =>
    if r.acceptor = .testing ∧ r.ledger.sockets handle = none then
      { r with ledger := r.ledger.accept handle, acceptor := .accepted (r.ledger.next handle) }
    else r
  | .admitClient =>
    match r.acceptor with
    | .accepted client =>
      if r.openConnections < r.maxConnections then
        { r with acceptor := .adding client r.maxConnections }
      else { r with acceptor := .rejecting client }
    | _ => r
  | .add threw =>
    match r.acceptor, r.closer with
    | .adding client limit, none => r.add client limit threw
    | _, _ => r
  | .push threw started =>
    match r.acceptor with
    | .pushing client limit =>
      if threw then { r with acceptor := .unqueued client true }
      else (r.enqueue client limit).growWorkers started
    | _ => r
  | .release =>
    match r.acceptor, r.closer with
    | .unqueued client false, _ =>
      { r with ledger := r.ledger.close client, acceptor := .failing }
    | .unqueued client true, none => { r with acceptor := .failing }.closeRegistered client
    | _, _ => r
  | .fail =>
    if r.acceptor = .failing then { r with acceptor := .returned, stopRequested := true } else r
  | .decline =>
    match r.acceptor with
    | .declined client => { r with ledger := r.ledger.close client, acceptor := .returned }
    | _ => r
  | .recordScale threw =>
    if r.acceptor = .scaleFailed then
      { r with acceptor := if threw then .failing else .testing }
    else r
  | .reject =>
    match r.acceptor with
    | .rejecting client => { r with ledger := r.ledger.close client, acceptor := .testing }
    | _ => r

/-- A worker goes on; it waits for the mutex that it needs. -/
def workerStep (r : ServerRun) (i : ℕ) (step : WorkerStep) : ServerRun :=
  match step, r.workers[i]? with
  | .take, some .waiting =>
    match r.inside, r.clientQueue with
    | false, job :: rest =>
      { r with
        clientQueue := rest
        taken := r.taken ++ [(i, job)]
        activeWorkerCount := r.activeWorkerCount + 1
        workers := r.workers.set i (.handling job) }
    | _, _ => r
  | .handled, some (.handling job) =>
    if r.closer = none then
      { r with workers := r.workers.set i (.finishing job) }.closeRegistered job
    else r
  | .finish, some (.finishing _) =>
    if r.inside then r
    else
      { r with
        activeWorkerCount := r.activeWorkerCount - 1
        openConnections := r.openConnections - 1
        workers := r.workers.set i .waiting }
  | .leave, some .waiting =>
    if r.acceptingDone ∧ r.clientQueue = [] ∧ r.inside = false then
      { r with workers := r.workers.set i .returned }
    else r
  | _, _ => r

def mainStep (r : ServerRun) : MainStep → ServerRun
  | .grow started =>
    if r.main = .growing then
      { r with
        workers := List.replicate (min started (min r.workerThreads 8)) .waiting
        main := if started < min r.workerThreads 8 then .abandoning else .starting }
    else r
  | .startAcceptor succeeded =>
    if r.main = .starting then
      if succeeded then { r with acceptor := .testing, main := .accepting }
      else { r with stopRequested := true, main := .abandoning }
    else r
  | .abandon =>
    if r.main = .abandoning then { r with acceptingDone := true, main := .abandoned } else r
  | .joinAcceptor =>
    if r.main = .accepting ∧ r.acceptor = .returned then { r with main := .closing } else r
  | .closeClients =>
    if r.main = .closing ∧ r.closer = none then { r with closing := true, closer := some .main }
    else r
  | .announce =>
    if r.main = .announcing then { r with acceptingDone := true, main := .joining } else r
  | .join =>
    if (∀ w ∈ r.workers, w = .returned) ∧ r.main = .joining then
      { r with clientShutdown := false, main := .returned }
    else if (∀ w ∈ r.workers, w = .returned) ∧ r.main = .abandoned then
      { r with main := .returned }
    else r

/-- `close_all`, socket by socket. -/
def closeNext (r : ServerRun) : ServerRun :=
  match r.closer, r.registered with
  | some _, client :: rest => { r with registered := rest, ledger := r.ledger.close client }
  | some .request, [] => { r with closer := none }
  | some .main, [] => { r with closer := none, main := .announcing }
  | none, _ => r

def step (r : ServerRun) : RunStep → ServerRun
  | .acceptor step => r.acceptorStep step
  | .worker i step => r.workerStep i step
  | .main step => r.mainStep step
  | .requestStop =>
    { r with
      stopRequested := true
      shutdowns := if r.clientShutdown then r.shutdowns + 1 else r.shutdowns }
  | .signal => { r with stopRequested := true }
  | .shutdownClients =>
    if 0 < r.shutdowns ∧ r.closer = none then
      { r with shutdowns := r.shutdowns - 1, closing := true, closer := some .request }
    else r
  | .closeNext => r.closeNext
  | .reload maxConnections => { r with maxConnections := maxConnections }
  | .connect handle => { r with ledger := r.ledger.connect handle }
  | .disconnect i => { r with ledger := r.ledger.disconnect i }

/-- A run begins. -/
def start (config : RunConfig) : ServerRun where
  workerThreads := config.workerThreads
  maxConnections := config.maxConnections

/-! ### The accounts -/

/-- A worker that is counted. -/
def isActive : WorkerAt → Bool
  | .handling _ => true
  | .finishing _ => true
  | _ => false

/-- The job whose connection a worker has yet to close. -/
def handled : WorkerAt → Option Socket
  | .handling job => some job
  | _ => none

def activeJobs (r : ServerRun) : ℕ := r.workers.countP isActive

/-- The accounts are right. -/
structure Accounted (r : ServerRun) : Prop where
  /-- A close reaches the connection that it is meant for. -/
  own : ∀ e ∈ r.ledger.closes, e.reached = some e.meant
  /-- No connection is closed twice. -/
  once : (r.ledger.closes.map (·.meant)).Nodup
  /-- Every connection is closed when the run has returned. -/
  all : r.main = .returned → ∀ s ∈ r.ledger.accepted, s.identity ∈ r.ledger.closes.map (·.meant)
  /-- What was queued was taken, or is still queued; each job is there once. -/
  taken : r.taken.map (·.2) ++ r.clientQueue = r.queued ∧ (r.queued.map (·.identity)).Nodup
  drained : r.main = .returned → r.clientQueue = []
  balance : r.openConnections = r.clientQueue.length + r.activeJobs
  active : r.activeWorkerCount = r.activeJobs
  /-- A worker that is about to finish finds both counters positive. -/
  positive : ∀ job, .finishing job ∈ r.workers → 0 < r.activeWorkerCount ∧ 0 < r.openConnections
  admitted : ∀ a ∈ r.admissions, a.openConnections < a.maxConnections

/-- The connections of the accept loop that are not registered. -/
def loose : AcceptorAt → List Socket
  | .accepted client => [client]
  | .adding client _ => [client]
  | .unqueued client false => [client]
  | .declined client => [client]
  | .rejecting client => [client]
  | _ => []

/-- Those that were registered and are not queued. -/
def kept : AcceptorAt → List Socket
  | .pushing client _ => [client]
  | .unqueued client true => [client]
  | _ => []

/-- The jobs whose connections workers have yet to close. -/
def working (r : ServerRun) : List Socket := r.clientQueue ++ r.workers.filterMap handled

/-- How the threads follow one another. -/
structure Ordered (r : ServerRun) : Prop where
  early : r.main = .growing ∨ r.main = .starting ∨ r.main = .abandoning ∨ r.main = .abandoned →
    r.acceptor = .absent
  late : r.main = .closing ∨ r.main = .announcing ∨ r.main = .joining → r.acceptor = .returned
  absent : r.acceptor = .absent → r.registered = [] ∧ r.queued = []
  done : r.acceptingDone = true → r.main = .abandoned ∨ r.main = .joining ∨ r.main = .returned
  left : .returned ∈ r.workers → r.acceptingDone = true ∧ r.clientQueue = []
  some_worker : r.acceptor ≠ .absent → r.workers ≠ []
  threads : 0 < r.workerThreads
  growing : r.main = .growing → r.workers = []
  starting : r.main = .starting → r.workers ≠ []
  /-- Behind `close_all` nothing is registered any more. -/
  closed : r.main = .announcing ∨ r.main = .joining → r.closing = true ∧ r.registered = []
  closer : r.closer = some .main → r.main = .closing
  closes : r.closer ≠ none → r.closing = true
  emptied : r.closing = true → r.closer = none → r.registered = []
  ended : r.main = .returned →
    r.registered = [] ∧ r.clientQueue = [] ∧ (r.acceptor = .absent ∨ r.acceptor = .returned)

/-- What is known of a run. -/
structure Sound (r : ServerRun) : Prop where
  ledger : r.ledger.Holds (r.registered ++ loose r.acceptor)
  stays : ∀ j ∈ kept r.acceptor ++ r.working, j ∈ r.registered ∨ r.closing = true
  once : (r.working.map (·.identity)).Nodup
  worked : ∀ j ∈ r.working, j ∈ r.queued
  queue : r.taken.map (·.2) ++ r.clientQueue = r.queued
  known : ∀ j ∈ loose r.acceptor ++ kept r.acceptor, j.identity < r.ledger.opened
  fresh : ∀ j ∈ loose r.acceptor ++ kept r.acceptor, j.identity ∉ r.queued.map (·.identity)
  queuedOnce : (r.queued.map (·.identity)).Nodup
  queuedBelow : ∀ j ∈ r.queued, j.identity < r.ledger.opened
  active : r.activeWorkerCount = r.activeJobs
  balance : r.openConnections = r.clientQueue.length + r.activeJobs
  admitted : ∀ a ∈ r.admissions, a.openConnections < a.maxConnections
  within : ∀ client limit, r.acceptor = .adding client limit ∨ r.acceptor = .pushing client limit →
    r.openConnections < limit
  ordered : r.Ordered

section Steps

variable {r r' : ServerRun}

/-! #### The order of the threads -/

/-- Between its start and its end the accept loop is waited for. -/
lemma Ordered.running (h : r.Ordered) (hpresent : r.acceptor ≠ .absent)
    (hgoing : r.acceptor ≠ .returned) :
    r.main = .accepting ∧ r.acceptingDone = false ∧ .returned ∉ r.workers := by
  have hmain : r.main = .accepting := by
    cases hmain : r.main with
    | accepting => rfl
    | growing => exact absurd (h.early (by simp [hmain])) hpresent
    | starting => exact absurd (h.early (by simp [hmain])) hpresent
    | abandoning => exact absurd (h.early (by simp [hmain])) hpresent
    | abandoned => exact absurd (h.early (by simp [hmain])) hpresent
    | closing => exact absurd (h.late (by simp [hmain])) hgoing
    | announcing => exact absurd (h.late (by simp [hmain])) hgoing
    | joining => exact absurd (h.late (by simp [hmain])) hgoing
    | returned =>
      rcases (h.ended hmain).2.2 with habsent | hreturned
      · exact absurd habsent hpresent
      · exact absurd hreturned hgoing
  have hdone : r.acceptingDone = false := by
    by_contra hdone
    have htold := h.done (by simpa using hdone)
    rw [hmain] at htold
    simp at htold
  refine ⟨hmain, hdone, fun hleft => ?_⟩
  rw [(h.left hleft).1] at hdone
  cases hdone

/-- The workers are told at the end only. -/
lemma Ordered.not_done (h : r.Ordered) (habandoned : r.main ≠ .abandoned) (hjoining : r.main ≠ .joining)
    (hreturned : r.main ≠ .returned) : r.acceptingDone ≠ true := by
  intro hdone
  rcases h.done hdone with hm | hm | hm
  · exact habandoned hm
  · exact hjoining hm
  · exact hreturned hm

/-- The accept loop goes on, and may start workers. -/
lemma Ordered.goes (h : r.Ordered) (hpresent : r.acceptor ≠ .absent)
    (hgoing : r.acceptor ≠ .returned) (hmain : r'.main = r.main)
    (hdone : r'.acceptingDone = r.acceptingDone) (hthreads : r'.workerThreads = r.workerThreads)
    (hcloser : r'.closer = r.closer) (hclosing : r'.closing = r.closing)
    (hstays : r'.acceptor ≠ .absent) (more : ℕ)
    (hworkers : r'.workers = r.workers ++ List.replicate more .waiting)
    (hemptied : r.closing = true → r.closer = none → r'.registered = []) : r'.Ordered := by
  obtain ⟨haccepting, hnotdone, hnone⟩ := h.running hpresent hgoing
  rw [haccepting] at hmain
  rw [hnotdone] at hdone
  refine ⟨?_, ?_, fun habsent => absurd habsent hstays, ?_, ?_, ?_, ?_, ?_, ?_, ?_, ?_, ?_, ?_, ?_⟩
  · rw [hmain]
    simp
  · rw [hmain]
    simp
  · rw [hdone]
    nofun
  · intro hleft
    rw [hworkers] at hleft
    rcases List.mem_append.mp hleft with hold | hnew
    · exact absurd hold hnone
    · cases List.eq_of_mem_replicate hnew
  · intro _ hnil
    rw [hworkers] at hnil
    exact h.some_worker hpresent (List.append_eq_nil_iff.mp hnil).1
  · rw [hthreads]
    exact h.threads
  · rw [hmain]
    nofun
  · rw [hmain]
    nofun
  · rw [hmain]
    simp
  · rw [hcloser]
    intro hm
    have := h.closer hm
    rw [haccepting] at this
    cases this
  · rw [hcloser, hclosing]
    exact h.closes
  · rw [hcloser, hclosing]
    exact hemptied
  · rw [hmain]
    nofun

/-- A worker goes on. -/
lemma Ordered.works (h : r.Ordered) (hmain : r'.main = r.main)
    (hacceptor : r'.acceptor = r.acceptor) (hdone : r'.acceptingDone = r.acceptingDone)
    (hthreads : r'.workerThreads = r.workerThreads) (hcloser : r'.closer = r.closer)
    (hclosing : r'.closing = r.closing) (hqueued : r'.queued = r.queued)
    (hregistered : r.registered = [] → r'.registered = [])
    (hqueue : r.clientQueue = [] → r'.clientQueue = [])
    (hlength : r'.workers.length = r.workers.length)
    (hleft : .returned ∈ r'.workers → r.acceptingDone = true ∧ r.clientQueue = []) :
    r'.Ordered where
  early := by rw [hmain, hacceptor]; exact h.early
  late := by rw [hmain, hacceptor]; exact h.late
  absent := by
    rw [hacceptor, hqueued]
    exact fun habsent => ⟨hregistered (h.absent habsent).1, (h.absent habsent).2⟩
  done := by rw [hdone, hmain]; exact h.done
  left hmem := by
    rw [hdone]
    exact ⟨(hleft hmem).1, hqueue (hleft hmem).2⟩
  some_worker := by
    rw [hacceptor, ← List.length_pos_iff_ne_nil, hlength, List.length_pos_iff_ne_nil]
    exact h.some_worker
  threads := by rw [hthreads]; exact h.threads
  growing := by
    rw [hmain, ← List.length_eq_zero_iff, hlength, List.length_eq_zero_iff]
    exact h.growing
  starting := by
    rw [hmain, ← List.length_pos_iff_ne_nil, hlength, List.length_pos_iff_ne_nil]
    exact h.starting
  closed := by
    rw [hmain, hclosing]
    exact fun hm => ⟨(h.closed hm).1, hregistered (h.closed hm).2⟩
  closer := by rw [hcloser, hmain]; exact h.closer
  closes := by rw [hcloser, hclosing]; exact h.closes
  emptied := by
    rw [hcloser, hclosing]
    exact fun hc hn => hregistered (h.emptied hc hn)
  ended := by
    rw [hmain, hacceptor]
    intro hm
    obtain ⟨hr, hq, ha⟩ := h.ended hm
    exact ⟨hregistered hr, hqueue hq, ha⟩

/-! #### The registry -/

/-- A connection that is registered is closed under its own number. -/
lemma closeRegistered_of_mem {others : List Socket}
    (h : r.ledger.Holds (r.registered ++ others)) {client : Socket} (hmem : client ∈ r.registered) :
    r.closeRegistered client =
      { r with registered := r.registered.erase client, ledger := r.ledger.close client } := by
  unfold closeRegistered
  split
  · next entry hentry =>
    have hin : entry ∈ r.registered := List.mem_of_find?_eq_some hentry
    have hhandle : entry.handle = client.handle := by simpa using List.find?_some hentry
    have heq : entry = client :=
      h.unique (List.mem_append_left _ (List.mem_append_left _ hin))
        (List.mem_append_left _ (List.mem_append_left _ hmem)) hhandle
    rw [heq]
  · next hnone =>
    exact absurd (List.find?_eq_none.mp hnone client hmem) (by simp)

lemma closeRegistered_of_nil (h : r.registered = []) (client : Socket) :
    r.closeRegistered client = r := by
  unfold closeRegistered
  rw [h]
  rfl

/-- The ledger behind a close of what is registered. -/
lemma holds_erase {others : List Socket} (h : r.ledger.Holds (r.registered ++ others))
    {client : Socket} (hmem : client ∈ r.registered) :
    (r.ledger.close client).Holds (r.registered.erase client ++ others) := by
  refine Ledger.Holds.close (h.perm ?_)
  exact (List.perm_cons_erase hmem).append_right _

/-! #### The accept loop -/

lemma Sound.running (h : r.Sound) (hpresent : r.acceptor ≠ .absent)
    (hgoing : r.acceptor ≠ .returned) :
    r.main = .accepting ∧ r.acceptingDone = false ∧ .returned ∉ r.workers :=
  h.ordered.running hpresent hgoing

/-- The accept loop goes on with what it holds. -/
lemma Sound.moves (h : r.Sound) {a : AcceptorAt} (hpresent : r.acceptor ≠ .absent)
    (hgoing : r.acceptor ≠ .returned) (hstays : a ≠ .absent) (hloose : loose a = loose r.acceptor)
    (hkept : kept a ⊆ kept r.acceptor)
    (hwithin : ∀ client limit, a = .adding client limit ∨ a = .pushing client limit →
      r.openConnections < limit) : Sound { r with acceptor := a } where
  ledger := by
    rw [hloose]
    exact h.ledger
  stays j hj := by
    rcases List.mem_append.mp hj with hj | hj
    · exact h.stays j (List.mem_append_left _ (hkept hj))
    · exact h.stays j (List.mem_append_right _ hj)
  once := h.once
  worked := h.worked
  queue := h.queue
  known j hj := by
    rw [hloose] at hj
    rcases List.mem_append.mp hj with hj | hj
    · exact h.known j (List.mem_append_left _ hj)
    · exact h.known j (List.mem_append_right _ (hkept hj))
  fresh j hj := by
    rw [hloose] at hj
    rcases List.mem_append.mp hj with hj | hj
    · exact h.fresh j (List.mem_append_left _ hj)
    · exact h.fresh j (List.mem_append_right _ (hkept hj))
  queuedOnce := h.queuedOnce
  queuedBelow := h.queuedBelow
  active := h.active
  balance := h.balance
  admitted := h.admitted
  within := hwithin
  ordered := h.ordered.goes hpresent hgoing rfl rfl rfl rfl rfl hstays 0 (by simp) h.ordered.emptied

/-- The accept loop closes what it holds, which is not registered. -/
lemma Sound.lets (h : r.Sound) {a : AcceptorAt} {client : Socket} (hpresent : r.acceptor ≠ .absent)
    (hgoing : r.acceptor ≠ .returned) (hstays : a ≠ .absent)
    (hheld : loose r.acceptor = [client]) (hloose : loose a = []) (hkept : kept a = [])
    (hwithin : ∀ client limit, a = .adding client limit ∨ a = .pushing client limit → False) :
    Sound { r with ledger := r.ledger.close client, acceptor := a } where
  ledger := by
    rw [hloose, List.append_nil]
    refine Ledger.Holds.close (h.ledger.perm ?_)
    rw [hheld]
    exact List.perm_append_singleton _ _
  stays := by
    rw [hkept]
    exact fun j hj => h.stays j (List.mem_append_right _ hj)
  once := h.once
  worked := h.worked
  queue := h.queue
  known := by
    rw [hloose, hkept]
    nofun
  fresh := by
    rw [hloose, hkept]
    nofun
  queuedOnce := h.queuedOnce
  queuedBelow := h.queuedBelow
  active := h.active
  balance := h.balance
  admitted := h.admitted
  within c limit hc := (hwithin c limit hc).elim
  ordered := h.ordered.goes hpresent hgoing rfl rfl rfl rfl rfl hstays 0 (by simp) h.ordered.emptied

lemma Sound.accept (h : r.Sound) (htesting : r.acceptor = .testing) {handle : ℕ}
    (hfree : r.ledger.sockets handle = none) :
    Sound { r with ledger := r.ledger.accept handle, acceptor := .accepted (r.ledger.next handle) } where
  ledger := by
    have hledger := h.ledger
    rw [htesting] at hledger
    refine (hledger.accept hfree).perm ?_
    simp only [loose, List.append_nil]
    exact (List.perm_append_singleton _ _).symm
  stays j hj := h.stays j (List.mem_append_right _ hj)
  once := h.once
  worked := h.worked
  queue := h.queue
  known j hj := by
    obtain rfl : j = r.ledger.next handle := by simpa [loose, kept] using hj
    exact Nat.lt_succ_self _
  fresh j hj := by
    obtain rfl : j = r.ledger.next handle := by simpa [loose, kept] using hj
    intro hmem
    obtain ⟨q, hq, heq⟩ := List.mem_map.mp hmem
    have hless := h.queuedBelow q hq
    rw [heq] at hless
    exact absurd hless (Nat.lt_irrefl _)
  queuedOnce := h.queuedOnce
  queuedBelow j hj := Nat.lt_succ_of_lt (h.queuedBelow j hj)
  active := h.active
  balance := h.balance
  admitted := h.admitted
  within := by simp
  ordered := by
    refine h.ordered.goes (by simp [htesting]) (by simp [htesting]) rfl rfl rfl rfl rfl (by simp) 0
      (by simp) h.ordered.emptied

/-- A connection is registered. -/
lemma Sound.registers (h : r.Sound) {client : Socket} {limit : ℕ}
    (hadding : r.acceptor = .adding client limit) (hopen : r.closing = false) :
    Sound { r with registered := r.registered ++ [client], acceptor := .pushing client limit } where
  ledger := by
    have hledger := h.ledger
    rw [hadding] at hledger
    simpa [loose] using hledger
  stays j hj := by
    simp only [kept, List.singleton_append, List.mem_cons] at hj
    rcases hj with rfl | hj
    · exact .inl (List.mem_append_right _ (List.mem_singleton_self _))
    · rcases h.stays j (List.mem_append_right _ hj) with hin | hclosing
      · exact .inl (List.mem_append_left _ hin)
      · rw [hopen] at hclosing
        cases hclosing
  once := h.once
  worked := h.worked
  queue := h.queue
  known j hj := by
    refine h.known j ?_
    rw [hadding]
    simpa [loose, kept] using hj
  fresh j hj := by
    refine h.fresh j ?_
    rw [hadding]
    simpa [loose, kept] using hj
  queuedOnce := h.queuedOnce
  queuedBelow := h.queuedBelow
  active := h.active
  balance := h.balance
  admitted := h.admitted
  within c l hc := by
    refine h.within c l ?_
    rw [hadding]
    simpa using hc
  ordered := by
    refine h.ordered.goes (by simp [hadding]) (by simp [hadding]) rfl rfl rfl rfl rfl (by simp) 0
      (by simp) ?_
    intro hclosing
    rw [hopen] at hclosing
    cases hclosing

/-- A connection is queued, and workers are started for it. -/
lemma Sound.enqueues (h : r.Sound) {client : Socket} {limit : ℕ}
    (hpushing : r.acceptor = .pushing client limit) (started : ℕ) :
    ((r.enqueue client limit).growWorkers started).Sound := by
  have hfresh : client.identity ∉ r.queued.map (·.identity) := by
    refine h.fresh client ?_
    rw [hpushing]
    simp [kept, loose]
  have hactive : ∀ n, (r.workers ++ List.replicate n WorkerAt.waiting).countP isActive = r.activeJobs := by
    intro n
    rw [List.countP_append]
    have hnone : (List.replicate n WorkerAt.waiting).countP isActive = 0 :=
      List.countP_eq_zero.mpr fun w hw => by
        rw [List.eq_of_mem_replicate hw]
        simp [isActive]
    rw [hnone]
    rfl
  have hhandled : ∀ n, (r.workers ++ List.replicate n WorkerAt.waiting).filterMap handled =
      r.workers.filterMap handled := by
    intro n
    rw [List.filterMap_append]
    have hnone : (List.replicate n WorkerAt.waiting).filterMap handled = [] :=
      List.filterMap_eq_nil_iff.mpr fun w hw => by
        rw [List.eq_of_mem_replicate hw]
        rfl
    rw [hnone, List.append_nil]
  set q := (r.enqueue client limit).growWorkers started with hq
  have hnoloose : loose q.acceptor = [] := by
    simp only [hq, growWorkers]
    split_ifs <;> rfl
  have hnokept : kept q.acceptor = [] := by
    simp only [hq, growWorkers]
    split_ifs <;> rfl
  have hworking : q.working.Perm (client :: r.working) := by
    have heq : q.working = r.clientQueue ++ [client] ++ r.workers.filterMap handled := by
      simp only [hq, working, growWorkers, enqueue, hhandled]
    rw [heq, List.append_assoc]
    exact List.perm_middle
  have hledger := h.ledger
  rw [hpushing] at hledger
  refine
    { ledger := by rw [hnoloose]; exact hledger
      stays := fun j hj => ?_
      once := ?_
      worked := fun j hj => ?_
      queue := ?_
      known := by rw [hnoloose, hnokept]; nofun
      fresh := by rw [hnoloose, hnokept]; nofun
      queuedOnce := ?_
      queuedBelow := fun j hj => ?_
      active := h.active.trans (hactive _).symm
      balance := ?_
      admitted := fun a ha => ?_
      within := ?_
      ordered := ?_ }
  · rw [hnokept] at hj
    rcases List.mem_cons.mp (hworking.subset hj) with rfl | hj
    · exact h.stays _ (by rw [hpushing]; simp [kept])
    · exact h.stays j (List.mem_append_right _ hj)
  · refine ((hworking.map _).nodup_iff).mpr ?_
    rw [List.map_cons, List.nodup_cons]
    refine ⟨fun hmem => hfresh ?_, h.once⟩
    obtain ⟨j, hj, heq⟩ := List.mem_map.mp hmem
    exact List.mem_map.mpr ⟨j, h.worked j hj, heq⟩
  · rcases List.mem_cons.mp (hworking.subset hj) with rfl | hj
    · exact List.mem_append_right _ (List.mem_singleton_self _)
    · exact List.mem_append_left _ (h.worked j hj)
  · calc q.taken.map (·.2) ++ q.clientQueue = r.taken.map (·.2) ++ (r.clientQueue ++ [client]) := rfl
      _ = r.queued ++ [client] := by rw [← List.append_assoc, h.queue]
  · have hqueued : q.queued = r.queued ++ [client] := rfl
    rw [hqueued, List.map_append, List.nodup_append]
    refine ⟨h.queuedOnce, by simp, fun i hi j hj => ?_⟩
    rintro rfl
    obtain rfl : i = client.identity := by simpa using hj
    exact hfresh hi
  · rcases List.mem_append.mp hj with hj | hj
    · exact h.queuedBelow j hj
    · obtain rfl := List.mem_singleton.mp hj
      exact h.known j (by rw [hpushing]; simp [kept])
  · have hlength : q.clientQueue.length = r.clientQueue.length + 1 := by
      simp [hq, growWorkers, enqueue]
    have hsame : q.activeJobs = r.activeJobs := hactive _
    have hbalance := h.balance
    have hopen : q.openConnections = r.openConnections + 1 := rfl
    omega
  · rcases List.mem_append.mp ha with ha | ha
    · exact h.admitted a ha
    · obtain rfl := List.mem_singleton.mp ha
      exact h.within client limit (.inr hpushing)
  · simp only [hq, growWorkers]
    split_ifs <;> simp
  · refine h.ordered.goes (by simp [hpushing]) (by simp [hpushing]) rfl rfl rfl rfl rfl ?_ _ rfl
      h.ordered.emptied
    simp only [hq, growWorkers]
    split_ifs <;> simp

/-- The flag plays no part in the accounts. -/
lemma Sound.stops (h : r.Sound) : Sound { r with stopRequested := true } :=
  { h with ordered := { h.ordered with } }

/-- `close_registered`, when nobody works on the connection any more. -/
lemma Sound.closeRegistered (h : r.Sound) {client : Socket}
    (hin : client ∈ r.registered ∨ r.registered = [])
    (hgone : ∀ j ∈ kept r.acceptor ++ r.working, j.identity ≠ client.identity) :
    (r.closeRegistered client).Sound := by
  rcases hin with hmem | hnil
  · rw [closeRegistered_of_mem h.ledger hmem]
    refine { h with ledger := holds_erase h.ledger hmem, stays := fun j hj => ?_, ordered := ?_ }
    · rcases h.stays j hj with hin | hclosing
      · refine .inl ((List.mem_erase_of_ne ?_).mpr hin)
        rintro rfl
        exact hgone j hj rfl
      · exact .inr hclosing
    · refine h.ordered.works rfl rfl rfl rfl rfl rfl rfl (fun hnil => ?_) id rfl h.ordered.left
      rw [hnil] at hmem
      cases hmem
  · rw [closeRegistered_of_nil hnil]
    exact h

/-- What was registered is registered still, unless the registry is closed. -/
lemma Sound.registered (h : r.Sound) {j : Socket} (hj : j ∈ kept r.acceptor ++ r.working)
    (hfree : r.closer = none) : j ∈ r.registered ∨ r.registered = [] := by
  rcases h.stays j hj with hin | hclosing
  · exact .inl hin
  · exact .inr (h.ordered.emptied hclosing hfree)

lemma Sound.acceptorStep (h : r.Sound) (i : AcceptorStep) : (r.acceptorStep i).Sound := by
  unfold ServerRun.acceptorStep
  cases i with
  | test =>
    dsimp only
    split_ifs with hc
    · exact h.moves (by simp [hc]) (by simp [hc]) (by simp) (by rw [hc.1]; rfl) (List.nil_subset _)
        (by simp)
    · exact h
  | listenerFails =>
    dsimp only
    split_ifs with hc
    · exact h.moves (by simp [hc]) (by simp [hc]) (by simp) (by rw [hc]; rfl) (List.nil_subset _) (by simp)
    · exact h
  | accept handle =>
    dsimp only
    split_ifs with hc
    · exact h.accept hc.1 hc.2
    · exact h
  | admitClient =>
    dsimp only
    split
    · next client hc =>
      split_ifs with hroom
      · refine h.moves (by simp [hc]) (by simp [hc]) (by simp) (by rw [hc]; rfl) (List.nil_subset _) ?_
        intro c limit hlimit
        simp only [AcceptorAt.adding.injEq, reduceCtorEq, or_false] at hlimit
        rw [← hlimit.2]
        exact hroom
      · exact h.moves (by simp [hc]) (by simp [hc]) (by simp) (by rw [hc]; rfl) (List.nil_subset _)
          (by simp)
    · exact h
  | add threw =>
    dsimp only
    split
    · next client limit hc hfree =>
      unfold ServerRun.add
      split_ifs with hthrew hclosing
      · exact h.moves (by simp [hc]) (by simp [hc]) (by simp) (by rw [hc]; rfl) (List.nil_subset _)
          (by simp)
      · exact h.moves (by simp [hc]) (by simp [hc]) (by simp) (by rw [hc]; rfl) (List.nil_subset _)
          (by simp)
      · exact h.registers hc (by simpa using hclosing)
    · exact h
  | push threw started =>
    dsimp only
    split
    · next client limit hc =>
      split_ifs with hthrew
      · exact h.moves (by simp [hc]) (by simp [hc]) (by simp) (by rw [hc]; rfl)
          (by rw [hc]; exact List.Subset.refl _) (by simp)
      · exact h.enqueues hc started
    · exact h
  | release =>
    dsimp only
    split
    · next client hc =>
      exact h.lets (by simp [hc]) (by simp [hc]) (by simp) (by rw [hc]; rfl) rfl rfl (by simp)
    · next client hc hfree =>
      have hheld : client ∈ kept r.acceptor := by
        rw [hc]
        simp [kept]
      have hnext : Sound { r with acceptor := .failing } :=
        h.moves (by simp [hc]) (by simp [hc]) (by simp) (by rw [hc]; rfl) (List.nil_subset _) (by simp)
      refine hnext.closeRegistered (h.registered (List.mem_append_left _ hheld) hfree) ?_
      -- the connection was never queued
      intro j hj heq
      refine h.fresh client (List.mem_append_right _ hheld) ?_
      rw [← heq]
      exact List.mem_map_of_mem (h.worked j hj)
    · exact h
  | fail =>
    dsimp only
    split_ifs with hc
    · have hnext : Sound { r with acceptor := .returned } :=
        h.moves (by simp [hc]) (by simp [hc]) (by simp) (by rw [hc]; rfl) (List.nil_subset _) (by simp)
      exact hnext.stops
    · exact h
  | decline =>
    dsimp only
    split
    · next client hc =>
      exact h.lets (by simp [hc]) (by simp [hc]) (by simp) (by rw [hc]; rfl) rfl rfl (by simp)
    · exact h
  | recordScale threw =>
    dsimp only
    split_ifs with hc hthrew
    · exact h.moves (by simp [hc]) (by simp [hc]) (by simp) (by rw [hc]; rfl) (List.nil_subset _)
        (by simp)
    · exact h.moves (by simp [hc]) (by simp [hc]) (by simp) (by rw [hc]; rfl) (List.nil_subset _)
        (by simp)
    · exact h
  | reject =>
    dsimp only
    split
    · next client hc =>
      exact h.lets (by simp [hc]) (by simp [hc]) (by simp) (by rw [hc]; rfl) rfl rfl (by simp)
    · exact h

/-! #### The workers -/

/-- A worker among the others. -/
lemma exists_others {i : ℕ} {w : WorkerAt} (hw : r.workers[i]? = some w) :
    ∃ before after, r.workers = before ++ w :: after ∧
      ∀ v, r.workers.set i v = before ++ v :: after := by
  obtain ⟨hi, rfl⟩ := List.getElem?_eq_some_iff.mp hw
  refine ⟨r.workers.take i, r.workers.drop (i + 1), ?_, fun v => ?_⟩
  · rw [← List.drop_eq_getElem_cons hi, List.take_append_drop]
  · rw [List.set_eq_take_append_cons_drop, if_pos hi]

/-- A worker goes from one place to another; the others stay. -/
lemma mem_set {i : ℕ} {v : WorkerAt} (hv : v ≠ .returned) (hmem : .returned ∈ r.workers.set i v) :
    .returned ∈ r.workers := by
  rcases List.mem_or_eq_of_mem_set hmem with hmem | heq
  · exact hmem
  · exact absurd heq.symm hv

lemma Sound.take (h : r.Sound) {i : ℕ} (hw : r.workers[i]? = some .waiting) {job : Socket}
    {rest : List Socket} (hqueue : r.clientQueue = job :: rest) :
    Sound { r with
      clientQueue := rest
      taken := r.taken ++ [(i, job)]
      activeWorkerCount := r.activeWorkerCount + 1
      workers := r.workers.set i (.handling job) } := by
  obtain ⟨before, after, hworkers, hset⟩ := exists_others hw
  have hworking : (rest ++ (r.workers.set i (.handling job)).filterMap handled).Perm r.working := by
    rw [hset, working, hqueue, hworkers, List.filterMap_append, List.filterMap_append,
      List.filterMap_cons_some (show handled (.handling job) = some job from rfl),
      List.filterMap_cons_none (show handled .waiting = none from rfl), ← List.append_assoc]
    refine List.perm_middle.trans ?_
    rw [List.append_assoc, List.cons_append]
  have hactive : (r.workers.set i (.handling job)).countP isActive = r.activeJobs + 1 := by
    rw [hset, activeJobs, hworkers]
    simp [List.countP_append, List.countP_cons, isActive]
    omega
  have hbalance := h.balance
  rw [hqueue, List.length_cons] at hbalance
  refine
    { h with
      stays := fun j hj => ?_
      once := ((hworking.map _).nodup_iff).mpr h.once
      worked := fun j hj => h.worked j (hworking.subset hj)
      queue := ?_
      active := ?_
      balance := ?_
      ordered := ?_ }
  · rcases List.mem_append.mp hj with hj | hj
    · exact h.stays j (List.mem_append_left _ hj)
    · exact h.stays j (List.mem_append_right _ (hworking.subset hj))
  · rw [← h.queue, hqueue]
    simp
  · rw [activeJobs, hactive, h.active]
  · rw [activeJobs, hactive]
    dsimp only
    omega
  · refine h.ordered.works rfl rfl rfl rfl rfl rfl rfl id ?_ List.length_set fun hmem => ?_
    · rw [hqueue]
      nofun
    · exact h.ordered.left (mem_set (by simp) hmem)

lemma Sound.handled (h : r.Sound) {i : ℕ} {job : Socket}
    (hw : r.workers[i]? = some (.handling job)) (hfree : r.closer = none) :
    ({ r with workers := r.workers.set i (.finishing job) }.closeRegistered job).Sound := by
  obtain ⟨before, after, hworkers, hset⟩ := exists_others hw
  set d : ServerRun := { r with workers := r.workers.set i (.finishing job) } with hd
  have hworking : r.working.Perm (job :: d.working) := by
    simp only [hd, working, hset]
    rw [hworkers, List.filterMap_append, List.filterMap_append,
      List.filterMap_cons_some (show ServerRun.handled (.handling job) = some job from rfl),
      List.filterMap_cons_none (show ServerRun.handled (.finishing job) = none from rfl),
      ← List.append_assoc, ← List.append_assoc]
    exact List.perm_middle
  have hsubset : d.working ⊆ r.working := fun j hj => hworking.symm.subset (List.mem_cons_of_mem _ hj)
  have honce : (job.identity :: d.working.map (·.identity)).Nodup := ((hworking.map _).nodup_iff).mp h.once
  rw [List.nodup_cons] at honce
  have hin : job ∈ r.working := hworking.symm.subset List.mem_cons_self
  have hactive : d.activeJobs = r.activeJobs := by
    simp only [hd, activeJobs, hset]
    rw [hworkers]
    simp [List.countP_append, List.countP_cons, isActive]
  have hsound : d.Sound := by
    refine
      { h with
        stays := fun j hj => ?_
        once := honce.2
        worked := fun j hj => h.worked j (hsubset hj)
        active := h.active.trans hactive.symm
        balance := ?_
        ordered := ?_ }
    · rcases List.mem_append.mp hj with hj | hj
      · exact h.stays j (List.mem_append_left _ hj)
      · exact h.stays j (List.mem_append_right _ (hsubset hj))
    · rw [hactive]
      exact h.balance
    · exact h.ordered.works rfl rfl rfl rfl rfl rfl rfl id id List.length_set
        fun hmem => h.ordered.left (mem_set (by simp) hmem)
  refine hsound.closeRegistered (h.registered (List.mem_append_right _ hin) hfree) ?_
  intro j hj heq
  rcases List.mem_append.mp hj with hj | hj
  · -- what the accept loop holds was never queued
    refine h.fresh j (List.mem_append_right _ hj) ?_
    rw [heq]
    exact List.mem_map_of_mem (h.worked job hin)
  · exact honce.1 (heq ▸ List.mem_map_of_mem hj)

lemma Sound.finish (h : r.Sound) {i : ℕ} {job : Socket}
    (hw : r.workers[i]? = some (.finishing job)) :
    Sound { r with
      activeWorkerCount := r.activeWorkerCount - 1
      openConnections := r.openConnections - 1
      workers := r.workers.set i .waiting } := by
  obtain ⟨before, after, hworkers, hset⟩ := exists_others hw
  have hworking : r.clientQueue ++ (r.workers.set i .waiting).filterMap ServerRun.handled = r.working := by
    rw [hset, working, hworkers, List.filterMap_append, List.filterMap_append,
      List.filterMap_cons_none (show ServerRun.handled (.finishing job) = none from rfl),
      List.filterMap_cons_none (show ServerRun.handled .waiting = none from rfl)]
  have hactive : (r.workers.set i .waiting).countP isActive + 1 = r.activeJobs := by
    rw [hset, activeJobs, hworkers]
    simp [List.countP_append, List.countP_cons, isActive]
    omega
  have hcount := h.active
  have hbalance := h.balance
  refine
    { h with
      stays := ?_
      once := ?_
      worked := ?_
      active := ?_
      balance := ?_
      within := fun c limit hc => ?_
      ordered := ?_ }
  · simp only [working, hworking]
    exact h.stays
  · simp only [working, hworking]
    exact h.once
  · simp only [working, hworking]
    exact h.worked
  · simp only [activeJobs]
    omega
  · simp only [activeJobs]
    omega
  · have hless := h.within c limit hc
    dsimp only
    omega
  · exact h.ordered.works rfl rfl rfl rfl rfl rfl rfl id id List.length_set
      fun hmem => h.ordered.left (mem_set (by simp) hmem)

lemma Sound.leave (h : r.Sound) {i : ℕ} (hw : r.workers[i]? = some .waiting)
    (hdone : r.acceptingDone = true) (hempty : r.clientQueue = []) :
    Sound { r with workers := r.workers.set i .returned } := by
  obtain ⟨before, after, hworkers, hset⟩ := exists_others hw
  have hworking : r.clientQueue ++ (r.workers.set i .returned).filterMap ServerRun.handled = r.working := by
    rw [hset, working, hworkers, List.filterMap_append, List.filterMap_append,
      List.filterMap_cons_none (show ServerRun.handled .returned = none from rfl),
      List.filterMap_cons_none (show ServerRun.handled .waiting = none from rfl)]
  have hactive : (r.workers.set i .returned).countP isActive = r.activeJobs := by
    rw [hset, activeJobs, hworkers]
    simp [List.countP_append, isActive]
  refine
    { h with
      stays := ?_
      once := ?_
      worked := ?_
      active := ?_
      balance := ?_
      ordered := ?_ }
  · simp only [working, hworking]
    exact h.stays
  · simp only [working, hworking]
    exact h.once
  · simp only [working, hworking]
    exact h.worked
  · simp only [activeJobs, hactive, h.active]
  · simp only [activeJobs, hactive, h.balance]
  · exact h.ordered.works rfl rfl rfl rfl rfl rfl rfl id id List.length_set fun _ => ⟨hdone, hempty⟩

lemma Sound.workerStep (h : r.Sound) (i : ℕ) (step : WorkerStep) : (r.workerStep i step).Sound := by
  unfold ServerRun.workerStep
  split
  · next hw =>
    split
    · next job rest hfree hqueue => exact h.take hw hqueue
    · exact h
  · next job hw =>
    split_ifs with hfree
    · exact h.handled hw hfree
    · exact h
  · next job hw =>
    split_ifs with hinside
    · exact h
    · exact h.finish hw
  · next hw =>
    split_ifs with hc
    · exact h.leave hw hc.1 hc.2.1
    · exact h
  · exact h

/-! #### The run -/

/-- Before the accept loop there is nothing to work on. -/
lemma Sound.idle (h : r.Sound) (habsent : r.acceptor = .absent) :
    r.registered = [] ∧ r.clientQueue = [] ∧ r.working = [] := by
  obtain ⟨hregistered, hqueued⟩ := h.ordered.absent habsent
  have hworking : r.working = [] := by
    refine List.eq_nil_iff_forall_not_mem.mpr fun j hj => ?_
    have hin := h.worked j hj
    rw [hqueued] at hin
    cases hin
  exact ⟨hregistered, (List.append_eq_nil_iff.mp hworking).1, hworking⟩

lemma Sound.grow (h : r.Sound) (hgrowing : r.main = .growing) (started : ℕ) :
    Sound { r with
      workers := List.replicate (min started (min r.workerThreads 8)) .waiting
      main := if started < min r.workerThreads 8 then .abandoning else .starting } := by
  have habsent := h.ordered.early (.inl hgrowing)
  have hnone : ∀ n, r.clientQueue ++ (List.replicate n WorkerAt.waiting).filterMap ServerRun.handled =
      r.working := by
    intro n
    have hnil : (List.replicate n WorkerAt.waiting).filterMap ServerRun.handled = [] :=
      List.filterMap_eq_nil_iff.mpr fun w hw => by
        rw [List.eq_of_mem_replicate hw]
        rfl
    rw [hnil, (h.idle habsent).2.1, (h.idle habsent).2.2, List.append_nil]
  have hactive : ∀ n, (List.replicate n WorkerAt.waiting).countP isActive = r.activeJobs := by
    intro n
    rw [activeJobs, h.ordered.growing hgrowing, List.countP_nil]
    exact List.countP_eq_zero.mpr fun w hw => by
      rw [List.eq_of_mem_replicate hw]
      simp [isActive]
  refine
    { h with
      stays := ?_
      once := ?_
      worked := ?_
      active := h.active.trans (hactive _).symm
      balance := h.balance.trans (congrArg (r.clientQueue.length + ·) (hactive _).symm)
      ordered := ?_ }
  · simp only [working, hnone]
    exact h.stays
  · simp only [working, hnone]
    exact h.once
  · simp only [working, hnone]
    exact h.worked
  · have hnotdone : r.acceptingDone ≠ true :=
      h.ordered.not_done (by simp [hgrowing]) (by simp [hgrowing]) (by simp [hgrowing])
    have hnotclosing : r.closer ≠ some .main := fun hc => by simpa [hgrowing] using h.ordered.closer hc
    have hthreads := h.ordered.threads
    split_ifs with hfew
    · exact
        { h.ordered with
          early := fun _ => habsent
          late := by simp
          done := fun hdone => absurd hdone hnotdone
          left := fun hmem => by cases List.eq_of_mem_replicate hmem
          some_worker := fun hpresent => absurd habsent hpresent
          growing := nofun
          starting := nofun
          closed := by simp
          closer := fun hc => absurd hc hnotclosing
          ended := nofun }
    · exact
        { h.ordered with
          early := fun _ => habsent
          late := by simp
          done := fun hdone => absurd hdone hnotdone
          left := fun hmem => by cases List.eq_of_mem_replicate hmem
          some_worker := fun hpresent => absurd habsent hpresent
          growing := nofun
          starting := fun _ hnil => by
            have hlength := congrArg List.length hnil
            rw [List.length_replicate, List.length_nil] at hlength
            omega
          closed := by simp
          closer := fun hc => absurd hc hnotclosing
          ended := nofun }

lemma Sound.startAcceptor (h : r.Sound) (hstarting : r.main = .starting) :
    Sound { r with acceptor := .testing, main := .accepting } := by
  have habsent := h.ordered.early (.inr (.inl hstarting))
  have hledger := h.ledger
  have hfresh := h.fresh
  have hknown := h.known
  have hstays := h.stays
  rw [habsent] at hledger hfresh hknown hstays
  refine
    { h with
      ledger := hledger
      stays := hstays
      known := hknown
      fresh := hfresh
      within := by simp
      ordered := ?_ }
  have hnotdone : r.acceptingDone ≠ true :=
    h.ordered.not_done (by simp [hstarting]) (by simp [hstarting]) (by simp [hstarting])
  exact
    { h.ordered with
      early := by simp
      late := by simp
      absent := nofun
      done := fun hdone => absurd hdone hnotdone
      some_worker := fun _ => h.ordered.starting hstarting
      growing := nofun
      starting := nofun
      closed := by simp
      closer := fun hc => by simpa [hstarting] using h.ordered.closer hc
      ended := nofun }

/-- The accept loop could not be started. -/
lemma Sound.abandons (h : r.Sound) (hstarting : r.main = .starting) :
    Sound { r with stopRequested := true, main := .abandoning } := by
  have habsent := h.ordered.early (.inr (.inl hstarting))
  have hnotdone : r.acceptingDone ≠ true :=
    h.ordered.not_done (by simp [hstarting]) (by simp [hstarting]) (by simp [hstarting])
  exact
    { h with ordered := { h.ordered with
        early := fun _ => habsent
        late := by simp
        done := fun hdone => absurd hdone hnotdone
        growing := nofun
        starting := nofun
        closed := by simp
        closer := fun hc => by simpa [hstarting] using h.ordered.closer hc
        ended := nofun } }

lemma Sound.abandon (h : r.Sound) (habandoning : r.main = .abandoning) :
    Sound { r with acceptingDone := true, main := .abandoned } := by
  have habsent := h.ordered.early (.inr (.inr (.inl habandoning)))
  exact
    { h with ordered := { h.ordered with
        early := fun _ => habsent
        late := by simp
        done := fun _ => .inl rfl
        left := fun _ => ⟨rfl, (h.idle habsent).2.1⟩
        growing := nofun
        starting := nofun
        closed := by simp
        closer := fun hc => by simpa [habandoning] using h.ordered.closer hc
        ended := nofun } }

lemma Sound.joinAcceptor (h : r.Sound) (haccepting : r.main = .accepting)
    (hreturned : r.acceptor = .returned) : Sound { r with main := .closing } := by
  have hnotdone : r.acceptingDone ≠ true :=
    h.ordered.not_done (by simp [haccepting]) (by simp [haccepting]) (by simp [haccepting])
  exact
    { h with ordered := { h.ordered with
        early := by simp
        late := fun _ => hreturned
        done := fun hdone => absurd hdone hnotdone
        growing := nofun
        starting := nofun
        closed := by simp
        closer := fun _ => rfl
        ended := nofun } }

/-- `close_all` begins: what is registered is closed from now on. -/
lemma Sound.closes (h : r.Sound) {closer : Closer} (hcloser : closer = .main → r.main = .closing)
    (hopen : r.main = .announcing ∨ r.main = .joining → r.registered = []) :
    Sound { r with closing := true, closer := some closer } :=
  { h with
    stays := fun _ _ => .inr rfl
    ordered := { h.ordered with
      closed := fun hm => ⟨rfl, hopen hm⟩
      closer := fun hc => hcloser (Option.some.inj hc)
      closes := fun _ => rfl
      emptied := nofun } }

lemma Sound.announce (h : r.Sound) (hannouncing : r.main = .announcing) :
    Sound { r with acceptingDone := true, main := .joining } := by
  have hreturned := h.ordered.late (.inr (.inl hannouncing))
  have hclosed := h.ordered.closed (.inl hannouncing)
  have hnotdone : r.acceptingDone ≠ true :=
    h.ordered.not_done (by simp [hannouncing]) (by simp [hannouncing]) (by simp [hannouncing])
  exact
    { h with ordered := { h.ordered with
        early := by simp
        late := fun _ => hreturned
        done := fun _ => .inr (.inl rfl)
        left := fun hmem => absurd (h.ordered.left hmem).1 hnotdone
        growing := nofun
        starting := nofun
        closed := fun _ => hclosed
        closer := fun hc => by simpa [hannouncing] using h.ordered.closer hc
        ended := nofun } }

/-- The workers have returned, and so has the run. -/
lemma Sound.join (h : r.Sound) (hreturned : ∀ w ∈ r.workers, w = .returned)
    (hm : r.main = .joining ∨ r.main = .abandoned) (shutdown : Bool) :
    Sound { r with clientShutdown := shutdown, main := .returned } := by
  have hended : r.registered = [] ∧ r.clientQueue = [] ∧
      (r.acceptor = .absent ∨ r.acceptor = .returned) := by
    rcases hm with hjoining | habandoned
    · have hacceptor := h.ordered.late (.inr (.inr hjoining))
      -- there is a worker, and it found the queue empty
      obtain ⟨w, hw⟩ := List.exists_mem_of_ne_nil _ (h.ordered.some_worker (by simp [hacceptor]))
      have hmem : .returned ∈ r.workers := hreturned w hw ▸ hw
      exact ⟨(h.ordered.closed (.inr hjoining)).2, (h.ordered.left hmem).2, .inr hacceptor⟩
    · have habsent := h.ordered.early (.inr (.inr (.inr habandoned)))
      exact ⟨(h.idle habsent).1, (h.idle habsent).2.1, .inl habsent⟩
  have hcloser : r.closer ≠ some .main := by
    intro hc
    rcases hm with hm | hm
    · simpa [hm] using h.ordered.closer hc
    · simpa [hm] using h.ordered.closer hc
  exact
    { h with ordered := { h.ordered with
        early := by simp
        late := by simp
        done := fun _ => .inr (.inr rfl)
        growing := nofun
        starting := nofun
        closed := by simp
        closer := fun hc => absurd hc hcloser
        ended := fun _ => hended } }

lemma Sound.mainStep (h : r.Sound) (i : MainStep) : (r.mainStep i).Sound := by
  unfold ServerRun.mainStep
  cases i with
  | grow started =>
    dsimp only
    by_cases hc : r.main = .growing
    · rw [if_pos hc]
      exact h.grow hc started
    · rw [if_neg hc]
      exact h
  | startAcceptor succeeded =>
    dsimp only
    split_ifs with hc hok
    · exact h.startAcceptor hc
    · exact h.abandons hc
    · exact h
  | abandon =>
    dsimp only
    split_ifs with hc
    · exact h.abandon hc
    · exact h
  | joinAcceptor =>
    dsimp only
    split_ifs with hc
    · exact h.joinAcceptor hc.1 hc.2
    · exact h
  | closeClients =>
    dsimp only
    split_ifs with hc
    · exact h.closes (fun _ => hc.1) (by simp [hc.1])
    · exact h
  | announce =>
    dsimp only
    split_ifs with hc
    · exact h.announce hc
    · exact h
  | join =>
    dsimp only
    split_ifs with hc hd
    · exact h.join hc.1 (.inl hc.2) false
    · exact h.join hd.1 (.inr hd.2) r.clientShutdown
    · exact h

/-! #### The registry is closed, and the rest -/

/-- The next socket of the registry is closed. -/
lemma Sound.closeFirst (h : r.Sound) {closer : Closer} (hcloser : r.closer = some closer)
    {client : Socket} {rest : List Socket} (hregistered : r.registered = client :: rest) :
    Sound { r with registered := rest, ledger := r.ledger.close client } := by
  have hclosing : r.closing = true := h.ordered.closes (by simp [hcloser])
  have hledger := h.ledger
  rw [hregistered] at hledger
  have hnotempty : r.registered ≠ [] := by simp [hregistered]
  exact
    { h with
      ledger := hledger.close
      stays := fun _ _ => .inr hclosing
      ordered := { h.ordered with
        absent := fun habsent => absurd (h.ordered.absent habsent).1 hnotempty
        closed := fun hm => absurd (h.ordered.closed hm).2 hnotempty
        emptied := fun hc hnone => absurd (h.ordered.emptied hc hnone) hnotempty
        ended := fun hm => absurd (h.ordered.ended hm).1 hnotempty } }

lemma Sound.closeNext (h : r.Sound) : r.closeNext.Sound := by
  unfold ServerRun.closeNext
  split
  · next closer client rest hcloser hregistered => exact h.closeFirst hcloser hregistered
  · next hcloser hregistered =>
    exact
      { h with ordered := { h.ordered with
          closer := nofun
          closes := fun hc => absurd rfl hc
          emptied := fun _ _ => hregistered } }
  · next hcloser hregistered =>
    have hmain := h.ordered.closer hcloser
    have hacceptor := h.ordered.late (.inl hmain)
    have hclosing : r.closing = true := h.ordered.closes (by simp [hcloser])
    have hnotdone : r.acceptingDone ≠ true :=
      h.ordered.not_done (by simp [hmain]) (by simp [hmain]) (by simp [hmain])
    exact
      { h with ordered := { h.ordered with
          early := by simp
          late := fun _ => hacceptor
          done := fun hdone => absurd hdone hnotdone
          growing := nofun
          starting := nofun
          closed := fun _ => ⟨hclosing, hregistered⟩
          closer := nofun
          closes := fun hc => absurd rfl hc
          emptied := fun _ _ => hregistered
          ended := nofun } }
  · exact h

/-- Sockets of others change nothing, but the next identity. -/
lemma Sound.beside (h : r.Sound) {l : Ledger} (hledger : l.Holds (r.registered ++ loose r.acceptor))
    (hopened : r.ledger.opened ≤ l.opened) : Sound { r with ledger := l } :=
  { h with
    ledger := hledger
    known := fun j hj => Nat.lt_of_lt_of_le (h.known j hj) hopened
    queuedBelow := fun j hj => Nat.lt_of_lt_of_le (h.queuedBelow j hj) hopened
    ordered := { h.ordered with } }

/-- **What a step keeps.** -/
lemma Sound.step (h : r.Sound) (i : RunStep) : (r.step i).Sound := by
  cases i with
  | acceptor step => exact h.acceptorStep step
  | worker i step => exact h.workerStep i step
  | main step => exact h.mainStep step
  | requestStop => exact { h with ordered := { h.ordered with } }
  | signal => exact h.stops
  | shutdownClients =>
    unfold ServerRun.step
    dsimp only
    split_ifs with hc
    · have hnext : Sound { r with shutdowns := r.shutdowns - 1 } :=
        { h with ordered := { h.ordered with } }
      exact @Sound.closes _ hnext .request nofun fun hm => (h.ordered.closed hm).2
    · exact h
  | closeNext => exact h.closeNext
  | reload maxConnections => exact { h with ordered := { h.ordered with } }
  | connect handle =>
    refine h.beside (h.ledger.connect handle) ?_
    unfold Ledger.connect
    split
    · exact Nat.le_succ _
    · exact Nat.le_refl _
  | disconnect i =>
    refine h.beside (h.ledger.disconnect i) ?_
    unfold Ledger.disconnect
    split <;> exact Nat.le_refl _

end Steps

lemma sound_start (config : RunConfig) : (start config).Sound where
  ledger := ⟨nofun, nofun, List.nodup_nil, List.Perm.refl _, nofun⟩
  stays := nofun
  once := List.nodup_nil
  worked := nofun
  queue := rfl
  known := nofun
  fresh := nofun
  queuedOnce := List.nodup_nil
  queuedBelow := nofun
  active := rfl
  balance := rfl
  admitted := nofun
  within := by simp [start]
  ordered :=
    { early := fun _ => rfl
      late := by simp [start]
      absent := fun _ => ⟨rfl, rfl⟩
      done := nofun
      left := nofun
      some_worker := fun hpresent => absurd rfl hpresent
      threads := config.some_worker
      growing := fun _ => rfl
      starting := nofun
      closed := by simp [start]
      closer := nofun
      closes := fun hc => absurd rfl hc
      emptied := nofun
      ended := nofun }

/-- The accounts of a run whose threads are in order. -/
lemma Sound.accounted {r : ServerRun} (h : r.Sound) : r.Accounted where
  own := h.ledger.own
  once := h.ledger.once
  all hreturned s hs := by
    obtain ⟨hregistered, -, hacceptor⟩ := h.ordered.ended hreturned
    have hledger := h.ledger
    have hloose : loose r.acceptor = [] := by
      rcases hacceptor with habsent | hdone
      · rw [habsent]
        rfl
      · rw [hdone]
        rfl
    rw [hregistered, hloose] at hledger
    exact hledger.closed hs
  taken := ⟨h.queue, h.queuedOnce⟩
  drained hreturned := (h.ordered.ended hreturned).2.1
  balance := h.balance
  active := h.active
  positive job hmem := by
    have hcount : 0 < r.activeJobs := List.countP_pos_iff.mpr ⟨_, hmem, rfl⟩
    have hactive := h.active
    have hbalance := h.balance
    exact ⟨by omega, by omega⟩
  admitted := h.admitted

/-- **The accounts of a server are right in every run**, whatever fails and whenever it is
stopped. -/
theorem connections_accounted (config : RunConfig) (steps : List RunStep) :
    (steps.foldl step (start config)).Accounted := by
  have hsound : (steps.foldl step (start config)).Sound :=
    @keeps_run _ _ step _ Sound (fun _ i h => h.step i) steps (sound_start config)
  exact hsound.accounted

end ServerRun

end CcsTrans.Server
