import CcsTrans.Runs
import Mathlib.Data.List.Nodup
import Mathlib.Data.List.Perm.Basic
import Mathlib.Logic.Function.Basic

/-!
The connections of a running server.

Sockets are known by numbers. A number that is closed may be given to any socket that is opened
later: to the next connection, or to one that a transport opens upstream. Here every socket also
has an identity of its own, so that it can be said which of them a number leads to.

The accept loop registers each connection and queues it as a job; a worker receives and sends
through the number of its job and closes it in the end, if it is still registered. When the
server stops, all that is registered is closed, also under a worker.
-/

namespace CcsTrans.Server

open CcsTrans.Runs

/-! ### The state -/

/-- A number together with the identity of the socket that it was given to. -/
structure Socket where
  handle : ℕ
  identity : ℕ
  deriving DecidableEq

/-- What the accept loop is at. -/
inductive Acceptor where
  | waiting
  | accepted (client : Socket)
  /-- There are too many connections: this one is answered and closed. -/
  | rejecting (client : Socket)
  | returned
  deriving DecidableEq

/-- What a worker is at: it reads the request, where it looks at the stop flag before each
receive, or it answers. -/
inductive Stage where
  | reading
  | checked
  | answering
  deriving DecidableEq

structure Worker where
  job : Socket
  stage : Stage := .reading

structure Connections where
  /-- The sockets that are open, by number. -/
  sockets : ℕ → Option ℕ := fun _ => none
  opened : ℕ := 0
  stopRequested : Bool := false
  /-- The registry. -/
  registered : List ℕ := []
  closing : Bool := false
  acceptor : Acceptor := .waiting
  clientQueue : List Socket := []
  workers : List Worker := []
  /-- The sockets that transports have opened. -/
  upstream : List Socket := []
  /-- Each transfer of a worker: its job, and the identity of the socket it reached. -/
  transfers : List (Socket × ℕ) := []

/-- How the accept loop deals with a connection. -/
inductive Admission where
  | queued
  /-- An exception before the connection is registered, or after it. -/
  | failed (registered : Bool)
  | full

inductive ConnectionStep where
  /-- The number is the operating system's choice. -/
  | accept (handle : ℕ)
  | admitClient (admission : Admission)
  | rejected
  | acceptorReturns
  | take
  | check (i : ℕ)
  | receive (i : ℕ)
  /-- The request is read, or is refused. -/
  | answer (i : ℕ)
  | send (i : ℕ)
  | finish (i : ℕ)
  | connect (handle : ℕ)
  | disconnect (i : ℕ)
  /-- `request_stop`, and whatever else sets the flag. -/
  | stop
  | closeAll

namespace Connections

/-! ### The operating system -/

def opensAs (c : Connections) (handle : ℕ) : Connections :=
  { c with sockets := Function.update c.sockets handle (some c.opened), opened := c.opened + 1 }

def closeSocket (c : Connections) (handle : ℕ) : Connections :=
  { c with sockets := Function.update c.sockets handle none }

/-- A worker receives or sends: a number that is not open gives an error. -/
def transfer (c : Connections) (job : Socket) : Connections :=
  match c.sockets job.handle with
  | some identity => { c with transfers := c.transfers ++ [(job, identity)] }
  | none => c

/-! ### The registry -/

def closeRegistered (c : Connections) (handle : ℕ) : Connections :=
  if handle ∈ c.registered then
    { c with registered := c.registered.erase handle }.closeSocket handle
  else c

def closeAll (c : Connections) : Connections :=
  { c with
    closing := true
    sockets := fun handle => if handle ∈ c.registered then none else c.sockets handle
    registered := [] }

/-! ### The threads -/

def accept (c : Connections) (handle : ℕ) : Connections :=
  match c.acceptor, c.sockets handle with
  | .waiting, none => { c.opensAs handle with acceptor := .accepted ⟨handle, c.opened⟩ }
  | _, _ => c

def admitClient (c : Connections) (admission : Admission) : Connections :=
  match c.acceptor with
  | .accepted client =>
    match admission with
    | .full => { c with acceptor := .rejecting client }
    | .failed false =>
      { c.closeSocket client.handle with acceptor := .returned, stopRequested := true }
    | .queued =>
      if c.closing then { c.closeSocket client.handle with acceptor := .returned }
      else
        { c with
          registered := c.registered ++ [client.handle]
          clientQueue := c.clientQueue ++ [client]
          acceptor := .waiting }
    | .failed true =>
      if c.closing then { c.closeSocket client.handle with acceptor := .returned }
      else
        { { c with registered := c.registered ++ [client.handle] }.closeRegistered client.handle with
          acceptor := .returned, stopRequested := true }
  | _ => c

def rejected (c : Connections) : Connections :=
  match c.acceptor with
  | .rejecting client => { c.closeSocket client.handle with acceptor := .waiting }
  | _ => c

def acceptorReturns (c : Connections) : Connections :=
  match c.acceptor with
  | .waiting => if c.stopRequested then { c with acceptor := .returned } else c
  | _ => c

def take (c : Connections) : Connections :=
  match c.clientQueue with
  | [] => c
  | job :: jobs => { c with clientQueue := jobs, workers := c.workers ++ [{ job }] }

def check (c : Connections) (i : ℕ) : Connections :=
  match c.workers[i]? with
  | some ⟨job, .reading⟩ =>
    if c.stopRequested then c else { c with workers := c.workers.set i ⟨job, .checked⟩ }
  | _ => c

def receive (c : Connections) (i : ℕ) : Connections :=
  match c.workers[i]? with
  | some ⟨job, .checked⟩ => { c with workers := c.workers.set i ⟨job, .reading⟩ }.transfer job
  | _ => c

def answer (c : Connections) (i : ℕ) : Connections :=
  match c.workers[i]? with
  | some ⟨job, .reading⟩ => { c with workers := c.workers.set i ⟨job, .answering⟩ }
  | _ => c

def send (c : Connections) (i : ℕ) : Connections :=
  match c.workers[i]? with
  | some ⟨job, .answering⟩ => c.transfer job
  | _ => c

def finish (c : Connections) (i : ℕ) : Connections :=
  match c.workers[i]? with
  | some ⟨_, .checked⟩ => c
  | some ⟨job, _⟩ => { c with workers := c.workers.eraseIdx i }.closeRegistered job.handle
  | none => c

/-! ### Transports and the end -/

def connect (c : Connections) (handle : ℕ) : Connections :=
  match c.sockets handle with
  | none => { c.opensAs handle with upstream := c.upstream ++ [⟨handle, c.opened⟩] }
  | some _ => c

def disconnect (c : Connections) (i : ℕ) : Connections :=
  match c.upstream[i]? with
  | some socket => { c with upstream := c.upstream.eraseIdx i }.closeSocket socket.handle
  | none => c

def step (c : Connections) : ConnectionStep → Connections
  | .accept handle => c.accept handle
  | .admitClient admission => c.admitClient admission
  | .rejected => c.rejected
  | .acceptorReturns => c.acceptorReturns
  | .take => c.take
  | .check i => c.check i
  | .receive i => c.receive i
  | .answer i => c.answer i
  | .send i => c.send i
  | .finish i => c.finish i
  | .connect handle => c.connect handle
  | .disconnect i => c.disconnect i
  | .stop => { c with stopRequested := true }
  | .closeAll => if c.stopRequested then c.closeAll else c

/-! ### What is asked of the transfers -/

/-- A worker reaches the connection that was accepted for its job, and no other socket. -/
def Own (c : Connections) : Prop := ∀ t ∈ c.transfers, t.2 = t.1.identity

/-- The connections that the accept loop, the queue and the workers hold. -/
def clients : Acceptor → List Socket
  | .accepted client => [client]
  | .rejecting client => [client]
  | _ => []

def queued (c : Connections) : List Socket := c.clientQueue ++ c.workers.map (·.job)

def jobs (c : Connections) : List Socket := clients c.acceptor ++ c.queued

/-- No socket is opened under a number that is still held as that of a connection. -/
def Unheld (c : Connections) : ConnectionStep → Prop
  | .accept handle => ∀ job ∈ c.jobs, job.handle ≠ handle
  | .connect handle => ∀ job ∈ c.jobs, job.handle ≠ handle
  | _ => True

/-! ### What the threads rely on -/

/-- A number leads to the socket it was given to, or to none once the registry is closing. -/
structure Sound (c : Connections) : Prop where
  below : ∀ j ∈ c.jobs ++ c.upstream, j.identity < c.opened
  distinct : ((c.jobs ++ c.upstream).map (·.identity)).Nodup
  job : ∀ j ∈ c.jobs,
    c.sockets j.handle = some j.identity ∨ c.sockets j.handle = none ∧ c.closing = true
  upstream : ∀ j ∈ c.upstream, c.sockets j.handle = some j.identity
  registered : ∀ n ∈ c.registered, ∃ j ∈ c.queued, j.handle = n
  once : c.registered.Nodup
  closed : c.closing = true → c.registered = []
  own : c.Own

variable {c c' : Connections}

/-- Jobs change hands. -/
lemma Sound.congr (h : c.Sound) (hclients : clients c'.acceptor = clients c.acceptor)
    (hqueued : c'.queued.Perm c.queued) (hupstream : c'.upstream = c.upstream)
    (hsockets : c'.sockets = c.sockets) (hopened : c'.opened = c.opened)
    (hregistered : c'.registered = c.registered) (hclosing : c'.closing = c.closing)
    (htransfers : c'.transfers = c.transfers) : c'.Sound := by
  have hjobs : c'.jobs.Perm c.jobs := by
    unfold jobs
    rw [hclients]
    exact hqueued.append_left _
  have hholders : (c'.jobs ++ c'.upstream).Perm (c.jobs ++ c.upstream) := by
    rw [hupstream]
    exact hjobs.append_right _
  exact
    { below := fun j hj => by
        rw [hopened]
        exact h.below j (hholders.subset hj)
      distinct := ((hholders.map _).nodup_iff).mpr h.distinct
      job := fun j hj => by
        rw [hsockets, hclosing]
        exact h.job j (hjobs.subset hj)
      upstream := by rw [hupstream, hsockets]; exact h.upstream
      registered := fun n hn => by
        rw [hregistered] at hn
        obtain ⟨j, hj, heq⟩ := h.registered n hn
        exact ⟨j, hqueued.symm.subset hj, heq⟩
      once := by rw [hregistered]; exact h.once
      closed := by rw [hclosing, hregistered]; exact h.closed
      own := by
        unfold Own
        rw [htransfers]
        exact h.own }

/-- While a number leads to what it was given to, no other holder has it. -/
lemma Sound.ne_of_open (h : c.Sound) {j k : Socket} (hj : c.sockets j.handle = some j.identity)
    (hk : k ∈ c.jobs ++ c.upstream) (hne : k.identity ≠ j.identity)
    (hopen : c.sockets k.handle ≠ none) : k.handle ≠ j.handle := by
  intro heq
  have hopened : c.sockets k.handle = some k.identity := by
    rcases List.mem_append.mp hk with hjob | hup
    · rcases h.job k hjob with hopened | hclosed
      · exact hopened
      · exact absurd hclosed.1 hopen
    · exact h.upstream k hup
  rw [heq, hj, Option.some.injEq] at hopened
  exact hne hopened.symm

/-- A holder closes its number and leaves. -/
lemma Sound.leave (h : c.Sound) {j : Socket}
    (hholders : (c.jobs ++ c.upstream).Perm (j :: (c'.jobs ++ c'.upstream)))
    (hjobs : c'.jobs ⊆ c.jobs) (hupstream : c'.upstream ⊆ c.upstream)
    (hsockets : c'.sockets = Function.update c.sockets j.handle none)
    (hopened : c'.opened = c.opened) (hclosing : c'.closing = c.closing)
    (htransfers : c'.transfers = c.transfers)
    (hregistered : ∀ n ∈ c'.registered, ∃ k ∈ c'.queued, k.handle = n)
    (honce : c'.registered.Nodup) (hclosed : c'.closing = true → c'.registered = []) :
    c'.Sound := by
  have hdistinct : ((j :: (c'.jobs ++ c'.upstream)).map (·.identity)).Nodup :=
    ((hholders.map _).nodup_iff).mp h.distinct
  rw [List.map_cons, List.nodup_cons] at hdistinct
  have hj : c.sockets j.handle = some j.identity ∨ c.sockets j.handle = none := by
    rcases List.mem_append.mp (hholders.symm.subset List.mem_cons_self) with hjob | hup
    · exact (h.job j hjob).imp id And.left
    · exact .inl (h.upstream j hup)
  -- a holder that stays and is open has another number
  have hkeeps : ∀ k ∈ c'.jobs ++ c'.upstream, c.sockets k.handle = some k.identity →
      c'.sockets k.handle = some k.identity := by
    intro k hk hopen
    have hne : k.handle ≠ j.handle := by
      rcases hj with hj | hj
      · refine h.ne_of_open hj (hholders.symm.subset (List.mem_cons_of_mem _ hk)) ?_ (by simp [hopen])
        intro heq
        exact hdistinct.1 (heq ▸ List.mem_map_of_mem hk)
      · intro heq
        rw [heq, hj] at hopen
        cases hopen
    rw [hsockets, Function.update_of_ne hne]
    exact hopen
  exact
    { below := fun k hk => by
        rw [hopened]
        exact h.below k (hholders.symm.subset (List.mem_cons_of_mem _ hk))
      distinct := hdistinct.2
      job := by
        intro k hk
        rcases h.job k (hjobs hk) with hopen | ⟨hnone, hclose⟩
        · exact .inl (hkeeps k (List.mem_append_left _ hk) hopen)
        · refine .inr ⟨?_, by rw [hclosing]; exact hclose⟩
          by_cases heq : k.handle = j.handle
          · rw [hsockets, heq, Function.update_self]
          · rw [hsockets, Function.update_of_ne heq]
            exact hnone
      upstream := fun k hk =>
        hkeeps k (List.mem_append_right _ hk) (h.upstream k (hupstream hk))
      registered := hregistered
      once := honce
      closed := hclosed
      own := by
        unfold Own
        rw [htransfers]
        exact h.own }

/-- A new socket has a number that no connection holds. -/
lemma Sound.opens (h : c.Sound) {handle : ℕ} (hfree : c.sockets handle = none)
    (hunheld : ∀ j ∈ c.jobs, j.handle ≠ handle)
    (hholders : (c'.jobs ++ c'.upstream).Perm (⟨handle, c.opened⟩ :: (c.jobs ++ c.upstream)))
    (hjobs : ∀ j ∈ c'.jobs, j ∈ c.jobs ∨ j = ⟨handle, c.opened⟩)
    (hkept : c.queued ⊆ c'.queued)
    (hupstream : ∀ j ∈ c'.upstream, j ∈ c.upstream ∨ j = ⟨handle, c.opened⟩)
    (hsockets : c'.sockets = Function.update c.sockets handle (some c.opened))
    (hopened : c'.opened = c.opened + 1) (hregistered : c'.registered = c.registered)
    (hclosing : c'.closing = c.closing) (htransfers : c'.transfers = c.transfers) : c'.Sound where
  below := by
    intro j hj
    rw [hopened]
    rcases List.mem_cons.mp (hholders.subset hj) with rfl | hold
    · exact Nat.lt_succ_self _
    · exact Nat.lt_succ_of_lt (h.below j hold)
  distinct := by
    rw [(hholders.map _).nodup_iff, List.map_cons, List.nodup_cons]
    refine ⟨?_, h.distinct⟩
    intro hmem
    obtain ⟨j, hj, heq⟩ := List.mem_map.mp hmem
    exact absurd (h.below j hj) (by simp only at heq; omega)
  job := by
    intro j hj
    rw [hsockets, hclosing]
    rcases hjobs j hj with hold | rfl
    · rw [Function.update_of_ne (hunheld j hold)]
      exact h.job j hold
    · exact .inl (Function.update_self _ _ _)
  upstream := by
    intro j hj
    rw [hsockets]
    rcases hupstream j hj with hold | rfl
    · have hopen := h.upstream j hold
      rw [Function.update_of_ne]
      · exact hopen
      · intro heq
        rw [heq, hfree] at hopen
        cases hopen
    · exact Function.update_self _ _ _
  registered := by
    intro n hn
    rw [hregistered] at hn
    obtain ⟨j, hj, heq⟩ := h.registered n hn
    exact ⟨j, hkept hj, heq⟩
  once := by rw [hregistered]; exact h.once
  closed := by rw [hclosing, hregistered]; exact h.closed
  own := by
    unfold Own
    rw [htransfers]
    exact h.own

lemma Sound.transfer (h : c.Sound) {job : Socket} (hjob : job ∈ c.jobs) :
    (c.transfer job).Sound := by
  unfold Connections.transfer
  cases hsocket : c.sockets job.handle with
  | none => exact h
  | some identity =>
    refine { h with own := ?_ }
    intro t ht
    rcases List.mem_append.mp ht with hold | hnew
    · exact h.own t hold
    · rw [List.mem_singleton.mp hnew]
      -- the number is open, so it leads to the job's own socket
      rcases h.job job hjob with hopen | hclosed
      · rw [hsocket, Option.some.injEq] at hopen
        exact hopen
      · rw [hsocket] at hclosed
        cases hclosed.1

lemma Sound.closeAll (h : c.Sound) : c.closeAll.Sound := by
  refine { below := h.below, distinct := h.distinct, job := ?_, upstream := ?_, registered := nofun,
           once := List.nodup_nil, closed := fun _ => rfl, own := h.own }
  · intro j hj
    unfold Connections.closeAll
    simp only
    split_ifs with hregistered
    · exact .inr ⟨rfl, trivial⟩
    · exact (h.job j hj).imp id (fun hclosed => ⟨hclosed.1, trivial⟩)
  · intro j hj
    have hopen := h.upstream j hj
    unfold Connections.closeAll
    simp only
    rw [if_neg]
    · exact hopen
    · intro hregistered
      have hnotclosing : c.closing ≠ true := by
        intro hclosing
        rw [h.closed hclosing] at hregistered
        cases hregistered
      obtain ⟨k, hk, heq⟩ := h.registered _ hregistered
      replace hk : k ∈ c.jobs := List.mem_append_right _ hk
      have hkopen : c.sockets k.handle = some k.identity := by
        rcases h.job k hk with hkopen | hclosed
        · exact hkopen
        · exact absurd hclosed.2 hnotclosing
      -- a connection and a socket upstream are two sockets
      have hdistinct := h.distinct
      rw [List.map_append, List.nodup_append] at hdistinct
      rw [heq, hopen, Option.some.injEq] at hkopen
      exact hdistinct.2.2 _ (List.mem_map_of_mem hk) _ (List.mem_map_of_mem hj) hkopen.symm

/-- A job is over: its number is closed if it is still registered. -/
lemma Sound.closeRegistered (h : c.Sound) {j : Socket} {d : Connections}
    (hclients : clients d.acceptor = clients c.acceptor) (hqueued : c.queued.Perm (j :: d.queued))
    (hupstream : d.upstream = c.upstream) (hsockets : d.sockets = c.sockets)
    (hopened : d.opened = c.opened) (hregistered : d.registered = c.registered)
    (hclosing : d.closing = c.closing) (htransfers : d.transfers = c.transfers) :
    (d.closeRegistered j.handle).Sound := by
  have hjobs : c.jobs.Perm (j :: d.jobs) := by
    unfold jobs
    rw [hclients]
    exact (hqueued.append_left _).trans List.perm_middle
  have hholders : (c.jobs ++ c.upstream).Perm (j :: (d.jobs ++ d.upstream)) := by
    rw [hupstream]
    exact hjobs.append_right _
  have hsubset : d.jobs ⊆ c.jobs := fun k hk => hjobs.symm.subset (List.mem_cons_of_mem _ hk)
  -- what is registered beside the job is registered for others
  have hothers : ∀ n ∈ d.registered, n ≠ j.handle → ∃ k ∈ d.queued, k.handle = n := by
    intro n hn hne
    obtain ⟨k, hk, heq⟩ := h.registered n (hregistered ▸ hn)
    rcases List.mem_cons.mp (hqueued.subset hk) with rfl | hrest
    · exact absurd heq.symm hne
    · exact ⟨k, hrest, heq⟩
  have honce : d.registered.Nodup := hregistered ▸ h.once
  unfold Connections.closeRegistered
  split_ifs with hmem
  · refine h.leave (j := j) hholders hsubset (by simp [Connections.closeSocket, hupstream]) ?_ hopened
      hclosing htransfers ?_ ?_ ?_
    · simp [Connections.closeSocket, hsockets]
    · intro n hn
      have hn' : n ≠ j.handle ∧ n ∈ d.registered := (List.Nodup.mem_erase_iff honce).mp hn
      exact hothers n hn'.2 hn'.1
    · exact honce.erase _
    · intro hclose
      have hempty := h.closed (hclosing ▸ hclose)
      rw [hregistered, hempty] at hmem
      cases hmem
  · have hdistinct : ((j :: (d.jobs ++ d.upstream)).map (·.identity)).Nodup :=
      ((hholders.map _).nodup_iff).mp h.distinct
    exact
      { below := fun k hk => by
          rw [hopened]
          exact h.below k (hholders.symm.subset (List.mem_cons_of_mem _ hk))
        distinct := (List.nodup_cons.mp hdistinct).2
        job := fun k hk => by
          rw [hsockets, hclosing]
          exact h.job k (hsubset hk)
        upstream := by rw [hupstream, hsockets]; exact h.upstream
        registered := fun n hn => hothers n hn (fun heq => hmem (heq ▸ hn))
        once := honce
        closed := by rw [hclosing, hregistered]; exact h.closed
        own := by
          unfold Own
          rw [htransfers]
          exact h.own }

/-! ### What the accept loop does -/

/-- The accept loop closes the connection it holds. -/
lemma Sound.letsGo (h : c.Sound) {client : Socket} (hclients : clients c.acceptor = [client])
    (hgone : clients c'.acceptor = []) (hqueued : c'.queued = c.queued)
    (hupstream : c'.upstream = c.upstream)
    (hsockets : c'.sockets = Function.update c.sockets client.handle none)
    (hopened : c'.opened = c.opened) (hregistered : c'.registered = c.registered)
    (hclosing : c'.closing = c.closing) (htransfers : c'.transfers = c.transfers) : c'.Sound := by
  have hjobs : c.jobs = client :: c'.jobs := by
    unfold jobs
    rw [hclients, hgone, hqueued]
    rfl
  refine h.leave (j := client) ?_ ?_ ?_ hsockets hopened hclosing htransfers ?_ ?_ ?_
  · rw [hjobs, hupstream]
    exact List.Perm.refl _
  · rw [hjobs]
    exact List.subset_cons_self _ _
  · rw [hupstream]
    exact List.Subset.refl _
  · rw [hregistered, hqueued]
    exact h.registered
  · rw [hregistered]
    exact h.once
  · rw [hclosing, hregistered]
    exact h.closed

/-- The number of a connection that the accept loop holds is not registered. -/
lemma Sound.not_registered (h : c.Sound) {client : Socket}
    (hclients : clients c.acceptor = [client]) : client.handle ∉ c.registered := by
  intro hmem
  have hjobs : c.jobs = client :: c.queued := by
    unfold jobs
    rw [hclients]
    rfl
  have hopen : ∀ k ∈ c.jobs, c.sockets k.handle = some k.identity := by
    intro k hk
    rcases h.job k hk with hopen | hclosed
    · exact hopen
    · rw [h.closed hclosed.2] at hmem
      cases hmem
  obtain ⟨k, hk, heq⟩ := h.registered _ hmem
  have hclient := hopen client (hjobs ▸ List.mem_cons_self)
  have hk' := hopen k (hjobs ▸ List.mem_cons_of_mem _ hk)
  rw [heq, hclient, Option.some.injEq] at hk'
  have hdistinct := h.distinct
  rw [hjobs, List.cons_append, List.map_cons, List.nodup_cons] at hdistinct
  exact hdistinct.1 (hk' ▸ List.mem_map_of_mem (List.mem_append_left _ hk))

lemma Sound.accept (h : c.Sound) {handle : ℕ} (hunheld : ∀ j ∈ c.jobs, j.handle ≠ handle) :
    (c.accept handle).Sound := by
  unfold Connections.accept
  split
  · rename_i hacceptor hfree
    have hjobs : c.jobs = c.queued := by
      unfold jobs
      rw [hacceptor]
      rfl
    refine h.opens hfree hunheld ?_ ?_ (List.Subset.refl _) (fun j hj => .inl hj) rfl rfl rfl rfl rfl
    · rw [hjobs]
      exact List.Perm.refl _
    · intro j hj
      rcases List.mem_cons.mp hj with rfl | hold
      · exact .inr rfl
      · exact .inl (by rw [hjobs]; exact hold)
  · exact h

/-- A connection is registered and queued. -/
lemma Sound.queues (h : c.Sound) {client : Socket} (hacceptor : c.acceptor = .accepted client)
    (hclosing : ¬ c.closing = true) :
    { c with
      registered := c.registered ++ [client.handle]
      clientQueue := c.clientQueue ++ [client]
      acceptor := .waiting }.Sound := by
  have hclients : clients c.acceptor = [client] := by rw [hacceptor]; rfl
  set d : Connections :=
    { c with
      registered := c.registered ++ [client.handle]
      clientQueue := c.clientQueue ++ [client]
      acceptor := .waiting } with hd
  have hqueued : d.queued.Perm (client :: c.queued) := by
    have : d.queued = c.clientQueue ++ client :: c.workers.map (·.job) := by simp [hd, queued]
    rw [this]
    exact List.perm_middle
  have hjobs : d.jobs.Perm c.jobs := by
    unfold jobs
    rw [hclients]
    exact hqueued
  have hholders : (d.jobs ++ d.upstream).Perm (c.jobs ++ c.upstream) := hjobs.append_right _
  exact
    { below := fun j hj => h.below j (hholders.subset hj)
      distinct := ((hholders.map _).nodup_iff).mpr h.distinct
      job := fun j hj => h.job j (hjobs.subset hj)
      upstream := h.upstream
      registered := by
        intro n hn
        rcases List.mem_append.mp hn with hold | hnew
        · obtain ⟨j, hj, heq⟩ := h.registered n hold
          exact ⟨j, hqueued.symm.subset (List.mem_cons_of_mem _ hj), heq⟩
        · rw [List.mem_singleton.mp hnew]
          exact ⟨client, hqueued.symm.subset List.mem_cons_self, rfl⟩
      once := by
        refine List.nodup_append.mpr ⟨h.once, List.nodup_singleton _, ?_⟩
        intro n hn m hm heq
        rw [List.mem_singleton.mp hm] at heq
        exact h.not_registered hclients (heq ▸ hn)
      closed := fun hclose => absurd hclose hclosing
      own := h.own }

lemma Sound.admitClient (h : c.Sound) (admission : Admission) : (c.admitClient admission).Sound := by
  unfold Connections.admitClient
  split
  · rename_i client hacceptor
    have hclients : clients c.acceptor = [client] := by rw [hacceptor]; rfl
    cases admission with
    | full => exact h.congr (by rw [hacceptor]; rfl) (List.Perm.refl _) rfl rfl rfl rfl rfl rfl
    | queued =>
      simp only
      split_ifs with hclosing
      · exact h.letsGo hclients rfl rfl rfl rfl rfl rfl rfl rfl
      · exact h.queues hacceptor hclosing
    | failed registered =>
      cases registered with
      | false => exact h.letsGo hclients rfl rfl rfl rfl rfl rfl rfl rfl
      | true =>
        simp only
        split_ifs with hclosing
        · exact h.letsGo hclients rfl rfl rfl rfl rfl rfl rfl rfl
        · -- what was registered is taken out again and closed
          have hmem : client.handle ∈ c.registered ++ [client.handle] := by simp
          have herase : (c.registered ++ [client.handle]).erase client.handle = c.registered := by
            rw [List.erase_append_right _ (h.not_registered hclients)]
            simp
          unfold Connections.closeRegistered
          rw [if_pos hmem]
          refine h.letsGo hclients rfl rfl rfl rfl rfl ?_ rfl rfl
          exact herase
  · exact h

lemma Sound.rejected (h : c.Sound) : c.rejected.Sound := by
  unfold Connections.rejected
  split
  · rename_i client hacceptor
    have hclients : clients c.acceptor = [client] := by rw [hacceptor]; rfl
    exact h.letsGo hclients rfl rfl rfl rfl rfl rfl rfl rfl
  · exact h

lemma Sound.acceptorReturns (h : c.Sound) : c.acceptorReturns.Sound := by
  unfold Connections.acceptorReturns
  split
  · rename_i hacceptor
    split_ifs
    · exact h.congr (by rw [hacceptor]; rfl) (List.Perm.refl _) rfl rfl rfl rfl rfl rfl
    · exact h
  · exact h

/-! ### What workers and transports do -/

lemma Sound.take (h : c.Sound) : c.take.Sound := by
  unfold Connections.take
  split
  · exact h
  · rename_i job jobs hqueue
    refine h.congr rfl ?_ rfl rfl rfl rfl rfl rfl
    simp only [queued, hqueue, List.map_append, List.map_cons, List.map_nil, ← List.append_assoc]
    exact List.perm_append_singleton job _

/-- A worker goes to another stage with its job. -/
lemma Sound.setStage (h : c.Sound) {i : ℕ} {job : Socket} {before : Stage} (after : Stage)
    (hworker : c.workers[i]? = some ⟨job, before⟩) :
    { c with workers := c.workers.set i ⟨job, after⟩ }.Sound := by
  refine h.congr rfl ?_ rfl rfl rfl rfl rfl rfl
  have hsame : (c.workers.set i ⟨job, after⟩).map (·.job) = c.workers.map (·.job) := by
    obtain ⟨hi, hget⟩ := List.getElem?_eq_some_iff.mp hworker
    ext1 k
    rw [List.getElem?_map, List.getElem?_map, List.getElem?_set]
    by_cases hk : i = k
    · subst hk
      simp [hi, hget]
    · simp [hk]
  simp only [queued, hsame]
  exact List.Perm.refl _

lemma mem_jobs_of_worker {i : ℕ} {job : Socket} {stage : Stage}
    (hworker : c.workers[i]? = some ⟨job, stage⟩) : job ∈ c.jobs := by
  have hmem : (⟨job, stage⟩ : Worker) ∈ c.workers := List.mem_of_getElem? hworker
  have hjob : job ∈ c.workers.map (·.job) := List.mem_map.mpr ⟨_, hmem, rfl⟩
  exact List.mem_append_right _ (List.mem_append_right _ hjob)

lemma Sound.check (h : c.Sound) (i : ℕ) : (c.check i).Sound := by
  unfold Connections.check
  split
  · rename_i job hworker
    split_ifs
    · exact h
    · exact h.setStage .checked hworker
  · exact h

lemma Sound.receive (h : c.Sound) (i : ℕ) : (c.receive i).Sound := by
  unfold Connections.receive
  split
  · rename_i job hworker
    have hset := h.setStage .reading hworker
    obtain ⟨hi, -⟩ := List.getElem?_eq_some_iff.mp hworker
    have hworker' : (c.workers.set i ⟨job, .reading⟩)[i]? = some ⟨job, .reading⟩ := by simp [hi]
    exact hset.transfer (mem_jobs_of_worker hworker')
  · exact h

lemma Sound.answer (h : c.Sound) (i : ℕ) : (c.answer i).Sound := by
  unfold Connections.answer
  split
  · rename_i job hworker
    exact h.setStage .answering hworker
  · exact h

lemma Sound.send (h : c.Sound) (i : ℕ) : (c.send i).Sound := by
  unfold Connections.send
  split
  · rename_i job hworker
    exact h.transfer (mem_jobs_of_worker hworker)
  · exact h

lemma perm_cons_eraseIdx {α : Type} {xs : List α} {i : ℕ} {x : α} (h : xs[i]? = some x) :
    xs.Perm (x :: xs.eraseIdx i) := by
  obtain ⟨hi, rfl⟩ := List.getElem?_eq_some_iff.mp h
  exact (List.getElem_cons_eraseIdx_perm hi).symm

lemma Sound.finish (h : c.Sound) (i : ℕ) : (c.finish i).Sound := by
  unfold Connections.finish
  split
  · exact h
  · rename_i job stage _ hworker
    refine h.closeRegistered rfl ?_ rfl rfl rfl rfl rfl rfl
    have hperm := (perm_cons_eraseIdx hworker).map (·.job)
    exact (hperm.append_left c.clientQueue).trans List.perm_middle
  · exact h

lemma Sound.connect (h : c.Sound) {handle : ℕ} (hunheld : ∀ j ∈ c.jobs, j.handle ≠ handle) :
    (c.connect handle).Sound := by
  unfold Connections.connect
  split
  · rename_i hfree
    refine h.opens hfree hunheld ?_ (fun j hj => .inl hj) (List.Subset.refl _) ?_ rfl rfl rfl rfl rfl
    · show (c.jobs ++ (c.upstream ++ [(⟨handle, c.opened⟩ : Socket)])).Perm _
      rw [← List.append_assoc]
      exact List.perm_append_singleton _ _
    · intro j hj
      rcases List.mem_append.mp hj with hold | hnew
      · exact .inl hold
      · exact .inr (List.mem_singleton.mp hnew)
  · exact h

lemma Sound.disconnect (h : c.Sound) (i : ℕ) : (c.disconnect i).Sound := by
  unfold Connections.disconnect
  split
  · rename_i socket hsocket
    refine h.leave (j := socket) ?_ (List.Subset.refl _) ?_ rfl rfl rfl rfl h.registered h.once
      h.closed
    · exact ((perm_cons_eraseIdx hsocket).append_left c.jobs).trans List.perm_middle
    · exact List.eraseIdx_subset
  · exact h

/-! ### Whole runs -/

lemma Sound.step (h : c.Sound) (s : ConnectionStep) (hs : c.Unheld s) : (c.step s).Sound := by
  cases s with
  | accept handle => exact h.accept hs
  | admitClient admission => exact h.admitClient admission
  | rejected => exact h.rejected
  | acceptorReturns => exact h.acceptorReturns
  | take => exact h.take
  | check i => exact h.check i
  | receive i => exact h.receive i
  | answer i => exact h.answer i
  | send i => exact h.send i
  | finish i => exact h.finish i
  | connect handle => exact h.connect hs
  | disconnect i => exact h.disconnect i
  | stop => exact h.congr rfl (List.Perm.refl _) rfl rfl rfl rfl rfl rfl
  | closeAll =>
    unfold Connections.step
    split_ifs
    · exact h.closeAll
    · exact h

lemma sound_start : Sound {} where
  below := nofun
  distinct := List.nodup_nil
  job := nofun
  upstream := nofun
  registered := nofun
  once := List.nodup_nil
  closed := fun _ => rfl
  own := nofun

/-- In every run in which no socket is opened under a number that is still held, workers reach
their own connections only. -/
theorem own_of_unheld (steps : List ConnectionStep) (h : Along step Unheld {} steps) :
    (steps.foldl step {}).Own :=
  (h.keeps (fun _ s hs hc => hc.step s hs) sound_start).own

/-- A connection is answered and closed, and the next one gets its number. -/
theorem own_of_unheld_next :
    ([.accept 3, .admitClient .queued, .take, .check 0, .receive 0, .answer 0, .send 0, .finish 0,
      .accept 3, .admitClient .queued, .take, .check 0, .stop, .closeAll, .receive 0].foldl step {}).Own :=
  own_of_unheld _ (by simp [Along, Unheld, jobs, queued, clients, step, accept, opensAs, admitClient, take,
    check, receive, answer, send, finish, transfer, closeRegistered, closeSocket])

/-- A server that stops closes the connection of a worker that answers. A transport opens a socket,
which gets the same number, and what the worker sends goes there. -/
theorem own_fails :
    ¬ ([.accept 3, .admitClient .queued, .take, .check 0, .receive 0, .answer 0, .stop, .closeAll,
      .connect 3, .send 0].foldl step {}).Own := by
  intro h
  have hreached := h (⟨3, 0⟩, 1) (by decide)
  exact absurd hreached (by decide)

end Connections

end CcsTrans.Server
