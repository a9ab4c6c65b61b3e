import CcsTrans.Runs
import CcsTrans.Text

/-!
The executor of control commands.

Any number of threads post tasks, and one thread runs them. What happens under the lock is one step;
between two of its steps the worker holds a task that nobody else sees. Whether a request that is
merged with an older one is served depends on whether the older one has begun.
-/

namespace CcsTrans.App

open CcsTrans.Text CcsTrans.Runs

variable {α : Type}

/-! ### The executor -/

/-- A task, of which the callback may be anything. -/
structure Task (α : Type) where
  callback : α
  coalescingKey : Bytes := []

structure ControlExecutor (α : Type) where
  capacity : ℕ
  tasks : List (Task α) := []
  coalescingKeys : List Bytes := []
  peakPending : ℕ := 0
  rejected : ℕ := 0
  coalesced : ℕ := 0
  runningTask : Bool := false
  stopping : Bool := false

/-- What becomes of a post. `false` is returned for the first, `true` for the others. -/
inductive Posted where
  | refused
  | merged
  | queued
  deriving DecidableEq

namespace ControlExecutor

/-- `post_impl`. A task may be nothing. -/
def postImpl (e : ControlExecutor α) (key : Bytes) (task : Option α) : Posted × ControlExecutor α :=
  match task with
  | none => (.refused, e)
  | some callback =>
    if e.stopping then (.refused, { e with rejected := e.rejected + 1 })
    else if key ≠ [] ∧ key ∈ e.coalescingKeys then (.merged, { e with coalesced := e.coalesced + 1 })
    else if e.tasks.length ≥ e.capacity then (.refused, { e with rejected := e.rejected + 1 })
    else (.queued, { e with
      tasks := e.tasks ++ [⟨callback, key⟩]
      coalescingKeys := if key = [] then e.coalescingKeys else key :: e.coalescingKeys
      peakPending := max e.peakPending (e.tasks.length + 1) })

def post (e : ControlExecutor α) (task : Option α) : Posted × ControlExecutor α := e.postImpl [] task

/-- `post_coalesced`. -/
def postCoalesced (e : ControlExecutor α) (key : Bytes) (task : Option α) : Posted × ControlExecutor α :=
  if key = [] then (.refused, e) else e.postImpl key task

/-- The first half of `stop`; the second waits for the worker. -/
def stop (e : ControlExecutor α) : ControlExecutor α := { e with stopping := true }

/-- The end of a task, in `run`. -/
def finish (e : ControlExecutor α) (task : Task α) : ControlExecutor α :=
  { e with
    coalescingKeys := if task.coalescingKey = [] then e.coalescingKeys
      else e.coalescingKeys.erase task.coalescingKey
    runningTask := false }

end ControlExecutor

/-! ### Runs -/

/-- Where the worker is in `run`: before the lock, with a task that it has taken, in its callback, or out. -/
inductive Worker (α : Type) where
  | waiting
  | taken (task : Task α)
  | calling (task : Task α)
  | exited

inductive Event (α : Type) where
  | accepted (task : Task α)
  | merged (key : Bytes)
  | stopped
  | started (task : Task α)

/-- The executor, its worker, and what has happened. -/
structure System (α : Type) where
  executor : ControlExecutor α
  worker : Worker α := .waiting
  history : List (Event α) := []

/-- A thread posts or stops, or the worker goes on. A callback returns or throws. -/
inductive Act (α : Type) where
  | post (task : Option α)
  | postCoalesced (key : Bytes) (task : Option α)
  | stop
  | work (throws : Bool)

/-- What is remembered of a post. -/
def postEvents (key : Bytes) (task : Option α) : Posted → List (Event α)
  | .refused => []
  | .merged => [.merged key]
  | .queued => task.toList.map fun callback => .accepted ⟨callback, key⟩

namespace System

def posted (s : System α) (key : Bytes) (task : Option α) (p : Posted × ControlExecutor α) : System α :=
  { s with executor := p.2, history := s.history ++ postEvents key task p.1 }

/-- One step of `run`. What a callback throws is caught. -/
def work (s : System α) : System α :=
  match s.worker with
  | .waiting =>
    match s.executor.tasks with
    | [] => if s.executor.stopping then { s with worker := .exited } else s
    | task :: tasks =>
      { s with executor := { s.executor with tasks := tasks, runningTask := true }, worker := .taken task }
  | .taken task => { s with worker := .calling task, history := s.history ++ [.started task] }
  | .calling task => { s with executor := s.executor.finish task, worker := .waiting }
  | .exited => s

def step (s : System α) : Act α → System α
  | .post task => s.posted [] task (s.executor.post task)
  | .postCoalesced key task => s.posted key task (s.executor.postCoalesced key task)
  | .stop => { s with executor := s.executor.stop, history := s.history ++ [.stopped] }
  | .work _ => s.work

end System

/-- An executor that nothing was posted to. -/
def initial (capacity : ℕ) : System α := { executor := { capacity } }

def run (capacity : ℕ) (acts : List (Act α)) : System α := acts.foldl System.step (initial capacity)

/-! ### What has happened -/

def acceptedTasks (history : List (Event α)) : List (Task α) :=
  history.filterMap fun | .accepted task => some task | _ => none

def startedTasks (history : List (Event α)) : List (Task α) :=
  history.filterMap fun | .started task => some task | _ => none

/-- Something that `true` was returned for. -/
def Event.Accepts : Event α → Prop
  | .accepted _ => True
  | .merged _ => True
  | _ => False

/-- A request with a key that `true` was returned for. -/
def Event.Requests (key : Bytes) : Event α → Prop
  | .accepted task => task.coalescingKey = key
  | .merged key' => key' = key
  | _ => False

/-- The task that the worker has taken and not begun. -/
def System.inHand (s : System α) : List (Task α) :=
  match s.worker with
  | .taken task => [task]
  | _ => []

/-- The tasks that are to be begun. -/
def System.ahead (s : System α) : List (Task α) := s.inHand ++ s.executor.tasks

/-- No request comes with the key of the task that the worker is in. -/
def Timely (s : System α) : Act α → Prop
  | .postCoalesced key _ => ∀ task, s.worker = .calling task → task.coalescingKey ≠ key
  | _ => True

/-! ### What a step does -/

/-- A post is refused, merged with a key that is there, or queued. -/
lemma postImpl_cases (e : ControlExecutor α) (key : Bytes) (task : Option α) :
    (∃ n, e.postImpl key task = (.refused, { e with rejected := n })) ∨
    e.stopping = false ∧ key ≠ [] ∧ key ∈ e.coalescingKeys ∧
      e.postImpl key task = (.merged, { e with coalesced := e.coalesced + 1 }) ∨
    e.stopping = false ∧ e.tasks.length < e.capacity ∧ (key ≠ [] → key ∉ e.coalescingKeys) ∧
      ∃ callback, task = some callback ∧
      e.postImpl key task = (.queued, { e with
        tasks := e.tasks ++ [⟨callback, key⟩]
        coalescingKeys := if key = [] then e.coalescingKeys else key :: e.coalescingKeys
        peakPending := max e.peakPending (e.tasks.length + 1) }) := by
  cases task with
  | none => exact .inl ⟨e.rejected, rfl⟩
  | some callback =>
    unfold ControlExecutor.postImpl
    dsimp only
    by_cases hstopping : e.stopping = true
    · rw [if_pos hstopping]
      exact .inl ⟨_, rfl⟩
    rw [if_neg hstopping]
    rw [Bool.not_eq_true] at hstopping
    by_cases hkey : key ≠ [] ∧ key ∈ e.coalescingKeys
    · rw [if_pos hkey]
      exact .inr (.inl ⟨hstopping, hkey.1, hkey.2, rfl⟩)
    rw [if_neg hkey]
    by_cases hfull : e.tasks.length ≥ e.capacity
    · rw [if_pos hfull]
      exact .inl ⟨_, rfl⟩
    · rw [if_neg hfull]
      exact .inr (.inr ⟨hstopping, by omega, fun hne hmem => hkey ⟨hne, hmem⟩, callback, rfl, rfl⟩)

/-- One step, as it changes the system. -/
inductive Steps (s : System α) : Act α → System α → Prop where
  | refused (a : Act α) (n : ℕ) (ha : ∀ throws, a ≠ .work throws) :
      Steps s a { s with executor := { s.executor with rejected := n } }
  | merged (key : Bytes) (task : Option α) (hstopping : s.executor.stopping = false) (hne : key ≠ [])
      (hkey : key ∈ s.executor.coalescingKeys) :
      Steps s (.postCoalesced key task) { s with
        executor := { s.executor with coalesced := s.executor.coalesced + 1 }
        history := s.history ++ [.merged key] }
  | queued (a : Act α) (task : Task α) (peak : ℕ) (hstopping : s.executor.stopping = false)
      (hroom : s.executor.tasks.length < s.executor.capacity)
      (hnew : task.coalescingKey ≠ [] → task.coalescingKey ∉ s.executor.coalescingKeys)
      (ha : ∀ throws, a ≠ .work throws) :
      Steps s a { s with
        executor := { s.executor with
          tasks := s.executor.tasks ++ [task]
          coalescingKeys := if task.coalescingKey = [] then s.executor.coalescingKeys
            else task.coalescingKey :: s.executor.coalescingKeys
          peakPending := peak }
        history := s.history ++ [.accepted task] }
  | stop : Steps s .stop { s with executor := s.executor.stop, history := s.history ++ [.stopped] }
  | idle (throws : Bool) (h : s.worker = .exited ∨ s.worker = .waiting ∧ s.executor.tasks = []) :
      Steps s (.work throws) s
  | exit (throws : Bool) (hworker : s.worker = .waiting) (htasks : s.executor.tasks = [])
      (hstopping : s.executor.stopping = true) : Steps s (.work throws) { s with worker := .exited }
  | take (throws : Bool) (task : Task α) (tasks : List (Task α)) (hworker : s.worker = .waiting)
      (htasks : s.executor.tasks = task :: tasks) :
      Steps s (.work throws) { s with
        executor := { s.executor with tasks := tasks, runningTask := true }
        worker := .taken task }
  | call (throws : Bool) (task : Task α) (hworker : s.worker = .taken task) :
      Steps s (.work throws) { s with worker := .calling task, history := s.history ++ [.started task] }
  | finish (throws : Bool) (task : Task α) (hworker : s.worker = .calling task) :
      Steps s (.work throws) { s with executor := s.executor.finish task, worker := .waiting }

/-- A post under the lock, where a plain one has no key. -/
lemma steps_postImpl (s : System α) {a : Act α} {key : Bytes} {task : Option α}
    (ha : ∀ throws, a ≠ .work throws) (hkeyed : key ≠ [] → a = .postCoalesced key task) :
    Steps s a (s.posted key task (s.executor.postImpl key task)) := by
  rcases postImpl_cases s.executor key task with ⟨n, h⟩ | ⟨hstopping, hne, hkey, h⟩ |
    ⟨hstopping, hroom, hnew, callback, rfl, h⟩
  · rw [h, System.posted, postEvents, List.append_nil]
    exact .refused a n ha
  · rw [h, hkeyed hne]
    exact .merged key task hstopping hne hkey
  · rw [h]
    exact .queued a ⟨callback, key⟩ _ hstopping hroom hnew ha

/-- What a step does is one of these. -/
lemma steps (s : System α) (a : Act α) : Steps s a (s.step a) := by
  cases a with
  | post task => exact steps_postImpl s nofun fun hne => absurd rfl hne
  | postCoalesced key task =>
    unfold System.step ControlExecutor.postCoalesced
    dsimp only
    split_ifs with hkey
    · rw [System.posted, postEvents, List.append_nil]
      exact .refused _ s.executor.rejected nofun
    · exact steps_postImpl s nofun fun _ => rfl
  | stop => exact .stop
  | work throws =>
    show Steps s _ s.work
    unfold System.work
    cases hworker : s.worker with
    | waiting =>
      cases htasks : s.executor.tasks with
      | nil =>
        dsimp only
        split_ifs with hstopping
        · exact .exit throws hworker htasks hstopping
        · exact .idle throws (.inr ⟨hworker, htasks⟩)
      | cons task tasks => exact .take throws task tasks hworker htasks
    | taken task => exact .call throws task hworker
    | calling task => exact .finish throws task hworker
    | exited => exact .idle throws (.inl hworker)

/-! ### What every run keeps -/

@[simp] lemma acceptedTasks_append (before after : List (Event α)) :
    acceptedTasks (before ++ after) = acceptedTasks before ++ acceptedTasks after := List.filterMap_append

@[simp] lemma startedTasks_append (before after : List (Event α)) :
    startedTasks (before ++ after) = startedTasks before ++ startedTasks after := List.filterMap_append

lemma mem_startedTasks {history : List (Event α)} {task : Task α} :
    task ∈ startedTasks history ↔ .started task ∈ history := by
  simp only [startedTasks, List.mem_filterMap]
  constructor
  · rintro ⟨event, hmem, heq⟩
    cases event with
    | started task' =>
      obtain rfl := Option.some.inj heq
      exact hmem
    | _ => cases heq
  · intro hmem
    exact ⟨_, hmem, rfl⟩

/-- What holds of a system in every run. -/
structure Sound (capacity : ℕ) (s : System α) : Prop where
  /-- The tasks that were accepted are those that were begun and then those ahead. -/
  queue : acceptedTasks s.history = startedTasks s.history ++ s.ahead
  capacity_eq : s.executor.capacity = capacity
  bound : s.executor.tasks.length ≤ capacity
  stopped : .stopped ∈ s.history → s.executor.stopping = true
  quiet : ∀ before after, s.history = before ++ .stopped :: after → ∀ event ∈ after, ¬ event.Accepts
  exited : s.worker = .exited → s.executor.stopping = true ∧ s.executor.tasks = []
  nodup : s.executor.coalescingKeys.Nodup
  named : [] ∉ s.executor.coalescingKeys
  /-- A key is that of a task ahead, or of the one that runs. -/
  owned : ∀ key ∈ s.executor.coalescingKeys, (∃ task ∈ s.ahead, task.coalescingKey = key) ∨
    ∃ task, s.worker = .calling task ∧ task.coalescingKey = key

lemma sound_initial (capacity : ℕ) : Sound capacity (initial capacity : System α) where
  queue := rfl
  capacity_eq := rfl
  bound := Nat.zero_le _
  stopped h := by cases h
  quiet before after h := by cases before <;> cases h
  exited h := by cases h
  nodup := List.nodup_nil
  named := List.not_mem_nil
  owned _ h := by cases h

/-- Nothing is accepted after a stop, when nothing was and the next event is no such thing. -/
lemma quiet_append {history : List (Event α)} {event : Event α}
    (h : ∀ before after : List (Event α), history = before ++ .stopped :: after →
      ∀ e ∈ after, ¬ e.Accepts) (hevent : .stopped ∈ history → ¬ event.Accepts) :
    ∀ before after : List (Event α), history ++ [event] = before ++ .stopped :: after →
      ∀ e ∈ after, ¬ e.Accepts := by
  intro before after heq e hmem
  rcases snoc_cases heq with ⟨-, -, rfl⟩ | ⟨rest, hhistory, rfl⟩
  · cases hmem
  · rcases List.mem_append.mp hmem with hmem | hmem
    · exact h before rest hhistory e hmem
    · rw [List.mem_singleton.mp hmem]
      exact hevent (by rw [hhistory]; simp)

/-- The history of a queue, with one event more. -/
lemma queue_append {s : System α} (h : acceptedTasks s.history = startedTasks s.history ++ s.ahead)
    {event : Event α} {ahead : List (Task α)}
    (hahead : s.ahead ++ acceptedTasks [event] = startedTasks [event] ++ ahead) :
    acceptedTasks (s.history ++ [event]) = startedTasks (s.history ++ [event]) ++ ahead := by
  rw [acceptedTasks_append, startedTasks_append, h, List.append_assoc, List.append_assoc, hahead]

lemma Sound.step {capacity : ℕ} {s s' : System α} {a : Act α} (h : Sound capacity s) (hstep : Steps s a s') :
    Sound capacity s' := by
  have hrunning (hstopping : s.executor.stopping = false) : .stopped ∉ s.history := fun hmem => by
    rw [h.stopped hmem] at hstopping
    cases hstopping
  have hother (event : Event α) (hne : event ≠ .stopped) (hmem : .stopped ∈ s.history ++ [event]) :
      .stopped ∈ s.history := by
    rcases List.mem_append.mp hmem with hmem | hmem
    · exact hmem
    · exact absurd (List.mem_singleton.mp hmem).symm hne
  cases hstep with
  | refused _ n ha' => exact { h with }
  | merged key task hstopping hne hkey =>
    exact { h with
      queue := queue_append h.queue (List.append_nil _)
      stopped := fun hmem => h.stopped (hother (.merged key) nofun hmem)
      quiet := quiet_append h.quiet (absurd · (hrunning hstopping)) }
  | queued _ task peak hstopping hroom hnew ha' =>
    have hahead : s.ahead ++ [task] = s.inHand ++ (s.executor.tasks ++ [task]) := List.append_assoc ..
    refine ⟨queue_append h.queue hahead, h.capacity_eq, ?_, fun hmem => h.stopped (hother (.accepted task) nofun hmem),
      quiet_append h.quiet (absurd · (hrunning hstopping)), fun hworker => ?_, ?_, ?_, ?_⟩
    · have := h.capacity_eq
      show (s.executor.tasks ++ [task]).length ≤ capacity
      rw [List.length_append, List.length_singleton]
      omega
    · rw [(h.exited hworker).1] at hstopping
      cases hstopping
    · dsimp only
      split_ifs with hkey
      · exact h.nodup
      · exact List.nodup_cons.mpr ⟨hnew hkey, h.nodup⟩
    · dsimp only
      split_ifs with hkey
      · exact h.named
      · exact fun hmem => (List.mem_cons.mp hmem).elim (fun heq => hkey heq.symm) h.named
    · have hold : ∀ key ∈ s.executor.coalescingKeys, (∃ t ∈ s.inHand ++ (s.executor.tasks ++ [task]),
          t.coalescingKey = key) ∨ ∃ t, s.worker = .calling t ∧ t.coalescingKey = key := by
        intro key hmem
        refine (h.owned key hmem).imp_left fun ⟨t, ht, heq⟩ => ⟨t, ?_, heq⟩
        rw [← hahead]
        exact List.mem_append_left _ ht
      dsimp only
      split_ifs with hkey
      · exact hold
      · refine List.forall_mem_cons.mpr ⟨.inl ⟨task, ?_, rfl⟩, hold⟩
        exact List.mem_append_right _ (List.mem_append_right _ (List.mem_singleton_self _))
  | stop =>
    exact { h with
      queue := queue_append h.queue (List.append_nil _)
      stopped := fun _ => rfl
      quiet := quiet_append h.quiet fun _ hevent => hevent
      exited := fun hworker => ⟨rfl, (h.exited hworker).2⟩ }
  | idle throws hidle => exact h
  | exit throws hworker htasks hstopping =>
    have hahead : s.ahead = [] := by rw [System.ahead, System.inHand, hworker, htasks]; rfl
    have hahead' : ({ s with worker := .exited } : System α).ahead = s.ahead := by
      rw [hahead]
      exact htasks
    refine { h with queue := ?_, exited := fun _ => ⟨hstopping, htasks⟩, owned := fun key hmem => ?_ }
    · rw [hahead']
      exact h.queue
    · rcases h.owned key hmem with ⟨t, ht, -⟩ | ⟨t, ht, -⟩
      · rw [hahead] at ht
        cases ht
      · rw [hworker] at ht
        cases ht
  | take throws task tasks hworker htasks =>
    have hahead : s.ahead = task :: tasks := by rw [System.ahead, System.inHand, hworker, htasks]; rfl
    refine ⟨?_, h.capacity_eq, ?_, h.stopped, h.quiet, nofun, h.nodup, h.named, fun key hmem => .inl ?_⟩
    · rw [h.queue, hahead]
      rfl
    · have := h.bound
      rw [htasks, List.length_cons] at this
      exact Nat.le_of_succ_le this
    · rcases h.owned key hmem with ht | ⟨t, ht, -⟩
      · rwa [hahead] at ht
      · rw [hworker] at ht
        cases ht
  | call throws task hworker =>
    have hahead : s.ahead = task :: s.executor.tasks := by rw [System.ahead, System.inHand, hworker]; rfl
    refine ⟨queue_append h.queue ?_, h.capacity_eq, h.bound, fun hmem => h.stopped (hother (.started task) nofun hmem),
      quiet_append h.quiet fun _ hevent => hevent, nofun, h.nodup, h.named, fun key hmem => ?_⟩
    · rw [hahead, startedTasks, acceptedTasks]
      exact List.append_nil _
    · rcases h.owned key hmem with ⟨t, ht, heq⟩ | ⟨t, ht, -⟩
      · rw [hahead] at ht
        rcases List.mem_cons.mp ht with rfl | ht
        · exact .inr ⟨t, rfl, heq⟩
        · exact .inl ⟨t, ht, heq⟩
      · rw [hworker] at ht
        cases ht
  | finish throws task hworker =>
    have hahead : s.ahead = s.executor.tasks := by rw [System.ahead, System.inHand, hworker]; rfl
    have hsub : (s.executor.finish task).coalescingKeys ⊆ s.executor.coalescingKeys := by
      unfold ControlExecutor.finish
      dsimp only
      split_ifs
      · exact List.Subset.refl _
      · exact List.erase_subset
    refine ⟨?_, h.capacity_eq, h.bound, h.stopped, h.quiet, nofun, ?_, fun hmem => h.named (hsub hmem),
      fun key hmem => .inl ?_⟩
    · rw [h.queue, hahead]
      rfl
    · unfold ControlExecutor.finish
      dsimp only
      split_ifs
      · exact h.nodup
      · exact h.nodup.erase _
    · rcases h.owned key (hsub hmem) with ht | ⟨t, ht, heq⟩
      · rwa [hahead] at ht
      · -- the key of the task that has run is given up
        rw [hworker] at ht
        obtain rfl := Worker.calling.inj ht
        rw [← heq, ControlExecutor.finish] at hmem
        dsimp only at hmem
        split_ifs at hmem with hnil
        · rw [hnil] at hmem
          exact absurd hmem h.named
        · exact absurd hmem h.nodup.not_mem_erase

lemma sound_run (capacity : ℕ) (acts : List (Act α)) :
    Sound capacity (run capacity acts) :=
  keeps_run (fun s a h => h.step (steps s a)) acts (sound_initial capacity)

/-! ### Requests -/

/-- A request is followed by the begin of a task with its key, or one is ahead. -/
def Served (history : List (Event α)) (ahead : List (Task α)) : Prop :=
  ∀ before event after key, history = before ++ event :: after → event.Requests key →
    (∃ task, .started task ∈ after ∧ task.coalescingKey = key) ∨ ∃ task ∈ ahead, task.coalescingKey = key

lemma Served.append {history : List (Event α)} {ahead ahead' : List (Task α)} {event : Event α}
    (h : Served history ahead) (hkeep : ∀ task ∈ ahead, task ∈ ahead' ∨ event = .started task)
    (hnew : ∀ key, event.Requests key → ∃ task ∈ ahead', task.coalescingKey = key) :
    Served (history ++ [event]) ahead' := by
  intro before event' after key heq hrequest
  rcases snoc_cases heq with ⟨-, rfl, -⟩ | ⟨rest, hhistory, rfl⟩
  · exact .inr (hnew key hrequest)
  · rcases h before event' rest key hhistory hrequest with ⟨task, hmem, hkey⟩ | ⟨task, hmem, hkey⟩
    · exact .inl ⟨task, List.mem_append_left _ hmem, hkey⟩
    · rcases hkeep task hmem with hmem' | rfl
      · exact .inr ⟨task, hmem', hkey⟩
      · exact .inl ⟨task, List.mem_append_right _ (List.mem_singleton_self _), hkey⟩

/-- A timely step keeps all requests served. -/
lemma Served.step {capacity : ℕ} {s s' : System α} {a : Act α} (hsound : Sound capacity s) (ha : Timely s a)
    (h : Served s.history s.ahead) (hstep : Steps s a s') : Served s'.history s'.ahead := by
  cases hstep with
  | refused _ n ha' => exact h
  | merged key task hstopping hne hkey =>
    refine h.append (fun task hmem => .inl hmem) fun key' hrequest => ?_
    obtain rfl : key = key' := hrequest
    rcases hsound.owned key hkey with hahead | ⟨task', hworker, heq⟩
    · exact hahead
    · exact absurd heq (ha task' hworker)
  | queued _ task peak hstopping hroom hnew ha' =>
    have hahead : s.inHand ++ (s.executor.tasks ++ [task]) = s.ahead ++ [task] := (List.append_assoc ..).symm
    show Served (s.history ++ [.accepted task]) (s.inHand ++ (s.executor.tasks ++ [task]))
    rw [hahead]
    exact h.append (fun task' hmem => .inl (List.mem_append_left _ hmem)) fun key hrequest =>
      ⟨task, List.mem_append_right _ (List.mem_singleton_self _), hrequest⟩
  | stop => exact h.append (fun task hmem => .inl hmem) fun key hrequest => hrequest.elim
  | idle throws hidle => exact h
  | exit throws hworker htasks hstopping =>
    have hahead : s.ahead = [] := by rw [System.ahead, System.inHand, hworker, htasks]; rfl
    rw [hahead] at h
    show Served s.history s.executor.tasks
    rwa [htasks]
  | take throws task tasks hworker htasks =>
    have hahead : s.ahead = task :: tasks := by rw [System.ahead, System.inHand, hworker, htasks]; rfl
    rwa [hahead] at h
  | call throws task hworker =>
    have hahead : s.ahead = task :: s.executor.tasks := by rw [System.ahead, System.inHand, hworker]; rfl
    rw [hahead] at h
    refine h.append (fun task' hmem => ?_) fun key hrequest => hrequest.elim
    rcases List.mem_cons.mp hmem with rfl | hmem
    · exact .inr rfl
    · exact .inl hmem
  | finish throws task hworker =>
    have hahead : s.ahead = s.executor.tasks := by rw [System.ahead, System.inHand, hworker]; rfl
    rwa [hahead] at h

lemma served_run {capacity : ℕ} {acts : List (Act α)} (h : Along System.step Timely (initial capacity) acts) :
    Served (run capacity acts).history (run capacity acts).ahead := by
  have hboth := h.keeps (P := fun s => Sound capacity s ∧ Served s.history s.ahead)
    (fun s a ha hs => ⟨hs.1.step (steps s a), hs.2.step hs.1 ha (steps s a)⟩)
    ⟨sound_initial capacity, fun before event after key heq => by cases before <;> cases heq⟩
  exact hboth.2

/-! ### Progress -/

/-- A run without end, in which the worker goes on again and again. -/
structure FairRun (α : Type) (capacity : ℕ) where
  state : ℕ → System α
  act : ℕ → Act α
  start : state 0 = initial capacity
  next : ∀ n, state (n + 1) = (state n).step (act n)
  fair : ∀ n, ∃ m ≥ n, ∃ throws, act m = .work throws

/-- How far the worker is from its next begin. -/
def Worker.distance : Worker α → ℕ
  | .taken _ => 0
  | .waiting => 1
  | .calling _ => 2
  | .exited => 0

/-- The steps of the worker until `k` tasks are begun. -/
def distance (k : ℕ) (s : System α) : ℕ := 3 * (k - (startedTasks s.history).length) + s.worker.distance

lemma Steps.history_grows {s s' : System α} {a : Act α} (h : Steps s a s') : s.history <+: s'.history := by
  cases h with
  | merged | queued | stop | call => exact List.prefix_append _ _
  | refused | idle | exit | take | finish => exact List.prefix_refl _

lemma acceptedTasks_grow {before after : List (Event α)} (h : before <+: after) :
    acceptedTasks before <+: acceptedTasks after := by
  obtain ⟨rest, rfl⟩ := h
  rw [acceptedTasks_append]
  exact List.prefix_append _ _

/-- No step leads away from the begin of a task that was accepted, and a step of the worker leads to it. -/
lemma distance_step {capacity k : ℕ} {s s' : System α} {a : Act α} (hsound : Sound capacity s)
    (hk : k ≤ (acceptedTasks s.history).length) (hless : (startedTasks s.history).length < k)
    (h : Steps s a s') :
    distance k s' ≤ distance k s ∧ ∀ throws, a = .work throws → distance k s' < distance k s := by
  have hahead : s.ahead ≠ [] := by
    intro hnil
    have := congrArg List.length hsound.queue
    rw [hnil, List.append_nil] at this
    omega
  have hsame {event : Event α} (hevent : startedTasks [event] = []) :
      startedTasks (s.history ++ [event]) = startedTasks s.history := by
    rw [startedTasks_append, hevent, List.append_nil]
  cases h with
  | refused _ n ha => exact ⟨le_refl _, fun throws hwork => absurd hwork (ha throws)⟩
  | merged key task hstopping hne hkey =>
    refine ⟨?_, nofun⟩
    rw [distance, hsame rfl]
    rfl
  | queued _ task peak hstopping hroom hnew ha =>
    refine ⟨?_, fun throws hwork => absurd hwork (ha throws)⟩
    rw [distance, hsame rfl]
    rfl
  | stop =>
    refine ⟨?_, nofun⟩
    rw [distance, hsame rfl]
    rfl
  | idle throws hidle =>
    exfalso
    rcases hidle with hworker | ⟨hworker, htasks⟩
    · refine hahead ?_
      rw [System.ahead, System.inHand, hworker, (hsound.exited hworker).2]
      rfl
    · refine hahead ?_
      rw [System.ahead, System.inHand, hworker, htasks]
      rfl
  | exit throws hworker htasks hstopping =>
    exact absurd (by rw [System.ahead, System.inHand, hworker, htasks]; rfl) hahead
  | take throws task tasks hworker htasks =>
    have hlt : distance k { s with
        executor := { s.executor with tasks := tasks, runningTask := true }, worker := .taken task } <
        distance k s := by
      simp only [distance, hworker, Worker.distance]
      omega
    exact ⟨hlt.le, fun _ _ => hlt⟩
  | call throws task hworker =>
    have hlength : (startedTasks (s.history ++ [.started task])).length =
        (startedTasks s.history).length + 1 := by
      rw [startedTasks_append, List.length_append]
      rfl
    have hlt : distance k { s with worker := .calling task, history := s.history ++ [.started task] } <
        distance k s := by
      simp only [distance, hworker, Worker.distance, hlength]
      omega
    exact ⟨hlt.le, fun _ _ => hlt⟩
  | finish throws task hworker =>
    have hlt : distance k { s with executor := s.executor.finish task, worker := .waiting } < distance k s := by
      simp only [distance, hworker, Worker.distance]
      omega
    exact ⟨hlt.le, fun _ _ => hlt⟩

namespace FairRun

variable {capacity : ℕ} (r : FairRun α capacity)

lemma sound (n : ℕ) : Sound capacity (r.state n) := by
  induction n with
  | zero =>
    rw [r.start]
    exact sound_initial capacity
  | succ n ih =>
    rw [r.next]
    exact ih.step (steps _ _)

lemma history_grows {n m : ℕ} (h : n ≤ m) : (r.state n).history <+: (r.state m).history := by
  induction m, h using Nat.le_induction with
  | base => exact List.prefix_refl _
  | succ m _ ih =>
    rw [r.next]
    exact ih.trans (steps _ _).history_grows

/-- As many tasks are begun at some time as were accepted until now. -/
lemma exists_started {k n : ℕ} (hk : k ≤ (acceptedTasks (r.state n).history).length) :
    ∃ m ≥ n, k ≤ (startedTasks (r.state m).history).length := by
  induction hd : distance k (r.state n) using Nat.strong_induction_on generalizing n with
  | _ d ih =>
    subst hd
    obtain ⟨m, hm, throws, hact⟩ := r.fair n
    have hk' {i : ℕ} (hi : n ≤ i) : k ≤ (acceptedTasks (r.state i).history).length :=
      hk.trans (acceptedTasks_grow (r.history_grows hi)).length_le
    -- until the worker goes on, either enough tasks are begun or the distance has not grown
    have hkept : ∀ i, n ≤ i → (∃ j ≥ n, k ≤ (startedTasks (r.state j).history).length) ∨
        distance k (r.state i) ≤ distance k (r.state n) := by
      intro i hi
      induction i, hi using Nat.le_induction with
      | base => exact .inr (le_refl _)
      | succ i hi ih =>
        rcases ih with hdone | hle
        · exact .inl hdone
        · by_cases hless : (startedTasks (r.state i).history).length < k
          · rw [r.next]
            exact .inr ((distance_step (r.sound i) (hk' hi) hless (steps _ _)).1.trans hle)
          · exact .inl ⟨i, hi, by omega⟩
    rcases hkept m hm with hdone | hle
    · exact hdone
    · by_cases hless : (startedTasks (r.state m).history).length < k
      · have hlt := (distance_step (r.sound m) (hk' hm) hless (steps _ _)).2 throws hact
        rw [← r.next] at hlt
        obtain ⟨j, hj, hstarted⟩ := ih _ (hlt.trans_le hle) (hk' (by omega)) rfl
        exact ⟨j, by omega, hstarted⟩
      · exact ⟨m, hm, by omega⟩

/-- Whatever was accepted is begun at some time, in the order of acceptance. -/
lemma exists_begun (n : ℕ) :
    ∃ m ≥ n, acceptedTasks (r.state n).history <+: startedTasks (r.state m).history := by
  obtain ⟨m, hm, hlength⟩ := r.exists_started (le_refl (acceptedTasks (r.state n).history).length)
  refine ⟨m, hm, List.prefix_of_prefix_length_le (acceptedTasks_grow (r.history_grows hm)) ?_ hlength⟩
  rw [(r.sound m).queue]
  exact List.prefix_append _ _

lemma served (htimely : ∀ n, Timely (r.state n) (r.act n)) (n : ℕ) :
    Served (r.state n).history (r.state n).ahead := by
  induction n with
  | zero =>
    rw [r.start]
    exact fun before event after key heq => by cases before <;> cases heq
  | succ n ih =>
    rw [r.next]
    exact ih.step (r.sound n) (htimely n) (steps _ _)

/-- Every request is followed by the begin of a task with its key at some time. -/
lemma exists_served (htimely : ∀ n, Timely (r.state n) (r.act n)) {n : ℕ} {before after : List (Event α)}
    {event : Event α} {key : Bytes} (h : (r.state n).history = before ++ event :: after)
    (hrequest : event.Requests key) : ∃ m ≥ n, ∃ later, (r.state m).history = before ++ event :: later ∧
      ∃ task, .started task ∈ later ∧ task.coalescingKey = key := by
  rcases r.served htimely n before event after key h hrequest with ⟨task, hmem, hkey⟩ | ⟨task, hmem, hkey⟩
  · exact ⟨n, le_refl n, after, h, task, hmem, hkey⟩
  · obtain ⟨m, hm, hbegun⟩ := r.exists_begun n
    obtain ⟨rest, hrest⟩ := r.history_grows hm
    -- what was ahead is among what was begun since
    rw [(r.sound n).queue, ← hrest, startedTasks_append, List.prefix_append_right_inj] at hbegun
    refine ⟨m, hm, after ++ rest, ?_, task, List.mem_append_right _ ?_, hkey⟩
    · rw [← hrest, h, List.append_assoc, List.cons_append]
    · exact mem_startedTasks.mp (hbegun.subset hmem)

end FairRun

/-- **The executor runs what it accepted.** In every run the tasks that were accepted are begun in the
order of acceptance, each once, and those that are not are ahead; no more than the capacity waits;
nothing is accepted after a stop; and the worker ends with nothing ahead. When it goes on again and
again, every task is begun. If no request comes with the key of the task that the worker is in, every
request is followed by the begin of a task with its key. -/
theorem executor_runs_accepted (capacity : ℕ) :
    (∀ acts : List (Act α),
      acceptedTasks (run capacity acts).history =
        startedTasks (run capacity acts).history ++ (run capacity acts).ahead ∧
      (run capacity acts).executor.tasks.length ≤ capacity ∧
      (∀ before after, (run capacity acts).history = before ++ .stopped :: after →
        ∀ event ∈ after, ¬ event.Accepts) ∧
      ((run capacity acts).worker = .exited →
        acceptedTasks (run capacity acts).history = startedTasks (run capacity acts).history)) ∧
    (∀ (r : FairRun α capacity) (n : ℕ),
      ∃ m ≥ n, acceptedTasks (r.state n).history <+: startedTasks (r.state m).history) ∧
    (∀ acts : List (Act α), Along System.step Timely (initial capacity) acts →
      ∀ before event after key, (run capacity acts).history = before ++ event :: after → event.Requests key →
        (∃ task, .started task ∈ after ∧ task.coalescingKey = key) ∨
          ∃ task ∈ (run capacity acts).ahead, task.coalescingKey = key) ∧
    ∀ r : FairRun α capacity, (∀ n, Timely (r.state n) (r.act n)) →
      ∀ n before event after key, (r.state n).history = before ++ event :: after → event.Requests key →
        ∃ m ≥ n, ∃ later, (r.state m).history = before ++ event :: later ∧
          ∃ task, .started task ∈ later ∧ task.coalescingKey = key := by
  refine ⟨fun acts => ?_, fun r n => r.exists_begun n, fun acts h => served_run h,
    fun r htimely n before event after key h hrequest => r.exists_served htimely h hrequest⟩
  have hsound := sound_run capacity acts
  refine ⟨hsound.queue, hsound.bound, hsound.quiet, fun hworker => ?_⟩
  rw [hsound.queue, System.ahead, System.inHand, hworker, (hsound.exited hworker).2, List.append_nil,
    List.append_nil]

/-- One task, and then the worker. -/
def onePost : FairRun ℕ 1 where
  state n := run 1 ((List.range n).map fun i => if i = 0 then .post (some 7) else .work false)
  act i := if i = 0 then .post (some 7) else .work false
  start := rfl
  next n := by simp only [run, List.range_succ, List.map_append, List.foldl_append, List.map_cons,
    List.map_nil, List.foldl_cons, List.foldl_nil]
  fair n := ⟨n + 1, by omega, false, rfl⟩

theorem executor_runs_accepted_status :
    (∃ m ≥ 1, [⟨7, []⟩] <+: startedTasks (onePost.state m).history) ∧
    ((∃ task, .started task ∈ ([] : List (Event ℕ)) ∧ task.coalescingKey = str "status") ∨
      ∃ task ∈ (run 2 [.postCoalesced (str "status") (some 0), .postCoalesced (str "status") (some 1)]).ahead,
        task.coalescingKey = str "status") :=
  ⟨(executor_runs_accepted 1).2.1 onePost 1,
    (executor_runs_accepted 2).2.2.1 [.postCoalesced (str "status") (some 0), .postCoalesced (str "status") (some 1)]
      ⟨nofun, nofun, trivial⟩ [.accepted ⟨0, str "status"⟩]
      (.merged (str "status")) [] (str "status") rfl rfl⟩

/-- A request that comes while the task with its key runs is merged with it, and nothing follows. -/
theorem request_lost : ¬ ∀ (acts : List (Act ℕ)) before event after key,
    (run 64 acts).worker = .exited → (run 64 acts).history = before ++ event :: after → event.Requests key →
      ∃ task, .started task ∈ after ∧ task.coalescingKey = key := by
  intro h
  obtain ⟨task, hmem, -⟩ := h [.postCoalesced (str "status") (some 0), .work false, .work false,
    .postCoalesced (str "status") (some 1), .stop, .work false, .work false]
    [.accepted ⟨0, str "status"⟩, .started ⟨0, str "status"⟩] (.merged (str "status")) [.stopped] (str "status")
    rfl rfl rfl
  cases hmem with
  | tail _ hmem => cases hmem

end CcsTrans.App
