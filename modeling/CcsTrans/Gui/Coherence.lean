import CcsTrans.Gui.Outbound
import CcsTrans.Runs

/-!
What holds in every session.

Snapshots only move from place to place, so that all snapshots of a session are states of one
view model. The client holds what the channel has sent last; and a job for a state is queued
when the channel says so.
-/

namespace CcsTrans.Gui

open CcsTrans.Text

variable {codec : Codec}

namespace GuiOutboundChannel

variable {c : GuiOutboundChannel} {t : Snapshot}

/-! ### Where snapshots come from -/

lemma has_pushJob {job : Job} (h : (c.pushJob job).2.Has t) :
    c.Has t ∨ ∃ e, job = .snapshot e t := by
  rcases c.pushJob_cases job with heq | ⟨-, heq⟩
  · rw [heq] at h
    exact Or.inl h
  · rw [heq] at h
    rcases h with ⟨e, h⟩ | h
    · rcases List.mem_append.mp h with h | h
      · exact Or.inl (Or.inl ⟨e, h⟩)
      · exact Or.inr ⟨e, (List.mem_singleton.mp h).symm⟩
    · exact Or.inl (Or.inr h)

/-- A channel that has got a new latest state, and no new snapshot jobs. -/
lemma has_latest {s : Snapshot} {jobs : List Job} {queued : Bool}
    (hjobs : ∀ e, Job.snapshot e t ∈ jobs → Job.snapshot e t ∈ c.jobs)
    (h : Has { c with latestState := some s, jobs := jobs, stateQueued := queued } t) :
    c.Has t ∨ t = s := by
  rcases h with ⟨e, h⟩ | h | h | h
  · exact Or.inl (Or.inl ⟨e, hjobs e h⟩)
  · exact Or.inl (Or.inr (Or.inl h))
  · exact Or.inr (Option.some.inj h).symm
  · exact Or.inl (Or.inr (Or.inr (Or.inr h)))

lemma has_publishState {s : Snapshot} (h : (c.publishState s).2.Has t) : c.Has t ∨ t = s := by
  have hp := c.published s
  generalize c.publishState s = x at h hp
  cases hp with
  | closed => exact Or.inl h
  | coalesced => exact has_latest (fun _ h => h) h
  | full => exact has_latest (fun _ h => h) h
  | queued =>
    refine has_latest (fun e h => ?_) h
    rcases List.mem_append.mp h with h | h
    · exact h
    · cases List.mem_singleton.mp h

/-- A channel whose writer holds nothing, and that has no new jobs. -/
lemma has_released {writer : Writer} (h : Has { c with writer := writer } t)
    (hw : ∀ job, writer ≠ .holding job) : c.Has t := by
  rcases h with h | ⟨e, h⟩ | h
  · exact Or.inl h
  · exact absurd h (hw _)
  · exact Or.inr (Or.inr h)

lemma has_take (h : c.take.Has t) : c.Has t := by
  have ht := c.taken
  generalize c.take = x at h ht
  cases ht with
  | nothing => exact h
  | ended => exact has_released h (by simp)
  | job hw hjobs =>
    rcases h with ⟨e, h⟩ | ⟨e, h⟩ | h
    · exact Or.inl ⟨e, by rw [hjobs]; exact List.mem_cons_of_mem _ h⟩
    · refine Or.inl ⟨e, ?_⟩
      rw [hjobs, Writer.holding.inj h]
      exact List.mem_cons_self ..
    · exact Or.inr (Or.inr h)

/-- What is sent as a state was in the channel. -/
lemma has_of_ready {job : Job} (hw : c.writer = .holding job) {e : Envelope}
    {baseline : Option Snapshot} (h : Ready c job e baseline) (ht : baseline = some t) :
    c.Has t := by
  cases h with
  | envelope => cases ht
  | snapshot =>
    cases ht
    exact Or.inr (Or.inl ⟨_, hw⟩)
  | first hlatest =>
    cases ht
    exact Or.inr (Or.inr (Or.inl hlatest))
  | delta hlatest =>
    cases ht
    exact Or.inr (Or.inr (Or.inl hlatest))

lemma has_send {writeError : Option Bytes} (h : (c.send codec writeError).Has t) : c.Has t := by
  have hs := c.sent codec writeError
  generalize c.send codec writeError = x at h hs
  cases hs with
  | nothing => exact h
  | skipped => exact has_released h (by simp)
  | failed =>
    rcases h with ⟨e, h⟩ | ⟨e, h⟩ | h
    · cases h
    · cases h
    · exact Or.inr (Or.inr h)
  | @written job e baseline hw hready =>
    rcases h with h | ⟨e, h⟩ | h | h
    · exact Or.inl h
    · cases h
    · exact Or.inr (Or.inr (Or.inl h))
    · cases hb : baseline with
      | none =>
        rw [hb] at h
        exact Or.inr (Or.inr (Or.inr h))
      | some u =>
        rw [hb] at h
        exact has_of_ready hw (ready_of_prepareJob hready) (hb.trans h)

end GuiOutboundChannel

/-- Snapshots stay in the session, but for the states that the view model comes to. -/
lemma has_step {s : Session} {step : Step} {t : Snapshot} (h : (s.step codec step).Has t) :
    s.Has t ∨ ∃ update, step = .change update ∧
      t = { update s.state with revision := s.state.revision + 1 } := by
  -- most steps touch the channel only
  have hchannel : ∀ {c' : GuiOutboundChannel}, (c'.Has t → s.channel.Has t) →
      ({ s with channel := c' } : Session).Has t → s.Has t := by
    intro c' hc h
    rcases h with h | h | h | h
    · exact Or.inl h
    · exact Or.inr (Or.inl h)
    · exact Or.inr (Or.inr (Or.inl h))
    · exact Or.inr (Or.inr (Or.inr (hc h)))
  cases step with
  | change update =>
    rcases h with h | h | h
    · exact Or.inr ⟨update, rfl, h⟩
    · rcases List.mem_append.mp h with h | h
      · exact Or.inl (Or.inr (Or.inl h))
      · exact Or.inr ⟨update, rfl, List.mem_singleton.mp h⟩
    · exact Or.inl (Or.inr (Or.inr h))
  | publish i =>
    left
    unfold Session.step at h
    cases hi : s.notified[i]? with
    | none =>
      simp only [hi] at h
      exact h
    | some u =>
      simp only [hi] at h
      rcases h with h | h | h | h
      · exact Or.inl h
      · exact Or.inr (Or.inl (List.mem_of_mem_eraseIdx h))
      · exact Or.inr (Or.inr (Or.inl h))
      · rcases GuiOutboundChannel.has_publishState h with h | rfl
        · exact Or.inr (Or.inr (Or.inr h))
        · exact Or.inr (Or.inl (List.mem_of_getElem? hi))
  | capture requestId =>
    left
    unfold Session.step at h
    cases hc : s.captured with
    | some x =>
      simp only [hc] at h
      exact h
    | none =>
      simp only [hc] at h
      rcases h with h | h | ⟨id, h⟩ | h
      · exact Or.inl h
      · exact Or.inr (Or.inl h)
      · cases h
        exact Or.inl rfl
      · exact Or.inr (Or.inr (Or.inr h))
  | queue =>
    left
    unfold Session.step at h
    cases hc : s.captured with
    | none =>
      simp only [hc] at h
      exact h
    | some x =>
      obtain ⟨id, u⟩ := x
      simp only [hc] at h
      rcases h with h | h | ⟨_, h⟩ | h
      · exact Or.inl h
      · exact Or.inr (Or.inl h)
      · cases h
      · rcases GuiOutboundChannel.has_pushJob h with h | ⟨e, h⟩
        · exact Or.inr (Or.inr (Or.inr h))
        · cases h
          exact Or.inr (Or.inr (Or.inl ⟨id, hc⟩))
  | enqueue e =>
    left
    simp only [Session.step] at h
    split_ifs at h
    · refine hchannel (fun h => ?_) h
      rcases GuiOutboundChannel.has_pushJob h with h | ⟨_, h⟩
      · exact h
      · cases h
    · exact h
  | take => exact Or.inl (hchannel GuiOutboundChannel.has_take h)
  | send writeError => exact Or.inl (hchannel GuiOutboundChannel.has_send h)
  | closeAfterDrain => exact Or.inl (hchannel (fun h => h) h)
  | stop =>
    refine Or.inl (hchannel (fun h => ?_) h)
    rcases h with ⟨e, h⟩ | h
    · cases h
    · exact Or.inr h

/-! ### One view model -/

lemma revision_step (s : Session) (step : Step) :
    (s.step codec step).state.revision = s.state.revision ∨
      ∃ update, step = .change update ∧
        (s.step codec step).state.revision = s.state.revision + 1 := by
  cases step with
  | change update => exact Or.inr ⟨update, rfl, rfl⟩
  | publish i =>
    left
    simp only [Session.step]
    split <;> rfl
  | capture requestId =>
    left
    simp only [Session.step]
    split <;> rfl
  | queue =>
    left
    simp only [Session.step]
    split <;> rfl
  | enqueue e =>
    left
    simp only [Session.step]
    split_ifs <;> rfl
  | take | send | closeAfterDrain | stop => exact Or.inl rfl

lemma coherent_step {s : Session} (step : Step) (h : ∃ history, s.Coherent history) :
    ∃ history, (s.step codec step).Coherent history := by
  obtain ⟨history, h⟩ := h
  cases step with
  | change update =>
    let new : Snapshot := { update s.state with revision := s.state.revision + 1 }
    have hnew : ∀ t, (s.step codec (.change update)).Has t → s.Has t ∨ t = new := by
      intro t ht
      rcases has_step ht with ht | ⟨u, hu, ht⟩
      · exact Or.inl ht
      · cases hu
        exact Or.inr ht
    refine ⟨Function.update history new.revision new, fun t ht => ?_, fun t ht => ?_,
      fun t ht => ?_⟩
    · rcases hnew t ht with ht | rfl
      · have hne : t.revision ≠ new.revision := by
          have := h.present t ht
          show t.revision ≠ s.state.revision + 1
          omega
        rw [Function.update_of_ne hne]
        exact h.state t ht
      · rw [Function.update_self]
    · rcases hnew t ht with ht | rfl
      · exact h.positive t ht
      · exact Nat.succ_pos _
    · rcases hnew t ht with ht | rfl
      · exact le_trans (h.present t ht) (Nat.le_succ _)
      · exact le_refl _
  | _ =>
    refine ⟨history, fun t ht => ?_, fun t ht => ?_, fun t ht => ?_⟩ <;>
      (obtain ht | ⟨u, hu, -⟩ := has_step ht)
    any_goals cases hu
    · exact h.state t ht
    · exact h.positive t ht
    · rcases revision_step s _ with hrev | ⟨u, hu, -⟩
      · rw [hrev]
        exact h.present t ht
      · cases hu

/-! ### The channel in a session -/

/-- What a step does to the channel. -/
inductive ChannelStep (codec : Codec) (s : Session) : Step → GuiOutboundChannel → Prop
  | same (step : Step) : ChannelStep codec s step s.channel
  | published {i : ℕ} {t : Snapshot} (h : s.notified[i]? = some t) :
      ChannelStep codec s (.publish i) (s.channel.publishState t).2
  | queued {id : Bytes} {t : Snapshot} (h : s.captured = some (id, t)) :
      ChannelStep codec s .queue (s.channel.enqueueSnapshot id t).2
  | enqueued {e : Envelope} (h : e.Plain) :
      ChannelStep codec s (.enqueue e) (s.channel.enqueue e).2
  | taken : ChannelStep codec s .take s.channel.take
  | sent (writeError : Option Bytes) :
      ChannelStep codec s (.send writeError) (s.channel.send codec writeError)
  | drained : ChannelStep codec s .closeAfterDrain s.channel.closeAfterDrain
  | stopped : ChannelStep codec s .stop s.channel.stop

lemma channelStep (codec : Codec) (s : Session) (step : Step) :
    ChannelStep codec s step (s.step codec step).channel := by
  cases step with
  | change update => exact .same _
  | publish i =>
    simp only [Session.step]
    split
    · exact .same _
    · next t h => exact .published h
  | capture requestId =>
    simp only [Session.step]
    split <;> exact .same _
  | queue =>
    simp only [Session.step]
    split
    · exact .same _
    · next id t h => exact .queued h
  | enqueue e =>
    simp only [Session.step]
    split_ifs with h
    · exact .enqueued h
    · exact .same _
  | take => exact .taken
  | send writeError => exact .sent writeError
  | closeAfterDrain => exact .drained
  | stop => exact .stopped

/-! ### The client -/

namespace GuiOutboundChannel

/-- The tracker of a client that has got a state, or has not. -/
def trackerOf : Option Snapshot → ClientStateTracker
  | none => {}
  | some t => ⟨some t, true, false⟩

/-- The client holds what the channel has sent last, and the messages in the queue are not
states in disguise. -/
structure Follows (c : GuiOutboundChannel) : Prop where
  client : c.client = trackerOf c.sentState
  plain : ∀ e, Job.envelope e ∈ c.jobs ∨ c.writer = .holding (.envelope e) → e.Plain

lemma client_written (c : GuiOutboundChannel) (e : Envelope) (w : Writer) (sent : Option Snapshot) :
    client { c with written := c.written ++ [e], writer := w, sentState := sent } =
      c.client.receive e := by
  simp [client]

/-- The client accepts what is sent. -/
lemma receive_ready {c : GuiOutboundChannel} {job : Job} {e : Envelope}
    {baseline : Option Snapshot} (h : Ready c job e baseline)
    (hplain : ∀ e, job = .envelope e → e.Plain) (hpositive : ∀ t, baseline = some t → 0 < t.revision) :
    (trackerOf c.sentState).receive e =
      trackerOf (baseline.orElse fun _ => c.sentState) := by
  have haccept : ∀ (k : ClientStateTracker) (t : Snapshot), 0 < t.revision →
      (k.acceptSnapshot t).2 = trackerOf (some t) := by
    intro k t ht
    rw [ClientStateTracker.acceptSnapshot, if_neg (by omega)]
    rfl
  cases h with
  | envelope =>
    obtain ⟨content, he⟩ := hplain e rfl
    rw [ClientStateTracker.receive, he]
    rfl
  | snapshot he =>
    rw [ClientStateTracker.receive, he]
    exact haccept _ _ (hpositive _ rfl)
  | first hlatest hsent he =>
    rw [ClientStateTracker.receive, he]
    exact haccept _ _ (hpositive _ rfl)
  | @delta _ t p hlatest hsent he hrevision hdiffer =>
    rw [ClientStateTracker.receive, he, hsent]
    have hempty : ¬ (buildGuiStateDelta p t).empty = true := by
      rwa [empty_buildGuiStateDelta]
    have hfrom : (buildGuiStateDelta p t).fromRevision = p.revision := rfl
    have hto : (buildGuiStateDelta p t).revision = t.revision := rfl
    simp only [ClientStateTracker.applyDelta, trackerOf, hfrom, hto, not_le.mpr hrevision, hempty,
      apply_buildGuiStateDelta]
    simp

variable {c : GuiOutboundChannel}

lemma Follows.pushJob (h : c.Follows) {job : Job} (hjob : ∀ e, job = .envelope e → e.Plain) :
    (c.pushJob job).2.Follows := by
  rcases c.pushJob_cases job with heq | ⟨-, heq⟩
  · rwa [heq]
  · rw [heq]
    refine ⟨h.client, fun e he => ?_⟩
    rcases he with he | he
    · rcases List.mem_append.mp he with he | he
      · exact h.plain e (Or.inl he)
      · exact hjob e (List.mem_singleton.mp he).symm
    · exact h.plain e (Or.inr he)

lemma Follows.publishState (h : c.Follows) (s : Snapshot) : (c.publishState s).2.Follows := by
  have hp := c.published s
  generalize c.publishState s = x at hp ⊢
  cases hp with
  | closed => exact h
  | coalesced => exact ⟨h.client, h.plain⟩
  | full => exact ⟨h.client, h.plain⟩
  | queued =>
    refine ⟨h.client, fun e he => h.plain e (he.imp_left fun he => ?_)⟩
    rcases List.mem_append.mp he with he | he
    · exact he
    · cases List.mem_singleton.mp he

lemma Follows.take (h : c.Follows) : c.take.Follows := by
  have ht := c.taken
  generalize c.take = x at ht ⊢
  cases ht with
  | nothing => exact h
  | ended => exact ⟨h.client, fun e he => h.plain e (Or.inl (by simpa using he))⟩
  | job hw hjobs =>
    refine ⟨h.client, fun e he => h.plain e (Or.inl ?_)⟩
    rw [hjobs]
    rcases he with he | he
    · exact List.mem_cons_of_mem _ he
    · rw [Writer.holding.inj he]
      exact List.mem_cons_self ..

lemma Follows.send (h : c.Follows) (hpositive : ∀ t, c.Has t → 0 < t.revision)
    (writeError : Option Bytes) : (c.send codec writeError).Follows := by
  have hs := c.sent codec writeError
  generalize c.send codec writeError = x at hs ⊢
  cases hs with
  | nothing => exact h
  | skipped hw => exact ⟨h.client, fun e he => h.plain e (Or.inl (by simpa using he))⟩
  | failed hw => exact ⟨h.client, fun e he => by simp [reportFailure] at he⟩
  | written hw hready =>
    have hr := ready_of_prepareJob hready
    refine ⟨?_, fun e he => h.plain e (Or.inl (by simpa using he))⟩
    rw [client_written, h.client]
    exact receive_ready hr (fun e he => h.plain e (Or.inr (he ▸ hw)))
      fun t ht => hpositive t (has_of_ready hw hr ht)

end GuiOutboundChannel

lemma follows_step {s : Session} (step : Step) (hs : ∃ history, s.Coherent history)
    (h : s.channel.Follows) : (s.step codec step).channel.Follows := by
  have hc := channelStep codec s step
  generalize (s.step codec step).channel = x at hc ⊢
  cases hc with
  | same => exact h
  | published => exact h.publishState _
  | queued => exact h.pushJob (by simp)
  | enqueued hplain =>
    refine h.pushJob fun e he => ?_
    cases he
    exact hplain
  | taken => exact h.take
  | sent writeError =>
    obtain ⟨history, hs⟩ := hs
    exact h.send (fun t ht => hs.positive t (Or.inr (Or.inr (Or.inr ht)))) writeError
  | drained => exact ⟨h.client, h.plain⟩
  | stopped => exact ⟨h.client, fun e he => h.plain e (Or.inr (by simpa [GuiOutboundChannel.stop] using he))⟩

/-! ### Runs -/

/-- What every session has. -/
structure Session.Sound (s : Session) : Prop where
  coherent : ∃ history, s.Coherent history
  follows : s.channel.Follows
  /-- A job for a state is there when the channel says so. -/
  queued : s.channel.stateQueued = true → Job.state ∈ s.channel.jobs

lemma queued_step {s : Session} (step : Step)
    (h : s.channel.stateQueued = true → Job.state ∈ s.channel.jobs) :
    (s.step codec step).channel.stateQueued = true →
      Job.state ∈ (s.step codec step).channel.jobs := by
  have hc := channelStep codec s step
  generalize (s.step codec step).channel = x at hc ⊢
  have hpush : ∀ job, (s.channel.pushJob job).2.stateQueued = true →
      Job.state ∈ (s.channel.pushJob job).2.jobs := by
    intro job
    rcases s.channel.pushJob_cases job with heq | ⟨-, heq⟩
    · rwa [heq]
    · rw [heq]
      exact fun hq => List.mem_append_left _ (h hq)
  cases hc with
  | same => exact h
  | @published i t _ =>
    have hp := s.channel.published t
    generalize s.channel.publishState t = x at hp ⊢
    cases hp with
    | closed => exact h
    | coalesced => exact h
    | full => exact h
    | queued => exact fun _ => List.mem_append_right _ (List.mem_singleton.mpr rfl)
  | queued => exact hpush _
  | enqueued => exact hpush _
  | taken =>
    have ht := s.channel.taken
    generalize s.channel.take = x at ht ⊢
    cases ht with
    | nothing => exact h
    | ended => exact h
    | @job job jobs hw hjobs =>
      intro hq
      by_cases hstate : job = .state
      · simp [hstate] at hq
      · simp only [hstate, if_false] at hq
        have hmem := h hq
        rw [hjobs] at hmem
        exact (List.mem_cons.mp hmem).resolve_left fun heq => hstate heq.symm
  | sent writeError =>
    have hs := s.channel.sent codec writeError
    generalize s.channel.send codec writeError = x at hs ⊢
    cases hs with
    | nothing => exact h
    | skipped => exact h
    | failed => exact fun hq => by cases hq
    | written => exact h
  | drained => exact h
  | stopped => exact fun hq => by cases hq

/-- **Every session is sound**, whatever the order of its steps. -/
theorem sound_run {s : Session} (h : s.Started) (steps : List Step) : (s.run codec steps).Sound := by
  obtain ⟨capacity, hc⟩ := h.channel
  refine Runs.keeps_run (fun s step hs => ?_) steps
    ⟨h.coherent, ⟨by rw [hc]; rfl, by rw [hc]; simp⟩, by rw [hc]; simp⟩
  exact ⟨coherent_step step hs.coherent, follows_step step hs.coherent hs.follows,
    queued_step step hs.queued⟩

end CcsTrans.Gui
