import CcsTrans.Gui.Coherence

/-!
Where the states of a window lead.

The last published state reaches the client unless a snapshot of another state is sent after
it; nothing is sent for a state that differs in its revision only. The order of revisions makes
the writer fail when a state is published that is older than one the channel has got before.
-/

namespace CcsTrans.Gui

open CcsTrans.Text CcsTrans.Runs

variable {codec : Codec}

/-! ### The last state that is sent -/

namespace GuiOutboundChannel

/-- The jobs that are still to be sent, in order. -/
def pending (c : GuiOutboundChannel) : List Job :=
  match c.writer with
  | .holding job => job :: c.jobs
  | _ => c.jobs

/-- Once the jobs are done, the last state that was sent is as `s`, given the one sent so far. -/
def Settles (s : Snapshot) : Option Snapshot → List Job → Prop
  | sent, [] => ∃ t, sent = some t ∧ t.Same s
  | sent, .envelope _ :: jobs => Settles s sent jobs
  | _, .snapshot _ t :: jobs => Settles s (some t) jobs
  | _, .state :: jobs => Settles s (some s) jobs

variable {s : Snapshot} {sent : Option Snapshot} {jobs : List Job}

/-- It matters only what the state sent so far says. -/
lemma Settles.congr {p q : Snapshot} (hpq : p.Same q) (h : Settles s (some q) jobs) :
    Settles s (some p) jobs := by
  induction jobs with
  | nil =>
    obtain ⟨t, ht, hs⟩ := h
    cases ht
    exact ⟨p, rfl, hpq.trans hs⟩
  | cons job jobs ih =>
    cases job with
    | envelope e => exact ih h
    | snapshot e t => exact h
    | state => exact h

/-- Behind a job for the state, snapshots that say the same do no harm. -/
lemma settles_of_same {p : Snapshot} (hp : p.Same s)
    (h : ∀ e t, Job.snapshot e t ∈ jobs → t.Same s) : Settles s (some p) jobs := by
  induction jobs generalizing p with
  | nil => exact ⟨p, rfl, hp⟩
  | cons job jobs ih =>
    have hrest : ∀ e t, Job.snapshot e t ∈ jobs → t.Same s := fun e t ht =>
      h e t (List.mem_cons_of_mem _ ht)
    cases job with
    | envelope e => exact ih hp hrest
    | snapshot e t => exact ih (h e t (List.mem_cons_self ..)) hrest
    | state => exact ih (Snapshot.Same.refl s) hrest

lemma settles_split {front rest : List Job}
    (h : ∀ e t, Job.snapshot e t ∈ rest → t.Same s) :
    Settles s sent (front ++ .state :: rest) := by
  induction front generalizing sent with
  | nil => exact settles_of_same (Snapshot.Same.refl s) h
  | cons job front ih =>
    cases job with
    | envelope e => exact ih
    | snapshot e t => exact ih
    | state => exact ih

/-- A job at the end is no state, or says the same. -/
lemma Settles.append {job : Job} (h : Settles s sent jobs)
    (hjob : ∀ e t, job = .snapshot e t → t.Same s) : Settles s sent (jobs ++ [job]) := by
  induction jobs generalizing sent with
  | nil =>
    obtain ⟨t, rfl, ht⟩ := h
    refine settles_of_same ht fun e t' ht' => hjob e t' (List.mem_singleton.mp ht').symm
  | cons job' jobs ih =>
    cases job' with
    | envelope e => exact ih h
    | snapshot e t => exact ih h
    | state => exact ih h

variable {c : GuiOutboundChannel}

/-- The channel is on its way to the state. -/
structure Heading (s : Snapshot) (c : GuiOutboundChannel) : Prop where
  latest : c.latestState = some s
  settles : Settles s c.sentState c.pending

lemma Heading.pushJob {job : Job} (h : Heading s c) (hjob : ∀ e t, job = .snapshot e t → t.Same s) :
    Heading s (c.pushJob job).2 := by
  rcases c.pushJob_cases job with heq | ⟨-, heq⟩
  · rwa [heq]
  · rw [heq]
    refine ⟨h.latest, ?_⟩
    have hpending : pending { c with jobs := c.jobs ++ [job] } = c.pending ++ [job] := by
      unfold pending
      cases c.writer <;> rfl
    rw [hpending]
    exact h.settles.append hjob

lemma Heading.take (h : Heading s c) : Heading s c.take := by
  have ht := c.taken
  generalize c.take = x at ht ⊢
  have hsettles := h.settles
  cases ht with
  | nothing => exact h
  | ended hw =>
    rw [pending, hw] at hsettles
    exact ⟨h.latest, hsettles⟩
  | job hw hjobs =>
    rw [pending, hw, hjobs] at hsettles
    exact ⟨h.latest, hsettles⟩

/-- What is sent brings the client on, or the writer fails. -/
lemma Heading.send (h : Heading s c) (writeError : Option Bytes) :
    (c.send codec writeError).failure ≠ none ∨ Heading s (c.send codec writeError) := by
  have hs := c.sent codec writeError
  generalize c.send codec writeError = x at hs ⊢
  have hsettles := h.settles
  cases hs with
  | nothing => exact Or.inr h
  | failed => exact Or.inl (by simp [reportFailure])
  | skipped hw hnothing =>
    obtain ⟨rfl, hsame⟩ := nothing_of_prepareJob hnothing
    obtain ⟨p, hp, hps⟩ := hsame s h.latest
    rw [pending, hw] at hsettles
    refine Or.inr ⟨h.latest, ?_⟩
    show Settles s c.sentState c.jobs
    rw [hp]
    exact Settles.congr hps hsettles
  | written hw hready =>
    have hr := ready_of_prepareJob hready
    rw [pending, hw] at hsettles
    refine Or.inr ⟨h.latest, ?_⟩
    cases hr with
    | envelope => exact hsettles
    | snapshot => exact hsettles
    | first hlatest =>
      rw [h.latest] at hlatest
      cases hlatest
      exact hsettles
    | delta hlatest =>
      rw [h.latest] at hlatest
      cases hlatest
      exact hsettles

/-- **An accepted state is where the channel is heading**, unless it joins a job that has
snapshots of other states behind it. -/
lemma heading_of_published (hqueued : c.stateQueued = true → Job.state ∈ c.jobs)
    (h : (c.publishState s).1 = true)
    (hbehind : ∀ front rest, c.jobs = front ++ .state :: rest →
      ∀ e t, Job.snapshot e t ∈ rest → t.Same s) : Heading s (c.publishState s).2 := by
  have hp := c.published s
  generalize c.publishState s = x at h hp ⊢
  -- the job is somewhere among those that are pending
  have hpending : ∀ {c' : GuiOutboundChannel} {front rest : List Job}, c'.writer = c.writer →
      c'.jobs = front ++ .state :: rest → (∀ e t, Job.snapshot e t ∈ rest → t.Same s) →
      Settles s c'.sentState c'.pending := by
    intro c' front rest hw hjobs hrest
    unfold pending
    rw [hjobs]
    cases c'.writer with
    | holding job =>
      show Settles s _ ((job :: front) ++ .state :: rest)
      exact settles_split hrest
    | idle => exact settles_split hrest
    | ended => exact settles_split hrest
  cases hp with
  | closed => cases h
  | full => cases h
  | coalesced hq =>
    obtain ⟨front, rest, hsplit⟩ := List.append_of_mem (hqueued hq)
    exact ⟨rfl, hpending rfl hsplit (hbehind front rest hsplit)⟩
  | queued => exact ⟨rfl, hpending rfl rfl (by simp)⟩

end GuiOutboundChannel

/-! ### Convergence -/

/-- A step that comes after the last published state: nothing else is published, the channel is
not stopped, and what is queued as a snapshot says the same. -/
def Session.Quiet (s : Snapshot) (session : Session) : Step → Prop
  | .publish _ | .stop => False
  | .queue => ∀ id t, session.captured = some (id, t) → t.Same s
  | _ => True

open GuiOutboundChannel in
lemma heading_step {s : Snapshot} {session : Session} {step : Step}
    (hquiet : Session.Quiet s session step)
    (h : session.channel.failure ≠ none ∨ Heading s session.channel) :
    (session.step codec step).channel.failure ≠ none ∨
      Heading s (session.step codec step).channel := by
  have hc := channelStep codec session step
  generalize (session.step codec step).channel = x at hc ⊢
  have hpush : ∀ job, (∀ e t, job = Job.snapshot e t → t.Same s) →
      (session.channel.pushJob job).2.failure ≠ none ∨
        Heading s (session.channel.pushJob job).2 := by
    intro job hjob
    refine h.imp (fun hf => ?_) fun hh => hh.pushJob hjob
    rcases session.channel.pushJob_cases job with heq | ⟨-, heq⟩ <;> rwa [heq]
  cases hc with
  | same => exact h
  | published => exact hquiet.elim
  | queued hcaptured =>
    refine hpush _ fun e t ht => ?_
    cases ht
    exact hquiet _ _ hcaptured
  | enqueued => exact hpush _ (by simp)
  | taken =>
    refine h.imp (fun hf => ?_) Heading.take
    have ht := session.channel.taken
    generalize session.channel.take = x at ht ⊢
    cases ht <;> exact hf
  | sent writeError =>
    rcases h with hf | hh
    · left
      have hs := session.channel.sent codec writeError
      generalize session.channel.send codec writeError = x at hs ⊢
      cases hs with
      | nothing => exact hf
      | skipped => exact hf
      | failed => simp [reportFailure]
      | written => exact hf
    · exact hh.send writeError
  | drained => exact h.imp id fun hh => ⟨hh.latest, hh.settles⟩
  | stopped => exact hquiet.elim

/-- **The window converges to the last published state, but for its revision.** In every session
and whatever the order of its steps: when a state is published and accepted, no snapshot of
another state stands behind a job that it joins and none is queued after it, nothing else is
published and the channel is not stopped, then once the queue has drained without a failure the
client holds that state. -/
theorem client_converges {session : Session} (h : session.Started) (before after : List Step)
    (i : ℕ) (s : Snapshot) :
    let at₀ := session.run codec before
    let at₁ := at₀.step codec (.publish i)
    at₀.notified[i]? = some s → (at₀.channel.publishState s).1 = true →
    (∀ front rest, at₀.channel.jobs = front ++ .state :: rest →
      ∀ e t, Job.snapshot e t ∈ rest → t.Same s) →
    Along (Session.step codec) (Session.Quiet s) at₁ after →
    let at₂ := at₁.run codec after
    at₂.channel.Drained → at₂.channel.failure = none →
      ∃ t, at₂.channel.client.snapshot = some t ∧ t.Same s := by
  intro at₀ at₁ hi haccepted hbehind hafter at₂ hdrained hfailure
  have hsound₀ : at₀.Sound := sound_run h before
  have hsound₂ : at₂.Sound := by
    have hrun : at₂ = session.run codec (before ++ .publish i :: after) := by
      simp only [at₂, at₁, at₀, Session.run, List.foldl_append, List.foldl_cons]
    rw [hrun]
    exact sound_run h _
  have hheading : GuiOutboundChannel.Heading s at₁.channel := by
    have hchannel : at₁.channel = (at₀.channel.publishState s).2 := by
      simp only [at₁, Session.step, hi]
    rw [hchannel]
    exact GuiOutboundChannel.heading_of_published hsound₀.queued haccepted hbehind
  have hend := hafter.keeps (P := fun t => t.channel.failure ≠ none ∨
    GuiOutboundChannel.Heading s t.channel) (fun _ _ => heading_step) (Or.inr hheading)
  obtain ⟨-, hsettles⟩ := hend.resolve_left (fun hf => hf hfailure)
  have hpending : at₂.channel.pending = [] := by
    unfold GuiOutboundChannel.pending
    obtain ⟨hjobs, hidle⟩ := hdrained
    split
    · next job hw => exact absurd hw (hidle job)
    · exact hjobs
  obtain ⟨t, ht, hts⟩ : ∃ t, at₂.channel.sentState = some t ∧ t.Same s := by
    have hs : GuiOutboundChannel.Settles s at₂.channel.sentState at₂.channel.pending := hsettles
    rw [hpending] at hs
    exact hs
  refine ⟨t, ?_, hts⟩
  rw [hsound₂.follows.client, ht]
  rfl

/-! ### The order of revisions -/

/-- A step that does not publish a state older than one that the channel has got. -/
def Session.InTurn (session : Session) : Step → Prop
  | .publish i => ∀ s, session.notified[i]? = some s →
      ∀ t, session.channel.Has t → t.revision ≤ s.revision
  | _ => True

namespace GuiOutboundChannel

variable {c : GuiOutboundChannel}

/-- Whatever is sent before a job for a state is not newer than the state. -/
def Ordered (c : GuiOutboundChannel) : Prop :=
  ∀ s, c.latestState = some s → ∀ front rest, c.pending = front ++ .state :: rest →
    (∀ t, c.sentState = some t → t.revision ≤ s.revision) ∧
    ∀ e t, Job.snapshot e t ∈ front → t.revision ≤ s.revision

lemma has_of_mem_pending {e : Envelope} {t : Snapshot} (h : Job.snapshot e t ∈ c.pending) :
    c.Has t := by
  unfold pending at h
  split at h
  · next job hw =>
    rcases List.mem_cons.mp h with rfl | h
    · exact Or.inr (Or.inl ⟨e, hw⟩)
    · exact Or.inl ⟨e, h⟩
  · exact Or.inl ⟨e, h⟩

lemma pending_jobs (c : GuiOutboundChannel) (jobs : List Job) :
    pending { c with jobs := c.jobs ++ jobs } = c.pending ++ jobs := by
  unfold pending
  cases c.writer <;> rfl

/-- A job at the end that is not for a state stands behind those for states. -/
lemma split_append {α : Type} {a b : α} {xs front rest : List α} (hab : b ≠ a)
    (h : xs ++ [b] = front ++ a :: rest) : ∃ rest', xs = front ++ a :: rest' := by
  rcases List.eq_nil_or_concat rest with rfl | ⟨rest', x, rfl⟩
  · have hlast := congrArg List.getLast? h
    simp at hlast
    exact absurd hlast hab
  · refine ⟨rest', ?_⟩
    have hsplit : xs ++ [b] = (front ++ a :: rest') ++ [x] := by simpa using h
    exact (List.append_inj' hsplit rfl).1

lemma Ordered.pushJob {job : Job} (h : c.Ordered) (hjob : job ≠ .state) :
    (c.pushJob job).2.Ordered := by
  rcases c.pushJob_cases job with heq | ⟨-, heq⟩
  · rwa [heq]
  · rw [heq]
    intro s hs front rest hsplit
    rw [pending_jobs] at hsplit
    obtain ⟨rest', hrest'⟩ := split_append hjob hsplit
    exact h s hs front rest' hrest'

lemma Ordered.publishState {s : Snapshot} (h : c.Ordered)
    (hnewest : ∀ t, c.Has t → t.revision ≤ s.revision) : (c.publishState s).2.Ordered := by
  have hp := c.published s
  generalize c.publishState s = x at hp ⊢
  have hsent : ∀ t, c.sentState = some t → t.revision ≤ s.revision := fun t ht =>
    hnewest t (Or.inr (Or.inr (Or.inr ht)))
  cases hp with
  | closed => exact h
  | coalesced | full =>
    intro s' hs' front rest hsplit
    cases hs'
    refine ⟨hsent, fun e t ht => hnewest t (has_of_mem_pending (c := c) (e := e) ?_)⟩
    have hsame : c.pending = front ++ .state :: rest := hsplit
    rw [hsame]
    exact List.mem_append_left _ ht
  | queued =>
    intro s' hs' front rest hsplit
    cases hs'
    refine ⟨hsent, fun e t ht => hnewest t (has_of_mem_pending (c := c) (e := e) ?_)⟩
    have hsame : c.pending ++ [.state] = front ++ .state :: rest := by
      rw [← pending_jobs]
      exact hsplit
    have hmem : Job.snapshot e t ∈ c.pending ++ [.state] := by
      rw [hsame]
      exact List.mem_append_left _ ht
    rcases List.mem_append.mp hmem with hmem | hmem
    · exact hmem
    · cases List.mem_singleton.mp hmem

lemma Ordered.take (h : c.Ordered) : c.take.Ordered := by
  have ht := c.taken
  generalize c.take = x at ht ⊢
  cases ht with
  | nothing => exact h
  | ended hw =>
    intro s hs front rest hsplit
    refine h s hs front rest ?_
    rw [pending, hw]
    exact hsplit
  | job hw hjobs =>
    intro s hs front rest hsplit
    refine h s hs front rest ?_
    rw [pending, hw, hjobs]
    exact hsplit

lemma ordered_of_nothing (h : c.pending = []) : c.Ordered := by
  intro s hs front rest hsplit
  rw [h] at hsplit
  simp at hsplit

lemma Ordered.send (h : c.Ordered) (writeError : Option Bytes) :
    (c.send codec writeError).Ordered := by
  have hs := c.sent codec writeError
  generalize c.send codec writeError = x at hs ⊢
  -- what is behind the job that was held
  have hbehind : ∀ {job : Job}, c.writer = .holding job → ∀ s, c.latestState = some s →
      ∀ front rest, c.jobs = front ++ .state :: rest →
        (∀ t, c.sentState = some t → t.revision ≤ s.revision) ∧
        ∀ e t, Job.snapshot e t ∈ job :: front → t.revision ≤ s.revision := by
    intro job hw s hs front rest hsplit
    refine h s hs (job :: front) rest ?_
    rw [pending, hw, hsplit]
    rfl
  cases hs with
  | nothing => exact h
  | failed => exact ordered_of_nothing rfl
  | skipped hw =>
    intro s hs front rest hsplit
    obtain ⟨hsent, hfront⟩ := hbehind hw s hs front rest hsplit
    exact ⟨hsent, fun e t ht => hfront e t (List.mem_cons_of_mem _ ht)⟩
  | written hw hready =>
    intro s hs front rest hsplit
    obtain ⟨hsent, hfront⟩ := hbehind hw s hs front rest hsplit
    refine ⟨fun t ht => ?_, fun e t ht => hfront e t (List.mem_cons_of_mem _ ht)⟩
    cases ready_of_prepareJob hready with
    | envelope => exact hsent t ht
    | snapshot =>
      cases ht
      exact hfront _ _ (List.mem_cons_self ..)
    | first hlatest =>
      cases ht
      cases hlatest.symm.trans hs
      exact le_refl _
    | delta hlatest =>
      cases ht
      cases hlatest.symm.trans hs
      exact le_refl _

/-- In order, a delta is never refused for its revisions. -/
lemma failure_send (h : c.Ordered) (hsame : ∀ s t, c.Has s → c.Has t →
      s.revision = t.revision → s = t) (hc : c.failure ≠ some .deltaRejected)
    (writeError : Option Bytes) : (c.send codec writeError).failure ≠ some .deltaRejected := by
  have hs := c.sent codec writeError
  generalize c.send codec writeError = x at hs ⊢
  cases hs with
  | nothing => exact hc
  | skipped => exact hc
  | written => exact hc
  | @failed job e hw he =>
    rcases he with he | ⟨detail, rfl⟩
    · intro hrejected
      cases hrejected
      obtain ⟨rfl, t, p, hlatest, hsent, hdiffer, hrevision⟩ := rejected_of_prepareJob he
      have hpending : c.pending = [] ++ .state :: c.jobs := by
        rw [pending, hw]
        rfl
      have hle := (h t hlatest [] c.jobs hpending).1 p hsent
      have heq : p = t := hsame p t (Or.inr (Or.inr (Or.inr hsent)))
        (Or.inr (Or.inr (Or.inl hlatest))) (le_antisymm hle hrevision)
      exact hdiffer (heq ▸ Snapshot.Same.refl p)
    · simp [reportFailure]

end GuiOutboundChannel

/-- A session in which the writer has not failed for the order of revisions, and will not. -/
structure Session.Orderly (session : Session) : Prop where
  coherent : ∃ history, session.Coherent history
  ordered : session.channel.Ordered
  failure : session.channel.failure ≠ some .deltaRejected

lemma orderly_step {session : Session} {step : Step} (hturn : session.InTurn step)
    (h : session.Orderly) : (session.step codec step).Orderly := by
  refine ⟨coherent_step step h.coherent, ?_, ?_⟩
  · have hc := channelStep codec session step
    generalize (session.step codec step).channel = x at hc ⊢
    cases hc with
    | same => exact h.ordered
    | published hi => exact h.ordered.publishState (hturn _ hi)
    | queued => exact h.ordered.pushJob (by simp)
    | enqueued => exact h.ordered.pushJob (by simp)
    | taken => exact h.ordered.take
    | sent writeError => exact h.ordered.send writeError
    | drained => exact h.ordered
    | stopped =>
      intro s hs front rest hsplit
      refine (h.ordered s hs front (rest ++ session.channel.jobs) ?_)
      have hheld : session.channel.pending =
          session.channel.stop.pending ++ session.channel.jobs := by
        unfold GuiOutboundChannel.pending GuiOutboundChannel.stop
        cases session.channel.writer <;> rfl
      rw [hheld, hsplit]
      simp
  · have hc := channelStep codec session step
    generalize (session.step codec step).channel = x at hc ⊢
    have hpush : ∀ job, (session.channel.pushJob job).2.failure ≠ some .deltaRejected := by
      intro job
      rcases session.channel.pushJob_cases job with heq | ⟨-, heq⟩ <;>
        (rw [heq]; exact h.failure)
    cases hc with
    | same => exact h.failure
    | @published i t _ =>
      have hp := session.channel.published t
      generalize session.channel.publishState t = x at hp ⊢
      cases hp <;> exact h.failure
    | queued => exact hpush _
    | enqueued => exact hpush _
    | taken =>
      have ht := session.channel.taken
      generalize session.channel.take = x at ht ⊢
      cases ht <;> exact h.failure
    | sent writeError =>
      obtain ⟨history, hcoherent⟩ := h.coherent
      refine GuiOutboundChannel.failure_send h.ordered (fun s t hs ht heq => ?_) h.failure
        writeError
      have hs' := hcoherent.state s (Or.inr (Or.inr (Or.inr hs)))
      have ht' := hcoherent.state t (Or.inr (Or.inr (Or.inr ht)))
      rw [hs', ht', heq]
    | drained => exact h.failure
    | stopped => exact h.failure

/-- **The order of revisions does not end a session** in which every state that is published is
at least as new as all that the channel has got before. -/
theorem delta_never_rejected {session : Session} (h : session.Started) (steps : List Step)
    (hsteps : Along (Session.step codec) Session.InTurn session steps) :
    (session.run codec steps).channel.failure ≠ some .deltaRejected := by
  obtain ⟨capacity, hc⟩ := h.channel
  have hinitial : session.Orderly :=
    ⟨h.coherent, by rw [hc]; exact GuiOutboundChannel.ordered_of_nothing rfl, by rw [hc]; simp⟩
  exact (hsteps.keeps (fun _ _ => orderly_step) hinitial).failure

/-! ### Sessions that go wrong -/

section Plain

/-- A library that can write everything. -/
def plainCodec : Codec := ⟨fun _ => none, fun _ => none⟩

def plainSession : Session where
  state := { revision := 1 }
  channel := { capacity := 128 }

lemma plainSession_started : plainSession.Started := by
  refine ⟨⟨fun _ => plainSession.state, ?_⟩, 128, rfl⟩
  have honly : ∀ t, plainSession.Has t → t = plainSession.state := by
    rintro t (h | h | ⟨id, h⟩ | ⟨e, h⟩ | ⟨e, h⟩ | h | h)
    · exact h
    all_goals cases h
  refine ⟨honly, fun t ht => ?_, fun t ht => ?_⟩
  · rw [honly t ht]
    decide
  · rw [honly t ht]

/-- The view model changes in a way that can be seen. -/
def toggled (s : Snapshot) : Snapshot := { s with commandPending := !s.commandPending }

/-- The state of a revision, when every change can be seen. -/
def toggledState (revision : ℕ) : Snapshot :=
  { revision := revision, commandPending := revision % 2 == 0 }

theorem client_converges_once :
    ∃ t, ((plainSession.run plainCodec [.change toggled]).step plainCodec (.publish 0)
        |>.run plainCodec [.take, .send none]).channel.client.snapshot = some t ∧
      t.Same (toggledState 2) := by
  refine client_converges plainSession_started [.change toggled] [.take, .send none] 0
    (toggledState 2) rfl rfl ?_ ⟨trivial, trivial, trivial⟩ ⟨rfl, fun job h => by cases h⟩ rfl
  intro front rest hsplit
  have hnil : [] = front ++ Job.state :: rest := hsplit
  simp at hnil

/-- A state joins a job with an older snapshot behind it, and the client ends with the older
one; and a state that differs in its revision only is not sent at all. -/
theorem client_diverges :
    (let before : List Step := [.change toggled, .publish 0, .capture [], .queue, .change toggled]
     let at₀ := plainSession.run plainCodec before
     let at₂ := (at₀.step plainCodec (.publish 0)).run plainCodec
       [.take, .send none, .take, .send none]
     at₀.notified[0]? = some (toggledState 3) ∧
       (at₀.channel.publishState (toggledState 3)).1 = true ∧
       at₂.channel.jobs = [] ∧ at₂.channel.writer = .idle ∧ at₂.channel.failure = none ∧
       at₂.channel.client.snapshot = some (toggledState 2)) ∧
    (let at₀ := plainSession.run plainCodec
       [.change id, .publish 0, .take, .send none, .change id]
     let at₂ := (at₀.step plainCodec (.publish 0)).run plainCodec [.take, .send none]
     at₀.notified[0]? = some { revision := 3 } ∧
       (at₀.channel.publishState { revision := 3 }).1 = true ∧
       at₂.channel.jobs = [] ∧ at₂.channel.writer = .idle ∧ at₂.channel.failure = none ∧
       at₂.channel.client.snapshot = some { revision := 2 }) := by
  decide

/-- A state that is published behind a snapshot of the one before. -/
theorem delta_never_rejected_in_order :
    (plainSession.run plainCodec [.capture [], .queue, .change toggled, .publish 0, .take,
      .send none, .take, .send none]).channel.failure ≠ some .deltaRejected := by
  refine delta_never_rejected plainSession_started _ ⟨trivial, trivial, trivial, ?_, trivial,
    trivial, trivial, trivial, trivial⟩
  intro s hs t ht
  cases hs
  rcases ht with ⟨e, h⟩ | ⟨e, h⟩ | h | h
  · cases List.mem_singleton.mp h
    decide
  all_goals cases h

/-- A snapshot overtakes a state that was notified before: the state is then older than what
the client has, and the session ends. -/
theorem delta_rejected :
    (plainSession.run plainCodec [.change toggled, .change toggled, .capture [], .queue, .take,
      .send none, .publish 0, .take, .send none]).channel.failure = some .deltaRejected := by
  decide

end Plain

end CcsTrans.Gui
