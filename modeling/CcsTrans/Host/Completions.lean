import CcsTrans.Host.CommandRouter
import CcsTrans.Runs

/-!
Which completions the commands of the window receive.

The router takes for the result of its command the first one that it observes with a number
greater than the one it has looked at. This is the right one as long as no command of the host
comes between the look and the submission, none overtakes it on the way to the observer, and no
state is observed while the router answers a refusal by itself.
-/

namespace CcsTrans.Host

open CcsTrans.Text CcsTrans.Runs
open CcsTrans.GuiIpc (Envelope Command GuiCommand guiCommandName)
open CcsTrans.Presentation (MainWindowCommandRequest ExecutionResult)

/-! ### What is asked of completions -/

/-- A completion is about its command: it carries the names of the request, and the result of
that very command unless the router has answered it by itself. -/
structure Completion.Own (submitted : List (Envelope × Command)) (c : Completion) : Prop where
  named : ∃ envelope command, submitted[c.ticket]? = some (envelope, command) ∧
    c.requestId = envelope.requestId ∧ c.clientSequence = envelope.sequence ∧
    (c.built = none → c.status.command = guiCommandName command.command)
  result : ∀ f, c.built = some f →
    f.issuer = .gui c.ticket ∧ c.status = buildGuiCommandStatus f.result c.clientSequence

/-- What the threads of the tray do on their own. -/
def Step.Internal : Step → Prop
  | .claim => True
  | .enter => True
  | .post _ => True
  | .lookAgain => True
  | .release => True
  | .nativePost _ => True
  | .run _ => True
  | .observe _ => True
  | _ => False

namespace Reader

/-- The router has looked at the view model, and not yet submitted its command. -/
def looking : Reader → Bool
  | .looked _ _ _ => true
  | .holding _ _ _ => true
  | _ => false

/-- The router was refused, and has not yet looked at the view model again. -/
def turnedAway : Reader → Bool
  | .refused _ _ => true
  | _ => false

/-- The router is to answer a refusal by itself. -/
def answers : Reader → Bool
  | .refused _ _ => true
  | .answering _ _ => true
  | _ => false

/-- How many steps the reader has left, at most, with those of the states it publishes. -/
def work : Reader → ℕ
  | .waiting => 0
  | .looked _ _ _ => 6
  | .holding _ _ _ => 5
  | .posting _ _ _ => 3
  | .refused _ _ => 2
  | .answering _ _ => 1

/-- The pending request is the one of the reader. -/
def claimed : Reader → Bool
  | .waiting => false
  | .looked _ _ _ => false
  | _ => true

end Reader

namespace Tray

/-- Nothing is under way. -/
structure Quiet (h : Tray) : Prop where
  reader : h.reader = .waiting
  native : h.native = none
  queue : h.queue = []
  published : h.published = []

/-- Every command of the window has at most one completion, which is about it; once nothing is
under way, each command has one, unless its connection has ended. -/
structure Attributed (h : Tray) : Prop where
  own : ∀ c ∈ h.completions, c.Own h.submitted
  once : (h.completions.map (·.ticket)).Nodup
  answered : h.Quiet → ∀ ticket < h.submitted.length, ticket ∉ h.dropped →
    ∃ c ∈ h.completions, c.ticket = ticket

/-- The threads come to rest, with nothing else done. -/
def Rests (h : Tray) (ok : Tray → Step → Prop) : Prop :=
  ∃ rest, (∀ s ∈ rest, s.Internal) ∧ Along step ok h rest ∧ (rest.foldl step h).Quiet

/-- No command gets in the way of the router: none of the host is submitted between its look and
its own submission, no result replaces the one of a refused command before it has looked again,
and the results are observed in their order, and not while it answers a refusal. -/
def Orderly (h : Tray) : Step → Prop
  | .nativeSubmit _ => h.reader.looking = false ∧
    (h.reader.turnedAway = true → h.viewModel.state.commandPending = false)
  | .nativePost taken => h.reader.turnedAway = true → taken = true
  | .run _ => h.reader.turnedAway = false
  | .observe i => ∀ p s, h.pending = some p → h.published[i]? = some s → p.foundIn s ≠ none →
    h.reader.answers = false ∧ ∀ s' ∈ h.published.take i, p.foundIn s' = none
  | _ => True

end Tray

/-! ### Results of pending requests -/

section Found

variable {p : Pending} {s : ViewState} {f : Finished}

lemma Pending.foundIn_eq_some : p.foundIn s = some f ↔
    s.commandPending = false ∧ s.lastCommand = some f ∧ p.previousModelSequence < f.result.sequence := by
  unfold Pending.foundIn
  cases hpending : s.commandPending with
  | true => simp
  | false =>
    cases hlast : s.lastCommand with
    | none => simp
    | some g =>
      simp only [Bool.false_eq_true, if_false, Option.some.injEq, true_and]
      split_ifs with hle
      · simp only [false_iff, not_and, not_lt]
        rintro rfl
        exact hle
      · constructor
        · intro h
          cases h
          exact ⟨rfl, by omega⟩
        · intro h
          rw [h.1]

lemma Pending.foundIn_busy (h : s.commandPending = true) : p.foundIn s = none := by
  simp [Pending.foundIn, h]

lemma Pending.foundIn_earlier (h : s.sequence ≤ p.previousModelSequence) : p.foundIn s = none := by
  cases hf : p.foundIn s with
  | none => rfl
  | some f =>
    obtain ⟨-, hlast, hlt⟩ := foundIn_eq_some.mp hf
    simp only [ViewState.sequence, hlast, Option.map_some, Option.getD_some] at h
    omega

lemma ViewState.sequence_of_some (h : s.lastCommand = some f) : s.sequence = f.result.sequence := by
  simp [ViewState.sequence, h]

end Found

section Observed

variable {α β : Type} {g : α → Option β}

/-- What does not count may be taken away. -/
lemma findSome?_eraseIdx {l : List α} {i : ℕ} {a : α} (ha : l[i]? = some a) (hg : g a = none) :
    (l.eraseIdx i).findSome? g = l.findSome? g := by
  induction l generalizing i with
  | nil => rfl
  | cons b l ih =>
    cases i with
    | zero =>
      cases ha
      simp [hg]
    | succ i =>
      rw [List.eraseIdx_cons_succ, List.findSome?_cons, List.findSome?_cons, ih (by simpa using ha)]

/-- The first that counts is found. -/
lemma findSome?_of_take {l : List α} {i : ℕ} {a : α} {b : β} (ha : l[i]? = some a)
    (hb : g a = some b) (hbefore : ∀ c ∈ l.take i, g c = none) : l.findSome? g = some b := by
  induction l generalizing i with
  | nil => simp at ha
  | cons c l ih =>
    cases i with
    | zero =>
      cases ha
      simp [hb]
    | succ i =>
      have hc : g c = none := hbefore c (by simp)
      rw [List.findSome?_cons, hc]
      exact ih (by simpa using ha) fun d hd => hbefore d (by simp [hd])

end Observed

namespace Tray

/-! ### The numbers of commands -/

/-- Those that have a command of the view model under way. -/
def holders (h : Tray) : List Task := h.reader.task.toList ++ h.native.toList ++ h.queue

/-- One command is under way when the view model says so. Its number is greater than those of the
results that can be observed. -/
structure Numbered (h : Tray) : Prop where
  last : h.viewModel.state.sequence < h.viewModel.nextSequence
  busy : h.viewModel.state.commandPending = true → ∃ t, h.holders = [t] ∧
    t.sequence < h.viewModel.nextSequence ∧
    ∀ s ∈ h.published, s.commandPending = false → s.sequence < t.sequence
  idle : h.viewModel.state.commandPending = false → h.holders = [] ∧
    ∀ s ∈ h.published, s.commandPending = false → s.sequence ≤ h.viewModel.state.sequence

variable {h h' : Tray}

lemma Numbered.congr (hn : h.Numbered) (hstate : h'.viewModel.state = h.viewModel.state)
    (hnext : h'.viewModel.nextSequence = h.viewModel.nextSequence) (hholders : h'.holders = h.holders)
    (hpublished : ∀ s ∈ h'.published, s ∈ h.published) : h'.Numbered := by
  obtain ⟨hlast, hbusy, hidle⟩ := hn
  refine ⟨by rwa [hstate, hnext], ?_, ?_⟩
  · intro hp
    obtain ⟨t, ht, hlt, hall⟩ := hbusy (by rwa [hstate] at hp)
    exact ⟨t, hholders.trans ht, by rwa [hnext], fun s hs => hall s (hpublished s hs)⟩
  · intro hp
    obtain ⟨hnone, hall⟩ := hidle (by rwa [hstate] at hp)
    refine ⟨hholders.trans hnone, fun s hs hs' => ?_⟩
    rw [hstate]
    exact hall s (hpublished s hs) hs'

/-- Whoever has a command is the only one. -/
lemma Numbered.of_holder (hn : h.Numbered) {t : Task} (ht : t ∈ h.holders) :
    h.viewModel.state.commandPending = true ∧ h.holders = [t] ∧
      t.sequence < h.viewModel.nextSequence ∧
      ∀ s ∈ h.published, s.commandPending = false → s.sequence < t.sequence := by
  cases hp : h.viewModel.state.commandPending with
  | false =>
    rw [(hn.idle hp).1] at ht
    cases ht
  | true =>
    obtain ⟨u, hu, hlt, hall⟩ := hn.busy hp
    rw [hu, List.mem_singleton] at ht
    subst ht
    exact ⟨rfl, hu, hlt, hall⟩

lemma Numbered.publish (hn : h.Numbered) : h.publish.Numbered := by
  refine ⟨hn.last, fun hp => ?_, fun hp => ?_⟩
  · obtain ⟨t, ht, hlt, hall⟩ := hn.busy hp
    refine ⟨t, ht, hlt, fun s hs hs' => ?_⟩
    rcases List.mem_append.mp hs with hs | hs
    · exact hall s hs hs'
    · rw [List.mem_singleton.mp hs] at hs'
      cases hs'.symm.trans hp
  · obtain ⟨hnone, hall⟩ := hn.idle hp
    refine ⟨hnone, fun s hs hs' => ?_⟩
    rcases List.mem_append.mp hs with hs | hs
    · exact hall s hs hs'
    · rw [List.mem_singleton.mp hs]
      exact le_refl _

/-- The command under way is done. -/
lemma Numbered.finish {t : Task} {f : Finished} (hn : h.Numbered) (ht : t ∈ h.holders)
    (hf : f.result.sequence = t.sequence) (hstate : h'.viewModel = h.viewModel)
    (hpublished : h'.published = h.published) (hholders : h'.holders = []) :
    (h'.finish f).Numbered := by
  obtain ⟨-, -, hlt, hall⟩ := hn.of_holder ht
  have hseq : (h'.finish f).viewModel.state.sequence = t.sequence := hf
  refine ⟨?_, (fun hp => nomatch hp), fun _ => ⟨hholders, fun s hs hs' => ?_⟩⟩
  · rw [hseq]
    show t.sequence < h'.viewModel.nextSequence
    rwa [hstate]
  · rw [hseq]
    rcases List.mem_append.mp hs with hs | hs
    · exact (hall s (by rw [← hpublished]; exact hs) hs').le
    · rw [List.mem_singleton.mp hs]
      exact hseq.le

/-! What `take` can do. -/

inductive Taken (h : Tray) (request : MainWindowCommandRequest) (issuer : Issuer) :
    Option Task × Tray → Prop
  | closed (haccepting : h.viewModel.accepting = false) : Taken h request issuer (none, h)
  | busy (hbusy : h.viewModel.state.commandPending = true) : Taken h request issuer
      (none, (h.number.setState { h.viewModel.state with
        lastCommand := some (h.task request issuer).busy }).publish)
  | started (hidle : h.viewModel.state.commandPending = false) : Taken h request issuer
      (some (h.task request issuer),
        (h.number.setState { h.viewModel.state with commandPending := true }).publish)

lemma taken (h : Tray) (request : MainWindowCommandRequest) (issuer : Issuer) :
    Taken h request issuer (h.take request issuer) := by
  unfold take
  dsimp only
  split_ifs with hclosed hbusy
  · exact .closed (by simpa using hclosed)
  · exact .busy hbusy
  · exact .started (by simpa using hbusy)

/-- A refused command takes a number. -/
lemma Numbered.busied (hn : h.Numbered) (request : MainWindowCommandRequest) (issuer : Issuer)
    (hbusy : h.viewModel.state.commandPending = true) :
    (h.number.setState { h.viewModel.state with
      lastCommand := some (h.task request issuer).busy }).publish.Numbered := by
  apply Numbered.publish
  obtain ⟨t, ht, hlt, hall⟩ := hn.busy hbusy
  refine ⟨Nat.lt_succ_self _, fun _ => ⟨t, ht, Nat.lt_succ_of_lt hlt, hall⟩, fun hp => ?_⟩
  cases hbusy.symm.trans hp

/-- A command is taken, and someone has it. -/
lemma Numbered.started (hn : h.Numbered) (request : MainWindowCommandRequest) (issuer : Issuer)
    (hidle : h.viewModel.state.commandPending = false)
    (hviewModel : h'.viewModel = (h.number.setState { h.viewModel.state with
      commandPending := true }).viewModel)
    (hpublished : h'.published = h.published ++ [{ h.viewModel.state with commandPending := true }])
    (hholders : h'.holders = [h.task request issuer]) : h'.Numbered := by
  obtain ⟨-, hall⟩ := hn.idle hidle
  refine ⟨?_, fun _ => ⟨_, hholders, ?_, fun s hs hs' => ?_⟩, fun hp => ?_⟩
  · rw [hviewModel]
    exact Nat.lt_succ_of_lt hn.last
  · rw [hviewModel]
    exact Nat.lt_succ_self _
  · rw [hpublished] at hs
    rcases List.mem_append.mp hs with hs | hs
    · exact lt_of_le_of_lt (hall s hs hs') hn.last
    · rw [List.mem_singleton.mp hs] at hs'
      cases hs'
  · rw [hviewModel] at hp
    cases hp

/-! ### Where the router stands -/

/-- What the reader may rely on, from where it stands. -/
def Placed (h : Tray) : Reader → Prop
  | .waiting => True
  | .looked _ _ previous =>
    h.viewModel.state.commandPending = false ∧ h.viewModel.state.sequence = previous
  | .holding job _ previous => h.pending = some (job.pending previous) ∧
    h.viewModel.state.commandPending = false ∧ h.viewModel.state.sequence = previous
  | .posting job previous task => h.pending = some (job.pending previous) ∧
    task.issuer = .gui job.ticket ∧ previous < task.sequence ∧
    ∀ s ∈ h.published, (job.pending previous).foundIn s = none
  | .refused job previous => h.pending = some (job.pending previous) ∧
    ∀ f, h.viewModel.state.lastCommand = some f → previous < f.result.sequence →
      f.issuer = .gui job.ticket
  | .answering job completion => (∃ previous, h.pending = some (job.pending previous)) ∧
    ((∃ f, f.issuer = .gui job.ticket ∧ completion = job.completed f) ∨
      ∃ error detail, completion = job.immediateFailure error detail)

/-- The result of a pending request is still to be observed: its command is to be run, or is the
first that will be found. -/
inductive Awaited (h : Tray) (p : Pending) : Prop
  | queued (t : Task) (hqueue : t ∈ h.queue) (hissuer : t.issuer = .gui p.ticket)
      (hlater : p.previousModelSequence < t.sequence)
      (hnone : ∀ s ∈ h.published, p.foundIn s = none)
  | shown (f : Finished) (hfound : h.published.findSome? p.foundIn = some f)
      (hissuer : f.issuer = .gui p.ticket)

/-- A command is still to be answered. -/
def Open (h : Tray) (ticket : ℕ) : Prop :=
  (∃ job, h.reader.job = some job ∧ job.ticket = ticket) ∨
    ∃ p, h.pending = some p ∧ p.ticket = ticket

/-- Every command is to be answered or has its one answer, or its connection has ended. -/
structure Ledger (h : Tray) : Prop where
  own : ∀ c ∈ h.completions, c.Own h.submitted
  once : (h.completions.map (·.ticket)).Nodup
  shut : ∀ c ∈ h.completions, ¬ h.Open c.ticket
  accounted : ∀ ticket < h.submitted.length,
    h.Open ticket ∨ ticket ∈ h.dropped ∨ ∃ c ∈ h.completions, c.ticket = ticket
  job : ∀ job, h.reader.job = some job →
    h.submitted[job.ticket]? = some (job.envelope, job.command)
  pending : ∀ p, h.pending = some p → ∃ envelope command,
    h.submitted[p.ticket]? = some (envelope, command) ∧
      p.requestId = envelope.requestId ∧ p.clientSequence = envelope.sequence
  apart : ∀ job p, h.reader.claimed = false → h.reader.job = some job → h.pending = some p →
    p.ticket ≠ job.ticket

structure Sound (h : Tray) : Prop where
  numbered : h.Numbered
  placed : h.Placed h.reader
  awaited : h.reader.claimed = false → ∀ p, h.pending = some p → h.Awaited p
  ledger : h.Ledger

lemma sound_start : Sound {} where
  numbered := ⟨by decide, (fun hp => nomatch hp), fun _ => ⟨rfl, fun s hs => nomatch hs⟩⟩
  placed := trivial
  awaited := fun _ p hp => nomatch hp
  ledger :=
    { own := fun c hc => nomatch hc
      once := List.nodup_nil
      shut := fun c hc => nomatch hc
      accounted := fun ticket ht => absurd ht (Nat.not_lt_zero _)
      job := fun job hj => nomatch hj
      pending := fun p hp => nomatch hp
      apart := fun _ p _ _ hp => nomatch hp }

lemma Awaited.congr {p : Pending} (ha : h.Awaited p) (hqueue : ∀ t ∈ h.queue, t ∈ h'.queue)
    (hpublished : h'.published = h.published) : h'.Awaited p := by
  cases ha with
  | queued t ht hissuer hlater hnone =>
    exact .queued t (hqueue t ht) hissuer hlater (by rwa [hpublished])
  | shown f hfound hissuer => exact .shown f (by rwa [hpublished]) hissuer

/-- The states that are published later do not matter to a result that was found. -/
lemma Awaited.shown_publish {p : Pending} {f : Finished}
    (hfound : h.published.findSome? p.foundIn = some f) (hissuer : f.issuer = .gui p.ticket)
    (s : ViewState) (hpublished : h'.published = h.published ++ [s]) : h'.Awaited p := by
  refine .shown f ?_ hissuer
  rw [hpublished, List.findSome?_append, hfound, Option.some_or]

/-- A state is published while a command is under way. -/
lemma Awaited.publish_busy {p : Pending} (ha : h.Awaited p) {s : ViewState}
    (hs : s.commandPending = true) (hqueue : ∀ t ∈ h.queue, t ∈ h'.queue)
    (hpublished : h'.published = h.published ++ [s]) : h'.Awaited p := by
  cases ha with
  | queued t ht hissuer hlater hnone =>
    refine .queued t (hqueue t ht) hissuer hlater fun u hu => ?_
    rw [hpublished] at hu
    rcases List.mem_append.mp hu with hu | hu
    · exact hnone u hu
    · rw [List.mem_singleton.mp hu]
      exact Pending.foundIn_busy hs
  | shown f hfound hissuer => exact .shown_publish hfound hissuer s hpublished

lemma mem_holders_of_queue {t : Task} (ht : t ∈ h.queue) : t ∈ h.holders :=
  List.mem_append_right _ ht

lemma mem_holders_of_native {t : Task} (ht : h.native = some t) : t ∈ h.holders := by
  simp [holders, ht]

lemma mem_holders_of_reader {t : Task} (ht : h.reader.task = some t) : t ∈ h.holders := by
  simp [holders, ht]

/-- The awaited result, when the view model has nothing under way. -/
lemma Awaited.of_idle {p : Pending} (ha : h.Awaited p) (hn : h.Numbered)
    (hidle : h.viewModel.state.commandPending = false) :
    ∃ f, h.published.findSome? p.foundIn = some f ∧ f.issuer = .gui p.ticket := by
  cases ha with
  | queued t ht =>
    have hbusy := (hn.of_holder (mem_holders_of_queue ht)).1
    cases hidle.symm.trans hbusy
  | shown f hfound hissuer => exact ⟨f, hfound, hissuer⟩

/-! ### The ledger -/

/-- The ledger does not see the view model. -/
lemma Ledger.congr (hl : h.Ledger) (hreader : h'.reader = h.reader) (hpending : h'.pending = h.pending)
    (hsubmitted : h'.submitted = h.submitted) (hcompletions : h'.completions = h.completions)
    (hdropped : h'.dropped = h.dropped) : h'.Ledger := by
  have hopen : h'.Open = h.Open := by
    funext ticket
    unfold Open
    rw [hreader, hpending]
  obtain ⟨hown, honce, hshut, haccounted, hjob, hpend, hapart⟩ := hl
  constructor
  · rwa [hcompletions, hsubmitted]
  · rwa [hcompletions]
  · rwa [hcompletions, hopen]
  · rwa [hcompletions, hsubmitted, hopen, hdropped]
  · rwa [hreader, hsubmitted]
  · rwa [hpending, hsubmitted]
  · rwa [hreader, hpending]

/-- The reader goes on with the same command. -/
lemma Ledger.reader (hl : h.Ledger) {job : Job} (hjob : h.reader.job = some job)
    (hreader : h'.reader.job = some job) (hclaimed : h'.reader.claimed = true)
    (hpending : h'.pending = h.pending) (hsubmitted : h'.submitted = h.submitted)
    (hcompletions : h'.completions = h.completions) (hdropped : h'.dropped = h.dropped) :
    h'.Ledger := by
  have hopen : h'.Open = h.Open := by
    funext ticket
    unfold Open
    rw [hreader, hjob, hpending]
  obtain ⟨hown, honce, hshut, haccounted, hj, hpend, -⟩ := hl
  constructor
  · rwa [hcompletions, hsubmitted]
  · rwa [hcompletions]
  · rwa [hcompletions, hopen]
  · rwa [hcompletions, hsubmitted, hopen, hdropped]
  · rw [hreader, hsubmitted, ← hjob]
    exact hj
  · rwa [hpending, hsubmitted]
  · intro job' p hno
    rw [hclaimed] at hno
    cases hno

/-- A command that was open gets its answer. -/
lemma Ledger.close (hl : h.Ledger) {c : Completion} (hopen : h.Open c.ticket)
    (hown : c.Own h.submitted) (hsubmitted : h'.submitted = h.submitted)
    (hcompletions : h'.completions = h.completions ++ [c]) (hdropped : h'.dropped = h.dropped)
    (hnow : ∀ ticket, h'.Open ticket ↔ h.Open ticket ∧ ticket ≠ c.ticket)
    (hjob : ∀ job, h'.reader.job = some job → h.reader.job = some job)
    (hpending : ∀ p, h'.pending = some p → h.pending = some p)
    (hapart : ∀ job p, h'.reader.claimed = false → h'.reader.job = some job →
      h'.pending = some p → p.ticket ≠ job.ticket) : h'.Ledger where
  own := by
    rw [hcompletions, hsubmitted]
    intro d hd
    rcases List.mem_append.mp hd with hd | hd
    · exact hl.own d hd
    · rwa [List.mem_singleton.mp hd]
  once := by
    rw [hcompletions, List.map_append, List.nodup_append]
    refine ⟨hl.once, List.nodup_singleton _, ?_⟩
    intro ticket hticket other hother heq
    obtain ⟨d, hd, rfl⟩ := List.mem_map.mp hticket
    simp only [List.map_cons, List.map_nil, List.mem_singleton] at hother
    rw [hother] at heq
    exact hl.shut d hd (heq ▸ hopen)
  shut := by
    rw [hcompletions]
    intro d hd hd'
    obtain ⟨hbefore, hne⟩ := (hnow _).mp hd'
    rcases List.mem_append.mp hd with hd | hd
    · exact hl.shut d hd hbefore
    · rw [List.mem_singleton.mp hd] at hne
      exact hne rfl
  accounted := by
    rw [hcompletions, hsubmitted, hdropped]
    intro ticket hticket
    by_cases heq : ticket = c.ticket
    · exact .inr (.inr ⟨c, by simp, heq.symm⟩)
    rcases hl.accounted ticket hticket with hwas | hgone | ⟨d, hd, hd'⟩
    · exact .inl ((hnow ticket).mpr ⟨hwas, heq⟩)
    · exact .inr (.inl hgone)
    · exact .inr (.inr ⟨d, List.mem_append_left _ hd, hd'⟩)
  job := by
    rw [hsubmitted]
    exact fun job hj => hl.job job (hjob job hj)
  pending := by
    rw [hsubmitted]
    exact fun p hp => hl.pending p (hpending p hp)
  apart := hapart

/-- A command comes in. -/
lemma Ledger.issue (hl : h.Ledger) (hwaiting : h.reader = .waiting) (envelope : Envelope)
    (command : Command) (hreader : h'.reader.job = some ⟨h.submitted.length, envelope, command⟩)
    (hsubmitted : h'.submitted = h.submitted ++ [(envelope, command)])
    (hpending : h'.pending = h.pending) (hcompletions : h'.completions = h.completions)
    (hdropped : h'.dropped = h.dropped) : h'.Ledger := by
  have hold : ∀ {ticket : ℕ} {x : Envelope × Command}, h.submitted[ticket]? = some x →
      h'.submitted[ticket]? = some x ∧ ticket < h.submitted.length := by
    intro ticket x hx
    obtain ⟨hlt, -⟩ := List.getElem?_eq_some_iff.mp hx
    rw [hsubmitted, List.getElem?_append_left hlt]
    exact ⟨hx, hlt⟩
  have hopen : ∀ ticket, h'.Open ticket ↔ ticket = h.submitted.length ∨ h.Open ticket := by
    intro ticket
    unfold Open
    rw [hreader, hpending, hwaiting]
    constructor
    · rintro (⟨job, ⟨⟩, rfl⟩ | hp)
      · exact .inl rfl
      · exact .inr (.inr hp)
    · rintro (rfl | ⟨job, ⟨⟩, -⟩ | hp)
      · exact .inl ⟨_, rfl, rfl⟩
      · exact .inr hp
  constructor
  · rw [hcompletions]
    intro c hc
    obtain ⟨⟨e, k, hk, hrest⟩, hresult⟩ := hl.own c hc
    exact ⟨⟨e, k, (hold hk).1, hrest⟩, hresult⟩
  · rw [hcompletions]
    exact hl.once
  · rw [hcompletions]
    intro c hc hc'
    obtain ⟨⟨e, k, hk, -⟩, -⟩ := hl.own c hc
    rcases (hopen _).mp hc' with heq | hbefore
    · exact absurd (hold hk).2 (by omega)
    · exact hl.shut c hc hbefore
  · rw [hsubmitted, hcompletions, hdropped, List.length_append, List.length_singleton]
    intro ticket hticket
    by_cases heq : ticket = h.submitted.length
    · exact .inl ((hopen _).mpr (.inl heq))
    · exact (hl.accounted ticket (by omega)).imp_left fun hbefore => (hopen _).mpr (.inr hbefore)
  · rw [hreader, hsubmitted]
    rintro job ⟨⟩
    simp
  · rw [hpending]
    intro p hp
    obtain ⟨e, k, hk, hrest⟩ := hl.pending p hp
    exact ⟨e, k, (hold hk).1, hrest⟩
  · rw [hreader, hpending]
    rintro job p - ⟨⟩ hp
    obtain ⟨e, k, hk, -⟩ := hl.pending p hp
    exact (hold hk).2.ne

/-! The answers of the router are about the command. -/

lemma own_immediateFailure {submitted : List (Envelope × Command)} {job : Job}
    (hjob : submitted[job.ticket]? = some (job.envelope, job.command)) (error : Gui.ErrorCode)
    (detail : Bytes) : (job.immediateFailure error detail).Own submitted :=
  ⟨⟨_, _, hjob, rfl, rfl, fun _ => rfl⟩, fun _ hf => nomatch hf⟩

lemma own_acceptedQuit {submitted : List (Envelope × Command)} {job : Job}
    (hjob : submitted[job.ticket]? = some (job.envelope, job.command)) :
    job.acceptedQuit.Own submitted :=
  ⟨⟨_, _, hjob, rfl, rfl, fun _ => rfl⟩, fun _ hf => nomatch hf⟩

lemma own_completed {submitted : List (Envelope × Command)} {job : Job} {f : Finished}
    (hjob : submitted[job.ticket]? = some (job.envelope, job.command))
    (hf : f.issuer = .gui job.ticket) : (job.completed f).Own submitted := by
  refine ⟨⟨_, _, hjob, rfl, rfl, fun hb => nomatch hb⟩, ?_⟩
  rintro g ⟨⟩
  exact ⟨hf, rfl⟩

/-! ### One step of the reader -/

lemma sound_submit (hs : h.Sound) (hwaiting : h.reader = .waiting) (envelope : Envelope)
    (command : Command) : (h.submit envelope command).Sound := by
  obtain ⟨hn, hplaced, hawaited, hl⟩ := hs
  have hnow : h.reader.claimed = false := by rw [hwaiting]; rfl
  -- a command that is answered at once is as good as one that was looked at before
  have hanswered : ∀ c : Completion, c.ticket = h.submitted.length →
      c.Own (h.submitted ++ [(envelope, command)]) →
      ({ h with submitted := h.submitted ++ [(envelope, command)] }.complete c).Sound := by
    intro c hc hown
    refine ⟨hn.congr rfl rfl rfl fun s hs => hs, ?_, ?_, ?_⟩
    · show Placed _ h.reader
      rw [hwaiting]
      trivial
    · exact fun _ p hp => (hawaited hnow p hp).congr (fun t ht => ht) rfl
    · have hissued : Ledger { h with
          submitted := h.submitted ++ [(envelope, command)]
          reader := .looked ⟨h.submitted.length, envelope, command⟩ {} 0 } :=
        hl.issue hwaiting envelope command rfl rfl rfl rfl rfl
      refine hissued.close (.inl ⟨_, rfl, hc.symm⟩) hown rfl rfl rfl ?_ ?_ (fun p hp => hp) ?_
      · intro ticket
        simp only [Open, complete, hwaiting, Reader.job, reduceCtorEq, false_and, exists_false,
          false_or, Option.some.injEq, exists_eq_left', hc]
        constructor
        · rintro ⟨p, hp, rfl⟩
          exact ⟨.inr ⟨p, hp, rfl⟩, hissued.apart _ p rfl rfl hp⟩
        · rintro ⟨heq | hp, hne⟩
          · exact absurd heq.symm hne
          · exact hp
      · intro job hjob
        simp only [complete, hwaiting, Reader.job, reduceCtorEq] at hjob
      · intro job p _ hjob
        simp only [complete, hwaiting, Reader.job, reduceCtorEq] at hjob
  have hjob : (h.submitted ++ [(envelope, command)])[h.submitted.length]? = some (envelope, command) := by
    simp
  unfold submit
  dsimp only
  by_cases hquit : command.command = .quitApplication
  · rw [if_pos hquit]
    exact hanswered _ rfl (own_acceptedQuit hjob)
  · rw [if_neg hquit]
    cases hrequest : requestOf envelope command with
    | error e => exact hanswered _ rfl (own_immediateFailure hjob _ _)
    | ok request =>
      dsimp only
      by_cases hbusy : h.viewModel.state.commandPending = true
      · rw [if_pos hbusy]
        exact hanswered _ rfl (own_immediateFailure hjob _ _)
      · rw [if_neg hbusy]
        refine ⟨hn.congr rfl rfl ?_ fun s hs => hs, ⟨by simpa using hbusy, rfl⟩,
          fun _ p hp => (hawaited hnow p hp).congr (fun t ht => ht) rfl,
          hl.issue hwaiting envelope command rfl rfl rfl rfl rfl⟩
        simp [holders, hwaiting, Reader.task]

lemma sound_claim (hs : h.Sound) : h.claim.Sound := by
  cases hr : h.reader with
  | waiting => rwa [claim, hr]
  | holding _ _ _ => rwa [claim, hr]
  | posting _ _ _ => rwa [claim, hr]
  | refused _ _ => rwa [claim, hr]
  | answering _ _ => rwa [claim, hr]
  | looked job request previous =>
    obtain ⟨hn, hplaced, hawaited, hl⟩ := hs
    rw [hr] at hplaced hawaited
    have hjob : h.reader.job = some job := by rw [hr]; rfl
    simp only [claim, hr]
    cases hp : h.pending with
    | none =>
      rw [if_neg (by simp)]
      refine ⟨hn.congr rfl rfl ?_ fun s hs => hs, ⟨rfl, hplaced⟩, (fun hno => nomatch hno), ?_⟩
      · simp [holders, hr, Reader.task]
      · have hopen : ∀ ticket, Open { h with
            pending := some (job.pending previous)
            reader := .holding job request previous } ticket ↔ h.Open ticket := by
          intro ticket
          unfold Open
          rw [hp, hjob]
          constructor
          · rintro (hj | ⟨p, ⟨⟩, hticket⟩)
            · exact .inl hj
            · exact .inl ⟨job, rfl, hticket⟩
          · rintro (hj | ⟨p, ⟨⟩, -⟩)
            exact .inl hj
        refine ⟨hl.own, hl.once, ?_, ?_, ?_, ?_, fun _ _ hno => nomatch hno⟩
        · exact fun c hc hc' => hl.shut c hc ((hopen _).mp hc')
        · exact fun ticket ht => (hl.accounted ticket ht).imp_left (hopen _).mpr
        · rintro job' ⟨⟩
          exact hl.job job hjob
        · rintro p ⟨⟩
          exact ⟨_, _, hl.job job hjob, rfl, rfl⟩
    | some p =>
      rw [if_pos Option.isSome_some]
      refine ⟨hn.congr rfl rfl ?_ fun s hs => hs, trivial, ?_, ?_⟩
      · simp [holders, hr, Reader.task, complete]
      · exact fun _ q hq => (hawaited rfl q (hp.trans hq)).congr (fun t ht => ht) rfl
      · have hapart := hl.apart job p (by rw [hr]; rfl) hjob hp
        refine hl.close (.inl ⟨job, hjob, rfl⟩) (own_immediateFailure (hl.job job hjob) _ _)
          rfl rfl rfl ?_ (fun _ hj => nomatch hj) (fun q hq => hp.trans hq) (fun _ _ _ hj => nomatch hj)
        intro ticket
        unfold Open
        rw [hjob, hp]
        constructor
        · rintro (⟨_, ⟨⟩, -⟩ | ⟨q, ⟨⟩, rfl⟩)
          exact ⟨.inr ⟨p, rfl, rfl⟩, hapart⟩
        · rintro ⟨⟨_, ⟨⟩, rfl⟩ | hq, hne⟩
          · exact absurd rfl hne
          · exact .inr hq

lemma sound_enter (hs : h.Sound) : h.enter.Sound := by
  cases hr : h.reader with
  | waiting => rwa [enter, hr]
  | looked _ _ _ => rwa [enter, hr]
  | posting _ _ _ => rwa [enter, hr]
  | refused _ _ => rwa [enter, hr]
  | answering _ _ => rwa [enter, hr]
  | holding job request previous =>
    obtain ⟨hn, hplaced, -, hl⟩ := hs
    rw [hr] at hplaced
    obtain ⟨hpending, hidle, hseq⟩ := hplaced
    have hjob : h.reader.job = some job := by rw [hr]; rfl
    have hnobody := (hn.idle hidle).1
    simp only [holders, hr, Reader.task, Option.toList_none, List.nil_append,
      List.append_eq_nil_iff] at hnobody
    simp only [enter, hr]
    cases htake : h.take request (.gui job.ticket) with
    | mk task h' =>
    have htaken := h.taken request (.gui job.ticket)
    rw [htake] at htaken
    cases htaken with
    | busy hbusy => cases hidle.symm.trans hbusy
    | closed =>
      refine ⟨hn.congr rfl rfl ?_ fun s hs => hs, ⟨hpending, ?_⟩, (fun hno => nomatch hno),
        hl.reader hjob rfl rfl rfl rfl rfl rfl⟩
      · simp [holders, hr, Reader.task]
      · intro f hf hlt
        have hlast : h.viewModel.state.sequence = f.result.sequence := ViewState.sequence_of_some hf
        omega
    | started =>
      refine ⟨hn.started request (.gui job.ticket) hidle rfl rfl ?_, ⟨hpending, rfl, ?_, ?_⟩,
        (fun hno => nomatch hno), hl.reader hjob rfl rfl rfl rfl rfl rfl⟩
      · simp [holders, Reader.task, hnobody.1, hnobody.2, publish, setState, number]
      · have hlast := hn.last
        show previous < h.viewModel.nextSequence
        omega
      · intro s hs
        rcases List.mem_append.mp hs with hs | hs
        · cases hbusy : s.commandPending with
          | true => exact Pending.foundIn_busy hbusy
          | false =>
            apply Pending.foundIn_earlier
            show s.sequence ≤ previous
            rw [← hseq]
            exact (hn.idle hidle).2 s hs hbusy
        · rw [List.mem_singleton.mp hs]
          exact Pending.foundIn_busy rfl

lemma sound_post (hs : h.Sound) (taken : Bool) : (h.post taken).Sound := by
  cases hr : h.reader with
  | waiting => rwa [post, hr]
  | looked _ _ _ => rwa [post, hr]
  | holding _ _ _ => rwa [post, hr]
  | refused _ _ => rwa [post, hr]
  | answering _ _ => rwa [post, hr]
  | posting job previous task =>
    obtain ⟨hn, hplaced, -, hl⟩ := hs
    rw [hr] at hplaced
    obtain ⟨hpending, hissuer, hlater, hnone⟩ := hplaced
    have hjob : h.reader.job = some job := by rw [hr]; rfl
    have hheld : task ∈ h.holders := mem_holders_of_reader (by rw [hr]; rfl)
    have honly := (hn.of_holder hheld).2.1
    simp only [holders, hr, Reader.task, Option.toList_some, List.cons_append, List.nil_append,
      List.cons.injEq, true_and, List.append_eq_nil_iff] at honly
    have hticket : (job.pending previous).ticket = job.ticket := rfl
    simp only [post, hr]
    cases taken with
    | true =>
      rw [if_pos rfl]
      refine ⟨hn.congr rfl rfl ?_ fun s hs => hs, trivial, ?_, ?_⟩
      · simp [holders, hr, Reader.task, honly.1, honly.2]
      · intro _ p hp
        cases hpending.symm.trans hp
        exact .queued task (by simp) hissuer hlater hnone
      · -- the request of the reader stays open as the pending one
        have hopen : ∀ ticket, Open { h with queue := h.queue ++ [task], reader := .waiting } ticket ↔
            h.Open ticket := by
          intro ticket
          unfold Open
          rw [hjob, hpending]
          constructor
          · rintro (⟨_, ⟨⟩, -⟩ | hp)
            exact .inr hp
          · rintro (⟨_, ⟨⟩, hj⟩ | hp)
            · exact .inr ⟨_, rfl, hticket.trans hj⟩
            · exact .inr hp
        refine ⟨hl.own, hl.once, ?_, ?_, (fun _ hj => nomatch hj), hl.pending,
          fun _ _ _ hj => nomatch hj⟩
        · exact fun c hc hc' => hl.shut c hc ((hopen _).mp hc')
        · exact fun ticket ht => (hl.accounted ticket ht).imp_left (hopen _).mpr
    | false =>
      rw [if_neg (by simp)]
      refine ⟨hn.finish hheld rfl rfl rfl ?_, ⟨hpending, ?_⟩, (fun hno => nomatch hno),
        hl.reader hjob rfl rfl rfl rfl rfl rfl⟩
      · simp [holders, Reader.task, honly.1, honly.2]
      · rintro f ⟨⟩ -
        exact hissuer

lemma sound_lookAgain (hs : h.Sound) : h.lookAgain.Sound := by
  cases hr : h.reader with
  | waiting => rwa [lookAgain, hr]
  | looked _ _ _ => rwa [lookAgain, hr]
  | holding _ _ _ => rwa [lookAgain, hr]
  | posting _ _ _ => rwa [lookAgain, hr]
  | answering _ _ => rwa [lookAgain, hr]
  | refused job previous =>
    obtain ⟨hn, hplaced, -, hl⟩ := hs
    rw [hr] at hplaced
    obtain ⟨hpending, hlast⟩ := hplaced
    have hjob : h.reader.job = some job := by rw [hr]; rfl
    simp only [lookAgain, hr]
    refine ⟨hn.congr rfl rfl ?_ fun s hs => hs, ⟨⟨previous, hpending⟩, ?_⟩,
      (fun hno => nomatch hno), hl.reader hjob rfl rfl rfl rfl rfl rfl⟩
    · simp [holders, hr, Reader.task]
    · cases hf : h.viewModel.state.lastCommand with
      | none => exact .inr ⟨_, _, rfl⟩
      | some f =>
        dsimp only
        split_ifs with hlt
        · exact .inl ⟨f, hlast f hf hlt, rfl⟩
        · exact .inr ⟨_, _, rfl⟩

lemma sound_release (hs : h.Sound) : h.release.Sound := by
  cases hr : h.reader with
  | waiting => rwa [release, hr]
  | looked _ _ _ => rwa [release, hr]
  | holding _ _ _ => rwa [release, hr]
  | posting _ _ _ => rwa [release, hr]
  | refused _ _ => rwa [release, hr]
  | answering job completion =>
    obtain ⟨hn, hplaced, -, hl⟩ := hs
    rw [hr] at hplaced
    obtain ⟨⟨previous, hpending⟩, hcompletion⟩ := hplaced
    have hjob : h.reader.job = some job := by rw [hr]; rfl
    have hticket : completion.ticket = job.ticket := by
      rcases hcompletion with ⟨f, -, rfl⟩ | ⟨error, detail, rfl⟩ <;> rfl
    have hown : completion.Own h.submitted := by
      rcases hcompletion with ⟨f, hf, rfl⟩ | ⟨error, detail, rfl⟩
      · exact own_completed (hl.job job hjob) hf
      · exact own_immediateFailure (hl.job job hjob) _ _
    simp only [release, hr]
    refine ⟨hn.congr rfl rfl ?_ fun s hs => hs, trivial, (fun _ p hp => nomatch hp), ?_⟩
    · simp [holders, hr, Reader.task, complete]
    · refine hl.close (.inl ⟨job, hjob, hticket.symm⟩) hown rfl rfl rfl ?_ (fun _ hj => nomatch hj)
        (fun _ hp => nomatch hp) (fun _ _ _ hj => nomatch hj)
      intro ticket
      unfold Open
      rw [hjob, hpending, hticket]
      constructor
      · rintro (⟨_, ⟨⟩, -⟩ | ⟨_, ⟨⟩, -⟩)
      · rintro ⟨⟨_, ⟨⟩, rfl⟩ | ⟨_, ⟨⟩, rfl⟩, hne⟩
        · exact absurd rfl hne
        · exact absurd rfl hne

/-! ### One step of the others -/

lemma sound_nativeSubmit (hs : h.Sound) {request : MainWindowCommandRequest}
    (hok : h.Orderly (.nativeSubmit request)) : (h.nativeSubmit request).Sound := by
  obtain ⟨hn, hplaced, hawaited, hl⟩ := hs
  obtain ⟨hlooking, haway⟩ := hok
  unfold nativeSubmit
  cases hnative : h.native with
  | some t =>
    rw [if_pos Option.isSome_some]
    exact ⟨hn, hplaced, hawaited, hl⟩
  | none =>
    rw [if_neg (by simp)]
    cases htake : h.take request .native with
    | mk task h' =>
    have htaken := h.taken request .native
    rw [htake] at htaken
    dsimp only
    cases htaken with
    | closed =>
      have hsame : { h with native := none } = h := by rw [← hnative]
      rw [hsame]
      exact ⟨hn, hplaced, hawaited, hl⟩
    | busy hbusy =>
      refine ⟨(hn.busied request .native hbusy).congr rfl rfl ?_ fun s hs => hs, ?_, ?_,
        hl.congr rfl rfl rfl rfl rfl⟩
      · simp [holders, hnative, publish, setState, number]
      · show Placed _ h.reader
        cases hr : h.reader with
        | waiting => trivial
        | looked _ _ _ => rw [hr] at hlooking; cases hlooking
        | holding _ _ _ => rw [hr] at hlooking; cases hlooking
        | refused _ _ => cases hbusy.symm.trans (haway (by rw [hr]; rfl))
        | answering _ _ => rwa [hr] at hplaced
        | posting job previous task =>
          rw [hr] at hplaced
          obtain ⟨hpending, hissuer, hlater, hnone⟩ := hplaced
          refine ⟨hpending, hissuer, hlater, fun s hs => ?_⟩
          rcases List.mem_append.mp hs with hs | hs
          · exact hnone s hs
          · rw [List.mem_singleton.mp hs]
            exact Pending.foundIn_busy hbusy
      · intro hno p hp
        let s : ViewState := { h.viewModel.state with lastCommand := some (h.task request .native).busy }
        exact (hawaited hno p hp).publish_busy (s := s) hbusy (fun t ht => ht) rfl
    | started hidle =>
      obtain ⟨hnobody, -⟩ := hn.idle hidle
      have hheld := hnobody
      simp only [holders, List.append_eq_nil_iff] at hheld
      refine ⟨hn.started request .native hidle rfl rfl ?_, ?_, ?_, hl.congr rfl rfl rfl rfl rfl⟩
      · simp [holders, publish, setState, number, hheld.1.1, hheld.2]
      · show Placed _ h.reader
        cases hr : h.reader with
        | waiting => trivial
        | looked _ _ _ => rw [hr] at hlooking; cases hlooking
        | holding _ _ _ => rw [hr] at hlooking; cases hlooking
        | refused _ _ => rwa [hr] at hplaced
        | answering _ _ => rwa [hr] at hplaced
        | posting _ _ task =>
          simp only [hr, Reader.task, Option.toList_some, List.cons_ne_nil, false_and] at hheld
      · exact fun hno p hp => (hawaited hno p hp).publish_busy rfl (fun t ht => ht) rfl

/-- A command of the queue or of the host is done. -/
lemma sound_finish (hs : h.Sound) (haway : h.reader.turnedAway = false) {t : Task} {f : Finished}
    (ht : t ∈ h.holders) (hreader : h.reader.task = none) (hf : f.result.sequence = t.sequence)
    (hissuer : f.issuer = t.issuer) (hqueue : ∀ u ∈ h.queue, u = t)
    (hviewModel : h'.viewModel = h.viewModel) (hpublished : h'.published = h.published)
    (hholders : h'.holders = []) (hreader' : h'.reader = h.reader) (hpending : h'.pending = h.pending)
    (hsubmitted : h'.submitted = h.submitted) (hcompletions : h'.completions = h.completions)
    (hdropped : h'.dropped = h.dropped) : (h'.finish f).Sound := by
  obtain ⟨hn, hplaced, hawaited, hl⟩ := hs
  have hbusy := (hn.of_holder ht).1
  have hshown : (h'.finish f).published = h.published ++ [⟨false, some f⟩] := by
    rw [← hpublished]
    rfl
  refine ⟨hn.finish ht hf hviewModel hpublished hholders, ?_, ?_,
    hl.congr hreader' hpending hsubmitted hcompletions hdropped⟩
  · show Placed _ h'.reader
    rw [hreader']
    cases hr : h.reader with
    | waiting => trivial
    | looked _ _ _ =>
      rw [hr] at hplaced
      cases hbusy.symm.trans hplaced.1
    | holding _ _ _ =>
      rw [hr] at hplaced
      cases hbusy.symm.trans hplaced.2.1
    | posting _ _ _ => rw [hr] at hreader; cases hreader
    | refused _ _ => rw [hr] at haway; cases haway
    | answering job completion =>
      rw [hr] at hplaced
      obtain ⟨⟨previous, hp⟩, hcompletion⟩ := hplaced
      exact ⟨⟨previous, hpending.trans hp⟩, hcompletion⟩
  · intro hno p hp
    rw [show (h'.finish f).reader = h.reader from hreader'] at hno
    cases hawaited hno p (hpending.symm.trans hp) with
    | shown g hfound hg => exact .shown_publish hfound hg _ hshown
    | queued u hu hissuer' hlater hnone =>
      -- the command that is done is the awaited one
      cases hqueue u hu
      refine .shown f ?_ (hissuer.trans hissuer')
      have hnot : h.published.findSome? p.foundIn = none := List.findSome?_eq_none_iff.mpr hnone
      have hnow : p.foundIn ⟨false, some f⟩ = some f :=
        Pending.foundIn_eq_some.mpr ⟨rfl, rfl, by omega⟩
      rw [hshown, List.findSome?_append, hnot, Option.none_or, List.findSome?_singleton, hnow]

lemma sound_nativePost (hs : h.Sound) {taken : Bool} (hok : h.Orderly (.nativePost taken)) :
    (h.nativePost taken).Sound := by
  unfold nativePost
  cases hnative : h.native with
  | none => exact hs
  | some task =>
    have hheld : task ∈ h.holders := mem_holders_of_native hnative
    have honly := (hs.numbered.of_holder hheld).2.1
    simp only [holders, hnative, Option.toList_some, List.append_assoc, List.append_eq_singleton_iff,
      List.cons_append, List.nil_append, List.cons_ne_nil, and_false, or_false, List.cons.injEq,
      true_and, Option.toList_eq_nil_iff] at honly
    dsimp only
    cases taken with
    | true =>
      obtain ⟨hn, hplaced, hawaited, hl⟩ := hs
      rw [if_pos rfl]
      refine ⟨hn.congr rfl rfl ?_ fun s hs => hs, ?_, ?_, hl.congr rfl rfl rfl rfl rfl⟩
      · simp [holders, hnative, honly.1, honly.2]
      · show Placed _ h.reader
        cases hr : h.reader with
        | waiting => trivial
        | looked _ _ _ => rwa [hr] at hplaced
        | holding _ _ _ => rwa [hr] at hplaced
        | posting _ _ _ => rwa [hr] at hplaced
        | refused _ _ => rwa [hr] at hplaced
        | answering _ _ => rwa [hr] at hplaced
      · exact fun hno p hp => (hawaited hno p hp).congr (fun t ht => List.mem_append_left _ ht) rfl
    | false =>
      rw [if_neg (by simp)]
      have haway : h.reader.turnedAway = false := by
        cases haway : h.reader.turnedAway with
        | false => rfl
        | true => exact nomatch hok haway
      refine sound_finish hs haway hheld honly.1 rfl rfl ?_ rfl rfl ?_ rfl rfl rfl rfl rfl
      · rw [honly.2]
        exact fun u hu => nomatch hu
      · simp [holders, honly.1, honly.2]

lemma sound_run (hs : h.Sound) {result : ExecutionResult} (hok : h.Orderly (.run result)) :
    (h.run result).Sound := by
  unfold run
  cases hqueue : h.queue with
  | nil => exact hs
  | cons task queue =>
    have hheld : task ∈ h.holders := mem_holders_of_queue (by rw [hqueue]; simp)
    have honly := (hs.numbered.of_holder hheld).2.1
    simp only [holders, hqueue, List.append_eq_singleton_iff, List.append_eq_nil_iff,
      List.cons.injEq, true_and, List.cons_ne_nil, and_false, or_false,
      Option.toList_eq_nil_iff] at honly
    obtain ⟨⟨hreader, hnative⟩, rfl⟩ := honly
    refine sound_finish hs hok hheld hreader rfl rfl ?_ rfl rfl ?_ rfl rfl rfl rfl rfl
    · rw [hqueue]
      exact fun u hu => List.mem_singleton.mp hu
    · simp [holders, hreader, hnative]

lemma sound_publish (hs : h.Sound) : h.publish.Sound := by
  obtain ⟨hn, hplaced, hawaited, hl⟩ := hs
  refine ⟨hn.publish, ?_, ?_, hl.congr rfl rfl rfl rfl rfl⟩
  · show Placed _ h.reader
    cases hr : h.reader with
    | waiting => trivial
    | looked _ _ _ => rwa [hr] at hplaced
    | holding _ _ _ => rwa [hr] at hplaced
    | refused _ _ => rwa [hr] at hplaced
    | answering _ _ => rwa [hr] at hplaced
    | posting job previous task =>
      rw [hr] at hplaced
      obtain ⟨hpending, hissuer, hlater, hnone⟩ := hplaced
      have hbusy := (hn.of_holder (mem_holders_of_reader (t := task) (by rw [hr]; rfl))).1
      refine ⟨hpending, hissuer, hlater, fun s hs => ?_⟩
      rcases List.mem_append.mp hs with hs | hs
      · exact hnone s hs
      · rw [List.mem_singleton.mp hs]
        exact Pending.foundIn_busy hbusy
  · intro hno p hp
    cases hbusy : h.viewModel.state.commandPending with
    | true => exact (hawaited hno p hp).publish_busy hbusy (fun t ht => ht) rfl
    | false =>
      obtain ⟨f, hfound, hissuer⟩ := (hawaited hno p hp).of_idle hn hbusy
      exact .shown_publish hfound hissuer _ rfl

/-- A state is observed that has nothing for the pending request. -/
lemma sound_pass (hs : h.Sound) {i : ℕ} {s : ViewState} (hi : h.published[i]? = some s)
    (hnot : ∀ p, h.pending = some p → p.foundIn s = none) :
    Sound { h with published := h.published.eraseIdx i } := by
  obtain ⟨hn, hplaced, hawaited, hl⟩ := hs
  have hsub : ∀ t ∈ h.published.eraseIdx i, t ∈ h.published := fun t ht => List.mem_of_mem_eraseIdx ht
  refine ⟨hn.congr rfl rfl rfl hsub, ?_, ?_, hl.congr rfl rfl rfl rfl rfl⟩
  · show Placed _ h.reader
    cases hr : h.reader with
    | waiting => trivial
    | looked _ _ _ => rwa [hr] at hplaced
    | holding _ _ _ => rwa [hr] at hplaced
    | refused _ _ => rwa [hr] at hplaced
    | answering _ _ => rwa [hr] at hplaced
    | posting _ _ _ =>
      rw [hr] at hplaced
      obtain ⟨hpending, hissuer, hlater, hnone⟩ := hplaced
      exact ⟨hpending, hissuer, hlater, fun t ht => hnone t (hsub t ht)⟩
  · intro hno p hp
    cases hawaited hno p hp with
    | queued t ht hissuer hlater hnone =>
      exact .queued t ht hissuer hlater fun u hu => hnone u (hsub u hu)
    | shown f hfound hissuer =>
      exact .shown f ((findSome?_eraseIdx hi (hnot p hp)).trans hfound) hissuer

/-- Only the result of a request that is awaited is found. -/
lemma unclaimed_of_found (hs : h.Sound) {p : Pending} {s : ViewState} {f : Finished}
    (hp : h.pending = some p) (hmem : s ∈ h.published) (hf : p.foundIn s = some f)
    (hanswers : h.reader.answers = false) : h.reader.claimed = false := by
  obtain ⟨hbusy, hlast, hlt⟩ := Pending.foundIn_eq_some.mp hf
  have hplaced := hs.placed
  cases hr : h.reader with
  | waiting => rfl
  | looked _ _ _ => rfl
  | refused _ _ => rw [hr] at hanswers; cases hanswers
  | answering _ _ => rw [hr] at hanswers; cases hanswers
  | holding job _ previous =>
    rw [hr] at hplaced
    obtain ⟨hpending, hidle, hseq⟩ := hplaced
    cases hpending.symm.trans hp
    have hle := (hs.numbered.idle hidle).2 s hmem hbusy
    rw [ViewState.sequence_of_some hlast, hseq] at hle
    exact absurd hlt (not_lt.mpr hle)
  | posting job previous _ =>
    rw [hr] at hplaced
    obtain ⟨hpending, -, -, hnone⟩ := hplaced
    cases hpending.symm.trans hp
    rw [hnone s hmem] at hf
    cases hf

lemma sound_observe (hs : h.Sound) {i : ℕ} (hok : h.Orderly (.observe i)) : (h.observe i).Sound := by
  unfold observe
  cases hi : h.published[i]? with
  | none => exact hs
  | some s =>
    have hpass := sound_pass hs hi
    cases hp : h.pending with
    | none =>
      rw [hp] at hpass
      exact hpass fun _ hq => nomatch hq
    | some p =>
      rw [hp] at hpass
      dsimp only
      cases hf : p.foundIn s with
      | none =>
        refine hpass ?_
        rintro q ⟨⟩
        exact hf
      | some f =>
        obtain ⟨hanswers, hbefore⟩ := hok p s hp hi (by simp [hf])
        have hmem : s ∈ h.published := List.mem_of_getElem? hi
        have hno := unclaimed_of_found hs hp hmem hf hanswers
        have hfirst := findSome?_of_take hi hf hbefore
        obtain ⟨hn, hplaced, hawaited, hl⟩ := hs
        have hissuer : f.issuer = .gui p.ticket := by
          cases hawaited hno p hp with
          | queued t ht hissuer hlater hnone =>
            rw [hnone s hmem] at hf
            cases hf
          | shown g hfound hissuer =>
            cases hfirst.symm.trans hfound
            exact hissuer
        refine ⟨hn.congr rfl rfl rfl fun t ht => List.mem_of_mem_eraseIdx ht, ?_,
          (fun _ q hq => nomatch hq), ?_⟩
        · show Placed _ h.reader
          cases hr : h.reader with
          | waiting => trivial
          | looked _ _ _ => rwa [hr] at hplaced
          | holding _ _ _ => rw [hr] at hno; cases hno
          | posting _ _ _ => rw [hr] at hno; cases hno
          | refused _ _ => rw [hr] at hno; cases hno
          | answering _ _ => rw [hr] at hno; cases hno
        · obtain ⟨envelope, command, hsubmitted, hid, hsequence⟩ := hl.pending p hp
          have hown : (p.completed f).Own h.submitted := by
            refine ⟨⟨envelope, command, hsubmitted, hid, hsequence, fun hb => nomatch hb⟩, ?_⟩
            rintro g ⟨⟩
            exact ⟨hissuer, rfl⟩
          refine hl.close (.inr ⟨p, hp, rfl⟩) hown rfl rfl rfl ?_ (fun job hj => hj)
            (fun _ hq => nomatch hq) (fun _ _ _ _ hq => nomatch hq)
          intro ticket
          unfold Open
          rw [hp]
          constructor
          · rintro (⟨job, hj, rfl⟩ | ⟨_, ⟨⟩, -⟩)
            exact ⟨.inl ⟨job, hj, rfl⟩, (hl.apart job p hno hj hp).symm⟩
          · rintro ⟨hj | ⟨_, ⟨⟩, rfl⟩, hne⟩
            · exact .inl hj
            · exact absurd rfl hne

lemma sound_disconnect (hs : h.Sound) (hwaiting : h.reader = .waiting) : h.disconnect.Sound := by
  obtain ⟨hn, hplaced, hawaited, hl⟩ := hs
  refine ⟨hn.congr rfl rfl rfl fun s hs => hs, ?_, (fun _ p hp => nomatch hp), ?_⟩
  · show Placed _ h.reader
    rw [hwaiting]
    trivial
  · refine ⟨hl.own, hl.once, ?_, ?_, hl.job, (fun _ hp => nomatch hp), fun _ _ _ _ hp => nomatch hp⟩
    · rintro c hc (hj | ⟨_, ⟨⟩, -⟩)
      exact hl.shut c hc (.inl hj)
    · intro ticket ht
      rcases hl.accounted ticket ht with (hj | ⟨p, hp, rfl⟩) | hgone | hdone
      · exact .inl (.inl hj)
      · exact .inr (.inl (by simp [disconnect, hp]))
      · exact .inr (.inl (List.mem_append_left _ hgone))
      · exact .inr (.inr hdone)

/-! ### Runs -/

lemma sound_step (hs : h.Sound) {s : Step} (hok : h.Orderly s) : (h.step s).Sound := by
  cases s with
  | connect => exact ⟨hs.numbered.congr rfl rfl rfl fun s hs => hs, hs.placed,
      fun hno p hp => (hs.awaited hno p hp).congr (fun t ht => ht) rfl,
      hs.ledger.congr rfl rfl rfl rfl rfl⟩
  | submit envelope command =>
    unfold step
    dsimp only
    split_ifs with hcan
    · exact sound_submit hs hcan.2 envelope command
    · exact hs
  | claim => exact sound_claim hs
  | enter => exact sound_enter hs
  | post taken => exact sound_post hs taken
  | lookAgain => exact sound_lookAgain hs
  | release => exact sound_release hs
  | nativeSubmit request => exact sound_nativeSubmit hs hok
  | nativePost taken => exact sound_nativePost hs hok
  | run result => exact sound_run hs hok
  | republish => exact sound_publish hs
  | observe i => exact sound_observe hs hok
  | disconnect =>
    unfold step
    dsimp only
    split_ifs with hwaiting
    · exact sound_disconnect hs hwaiting
    · exact hs
  | stop =>
    unfold step
    dsimp only
    split_ifs with hconnected
    · exact hs
    · exact ⟨hs.numbered.congr rfl rfl rfl fun s hs => hs, hs.placed,
        fun hno p hp => (hs.awaited hno p hp).congr (fun t ht => ht) rfl,
        hs.ledger.congr rfl rfl rfl rfl rfl⟩

lemma Sound.attributed (hs : h.Sound) : h.Attributed := by
  refine ⟨hs.ledger.own, hs.ledger.once, fun hquiet ticket ht hgone => ?_⟩
  rcases hs.ledger.accounted ticket ht with (⟨job, hj, -⟩ | ⟨p, hp, -⟩) | hdropped | hdone
  · rw [hquiet.reader] at hj
    cases hj
  · -- nothing is awaited any more
    cases hs.awaited (by rw [hquiet.reader]; rfl) p hp with
    | queued t hqueue =>
      rw [hquiet.queue] at hqueue
      cases hqueue
    | shown f hfound =>
      rw [hquiet.published] at hfound
      cases hfound
  · exact absurd hdropped hgone
  · exact hdone

/-! The threads come to rest. -/

/-- How many steps are left, at most, with nothing else done. -/
def work (h : Tray) : ℕ :=
  h.reader.work + 3 * h.native.toList.length + 2 * h.queue.length + h.published.length

/-- The reader has a step to do. -/
lemma exists_readerStep (hreader : h.reader ≠ .waiting) :
    ∃ s, s.Internal ∧ h.Orderly s ∧ (h.step s).work < h.work := by
  cases hr : h.reader with
  | waiting => exact absurd hr hreader
  | looked job request previous =>
    refine ⟨.claim, trivial, trivial, ?_⟩
    cases hp : h.pending with
    | none => simp [step, claim, hr, hp, work, Reader.work]
    | some p => simp [step, claim, hr, hp, work, complete, Reader.work]
  | holding job request previous =>
    refine ⟨.enter, trivial, trivial, ?_⟩
    simp only [step, enter, hr]
    cases htake : h.take request (.gui job.ticket) with
    | mk task h' =>
    have htaken := h.taken request (.gui job.ticket)
    rw [htake] at htaken
    cases htaken with
    | closed => simp [work, hr, Reader.work]
    | busy _ =>
      simp only [work, hr, Reader.work, publish, setState, number, List.length_append,
        List.length_singleton]
      omega
    | started _ =>
      simp only [work, hr, Reader.work, publish, setState, number, List.length_append,
        List.length_singleton]
      omega
  | posting job previous task =>
    refine ⟨.post true, trivial, trivial, ?_⟩
    simp only [step, post, hr, if_true, work, Reader.work, List.length_append, List.length_singleton]
    omega
  | refused job previous =>
    refine ⟨.lookAgain, trivial, trivial, ?_⟩
    simp only [step, lookAgain, hr, work, Reader.work]
    omega
  | answering job completion =>
    refine ⟨.release, trivial, trivial, ?_⟩
    simp only [step, release, hr, work, complete, Reader.work]
    omega

/-- As long as something is under way, some thread has a step to do. -/
lemma exists_step (hloud : ¬ h.Quiet) : ∃ s, s.Internal ∧ h.Orderly s ∧ (h.step s).work < h.work := by
  by_cases hreader : h.reader = .waiting
  · cases hnative : h.native with
    | some task =>
      refine ⟨.nativePost true, trivial, fun _ => rfl, ?_⟩
      simp only [step, nativePost, hnative, if_true, work, Option.toList_some, Option.toList_none,
        List.length_append, List.length_singleton, List.length_nil]
      omega
    | none =>
      cases hqueue : h.queue with
      | cons task queue =>
        refine ⟨.run {}, trivial, by rw [Orderly, hreader]; rfl, ?_⟩
        simp only [step, run, hqueue, work, finish, publish, setState, List.length_append,
          List.length_cons, List.length_nil]
        omega
      | nil =>
        cases hpublished : h.published with
        | nil => exact absurd ⟨hreader, hnative, hqueue, hpublished⟩ hloud
        | cons s rest =>
          refine ⟨.observe 0, trivial, fun p s _ _ _ => ⟨by rw [hreader]; rfl, by simp⟩, ?_⟩
          have hlength : (h.observe 0).published = rest := by
            unfold observe
            rw [hpublished]
            dsimp only [List.getElem?_cons_zero, List.eraseIdx_cons_zero]
            cases h.pending with
            | none => rfl
            | some p =>
              dsimp only
              cases p.foundIn s with
              | none => rfl
              | some f => rfl
          have hrest : (h.observe 0).reader = h.reader ∧ (h.observe 0).native = h.native ∧
              (h.observe 0).queue = h.queue := by
            unfold observe
            rw [hpublished]
            dsimp only [List.getElem?_cons_zero, List.eraseIdx_cons_zero]
            cases h.pending with
            | none => exact ⟨rfl, rfl, rfl⟩
            | some p =>
              dsimp only
              cases p.foundIn s with
              | none => exact ⟨rfl, rfl, rfl⟩
              | some f => exact ⟨rfl, rfl, rfl⟩
          show (h.observe 0).work < h.work
          rw [work, work, hrest.1, hrest.2.1, hrest.2.2, hlength, hpublished, List.length_cons]
          omega
  · exact exists_readerStep hreader

lemma rests (h : Tray) : h.Rests Orderly := by
  induction hwork : h.work using Nat.strong_induction_on generalizing h with
  | _ n ih =>
    by_cases hquiet : h.Quiet
    · exact ⟨[], (fun _ hs => nomatch hs), trivial, hquiet⟩
    · obtain ⟨s, hinternal, hok, hlt⟩ := exists_step hquiet
      obtain ⟨rest, hall, halong, hend⟩ := ih _ (hwork ▸ hlt) (h.step s) rfl
      refine ⟨s :: rest, ?_, ⟨hok, halong⟩, hend⟩
      rintro t (_ | ⟨_, ht⟩)
      · exact hinternal
      · exact hall t ht

end Tray

/-- **Every command of the window receives one completion, its own**, in every run in which no
command of the host gets in the way of the router. -/
theorem completions_attributed (steps : List Step) (h : Along Tray.step Tray.Orderly {} steps) :
    (steps.foldl Tray.step {}).Attributed ∧ (steps.foldl Tray.step {}).Rests Tray.Orderly :=
  ⟨(h.keeps (fun _ _ hok hs => Tray.sound_step hs hok) Tray.sound_start).attributed, Tray.rests _⟩

/-- A command of the window to start the service. -/
def startRequest : Step := .submit { requestId := str "command-1", sequence := 1 } { command := .startService }

/-- A command of the host is refused while the one of the window is pending. -/
def orderlySteps : List Step :=
  [.connect, startRequest, .claim, .enter, .post true, .nativeSubmit { command := .setLightweightMode },
    .run {}, .observe 0, .observe 0, .observe 0]

theorem completions_attributed_start :
    Along Tray.step Tray.Orderly {} orderlySteps ∧
      (orderlySteps.foldl Tray.step {}).Attributed ∧
      (orderlySteps.foldl Tray.step {}).completions.map (·.status.command) = [str "start_service"] := by
  have h : Along Tray.step Tray.Orderly {} orderlySteps :=
    ⟨trivial, trivial, trivial, trivial, trivial, ⟨rfl, fun hno => nomatch hno⟩, rfl,
      (fun _ _ _ _ _ => ⟨rfl, by simp⟩), (fun _ _ _ _ _ => ⟨rfl, by simp⟩),
      (fun _ _ _ _ _ => ⟨rfl, by simp⟩), trivial⟩
  exact ⟨h, (completions_attributed orderlySteps h).1, by decide⟩

/-- A command of the host comes between the look of the router and its submission, and is done
before that. -/
def overtakenSteps : List Step :=
  [.connect, startRequest, .nativeSubmit { command := .setLightweightMode }, .nativePost true, .run {},
    .claim, .enter, .post true, .observe 1]

theorem completions_attributed_fails : ¬ ∀ steps : List Step, (steps.foldl Tray.step {}).Attributed := by
  intro h
  obtain ⟨hown, -, -⟩ := h overtakenSteps
  have hdone : (overtakenSteps.foldl Tray.step {}).completions =
      [Pending.completed ⟨str "command-1", 1, 0, 0⟩ (Task.executed
        ⟨1, { command := .setLightweightMode }, .native⟩ {})] := by decide
  rw [hdone] at hown
  have hissuer := ((hown _ (List.mem_singleton_self _)).result _ rfl).1
  cases hissuer

end CcsTrans.Host
