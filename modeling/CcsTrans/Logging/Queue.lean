import CcsTrans.Text
import CcsTrans.Runs
import Mathlib.Algebra.BigOperators.Group.List.Basic

/-!
The queue of the logger.

Producers put lines into a queue of bounded size. A writer takes all of them at once as a batch,
hands them to a sink one by one and flushes it. The batch counts as pending until then. A line of
level "error" waits for its flush, and so does a drain for the lines before it.

A sink may fail in any way: it returns, with or without a message, or throws.
-/

namespace CcsTrans.Logging

open CcsTrans.Text CcsTrans.Runs

/-! ### The logger -/

structure QueuedRecord where
  sequence : ℕ
  line : Bytes
  immediateFlush : Bool := false

/-- A record as it was accepted. -/
abbrev Entry := ℕ × Bytes

def QueuedRecord.entry (r : QueuedRecord) : Entry := (r.sequence, r.line)

inductive LogWriterState where
  | closed
  | running
  | failed
  | stopped
  deriving DecidableEq

/-- What a call of the sink comes to: it returns, and may have set the message, or it throws. -/
inductive SinkCall where
  | returned (ok : Bool) (message : Option Bytes)
  | threw (what : Option Bytes)

/-- Where the writer stands: with a batch, and those records of it that are not yet written. -/
inductive Writer where
  | waiting
  | writing (batch left : List QueuedRecord) (failure : Bytes)
  | wrote (batch left : List QueuedRecord) (failure : Bytes)
  | flushed (batch left : List QueuedRecord) (failure : Bytes)
  | finished

namespace Writer

def batch : Writer → List QueuedRecord
  | .waiting => []
  | .writing batch _ _ => batch
  | .wrote batch _ _ => batch
  | .flushed batch _ _ => batch
  | .finished => []

def left : Writer → List QueuedRecord
  | .waiting => []
  | .writing _ left _ => left
  | .wrote _ left _ => left
  | .flushed _ left _ => left
  | .finished => []

end Writer

structure Logger where
  queueCapacity : ℕ
  queue : List QueuedRecord := []
  pendingRecords : ℕ := 0
  pendingBytes : ℕ := 0
  nextSequence : ℕ := 1
  flushedSequence : ℕ := 0
  stopping : Bool := false
  state : LogWriterState := .running
  writerError : Bytes := []
  writer : Writer := .waiting
  /-- The numbers that calls wait for. -/
  calls : List ℕ := []
  /-- The records that were accepted. -/
  accepted : List Entry := []
  /-- Those that the sink has written. -/
  written : List Entry := []
  /-- Those that were written before the last flush. -/
  synced : List Entry := []
  /-- The numbers that calls have returned true for. -/
  promised : List ℕ := []

/-- What can happen next. -/
inductive Step where
  /-- A line that has been rendered; there may be no memory for its place in the queue. -/
  | log (line : Bytes) (immediateFlush allocated : Bool)
  | drain
  /-- A call that waits for a flush returns, if it can. -/
  | wake (i : ℕ)
  | take
  | write (call : SinkCall)
  | flush (call : SinkCall)
  | settle
  /-- The logger is destroyed. -/
  | stop
  | finish

namespace Logger

/-- `log`, under the lock, once there is space. -/
def log (l : Logger) (line : Bytes) (immediateFlush allocated : Bool) : Logger :=
  if l.state ≠ .running ∨ l.stopping then l
  else if l.pendingRecords = 0 ∨ l.pendingBytes + line.length ≤ l.queueCapacity then
    if !allocated then l
    else
      { l with
        queue := l.queue ++ [⟨l.nextSequence, line, immediateFlush⟩]
        nextSequence := l.nextSequence + 1
        pendingRecords := l.pendingRecords + 1
        pendingBytes := l.pendingBytes + line.length
        accepted := l.accepted ++ [(l.nextSequence, line)]
        calls := if immediateFlush then l.calls ++ [l.nextSequence] else l.calls }
  else l

/-- The last record of the queue is to be flushed at once. -/
def flushLast : List QueuedRecord → List QueuedRecord
  | [] => []
  | [r] => [{ r with immediateFlush := true }]
  | r :: s :: rs => r :: flushLast (s :: rs)

/-- `drain`, up to its wait. -/
def drain (l : Logger) : Logger :=
  if l.state ≠ .running ∨ l.stopping then l
  else
    let target := l.nextSequence - 1
    if target = 0 ∨ l.flushedSequence ≥ target then { l with promised := l.promised ++ [target] }
    else { l with queue := flushLast l.queue, calls := l.calls ++ [target] }

/-- The end of a wait, in `log` and in `drain`. -/
def wake (l : Logger) (i : ℕ) : Logger :=
  match l.calls[i]? with
  | none => l
  | some n =>
    if l.flushedSequence ≥ n then
      { l with calls := l.calls.eraseIdx i, promised := l.promised ++ [n] }
    else if l.state ≠ .running ∨ l.stopping then { l with calls := l.calls.eraseIdx i }
    else l

/-- The writer takes the queue. -/
def take (l : Logger) : Logger :=
  match l.writer with
  | .waiting =>
    if l.queue = [] then l
    else { l with queue := [], writer := .writing l.queue l.queue [] }
  | _ => l

/-- One call of `write`. -/
def write (l : Logger) (call : SinkCall) : Logger :=
  match l.writer with
  | .writing batch (r :: left) failure =>
    match call with
    | .returned true message =>
      let failure := message.getD failure
      { l with
        written := l.written ++ [r.entry]
        writer := if left = [] then .wrote batch left failure else .writing batch left failure }
    | .returned false message => { l with writer := .wrote batch (r :: left) (message.getD failure) }
    | .threw (some what) =>
      { l with writer := .wrote batch (r :: left) (str "log sink write failed: " ++ what) }
    | .threw none =>
      { l with writer := .wrote batch (r :: left) (str "log sink write failed with an unknown exception") }
  | _ => l

/-- The call of `flush`, if nothing has failed before. -/
def flush (l : Logger) (call : SinkCall) : Logger :=
  match l.writer with
  | .wrote batch left failure =>
    if failure ≠ [] then { l with writer := .flushed batch left failure }
    else match call with
      | .returned ok message =>
        let failure := message.getD []
        let failure := if !ok && failure = [] then str "log sink flush failed without an error message"
          else failure
        { l with
          synced := if ok then l.written else l.synced
          writer := .flushed batch left failure }
      | .threw (some what) =>
        { l with writer := .flushed batch left (str "log sink flush failed: " ++ what) }
      | .threw none =>
        { l with writer := .flushed batch left (str "log sink flush failed with an unknown exception") }
  | _ => l

/-- `report_writer_failure`. -/
def reportWriterFailure (l : Logger) (failure : Bytes) : Logger :=
  { l with
    queue := []
    pendingRecords := 0
    pendingBytes := 0
    state := .failed
    writerError := failure
    writer := .finished }

/-- The size of the lines of records. -/
def sizeOf (rs : List QueuedRecord) : ℕ := (rs.map (·.line.length)).sum

/-- The end of a batch. -/
def settle (l : Logger) : Logger :=
  match l.writer with
  | .flushed batch _ failure =>
    if failure ≠ [] then l.reportWriterFailure failure
    else
      { l with
        pendingRecords := l.pendingRecords - batch.length
        pendingBytes := l.pendingBytes - sizeOf batch
        flushedSequence := (batch.getLast?.map (·.sequence)).getD 0
        writer := .waiting }
  | _ => l

/-- The writer ends when there is nothing left. -/
def finish (l : Logger) : Logger :=
  match l.writer with
  | .waiting =>
    if l.queue = [] ∧ l.stopping then
      { l with state := if l.state = .running then .stopped else l.state, writer := .finished }
    else l
  | _ => l

def step (l : Logger) : Step → Logger
  | .log line immediateFlush allocated => l.log line immediateFlush allocated
  | .drain => l.drain
  | .wake i => l.wake i
  | .take => l.take
  | .write call => l.write call
  | .flush call => l.flush call
  | .settle => l.settle
  | .stop => { l with stopping := true }
  | .finish => l.finish

/-! ### What is asked of the queue -/

/-- The queue is safe: what is pending is counted, fits, and reaches the sink in its order, and
what a call has returned true for is written and flushed. -/
structure Safe (l : Logger) : Prop where
  records : l.pendingRecords = l.queue.length + l.writer.batch.length
  bytes : l.pendingBytes = sizeOf l.queue + sizeOf l.writer.batch
  capacity : sizeOf l.queue ≤ l.queueCapacity ∨ l.queue.length = 1 ∧ l.writer.batch = []
  order : l.state ≠ .failed → l.accepted = l.written ++ (l.writer.left ++ l.queue).map (·.entry)
  reached : l.written <+: l.accepted
  promised : ∀ n ∈ l.promised, ∀ e ∈ l.accepted, e.1 ≤ n → e ∈ l.synced ∧ e ∈ l.written

/-- A sink that refuses a record says why. -/
def Explains (l : Logger) : Step → Prop
  | .write (.returned false message) => ∀ batch left failure,
    l.writer = .writing batch left failure → message.getD failure ≠ []
  | _ => True

/-! ### What the writer relies on -/

/-- The part of its batch that the writer has written is the last that was written. -/
structure Part (l : Logger) (batch left : List QueuedRecord) : Prop where
  nonempty : batch ≠ []
  split : ∃ done, batch = done ++ left ∧ done.map (·.entry) <:+ l.written

def Placed (l : Logger) : Writer → Prop
  | .waiting => True
  | .writing batch left _ => l.Part batch left ∧ left ≠ []
  | .wrote batch left failure => l.Part batch left ∧ (failure = [] → left = [])
  | .flushed batch left failure =>
    l.Part batch left ∧ (failure = [] → left = [] ∧ l.synced = l.written)
  | .finished => l.queue = []

structure Sound (l : Logger) : Prop where
  records : l.pendingRecords = l.queue.length + l.writer.batch.length
  bytes : l.pendingBytes = sizeOf l.queue + sizeOf l.writer.batch
  capacity : l.pendingBytes ≤ l.queueCapacity ∨ l.pendingRecords ≤ 1
  sorted : l.accepted.Pairwise fun a b => a.1 < b.1
  below : ∀ e ∈ l.accepted, e.1 < l.nextSequence
  order : l.state ≠ .failed → l.accepted = l.written ++ (l.writer.left ++ l.queue).map (·.entry)
  reached : l.written <+: l.accepted
  synced : ∀ e ∈ l.synced, e ∈ l.written
  flushed : ∀ e ∈ l.accepted, e.1 ≤ l.flushedSequence → e ∈ l.synced
  promised : ∀ n ∈ l.promised, n ≤ l.flushedSequence
  ahead : l.flushedSequence < l.nextSequence
  fresh : ∀ r ∈ l.writer.batch ++ l.queue, l.flushedSequence < r.sequence
  placed : l.Placed l.writer
  running : l.state = .failed → l.writer = .finished
  ended : l.writer = .finished → l.state ≠ .running

variable {l l' : Logger}

lemma sizeOf_append (rs ss : List QueuedRecord) : sizeOf (rs ++ ss) = sizeOf rs + sizeOf ss := by
  simp [sizeOf]

lemma Sound.safe (h : l.Sound) : l.Safe where
  records := h.records
  bytes := h.bytes
  capacity := by
    rcases h.capacity with hfits | hone
    · exact .inl (by rw [h.bytes] at hfits; omega)
    · -- with one record at most, the queue is empty or holds it alone
      rw [h.records] at hone
      cases hqueue : l.queue with
      | nil => exact .inl (by simp [sizeOf])
      | cons r rs =>
        rw [hqueue, List.length_cons] at hone
        refine .inr ⟨by rw [List.length_cons]; omega, List.length_eq_zero_iff.mp (by omega)⟩
  order := h.order
  reached := h.reached
  promised := by
    intro n hn e he hle
    have hsynced := h.flushed e he (hle.trans (h.promised n hn))
    exact ⟨hsynced, h.synced e hsynced⟩

lemma Part.congr {batch left : List QueuedRecord} (h : l.Part batch left)
    (hwritten : l'.written = l.written) : l'.Part batch left :=
  ⟨h.nonempty, by rw [hwritten]; exact h.split⟩

lemma Placed.congr {w : Writer} (h : l.Placed w) (hwritten : l'.written = l.written)
    (hsynced : l'.synced = l.synced) (hqueue : w = .finished → l'.queue = l.queue) :
    l'.Placed w := by
  cases w with
  | waiting => trivial
  | writing batch left failure => exact ⟨h.1.congr hwritten, h.2⟩
  | wrote batch left failure => exact ⟨h.1.congr hwritten, h.2⟩
  | flushed batch left failure =>
    refine ⟨h.1.congr hwritten, fun hfailure => ⟨(h.2 hfailure).1, ?_⟩⟩
    rw [hsynced, hwritten]
    exact (h.2 hfailure).2
  | finished => exact (hqueue rfl).trans h

/-! ### What each step keeps -/

lemma Sound.log (h : l.Sound) (line : Bytes) (immediateFlush allocated : Bool) :
    (l.log line immediateFlush allocated).Sound := by
  unfold Logger.log
  generalize (if immediateFlush then l.calls ++ [l.nextSequence] else l.calls) = calls
  split_ifs with hclosed hspace hnone
  · exact h
  · exact h
  · have hrunning : l.state = .running := by
      by_contra hne
      exact hclosed (.inl hne)
    have hwriter : l.writer ≠ .finished := fun hfinished => h.ended hfinished hrunning
    exact
      { records := by
          have := h.records
          simp only [List.length_append, List.length_singleton]
          omega
        bytes := by
          have := h.bytes
          simp only [sizeOf_append]
          simp only [sizeOf, List.map_cons, List.map_nil, List.sum_singleton] at this ⊢
          omega
        capacity := by
          rcases hspace with hempty | hfits
          · exact .inr (by simp only; omega)
          · exact .inl hfits
        sorted := by
          refine List.pairwise_append.mpr ⟨h.sorted, List.pairwise_singleton _ _, ?_⟩
          intro a ha b hb
          rw [List.mem_singleton.mp hb]
          exact h.below a ha
        below := by
          intro e he
          rcases List.mem_append.mp he with hold | hnew
          · exact (h.below e hold).trans (Nat.lt_succ_self _)
          · rw [List.mem_singleton.mp hnew]
            exact Nat.lt_succ_self _
        order := by
          intro hne
          simp only [h.order hne, List.map_append, List.append_assoc, List.map_cons, List.map_nil,
            QueuedRecord.entry]
        reached := h.reached.trans (List.prefix_append _ _)
        synced := h.synced
        flushed := by
          intro e he hle
          rcases List.mem_append.mp he with hold | hnew
          · exact h.flushed e hold hle
          · rw [List.mem_singleton.mp hnew] at hle
            exact absurd h.ahead (Nat.not_lt.mpr hle)
        promised := h.promised
        ahead := h.ahead.trans (Nat.lt_succ_self _)
        fresh := by
          intro r hr
          rw [← List.append_assoc] at hr
          rcases List.mem_append.mp hr with hold | hnew
          · exact h.fresh r hold
          · rw [List.mem_singleton.mp hnew]
            exact h.ahead
        placed := h.placed.congr rfl rfl (fun hfinished => absurd hfinished hwriter)
        running := h.running
        ended := h.ended }
  · exact h

lemma map_flushLast {β : Type} (f : QueuedRecord → β)
    (hf : ∀ r : QueuedRecord, f { r with immediateFlush := true } = f r) (rs : List QueuedRecord) :
    (flushLast rs).map f = rs.map f := by
  induction rs with
  | nil => rfl
  | cons r rs ih =>
    cases rs with
    | nil => simp [flushLast, hf]
    | cons s rs => simp only [flushLast, List.map_cons] at ih ⊢; rw [ih]

lemma length_flushLast (rs : List QueuedRecord) : (flushLast rs).length = rs.length := by
  have := congrArg List.length (map_flushLast (fun _ => ()) (fun _ => rfl) rs)
  simpa using this

lemma sizeOf_flushLast (rs : List QueuedRecord) : sizeOf (flushLast rs) = sizeOf rs := by
  rw [sizeOf, map_flushLast _ (fun _ => rfl), sizeOf]

/-- The flag of the last record in the queue plays no part. -/
lemma Sound.flushLast (h : l.Sound) (calls : List ℕ) :
    { l with queue := Logger.flushLast l.queue, calls := calls }.Sound where
  records := by rw [length_flushLast]; exact h.records
  bytes := by rw [sizeOf_flushLast]; exact h.bytes
  capacity := h.capacity
  sorted := h.sorted
  below := h.below
  order := by
    intro hne
    rw [List.map_append, map_flushLast _ (fun _ => rfl), ← List.map_append]
    exact h.order hne
  reached := h.reached
  synced := h.synced
  flushed := h.flushed
  promised := h.promised
  ahead := h.ahead
  fresh := by
    intro r hr
    rcases List.mem_append.mp hr with hbatch | hqueue
    · exact h.fresh r (List.mem_append_left _ hbatch)
    · have hsequence : r.sequence ∈ (Logger.flushLast l.queue).map (·.sequence) :=
        List.mem_map_of_mem hqueue
      rw [map_flushLast _ (fun _ => rfl)] at hsequence
      obtain ⟨s, hs, heq⟩ := List.mem_map.mp hsequence
      rw [← heq]
      exact h.fresh s (List.mem_append_right _ hs)
  placed := by
    refine h.placed.congr rfl rfl (fun hfinished => ?_)
    have hempty : l.queue = [] := by simpa [hfinished, Placed] using h.placed
    simp only [hempty, Logger.flushLast]
  running := h.running
  ended := h.ended

lemma Sound.promise (h : l.Sound) {n : ℕ} (hn : n ≤ l.flushedSequence) (calls : List ℕ) :
    { l with calls := calls, promised := l.promised ++ [n] }.Sound :=
  { h with
    promised := by
      intro m hm
      rcases List.mem_append.mp hm with hold | hnew
      · exact h.promised m hold
      · rw [List.mem_singleton.mp hnew]
        exact hn
    placed := h.placed.congr rfl rfl (fun _ => rfl) }

lemma Sound.drain (h : l.Sound) : l.drain.Sound := by
  unfold Logger.drain
  simp only
  split_ifs with hclosed hdone
  · exact h
  · exact h.promise (by omega) l.calls
  · exact h.flushLast _

lemma Sound.wake (h : l.Sound) (i : ℕ) : (l.wake i).Sound := by
  unfold Logger.wake
  split
  · exact h
  · rename_i n _
    split_ifs with hflushed hclosed
    · exact h.promise hflushed _
    · exact { h with placed := h.placed.congr rfl rfl (fun _ => rfl) }
    · exact h

lemma Sound.take (h : l.Sound) : l.take.Sound := by
  unfold Logger.take
  split
  · rename_i hwriter
    split_ifs with hempty
    · exact h
    · have hrecords := h.records
      have hbytes := h.bytes
      have horder := h.order
      have hfresh := h.fresh
      rw [hwriter] at hrecords hbytes horder hfresh
      exact
        { h with
          records := by simpa [Writer.batch] using hrecords
          bytes := by simpa [Writer.batch, sizeOf] using hbytes
          order := by
            intro hne
            simpa [Writer.left] using horder hne
          fresh := by simpa [Writer.batch] using hfresh
          placed := ⟨⟨hempty, [], rfl, List.nil_suffix⟩, hempty⟩
          running := fun hfailed => by
            have := h.running hfailed
            rw [hwriter] at this
            cases this
          ended := fun hfinished => nomatch hfinished }
  · exact h

lemma Sound.state_ne_failed (h : l.Sound) (hwriter : l.writer ≠ .finished) : l.state ≠ .failed :=
  fun hfailed => hwriter (h.running hfailed)

/-- The writer goes on with the same records. -/
lemma Sound.goOn (h : l.Sound) {w : Writer} (hbatch : w.batch = l.writer.batch)
    (hleft : w.left = l.writer.left) (hold : l.writer ≠ .finished) (hnew : w ≠ .finished)
    (hplaced : l.Placed w) : { l with writer := w }.Sound :=
  { h with
    records := by rw [hbatch]; exact h.records
    bytes := by rw [hbatch]; exact h.bytes
    order := by rw [hleft]; exact h.order
    fresh := by rw [hbatch]; exact h.fresh
    placed := hplaced.congr rfl rfl (fun _ => rfl)
    running := fun hfailed => absurd (h.running hfailed) hold
    ended := fun hfinished => absurd hfinished hnew }

/-- The sink has written the next record. -/
lemma Sound.wrote (h : l.Sound) {batch left : List QueuedRecord} {r : QueuedRecord}
    {failure failure' : Bytes} (hwriter : l.writer = .writing batch (r :: left) failure) :
    { l with
      written := l.written ++ [r.entry]
      writer := if left = [] then .wrote batch left failure'
        else .writing batch left failure' }.Sound := by
  have horder : l.accepted = l.written ++ r.entry :: (left ++ l.queue).map (·.entry) := by
    have := h.order (h.state_ne_failed (by simp [hwriter]))
    simpa only [hwriter, Writer.left, List.cons_append, List.map_cons] using this
  have hplaced : l.Part batch (r :: left) := by
    have := h.placed
    rw [hwriter] at this
    exact this.1
  have hpart : { l with written := l.written ++ [r.entry] }.Part batch left := by
    obtain ⟨hnonempty, done, hsplit, before, hbefore⟩ := hplaced
    refine ⟨hnonempty, done ++ [r], by simpa using hsplit, before, ?_⟩
    rw [List.map_append, ← List.append_assoc, hbefore]
    rfl
  set w : Writer := if left = [] then .wrote batch left failure' else .writing batch left failure'
    with hw
  have hbatch : w.batch = l.writer.batch := by
    rw [hw, hwriter]
    split_ifs <;> rfl
  have hleft : w.left = left := by
    rw [hw]
    split_ifs <;> rfl
  have hne : w ≠ .finished := by
    rw [hw]
    split_ifs <;> exact nofun
  exact
    { h with
      records := by rw [hbatch]; exact h.records
      bytes := by rw [hbatch]; exact h.bytes
      order := fun _ => by
        rw [hleft, List.append_assoc]
        exact horder
      reached := by
        rw [horder]
        exact ⟨(left ++ l.queue).map (·.entry), by rw [List.append_assoc]; rfl⟩
      synced := fun e he => List.mem_append_left _ (h.synced e he)
      fresh := by rw [hbatch]; exact h.fresh
      placed := by
        rw [hw]
        split_ifs with hlast
        · exact ⟨hpart.congr rfl, fun _ => hlast⟩
        · exact ⟨hpart.congr rfl, hlast⟩
      running := fun hfailed =>
        absurd hfailed (h.state_ne_failed (by rw [hwriter]; exact nofun))
      ended := fun hfinished => absurd hfinished hne }

lemma Sound.write (h : l.Sound) (call : SinkCall) (hexplains : l.Explains (.write call)) :
    (l.write call).Sound := by
  unfold Logger.write
  split
  · rename_i batch r left failure hwriter
    have hpart : l.Part batch (r :: left) := by
      have := h.placed
      rw [hwriter] at this
      exact this.1
    -- a failure that is reported lets the records stand that are not written
    have hstop : ∀ failure', failure' ≠ [] →
        { l with writer := .wrote batch (r :: left) failure' }.Sound := by
      intro failure' hne
      refine h.goOn (by rw [hwriter]; rfl) (by rw [hwriter]; rfl) (by simp [hwriter]) nofun ?_
      exact ⟨hpart, fun hempty => absurd hempty hne⟩
    cases call with
    | returned ok message =>
      cases ok with
      | true => exact h.wrote hwriter
      | false => exact hstop _ (hexplains batch (r :: left) failure hwriter)
    | threw what =>
      cases what with
      | some what => exact hstop _ (by simp [str])
      | none => exact hstop _ (by decide)
  · exact h

lemma Sound.flush (h : l.Sound) (call : SinkCall) : (l.flush call).Sound := by
  unfold Logger.flush
  split
  · rename_i batch left failure hwriter
    have hplaced : l.Part batch left ∧ (failure = [] → left = []) := by
      have := h.placed
      rw [hwriter] at this
      exact this
    have hfailed : ∀ failure', failure' ≠ [] →
        { l with writer := .flushed batch left failure' }.Sound := by
      intro failure' hne
      refine h.goOn (by rw [hwriter]; rfl) (by rw [hwriter]; rfl) (by simp [hwriter]) nofun ?_
      exact ⟨hplaced.1, fun hempty => absurd hempty hne⟩
    split_ifs with hfailure
    · exact hfailed _ hfailure
    · have hleft : left = [] := hplaced.2 (not_not.mp hfailure)
      cases call with
      | returned ok message =>
        cases ok with
        | true =>
          have hsynced : { l with synced := l.written }.Sound :=
            { h with
              synced := fun e he => he
              flushed := fun e he hle => h.synced e (h.flushed e he hle)
              placed := by
                rw [hwriter]
                exact ⟨hplaced.1.congr rfl, hplaced.2⟩ }
          refine hsynced.goOn (by rw [hwriter]; rfl) (by rw [hwriter]; rfl) (by simp [hwriter])
            nofun ?_
          exact ⟨hplaced.1.congr rfl, fun _ => ⟨hleft, rfl⟩⟩
        | false =>
          refine hfailed _ ?_
          by_cases hmessage : message.getD [] = []
          · simp [hmessage, str]
          · simp [hmessage]
      | threw what =>
        cases what with
        | some what => exact hfailed _ (by simp [str])
        | none => exact hfailed _ (by decide)
  · exact h

lemma Sound.reportWriterFailure (h : l.Sound) (failure : Bytes) :
    (l.reportWriterFailure failure).Sound :=
  { h with
    records := rfl
    bytes := rfl
    capacity := .inl (Nat.zero_le _)
    order := fun hne => absurd rfl hne
    fresh := by simp [Logger.reportWriterFailure, Writer.batch]
    placed := rfl
    running := fun _ => rfl
    ended := fun _ => by simp [Logger.reportWriterFailure] }

lemma Sound.settle (h : l.Sound) : l.settle.Sound := by
  unfold Logger.settle
  split
  · rename_i batch left failure hwriter
    split_ifs with hfailure
    · exact h.reportWriterFailure failure
    · have hrunning : l.state ≠ .failed := h.state_ne_failed (by simp [hwriter])
      have hplaced : l.Part batch left ∧ left = [] ∧ l.synced = l.written := by
        have := h.placed
        rw [hwriter] at this
        exact ⟨this.1, this.2 (not_not.mp hfailure)⟩
      obtain ⟨⟨hnonempty, done, hsplit, hdone⟩, rfl, hsynced⟩ := hplaced
      rw [List.append_nil] at hsplit
      have horder : l.accepted = l.written ++ l.queue.map (·.entry) := by
        simpa only [hwriter, Writer.left, List.nil_append] using h.order hrunning
      have hrecords : l.pendingRecords = l.queue.length + batch.length := by
        simpa only [hwriter, Writer.batch] using h.records
      have hbytes : l.pendingBytes = sizeOf l.queue + sizeOf batch := by
        simpa only [hwriter, Writer.batch] using h.bytes
      -- the last record of the batch is written, and all that is queued comes after it
      obtain ⟨last, hlast⟩ : ∃ last, batch.getLast? = some last :=
        ⟨_, List.getLast?_eq_some_getLast hnonempty⟩
      have hwritten : last.entry ∈ l.written :=
        hdone.subset (List.mem_map_of_mem (hsplit ▸ List.mem_of_getLast? hlast))
      have hafter : ∀ r ∈ l.queue, last.sequence < r.sequence := by
        intro r hr
        have hsorted := h.sorted
        rw [horder] at hsorted
        exact (List.pairwise_append.mp hsorted).2.2 _ hwritten _ (List.mem_map_of_mem hr)
      have hgrows : l.flushedSequence < last.sequence := by
        refine h.fresh last (List.mem_append_left _ ?_)
        rw [hwriter]
        exact List.mem_of_getLast? hlast
      simp only [hlast, Option.map_some, Option.getD_some]
      exact
        { h with
          records := by simp only [Writer.batch, List.length_nil]; omega
          bytes := by
            have : sizeOf ([] : List QueuedRecord) = 0 := rfl
            simp only [Writer.batch]
            omega
          capacity := by
            rcases h.capacity with hfits | hone
            · exact .inl ((Nat.sub_le _ _).trans hfits)
            · exact .inr ((Nat.sub_le _ _).trans hone)
          order := fun _ => horder
          flushed := by
            intro e he hle
            rw [hsynced]
            rw [horder] at he
            rcases List.mem_append.mp he with hold | hqueued
            · exact hold
            · obtain ⟨r, hr, rfl⟩ := List.mem_map.mp hqueued
              exact absurd (hafter r hr) (Nat.not_lt.mpr hle)
          promised := fun n hn => (h.promised n hn).trans hgrows.le
          ahead := h.below _ (h.reached.subset hwritten)
          fresh := by simpa only [Writer.batch, List.nil_append] using hafter
          placed := trivial
          running := fun hfailed => absurd hfailed hrunning
          ended := nofun }
  · exact h

lemma Sound.close (h : l.Sound) (hwriter : l.writer = .waiting) (hempty : l.queue = [])
    {state : LogWriterState} (hstate : state ≠ .running) :
    { l with state := state, writer := .finished }.Sound :=
  { h with
    records := by simpa only [hwriter, Writer.batch] using h.records
    bytes := by simpa only [hwriter, Writer.batch] using h.bytes
    order := fun _ => by
      simpa only [hwriter, Writer.left] using h.order (h.state_ne_failed (by simp [hwriter]))
    fresh := by simpa only [hwriter, Writer.batch] using h.fresh
    placed := hempty
    running := fun _ => rfl
    ended := fun _ => hstate }

lemma Sound.finish (h : l.Sound) : l.finish.Sound := by
  unfold Logger.finish
  split
  · rename_i hwriter
    split_ifs with hend hrunning
    · exact h.close hwriter hend.1 nofun
    · exact h.close hwriter hend.1 hrunning
    · exact h
  · exact h

/-! ### Whole runs -/

lemma Sound.step (h : l.Sound) (s : Step) (hexplains : l.Explains s) : (l.step s).Sound := by
  cases s with
  | log line immediateFlush allocated => exact h.log line immediateFlush allocated
  | drain => exact h.drain
  | wake i => exact h.wake i
  | take => exact h.take
  | write call => exact h.write call hexplains
  | flush call => exact h.flush call
  | settle => exact h.settle
  | stop => exact { h with placed := h.placed.congr rfl rfl (fun _ => rfl) }
  | finish => exact h.finish

lemma sound_opened (n : ℕ) : Sound { queueCapacity := n } where
  records := rfl
  bytes := rfl
  capacity := .inl (Nat.zero_le _)
  sorted := .nil
  below := nofun
  order := fun _ => rfl
  reached := List.prefix_rfl
  synced := nofun
  flushed := nofun
  promised := nofun
  ahead := Nat.one_pos
  fresh := nofun
  placed := trivial
  running := nofun
  ended := nofun

/-- Records, bytes, order and promises hold in every run in which a sink that refuses a record
says why. -/
theorem safe_of_explains (n : ℕ) (steps : List Step)
    (h : Along step Explains { queueCapacity := n } steps) :
    (steps.foldl step { queueCapacity := n }).Safe :=
  (h.keeps (fun _ s hexplains hsound => hsound.step s hexplains) (sound_opened n)).safe

/-- Two records, the second of which the sink refuses with a message. -/
theorem safe_of_explains_refused :
    ([Step.log (str "a") false true, .log (str "b") true true, .take, .write (.returned true none),
      .write (.returned false (some (str "disk full"))), .flush (.returned true none), .settle,
      .wake 0].foldl step { queueCapacity := 8 }).Safe :=
  safe_of_explains 8 _ (by
    simp only [Along, Explains, true_and, and_true]
    rintro batch left failure -
    show str "disk full" ≠ []
    decide)

/-- A sink refuses a record and says nothing. The flush succeeds, so the record counts as
written: the call that logged it returns true. -/
theorem safe_fails :
    ¬ ([Step.log (str "a") true true, .take, .write (.returned false none),
      .flush (.returned true none), .settle, .wake 0].foldl step { queueCapacity := 8 }).Safe := by
  intro h
  have hlost := h.promised 1 (by decide) (1, str "a") (by decide) (Nat.le_refl 1)
  exact absurd hlost.2 (by decide)

end Logger

end CcsTrans.Logging
