import CcsTrans.GuiIpc.Connection

/-!
The order of the tray's messages.

The answer to the hello is the first message that is queued, for nothing else is queued before
the session is authenticated. The queue and the writer keep the order, so that it is the first
message on the pipe as well, and the only one of its kind.
-/

namespace CcsTrans.GuiIpc

open CcsTrans.Text
open CcsTrans.Gui (MessageKind ResultCode ErrorCode Snapshot CommandStatus GuiOutboundChannel Job
  Payload Codec)
open Connection

/-- The job is the answer to the hello. -/
def isAnswer : Job → Bool
  | .envelope e => e.kind = .helloResult
  | .snapshot e _ => e.kind = .helloResult
  | .state => false

lemma kind_of_prepareJob {codec : Codec} {o : GuiOutboundChannel} {job : Job} {e : Gui.Envelope}
    {baseline : Option Snapshot} (h : o.prepareJob codec job = .ready e baseline) :
    isAnswer job = decide (e.kind = .helloResult) := by
  have hprepared : ∀ {e₀ e₁ : Gui.Envelope} {p : Except Gui.OutboundFailure Payload} {t : Snapshot},
      GuiOutboundChannel.prepared e₀ p t = .ready e₁ baseline → e₁.kind = e₀.kind := by
    intro e₀ e₁ p t h
    cases p with
    | error f => cases h
    | ok p =>
      cases h
      rfl
  cases job with
  | envelope e' =>
    cases h
    rfl
  | snapshot e' t => rw [isAnswer, hprepared h]
  | state =>
    simp only [GuiOutboundChannel.prepareJob] at h
    split at h
    · cases h
    · split at h
      · rw [isAnswer, hprepared h]
        rfl
      · split_ifs at h
        rw [isAnswer, hprepared h]
        rfl

/-- The answer to the hello comes first, and once. -/
def Led (l : List Bool) : Prop := l = [] ∨ ∃ n, l = true :: List.replicate n false

lemma Led.of_append {l m : List Bool} (h : Led (l ++ m)) : Led l := by
  rcases h with h | ⟨n, h⟩
  · exact .inl (List.append_eq_nil_iff.mp h).1
  · cases l with
    | nil => exact .inl rfl
    | cons b l =>
      rw [List.cons_append, List.cons.injEq] at h
      obtain ⟨rfl, h⟩ := h
      obtain ⟨-, hl, -⟩ := List.append_eq_replicate_iff.mp h
      exact .inr ⟨l.length, by rw [← hl]⟩

lemma Led.snoc {l : List Bool} (h : Led l) (hl : l ≠ []) : Led (l ++ [false]) := by
  rcases h with rfl | ⟨n, rfl⟩
  · exact absurd rfl hl
  · exact .inr ⟨n + 1, by rw [List.replicate_succ']; rfl⟩

lemma Led.ne_nil {l m : List Bool} (h : Led (l ++ false :: m)) : l ≠ [] := by
  rintro rfl
  rcases h with h | ⟨n, h⟩
  · exact nomatch h
  · exact nomatch h

lemma Led.skip {l m : List Bool} (h : Led (l ++ false :: m)) : Led (l ++ m) := by
  have hl := h.ne_nil
  rcases h with h | ⟨n, h⟩
  · simp at h
  · cases l with
    | nil => exact absurd rfl hl
    | cons b l =>
      rw [List.cons_append, List.cons.injEq] at h
      obtain ⟨rfl, h⟩ := h
      obtain ⟨-, hleft, hright⟩ := List.append_eq_replicate_iff.mp h
      refine .inr ⟨l.length + m.length, ?_⟩
      have hm : m = List.replicate m.length false :=
        List.eq_replicate_iff.mpr ⟨rfl, fun b hb =>
          (List.eq_replicate_iff.mp hright).2 b (List.mem_cons_of_mem _ hb)⟩
      rw [List.cons_append, List.replicate_add, ← hleft, ← hm]

/-- The session is disconnected. -/
def Reader.done : Reader → Bool
  | .closing _ | .ended => true
  | _ => false

namespace GuiIpcConnection

/-- What the writer is at. -/
def inWork (c : GuiIpcConnection) : List Bool :=
  match c.drawn, c.outbound.writer with
  | some d, _ => [decide (d.message.kind = .helloResult)]
  | none, .holding job => [isAnswer job]
  | none, _ => []

/-- All messages in their order, as far as they are the answer to the hello or not. -/
def flow (c : GuiIpcConnection) : List Bool :=
  c.written.map (fun e => decide (e.kind = .helloResult)) ++ c.inWork ++
    c.outbound.jobs.map isAnswer

/-- Messages are on their way, unless the channel is closed. -/
def Begun (c : GuiIpcConnection) : Prop := c.outbound.closed = false → c.flow ≠ []

/-- What holds when the reader is about to do something. -/
def Stage (c : GuiIpcConnection) : Reader → Prop
  | .reading => c.authenticated = false → c.posts = [] ∧ c.flow = []
  | .answering r _ _ =>
    r.kind = .helloResult ∧ c.authenticated = false ∧ c.posts = [] ∧ c.flow = []
  | .admitting _ => c.Begun
  | .queueing job _ => c.authenticated = true ∧ isAnswer job = false
  | _ => True

/-- The answer to the hello leads the messages. -/
structure Lined (c : GuiIpcConnection) : Prop where
  led : Led c.flow
  begun : c.authenticated = true ∨ c.posts ≠ [] → c.Begun
  stage : c.Stage c.reader
  holding : c.drawn ≠ none → ∃ job, c.outbound.writer = .holding job

variable {texts : PayloadTexts} {c : GuiIpcConnection}

/-- What a step can do to the messages. -/
inductive Moved (c c' : GuiIpcConnection) : Prop
  | same (hflow : c'.flow = c.flow)
      (hclosed : c'.outbound.closed = false → c.outbound.closed = false)
  /-- A message is queued behind others. -/
  | pushed (hflow : c'.flow = c.flow ++ [false]) (hbegun : c.flow ≠ [])
  /-- The channel is closed, and the last messages are dropped. -/
  | cut {r : List Bool} (hflow : c.flow = c'.flow ++ r) (hclosed : c'.outbound.closed = true)
  /-- There is nothing to be sent for a job. -/
  | skipped {l r : List Bool} (hflow : c.flow = l ++ false :: r)
      (hflow' : c'.flow = l ++ r)
      (hclosed : c'.outbound.closed = false → c.outbound.closed = false)

namespace Moved

variable {c' : GuiIpcConnection}

lemma led (h : Moved c c') (hled : Led c.flow) : Led c'.flow := by
  cases h with
  | same hflow _ => rwa [hflow]
  | pushed hflow hbegun =>
    rw [hflow]
    exact hled.snoc hbegun
  | cut hflow _ =>
    rw [hflow] at hled
    exact hled.of_append
  | skipped hflow hflow' _ =>
    rw [hflow] at hled
    rw [hflow']
    exact hled.skip

lemma begun (h : Moved c c') (hled : Led c.flow) (hbegun : c.Begun) : c'.Begun := by
  intro hopen
  cases h with
  | same hflow hclosed =>
    rw [hflow]
    exact hbegun (hclosed hopen)
  | pushed hflow hne => simp [hflow]
  | cut hflow hclosed => exact absurd hopen (by simp [hclosed])
  | skipped hflow hflow' hclosed =>
    rw [hflow] at hled
    simp [hflow', hled.ne_nil]

lemma empty (h : Moved c c') (hempty : c.flow = []) : c'.flow = [] := by
  cases h with
  | same hflow _ => rw [hflow, hempty]
  | pushed hflow hne => exact absurd hempty hne
  | cut hflow _ =>
    rw [hempty] at hflow
    exact (List.append_eq_nil_iff.mp hflow.symm).1
  | skipped hflow _ _ =>
    rw [hempty] at hflow
    simp at hflow

lemma posts (h : Moved c c') (ps : List Post) : Moved c { c' with posts := ps } := by
  cases h with
  | same hflow hclosed => exact .same hflow hclosed
  | pushed hflow hbegun => exact .pushed hflow hbegun
  | cut hflow hclosed => exact .cut hflow hclosed
  | skipped hflow hflow' hclosed => exact .skipped hflow hflow' hclosed

end Moved

/-- A step of a thread other than the reader keeps the order. -/
lemma Lined.moved {c' : GuiIpcConnection} (h : c.Lined) (hmoved : Moved c c')
    (hreader : c'.reader = c.reader) (hauth : c'.authenticated = c.authenticated)
    (hposts : c.posts = [] → c'.posts = [])
    (hholding : c'.drawn ≠ none → ∃ job, c'.outbound.writer = .holding job) : c'.Lined where
  led := hmoved.led h.led
  begun := by
    intro hsome
    refine hmoved.begun h.led (h.begun ?_)
    rw [hauth] at hsome
    exact hsome.imp id fun hne hnil => hne (hposts hnil)
  stage := by
    have hstage := h.stage
    rw [hreader]
    unfold Stage at hstage ⊢
    rw [hauth]
    split
    · rename_i hreading
      rw [hreading] at hstage
      exact fun hnew => ⟨hposts (hstage hnew).1, hmoved.empty (hstage hnew).2⟩
    · rename_i hreading
      rw [hreading] at hstage
      exact ⟨hstage.1, hstage.2.1, hposts hstage.2.2.1, hmoved.empty hstage.2.2.2⟩
    · rename_i hreading
      rw [hreading] at hstage
      exact hmoved.begun h.led hstage
    · rename_i hreading
      rw [hreading] at hstage
      exact hstage
    · trivial
  holding := hholding

lemma moved_pushJob {job : Job} (hjob : isAnswer job = false) (hbegun : c.Begun) :
    Moved c { c with outbound := (c.outbound.pushJob job).2 } := by
  rcases c.outbound.pushJob_cases job with hsame | ⟨hopen, hpushed⟩
  · rw [hsame]
    exact .same rfl id
  · rw [hpushed]
    refine .pushed ?_ (hbegun hopen)
    simp only [flow, inWork, List.map_append, List.map_cons, List.map_nil, List.append_assoc, hjob]

lemma moved_publishState {s : Snapshot} (hbegun : c.Begun) :
    Moved c { c with outbound := (c.outbound.publishState s).2 } := by
  unfold GuiOutboundChannel.publishState
  dsimp only
  split_ifs with hclosed
  · exact .same rfl id
  · exact .same rfl id
  · exact .same rfl id
  · refine .pushed ?_ (hbegun (by simpa using hclosed))
    simp only [flow, inWork, List.map_append, List.map_cons, List.map_nil, List.append_assoc, isAnswer]

lemma moved_stop : Moved c { c with outbound := c.outbound.stop } := by
  refine .cut (r := c.outbound.jobs.map isAnswer) ?_ rfl
  simp only [flow, inWork, GuiOutboundChannel.stop, List.map_nil, List.append_nil]

lemma writer_pushJob (o : GuiOutboundChannel) (job : Job) : (o.pushJob job).2.writer = o.writer := by
  unfold GuiOutboundChannel.pushJob
  split_ifs <;> rfl

lemma writer_publishState (o : GuiOutboundChannel) (s : Snapshot) :
    (o.publishState s).2.writer = o.writer := by
  unfold GuiOutboundChannel.publishState
  dsimp only
  split_ifs <;> rfl

lemma moved_push (hbegun : c.Begun) (p : Post) : ∃ o,
    c.push texts p = { c with outbound := o } ∧ Moved c { c with outbound := o } ∧
      o.writer = c.outbound.writer := by
  cases p with
  | state s => exact ⟨_, rfl, moved_publishState hbegun, writer_publishState _ _⟩
  | completion requestId status baseRevision =>
    unfold GuiIpcConnection.push
    dsimp only
    split
    · exact ⟨c.outbound, rfl, .same rfl id, rfl⟩
    · rename_i envelope hcompletion
      have hkind : envelope.kind = .commandStatus := by
        unfold completion at hcompletion
        split at hcompletion
        · exact nomatch hcompletion
        · cases hcompletion
          rfl
      exact ⟨_, rfl, moved_pushJob (by simp [isAnswer, hkind]) hbegun, writer_pushJob _ _⟩
  | activate => exact ⟨_, rfl, moved_pushJob rfl hbegun, writer_pushJob _ _⟩
  | shutdown => exact ⟨_, rfl, moved_pushJob rfl hbegun, writer_pushJob _ _⟩

lemma moved_take (h : c.Lined) : Moved c { c with outbound := c.outbound.take } := by
  have htaken := c.outbound.taken
  generalize c.outbound.take = o at htaken
  cases htaken with
  | nothing => exact .same rfl id
  | ended hw closed _ =>
    have hdrawn : c.drawn = none := by
      by_contra hsome
      obtain ⟨job, hjob⟩ := h.holding hsome
      rw [hw] at hjob
      exact nomatch hjob
    refine .same ?_ id
    simp only [flow, inWork, hw, hdrawn]
  | @job job jobs hw hjobs =>
    have hdrawn : c.drawn = none := by
      by_contra hsome
      obtain ⟨job', hjob⟩ := h.holding hsome
      rw [hw] at hjob
      exact nomatch hjob
    refine .same ?_ id
    simp only [flow, inWork, hw, hdrawn, hjobs, List.map_cons, List.append_nil, List.append_assoc,
      List.cons_append, List.nil_append]

lemma holding_take (h : c.Lined) (hdrawn : c.drawn ≠ none) :
    ∃ job, c.outbound.take.writer = .holding job := by
  obtain ⟨job, hjob⟩ := h.holding hdrawn
  refine ⟨job, ?_⟩
  unfold GuiOutboundChannel.take
  simp [hjob]

/-- What the writer can do with the job that it holds. -/
inductive Drew (texts : PayloadTexts) (c : GuiIpcConnection) : GuiIpcConnection → Prop
  | nothing : Drew texts c c
  | skipped (hw : c.outbound.writer = .holding .state) (hdrawn : c.drawn = none) :
      Drew texts c { c with outbound := { c.outbound with writer := .idle } }
  | failed {e : Gui.OutboundFailure} (hdrawn : c.drawn = none) :
      Drew texts c { c with outbound := c.outbound.reportFailure e }
  | answer {job : Job} {e : Gui.Envelope} {baseline : Option Snapshot}
      (hw : c.outbound.writer = .holding job) (hdrawn : c.drawn = none)
      (hready : c.outbound.prepareJob texts.toCodec job = .ready e baseline)
      (hkind : e.kind = .helloResult) : Drew texts c { c with drawn := some ⟨e, 0, baseline⟩ }
  | numbered {job : Job} {e : Gui.Envelope} {baseline : Option Snapshot}
      (hw : c.outbound.writer = .holding job) (hdrawn : c.drawn = none)
      (hready : c.outbound.prepareJob texts.toCodec job = .ready e baseline)
      (hkind : e.kind ≠ .helloResult) :
      Drew texts c { c with
        session := c.session.drawServerSequence.2
        drawn := some ⟨e, c.session.nextServerSequence, baseline⟩ }

lemma drew (texts : PayloadTexts) (c : GuiIpcConnection) : Drew texts c (c.draw texts) := by
  unfold draw
  split
  · rename_i job hw hdrawn
    split
    · rename_i hnothing
      obtain ⟨rfl, -⟩ := GuiOutboundChannel.nothing_of_prepareJob hnothing
      exact .skipped hw hdrawn
    · exact .failed hdrawn
    · rename_i e baseline hready
      split_ifs with hkind
      · exact .answer hw hdrawn hready hkind
      · exact .numbered hw hdrawn hready hkind
  · exact .nothing

lemma Lined.drew (h : c.Lined) {c' : GuiIpcConnection} (hdrew : Drew texts c c') : c'.Lined := by
  cases hdrew with
  | nothing => exact h
  | skipped hw hdrawn =>
    refine h.moved (.skipped (l := c.written.map fun e => decide (e.kind = .helloResult))
      (r := c.outbound.jobs.map isAnswer) ?_ ?_ id) rfl rfl id (fun hne => absurd hdrawn hne)
    · simp only [flow, inWork, hw, hdrawn, isAnswer, List.append_assoc, List.cons_append,
        List.nil_append]
    · simp only [flow, inWork, hdrawn, List.append_nil]
  | failed hdrawn =>
    refine h.moved (.cut (r := c.inWork ++ c.outbound.jobs.map isAnswer) ?_ rfl) rfl rfl id
      (fun hne => absurd hdrawn hne)
    simp only [flow, inWork, GuiOutboundChannel.reportFailure, hdrawn, List.map_nil,
      List.append_nil, List.append_assoc]
  | @answer job e baseline hw hdrawn hready hkind =>
    refine h.moved (.same ?_ id) rfl rfl id (fun _ => ⟨job, hw⟩)
    simp only [flow, inWork, hw, hdrawn, kind_of_prepareJob hready]
  | @numbered job e baseline hw hdrawn hready hkind =>
    refine h.moved (.same ?_ id) rfl rfl id (fun _ => ⟨job, hw⟩)
    simp only [flow, inWork, hw, hdrawn, kind_of_prepareJob hready]

/-- What the writer can do with a message that it has numbered. -/
inductive Wrote (texts : PayloadTexts) (c : GuiIpcConnection) : GuiIpcConnection → Prop
  | nothing : Wrote texts c c
  | failed {e : Gui.OutboundFailure} :
      Wrote texts c { c with drawn := none, outbound := c.outbound.reportFailure e }
  | written {d : Drawn} {sent : List Gui.Envelope} {state : Option Snapshot}
      (hdrawn : c.drawn = some d) :
      Wrote texts c { c with
        drawn := none
        written := c.written ++ [c.wire texts d]
        outbound := { c.outbound with writer := .idle, written := sent, sentState := state } }

lemma wrote (texts : PayloadTexts) (c : GuiIpcConnection) (writeError : Option Bytes) :
    Wrote texts c (c.write texts writeError) := by
  unfold write
  split
  · exact .nothing
  · rename_i d hdrawn
    split
    · exact .failed
    · exact .written hdrawn

lemma Lined.wrote (h : c.Lined) {c' : GuiIpcConnection} (hwrote : Wrote texts c c') :
    c'.Lined := by
  cases hwrote with
  | nothing => exact h
  | failed =>
    refine h.moved (.cut (r := c.inWork ++ c.outbound.jobs.map isAnswer) ?_ rfl) rfl rfl id
      (fun hne => absurd rfl hne)
    simp only [flow, inWork, GuiOutboundChannel.reportFailure, List.map_nil,
      List.append_nil, List.append_assoc]
  | written hdrawn =>
    refine h.moved (.same ?_ id) rfl rfl id (fun hne => absurd rfl hne)
    simp only [flow, inWork, hdrawn, wire, List.map_append, List.map_cons, List.map_nil,
      List.append_nil]

/-- What the reader can make of a frame. -/
inductive Handled (c : GuiIpcConnection) : GuiIpcConnection → Prop
  | dropped : Handled c { c with reader := .leaving false }
  | hello {session : ServerSession} {response : Gui.Envelope} {accepted : Bool} {s : Snapshot}
      (hnew : c.authenticated = false)
      (hnext : session.nextServerSequence = c.session.nextServerSequence ∨
        session.nextServerSequence = 1)
      (hkind : response.kind = .helloResult) :
      Handled c { c with session := session, reader := .answering response accepted s }
  | lost {session : ServerSession} (hnew : c.authenticated = false)
      (hnext : session.nextServerSequence = c.session.nextServerSequence ∨
        session.nextServerSequence = 1) :
      Handled c { c with session := session, reader := .leaving false }
  | message {session : ServerSession} {reader : Reader} (hauth : c.authenticated = true)
      (hnext : session.nextServerSequence = c.session.nextServerSequence)
      (hreader : reader = .reading ∨ (∃ last, reader = .leaving last) ∨
        ∃ job last, reader = .queueing job last ∧ isAnswer job = false) :
      Handled c { c with session := session, reader := reader }

lemma nextServerSequence_acceptHello (s : ServerSession) (e : Envelope) (hello : Hello)
    (actualProcessId stateRevision : UInt64) :
    (s.acceptHello e hello actualProcessId stateRevision).2.2.nextServerSequence =
        s.nextServerSequence ∨
      (s.acceptHello e hello actualProcessId stateRevision).2.2.nextServerSequence = 1 := by
  unfold ServerSession.acceptHello
  dsimp only
  split
  · exact .inl rfl
  · exact .inr rfl

lemma nextServerSequence_acceptMessage (s : ServerSession) (e : Envelope) :
    (s.acceptMessage e).2.nextServerSequence = s.nextServerSequence := by
  unfold ServerSession.acceptMessage
  split <;> rfl

lemma kind_completion {requestId : Bytes} {status : CommandStatus} {baseRevision : Bytes}
    {e : Gui.Envelope} (h : completion texts requestId status baseRevision = some e) :
    e.kind = .commandStatus := by
  unfold completion at h
  split at h
  · exact nomatch h
  · cases h
    rfl

lemma rejecting_cases (texts : PayloadTexts) (e : Envelope) (error : ErrorCode) (detail : Bytes)
    (last : Bool) : (∃ last', rejecting texts e error detail last = .leaving last') ∨
      ∃ job last', rejecting texts e error detail last = .queueing job last' ∧
        isAnswer job = false := by
  unfold rejecting
  dsimp only
  split
  · exact .inl ⟨last, rfl⟩
  · rename_i envelope hcompletion
    exact .inr ⟨_, last, rfl, by simp [isAnswer, kind_completion hcompletion]⟩

lemma handleAuthenticated_cases (texts : PayloadTexts) (e : Envelope)
    (refusal : Option (ErrorCode × Bytes)) (s : Snapshot) :
    handleAuthenticated texts e refusal s = .reading ∨
      (∃ last, handleAuthenticated texts e refusal s = .leaving last) ∨
      ∃ job last, handleAuthenticated texts e refusal s = .queueing job last ∧
        isAnswer job = false := by
  unfold handleAuthenticated
  split
  · split
    · exact .inr (rejecting_cases ..)
    · exact .inl rfl
  · exact .inr (.inr ⟨_, false, rfl, rfl⟩)
  · exact .inr (.inr ⟨_, false, rfl, rfl⟩)
  · exact .inr (rejecting_cases ..)

lemma handled (texts : PayloadTexts) (c : GuiIpcConnection) (s : Snapshot) (f : Frame) :
    Handled c (c.handleFrame texts s f) := by
  cases f with
  | unreadable => exact .dropped
  | message e hello refusal =>
    unfold handleFrame
    dsimp only
    by_cases hauth : c.authenticated = true
    · have hnext := nextServerSequence_acceptMessage c.session e
      rw [if_neg (by simp [hauth])]
      split_ifs with haccepted
      · exact .message hauth hnext (.inr (rejecting_cases ..))
      · exact .message hauth hnext (handleAuthenticated_cases ..)
    · rw [Bool.not_eq_true] at hauth
      rw [if_pos (by simp [hauth])]
      unfold handleHello
      split
      · exact .dropped
      · split_ifs with hkind
        · exact .dropped
        · have hnext := nextServerSequence_acceptHello c.session e ‹Hello› c.clientProcessId
            s.revision.toUInt64
          dsimp only
          split
          · exact .lost hauth hnext
          · exact .hello hauth hnext rfl

/-- What the reader does without the channel does not touch the messages. -/
lemma flow_reader (session : ServerSession) (r : Reader) (auth : Bool) (n : UInt64) :
    { c with session := session, reader := r, authenticated := auth, forgotten := n }.flow =
      c.flow := by
  simp only [flow, inWork]

/-- The reader goes on without the channel. -/
lemma Lined.turn (h : c.Lined) {session : ServerSession} {r : Reader} {auth : Bool} {n : UInt64}
    (hauth : auth = true → c.Begun)
    (hstage : Stage { c with session := session, reader := r, authenticated := auth, forgotten := n } r) :
    Lined { c with session := session, reader := r, authenticated := auth, forgotten := n } where
  led := by
    rw [flow_reader]
    exact h.led
  begun := by
    intro hsome hopen
    rw [flow_reader]
    rcases hsome with htrue | hposts
    · exact hauth htrue hopen
    · exact h.begun (.inr hposts) hopen
  stage := hstage
  holding := h.holding

lemma Lined.handled (h : c.Lined) (hreading : c.reader = .reading) {c' : GuiIpcConnection}
    (hhandled : Handled c c') : c'.Lined := by
  have hauth : c.authenticated = true → c.Begun := fun htrue => h.begun (.inl htrue)
  have hstage := h.stage
  rw [hreading] at hstage
  cases hhandled with
  | dropped => exact h.turn hauth trivial
  | hello hnew hnext hkind =>
    obtain ⟨hposts, hflow⟩ := hstage hnew
    exact h.turn hauth ⟨hkind, hnew, hposts, (flow_reader ..).trans hflow⟩
  | lost hnew hnext => exact h.turn hauth trivial
  | message htrue hnext hreader =>
    rcases hreader with rfl | ⟨last, rfl⟩ | ⟨job, last, rfl, hjob⟩
    · exact h.turn hauth fun hfalse => absurd (htrue.symm.trans hfalse) nofun
    · exact h.turn hauth trivial
    · exact h.turn hauth ⟨htrue, hjob⟩

/-- The answer to the hello is the first message of all. -/
lemma led_answer {e : Gui.Envelope} (hkind : e.kind = .helloResult) (hflow : c.flow = []) :
    Led { c with outbound := (c.outbound.enqueue e).2 }.flow ∧
      ((c.outbound.enqueue e).1 = true →
        { c with outbound := (c.outbound.enqueue e).2 }.flow ≠ []) := by
  unfold GuiOutboundChannel.enqueue GuiOutboundChannel.pushJob
  split_ifs with hfull
  · exact ⟨.inl hflow, nofun⟩
  · have hfirst : { c with outbound := { c.outbound with
        jobs := c.outbound.jobs ++ [Job.envelope e] } }.flow = [true] := by
      have hpush : { c with outbound := { c.outbound with
          jobs := c.outbound.jobs ++ [Job.envelope e] } }.flow = c.flow ++ [isAnswer (.envelope e)] := by
        simp only [flow, inWork, List.map_append, List.map_cons, List.map_nil, List.append_assoc]
      rw [hpush, hflow]
      simp [isAnswer, hkind]
    rw [hfirst]
    exact ⟨.inr ⟨0, rfl⟩, fun _ => nofun⟩

lemma Lined.answer (h : c.Lined) {e : Gui.Envelope} {r : Reader} {accepted : Bool} {s : Snapshot}
    (hstage : c.Stage (.answering e accepted s))
    (hr : (∃ drain, r = .leaving drain) ∨ (c.outbound.enqueue e).1 = true ∧ r = .admitting s) :
    Lined { c with outbound := (c.outbound.enqueue e).2, reader := r } := by
  obtain ⟨hkind, hnew, hposts, hflow⟩ := hstage
  obtain ⟨hled, hsome⟩ := led_answer hkind hflow
  have hsame : { c with outbound := (c.outbound.enqueue e).2, reader := r }.flow =
      { c with outbound := (c.outbound.enqueue e).2 }.flow := by
    simp only [flow, inWork]
  constructor
  · rw [hsame]
    exact hled
  · rintro (htrue | hne)
    · exact absurd (hnew.symm.trans htrue) nofun
    · exact absurd hposts hne
  · rcases hr with ⟨drain, rfl⟩ | ⟨hqueued, rfl⟩
    · trivial
    · intro _
      rw [hsame]
      exact hsome hqueued
  · intro hdrawn
    obtain ⟨job, hjob⟩ := h.holding hdrawn
    exact ⟨job, (writer_pushJob ..).trans hjob⟩

lemma Lined.advance (h : c.Lined) : c.advance.Lined := by
  have hstage := h.stage
  unfold GuiIpcConnection.advance
  split
  · exact h
  · exact h
  · rename_i response accepted s hreader
    rw [hreader] at hstage
    apply h.answer hstage
    split_ifs with hrefused haccepted
    · exact .inl ⟨false, rfl⟩
    · exact .inr ⟨by simpa using hrefused, rfl⟩
    · exact .inl ⟨true, rfl⟩
  · rename_i s hreader
    rw [hreader] at hstage
    exact h.turn (fun _ => hstage) ⟨rfl, rfl⟩
  · rename_i job last hreader
    rw [hreader] at hstage
    obtain ⟨htrue, hjob⟩ := hstage
    have hmoved := moved_pushJob hjob (h.begun (.inl htrue))
    have hpushed : Lined { c with outbound := (c.outbound.pushJob job).2 } := by
      apply h.moved hmoved rfl rfl id
      intro hdrawn
      obtain ⟨job', hjob'⟩ := h.holding hdrawn
      exact ⟨job', (writer_pushJob ..).trans hjob'⟩
    apply hpushed.turn (fun htrue => hpushed.begun (.inl htrue))
    split_ifs
    · trivial
    · exact fun hfalse => absurd (htrue.symm.trans hfalse) nofun
    · trivial
  · exact h.turn nofun trivial
  · exact h.turn (fun htrue => h.begun (.inl htrue)) trivial
  · rename_i drain hreader
    have hclosed : Lined { c with
        outbound := if drain then c.outbound.closeAfterDrain else c.outbound.stop } := by
      cases drain with
      | true => exact h.moved (.same rfl nofun) rfl rfl id h.holding
      | false => exact h.moved moved_stop rfl rfl id h.holding
    exact hclosed.turn (fun htrue => hclosed.begun (.inl htrue)) trivial

lemma Lined.post (h : c.Lined) (htrue : c.authenticated = true) (p : Post) :
    Lined { c with posts := c.posts ++ [p] } where
  led := h.led
  begun := fun _ => h.begun (.inl htrue)
  stage := by
    have hstage := h.stage
    unfold Stage at hstage ⊢
    dsimp only at hstage ⊢
    split
    · exact fun hfalse => absurd (htrue.symm.trans hfalse) nofun
    · rename_i hreader
      rw [hreader] at hstage
      exact absurd (htrue.symm.trans hstage.2.1) nofun
    · rename_i hreader
      rw [hreader] at hstage
      exact hstage
    · rename_i hreader
      rw [hreader] at hstage
      exact hstage
    · trivial
  holding := h.holding

lemma Lined.step (h : c.Lined) (s : Step) : (c.step texts s).Lined := by
  cases s with
  | frame f snapshot =>
    unfold GuiIpcConnection.step
    dsimp only
    split_ifs with hreading
    · exact h.handled hreading (GuiIpcConnection.handled texts c snapshot f)
    · exact h
  | lost =>
    unfold GuiIpcConnection.step
    dsimp only
    split_ifs with hreading
    · exact h.turn (fun htrue => h.begun (.inl htrue)) trivial
    · exact h
  | advance => exact h.advance
  | post p =>
    unfold GuiIpcConnection.step
    dsimp only
    split_ifs with htrue
    · exact h.post htrue p
    · exact h
  | push i =>
    unfold GuiIpcConnection.step
    dsimp only
    split
    · exact h
    · rename_i p hp
      have hbegun : c.Begun := h.begun (.inr (by rintro hnil; simp [hnil] at hp))
      obtain ⟨o, hpush, hmoved, hw⟩ : ∃ o, c.push texts p = { c with outbound := o } ∧ _ :=
        moved_push hbegun p
      rw [hpush]
      apply h.moved (hmoved.posts (c.posts.eraseIdx i)) rfl rfl (fun hnil => by simp [hnil])
      intro hdrawn
      obtain ⟨job, hjob⟩ := h.holding hdrawn
      exact ⟨job, hw.trans hjob⟩
  | take => exact h.moved (moved_take h) rfl rfl id (holding_take h)
  | draw => exact h.drew (GuiIpcConnection.drew texts c)
  | write writeError => exact h.wrote (GuiIpcConnection.wrote texts c writeError)
  | stop => exact h.moved moved_stop rfl rfl id h.holding

end GuiIpcConnection

end CcsTrans.GuiIpc
