import CcsTrans.Gui.Convergence
import CcsTrans.GuiIpc.MessageRoundTrip

/-!
The states of the tray in the pipe.

The channel of the tray is about states; what it puts into the pipe are their texts, and the window
reads them. Here the window that reads texts is compared with the one that is handed the states:
after every run of the session they hold the same.
-/

namespace CcsTrans.GuiIpc

open CcsTrans.Text CcsTrans.Json CcsTrans.Fallible CcsTrans.Runs
open CcsTrans.Gui (MessageKind Payload Codec Job GuiOutboundChannel Session Step ClientStateTracker
  Snapshot StateDelta buildGuiStateDelta CommandStatus)

section Texts

variable [Library]

/-! ### The two windows -/

/-- The error of a computation. -/
def errorOf {α : Type} : Except Bytes α → Option Bytes
  | .error e => some e
  | .ok _ => none

/-- The channel with the library that writes its payloads. -/
def textCodec : Codec where
  snapshotError s := errorOf (serializeSnapshot s)
  deltaError d := errorOf (serializeStateDelta d)

/-- The text of a payload. -/
def payloadText : Payload → Except Bytes Bytes
  | .text content => .ok content
  | .snapshot s => serializeSnapshot s
  | .delta d => serializeStateDelta d

/-- What the window sees of a message: its kind and its payload. -/
def messageText (e : Gui.Envelope) : Except Bytes (MessageKind × Bytes) :=
  (fun content => (e.kind, content)) <$> payloadText e.payload

def invalidKind : Bytes := str "tray sent a message kind that is invalid for a GUI client"

/-- `handleAuthenticated`: what a message makes of the tracker, or the error that ends the session. A
delta that does not fit is no error; the window asks for a snapshot then. -/
def receiveText (t : ClientStateTracker) (message : MessageKind × Bytes) : Except Bytes ClientStateTracker :=
  match message.1 with
  | .snapshot => do
    let s ← parseSnapshot message.2
    match t.acceptSnapshot s with
    | (some error, _) => .error error
    | (none, t) => .ok t
  | .stateChanged => do
    let d ← parseStateDelta message.2
    return (t.applyDelta d).2
  | .commandStatus => do
    let _ ← parseCommandStatus message.2
    return t
  | .activate | .shutdown | .pong => .ok t
  | _ => .error invalidKind

/-! ### Messages -/

/-- A state that the program can have: its numbers fit their types, and its selection is a whole one. -/
def Fine (t : Snapshot) : Prop := t.Sized ∧ t.selection.Paired

/-- The other messages that the tray has for an authenticated window. -/
def Sendable (e : Gui.Envelope) : Prop :=
  ∃ content, e.payload = .text content ∧ (e.kind = .activate ∨ e.kind = .shutdown ∨ e.kind = .pong ∨
    e.kind = .commandStatus ∧ ∃ status : CommandStatus, status.Sized ∧ serializeCommandStatus status = .ok content)

/-- The message is of the kind that its job is for. -/
def JobFine : Job → Prop
  | .envelope e => Sendable e
  | .snapshot e _ => e.kind = .snapshot
  | .state => True

/-- The window makes of the text of a message what it would make of the message. -/
def Agrees (t : ClientStateTracker) (e : Gui.Envelope) : Prop :=
  ∃ message, messageText e = .ok message ∧ receiveText t message = .ok (t.receive e)

omit [Library] in
lemma errorOf_eq_none {α : Type} {x : Except Bytes α} (h : errorOf x = none) : ∃ a, x = .ok a := by
  cases x with
  | error e => cases h
  | ok a => exact ⟨a, rfl⟩

lemma agrees_sendable {e : Gui.Envelope} (h : Sendable e) (t : ClientStateTracker) : Agrees t e := by
  obtain ⟨content, hpayload, hkind⟩ := h
  have htext : messageText e = .ok (e.kind, content) := by
    rw [messageText, hpayload]
    rfl
  have hreceive : t.receive e = t := by
    rw [ClientStateTracker.receive, hpayload]
  refine ⟨_, htext, ?_⟩
  rw [hreceive]
  rcases hkind with hkind | hkind | hkind | ⟨hkind, status, hsized, hwritten⟩
  · simp [receiveText, hkind]
  · simp [receiveText, hkind]
  · simp [receiveText, hkind]
  · have hparse : parseCommandStatus content = .ok status :=
      parsePayload_serializeWith (document_commandStatusJson status)
        (parseCommandStatusJson_canon hsized _) hwritten
    simp [receiveText, hkind, hparse]

lemma agrees_snapshot {e : Gui.Envelope} {s : Snapshot} (hkind : e.kind = .snapshot)
    (hpayload : e.payload = .snapshot s) (hs : Fine s) (hpositive : 0 < s.revision)
    (hcodec : textCodec.snapshotError s = none) (t : ClientStateTracker) : Agrees t e := by
  obtain ⟨content, hcontent⟩ := errorOf_eq_none hcodec
  have htext : messageText e = .ok (e.kind, content) := by
    rw [messageText, hpayload, payloadText, hcontent]
    rfl
  have hparse : parseSnapshot content = .ok s :=
    parsePayload_serializeWith (document_snapshotJson s)
      (by rw [parseSnapshotJson_canon hs.1, if_pos hs.2]) hcontent
  refine ⟨_, htext, ?_⟩
  simp [receiveText, hkind, hparse, ClientStateTracker.receive, hpayload,
    ClientStateTracker.acceptSnapshot, hpositive.ne']

lemma agrees_delta {e : Gui.Envelope} {p s : Snapshot} (hkind : e.kind = .stateChanged)
    (hpayload : e.payload = .delta (buildGuiStateDelta p s)) (hp : Fine p) (hs : Fine s)
    (hcodec : textCodec.deltaError (buildGuiStateDelta p s) = none) (t : ClientStateTracker) :
    Agrees t e := by
  obtain ⟨content, hcontent⟩ := errorOf_eq_none hcodec
  have htext : messageText e = .ok (e.kind, content) := by
    rw [messageText, hpayload, payloadText, hcontent]
    rfl
  have hparse : parseStateDelta content = .ok (buildGuiStateDelta p s) := by
    rw [parseStateDelta_serialize (sized_build hp.1.revision hs.1) hcontent, tidyDelta_build,
      if_pos (pairedDelta_build.mpr (.inr hs.2))]
  refine ⟨_, htext, ?_⟩
  simp [receiveText, hkind, hparse, ClientStateTracker.receive, hpayload]

/-! ### Jobs -/

omit [Library] in
/-- A payload that was written has passed the library. -/
lemma serialized_snapshot {codec : Codec} {s : Snapshot} {p : Payload}
    (h : Gui.serializeSnapshot codec s = .ok p) : p = .snapshot s ∧ codec.snapshotError s = none := by
  unfold Gui.serializeSnapshot at h
  split at h
  · cases h
  · next hcodec =>
    cases h
    exact ⟨rfl, hcodec⟩

omit [Library] in
lemma serialized_delta {codec : Codec} {d : StateDelta} {p : Payload}
    (h : Gui.serializeStateDelta codec d = .ok p) : p = .delta d ∧ codec.deltaError d = none := by
  unfold Gui.serializeStateDelta at h
  split_ifs at h
  split at h
  · cases h
  · next hcodec =>
    cases h
    exact ⟨rfl, hcodec⟩

omit [Library] in
lemma prepared_inv {e e' : Gui.Envelope} {payload : Except Gui.OutboundFailure Payload} {target : Snapshot}
    {baseline : Option Snapshot} (h : Gui.GuiOutboundChannel.prepared e payload target = .ready e' baseline) :
    ∃ p, payload = .ok p ∧ e' = { e with payload := p } := by
  cases payload with
  | error f => cases h
  | ok p =>
    cases h
    exact ⟨p, rfl, rfl⟩

/-- What the channel writes for a job is read for what it is. -/
lemma agrees_ready {c : GuiOutboundChannel} {job : Job} {e : Gui.Envelope} {baseline : Option Snapshot}
    (hholds : c.writer = .holding job) (hready : c.prepareJob textCodec job = .ready e baseline)
    (hjob : JobFine job) (hstates : ∀ t, c.Has t → Fine t ∧ 0 < t.revision) (t : ClientStateTracker) :
    Agrees t e := by
  cases job with
  | envelope e' =>
    cases hready
    exact agrees_sendable hjob t
  | snapshot e' target =>
    obtain ⟨p, hp, rfl⟩ := prepared_inv hready
    obtain ⟨rfl, hcodec⟩ := serialized_snapshot hp
    obtain ⟨hfine, hpositive⟩ := hstates target (.inr (.inl ⟨e', hholds⟩))
    exact agrees_snapshot (e := { e' with payload := .snapshot target }) hjob rfl hfine hpositive hcodec t
  | state =>
    simp only [GuiOutboundChannel.prepareJob] at hready
    split at hready
    · cases hready
    next target hlatest =>
    obtain ⟨hfine, hpositive⟩ := hstates target (.inr (.inr (.inl hlatest)))
    split at hready
    · obtain ⟨p, hp, rfl⟩ := prepared_inv hready
      obtain ⟨rfl, hcodec⟩ := serialized_snapshot hp
      exact agrees_snapshot rfl rfl hfine hpositive hcodec t
    · next sent hsent =>
      split_ifs at hready
      obtain ⟨p, hp, rfl⟩ := prepared_inv hready
      obtain ⟨rfl, hcodec⟩ := serialized_delta hp
      exact agrees_delta rfl rfl (hstates sent (.inr (.inr (.inr hsent)))).1 hfine hcodec t

/-! ### Runs -/

/-- The texts of all messages, and what a window has that has read them. -/
def Follows (c : GuiOutboundChannel) : Prop :=
  ∃ messages, c.written.mapM messageText = .ok messages ∧ messages.foldlM receiveText {} = .ok c.client

/-- The session is one of a view model, its states are fine, and so are its jobs. -/
structure Texted (s : Session) : Prop where
  coherent : ∃ history, s.Coherent history
  states : ∀ t, s.Has t → Fine t
  jobs : ∀ job, job ∈ s.channel.jobs ∨ s.channel.writer = .holding job → JobFine job
  follows : Follows s.channel

/-- The states that come up are fine, and nothing is queued but what the tray has for the window. -/
def AllFine (s : Session) : Step → Prop
  | .change update => Fine { update s.state with revision := s.state.revision + 1 }
  | .enqueue e => Sendable e
  | _ => True

variable {s : Session} {c : GuiOutboundChannel}

/-- What is known of the channel: its jobs, and what the window makes of their messages. -/
structure ChannelTexted (c : GuiOutboundChannel) : Prop where
  jobs : ∀ job, job ∈ c.jobs ∨ c.writer = .holding job → JobFine job
  follows : Follows c

lemma ChannelTexted.pushJob (h : ChannelTexted c) {job : Job} (hjob : JobFine job) :
    ChannelTexted (c.pushJob job).2 := by
  rcases c.pushJob_cases job with heq | ⟨-, heq⟩
  · rwa [heq]
  · rw [heq]
    refine ⟨fun job' hjob' => ?_, h.follows⟩
    rcases hjob' with hjob' | hjob'
    · rcases List.mem_append.mp hjob' with hjob' | hjob'
      · exact h.jobs job' (.inl hjob')
      · rwa [List.mem_singleton.mp hjob']
    · exact h.jobs job' (.inr hjob')

lemma ChannelTexted.publishState (h : ChannelTexted c) (t : Snapshot) : ChannelTexted (c.publishState t).2 := by
  have hp := c.published t
  generalize c.publishState t = x at hp ⊢
  cases hp with
  | closed => exact h
  | coalesced => exact ⟨h.jobs, h.follows⟩
  | full => exact ⟨h.jobs, h.follows⟩
  | queued =>
    refine ⟨fun job hjob => ?_, h.follows⟩
    rcases hjob with hjob | hjob
    · rcases List.mem_append.mp hjob with hjob | hjob
      · exact h.jobs job (.inl hjob)
      · rw [List.mem_singleton.mp hjob]
        trivial
    · exact h.jobs job (.inr hjob)

lemma ChannelTexted.take (h : ChannelTexted c) : ChannelTexted c.take := by
  have ht := c.taken
  generalize c.take = x at ht ⊢
  cases ht with
  | nothing => exact h
  | ended => exact ⟨fun job hjob => h.jobs job (.inl (by simpa using hjob)), h.follows⟩
  | @job next rest hw hjobs =>
    refine ⟨fun job hjob => h.jobs job (.inl ?_), h.follows⟩
    rw [hjobs]
    rcases hjob with hjob | hjob
    · exact List.mem_cons_of_mem _ hjob
    · rw [Gui.Writer.holding.inj hjob]
      exact List.mem_cons_self ..

/-- One more message is written, and read. -/
lemma Follows.append (h : Follows c) {d : GuiOutboundChannel} {e : Gui.Envelope}
    (hwritten : d.written = c.written ++ [e]) (hagrees : Agrees c.client e) : Follows d := by
  obtain ⟨messages, hmessages, hread⟩ := h
  obtain ⟨message, hmessage, hreceive⟩ := hagrees
  refine ⟨messages ++ [message], ?_, ?_⟩
  · rw [hwritten]
    exact mapM_append_one hmessages hmessage
  · have hclient : d.client = c.client.receive e := by
      simp only [GuiOutboundChannel.client, hwritten, List.foldl_append, List.foldl_cons, List.foldl_nil]
    rw [hclient]
    exact foldlM_append_one hread hreceive

lemma ChannelTexted.send (h : ChannelTexted c) (hstates : ∀ t, c.Has t → Fine t ∧ 0 < t.revision)
    (writeError : Option Bytes) : ChannelTexted (c.send textCodec writeError) := by
  have hs := c.sent textCodec writeError
  generalize c.send textCodec writeError = x at hs ⊢
  cases hs with
  | nothing => exact h
  | skipped hw => exact ⟨fun job hjob => h.jobs job (.inl (by simpa using hjob)), h.follows⟩
  | failed hw => exact ⟨fun job hjob => by simp [GuiOutboundChannel.reportFailure] at hjob, h.follows⟩
  | written hw hready =>
    have hagrees := agrees_ready hw hready (h.jobs _ (.inr hw)) hstates c.client
    exact ⟨fun job hjob => h.jobs job (.inl (by simpa using hjob)), h.follows.append rfl hagrees⟩

lemma channelTexted_step {step : Step} (hstep : AllFine s step) (hs : Texted s) :
    ChannelTexted (s.step textCodec step).channel := by
  have h : ChannelTexted s.channel := ⟨hs.jobs, hs.follows⟩
  have hc := Gui.channelStep textCodec s step
  generalize (s.step textCodec step).channel = x at hc ⊢
  cases hc with
  | same => exact h
  | published => exact h.publishState _
  | queued => exact h.pushJob rfl
  | enqueued => exact h.pushJob hstep
  | taken => exact h.take
  | sent writeError =>
    obtain ⟨history, hcoherent⟩ := hs.coherent
    refine h.send (fun t ht => ?_) writeError
    have hhas : s.Has t := .inr (.inr (.inr ht))
    exact ⟨hs.states t hhas, hcoherent.positive t hhas⟩
  | drained => exact ⟨h.jobs, h.follows⟩
  | stopped => exact ⟨fun job hjob => h.jobs job (.inr (by simpa [GuiOutboundChannel.stop] using hjob)), h.follows⟩

lemma texted_step {step : Step} (hstep : AllFine s step) (h : Texted s) : Texted (s.step textCodec step) := by
  obtain ⟨hjobs, hfollows⟩ := channelTexted_step hstep h
  refine ⟨Gui.coherent_step step h.coherent, fun t ht => ?_, hjobs, hfollows⟩
  rcases Gui.has_step ht with ht | ⟨update, rfl, rfl⟩
  · exact h.states t ht
  · exact hstep

end Texts

section Window

attribute [local instance] bitLibrary

lemma fine_blank {revision : ℕ} (h : revision < 2 ^ 64) (pending : Bool) :
    Fine { revision := revision, commandPending := pending } := by
  have hstatus : ({} : Gui.ApplicationStatus).Sized := ⟨by decide, by decide⟩
  have hdraft : ({} : Gui.DraftStatus).Sized := by norm_num [Gui.DraftStatus.Sized]
  exact ⟨⟨h, hstatus, by simp, by simp [Gui.Selection.Sized], by simp, by simp, hdraft, by simp⟩, rfl⟩

end Window

end CcsTrans.GuiIpc
