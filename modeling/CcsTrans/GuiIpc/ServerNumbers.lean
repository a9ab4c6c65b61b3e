import CcsTrans.GuiIpc.MessageOrder
import CcsTrans.GuiIpc.ClientSends

/-!
The numbers of the tray's messages.

The writer numbers a message when it is about to be written, with the number of the session. The
reader disconnects the session when it is done, and the session begins again at one, though
there may be messages that are yet to be numbered.
-/

namespace CcsTrans.GuiIpc

open CcsTrans.Text
open CcsTrans.Gui (MessageKind ResultCode ErrorCode Snapshot CommandStatus GuiOutboundChannel Job
  Payload Codec)
open Connection

namespace GuiIpcConnection

variable {texts : PayloadTexts} {c : GuiIpcConnection}

/-! ### The numbers of the messages -/

/-- The messages on the pipe that have a number. -/
def numbered (c : GuiIpcConnection) : List Envelope :=
  c.written.filter fun e => e.kind ≠ .helloResult

/-- How many numbers were given to messages that are not yet on the pipe. -/
def pending (c : GuiIpcConnection) : ℕ :=
  match c.drawn with
  | none => 0
  | some d => if d.message.kind = .helloResult then 0 else 1

/-- The messages are numbered in their order. -/
structure Counted (policy : ServerSessionPolicy) (c : GuiIpcConnection) : Prop where
  sessionId : c.sessionId = policy.sessionId
  sourceCommit : c.sourceCommit = policy.sourceCommit
  belongs : ∀ e ∈ c.written, Belongs policy e
  numbered : Numbered policy c.numbered
  drawn : ∀ d, c.drawn = some d → d.message.kind ≠ .helloResult →
    d.sequence = UInt64.ofNat (c.numbered.length + 1)
  next : c.outbound.writer ≠ .ended → c.forgotten = 0 →
    c.session.nextServerSequence = UInt64.ofNat (c.numbered.length + c.pending + 1)
  done : c.forgotten ≠ 0 → c.reader.done = true

variable {policy : ServerSessionPolicy}

/-- A step that does not touch the numbers. -/
lemma Counted.same (h : c.Counted policy) {session : ServerSession} {o : GuiOutboundChannel}
    {auth : Bool} {r : Reader} {ps : List Post}
    (hnext : c.outbound.writer ≠ .ended →
      session.nextServerSequence = c.session.nextServerSequence)
    (hw : o.writer ≠ .ended → c.outbound.writer ≠ .ended)
    (hover : c.reader.done = true → r.done = true) :
    Counted policy { c with
      session := session, outbound := o, authenticated := auth, reader := r, posts := ps } where
  sessionId := h.sessionId
  sourceCommit := h.sourceCommit
  belongs := h.belongs
  numbered := h.numbered
  drawn := h.drawn
  next := fun hlive hzero => (hnext (hw hlive)).trans (h.next (hw hlive) hzero)
  done := fun hne => hover (h.done hne)

/-- As long as there is no message, no number was given. -/
lemma Counted.fresh (h : c.Counted policy) (hflow : c.flow = []) (hzero : c.forgotten = 0)
    (hlive : c.outbound.writer ≠ .ended) : c.session.nextServerSequence = 1 := by
  unfold flow at hflow
  simp only [List.append_eq_nil_iff, List.map_eq_nil_iff] at hflow
  have hdrawn : c.drawn = none := by
    cases hd : c.drawn with
    | none => rfl
    | some d => simp [inWork, hd] at hflow
  rw [h.next hlive hzero, GuiIpcConnection.numbered, hflow.1.1, pending, hdrawn]
  rfl

lemma Counted.handled (h : c.Counted policy) (hlined : c.Lined) (hreading : c.reader = .reading)
    {c' : GuiIpcConnection} (hhandled : Handled c c') : c'.Counted policy := by
  have hnotOver : ¬ c.reader.done = true := by simp [hreading, Reader.done]
  have hzero : c.forgotten = 0 := by
    by_contra hne
    exact hnotOver (h.done hne)
  -- A hello that is accepted starts the numbers again, when none was given.
  have hhello : ∀ session : ServerSession, c.authenticated = false →
      (session.nextServerSequence = c.session.nextServerSequence ∨
        session.nextServerSequence = 1) →
      c.outbound.writer ≠ .ended →
      session.nextServerSequence = c.session.nextServerSequence := by
    intro session hnew hnext hlive
    rcases hnext with hnext | hnext
    · exact hnext
    · have hstage := hlined.stage
      rw [hreading] at hstage
      rw [hnext, h.fresh (hstage hnew).2 hzero hlive]
  cases hhandled with
  | dropped => exact h.same (fun _ => rfl) id fun hover => absurd hover hnotOver
  | hello hnew hnext hkind =>
    exact h.same (hhello _ hnew hnext) id fun hover => absurd hover hnotOver
  | lost hnew hnext => exact h.same (hhello _ hnew hnext) id fun hover => absurd hover hnotOver
  | message hauth hnext hreader =>
    exact h.same (fun _ => hnext) id fun hover => absurd hover hnotOver

lemma Counted.drew (h : c.Counted policy) (hrecalls : c.Recalls texts .draw)
    {c' : GuiIpcConnection} (hdrew : Drew texts c c') : c'.Counted policy := by
  cases hdrew with
  | nothing => exact h
  | skipped hw hdrawn => exact h.same (fun _ => rfl) (fun _ => by simp [hw]) id
  | failed hdrawn => exact h.same (fun _ => rfl) (fun hlive => absurd rfl hlive) id
  | answer hw hdrawn hready hkind =>
    refine ⟨h.sessionId, h.sourceCommit, h.belongs, h.numbered, ?_, ?_, h.done⟩
    · rintro d ⟨⟩ hne
      exact absurd hkind hne
    · intro hlive hzero
      have hnext := h.next hlive hzero
      simp only [pending, hdrawn] at hnext
      simp only [pending, hkind, if_true]
      exact hnext
  | @numbered job e baseline hw hdrawn hready hkind =>
    have hnext := h.next (by simp [hw]) (hrecalls job e baseline hw hdrawn hready)
    simp only [pending, hdrawn, Nat.add_zero] at hnext
    refine ⟨h.sessionId, h.sourceCommit, h.belongs, h.numbered, ?_, ?_, h.done⟩
    · rintro d ⟨⟩ -
      exact hnext
    · intro _ _
      simp only [pending, hkind, if_false]
      change c.session.nextServerSequence + 1 = UInt64.ofNat (c.numbered.length + 1 + 1)
      rw [hnext, UInt64.ofNat_add (c.numbered.length + 1) 1]
      rfl

lemma Counted.wrote (h : c.Counted policy) (hlined : c.Lined) {c' : GuiIpcConnection}
    (hwrote : Wrote texts c c') : c'.Counted policy := by
  cases hwrote with
  | nothing => exact h
  | failed =>
    exact ⟨h.sessionId, h.sourceCommit, h.belongs, h.numbered, (fun d hd => by cases hd),
      fun hlive => absurd rfl hlive, h.done⟩
  | @written d sent state hdrawn =>
    have hlive : c.outbound.writer ≠ .ended := by
      obtain ⟨job, hjob⟩ := hlined.holding (by simp [hdrawn])
      simp [hjob]
    have hnext := h.next hlive
    have hwire : Belongs policy (c.wire texts d) := ⟨rfl, h.sessionId, h.sourceCommit⟩
    have hbelongs : ∀ e ∈ c.written ++ [c.wire texts d], Belongs policy e := by
      intro e he
      rcases List.mem_append.mp he with hold | hnew
      · exact h.belongs e hold
      · rw [List.mem_singleton.mp hnew]
        exact hwire
    by_cases hkind : d.message.kind = .helloResult
    · have hsame : (c.written ++ [c.wire texts d]).filter (fun e => e.kind ≠ .helloResult) =
          c.numbered := by
        rw [List.filter_append]
        simp [GuiIpcConnection.numbered, wire, hkind]
      refine ⟨h.sessionId, h.sourceCommit, hbelongs, ?_, (fun d hd => by cases hd),
        fun _ hzero => ?_, h.done⟩
      · rw [GuiIpcConnection.numbered, hsame]
        exact h.numbered
      · simp only [pending, hdrawn, hkind, if_true] at hnext
        rw [GuiIpcConnection.numbered, hsame]
        exact hnext hzero
    · have hsame : (c.written ++ [c.wire texts d]).filter (fun e => e.kind ≠ .helloResult) =
          c.numbered ++ [c.wire texts d] := by
        rw [List.filter_append]
        simp [GuiIpcConnection.numbered, wire, hkind]
      refine ⟨h.sessionId, h.sourceCommit, hbelongs, ?_, (fun d hd => by cases hd),
        fun _ hzero => ?_, h.done⟩
      · rw [GuiIpcConnection.numbered, hsame]
        exact h.numbered.snoc hwire (h.drawn d hdrawn hkind)
      · simp only [pending, hdrawn, hkind, if_false] at hnext
        rw [GuiIpcConnection.numbered, hsame, List.length_append]
        exact hnext hzero

lemma Counted.advance (h : c.Counted policy) : c.advance.Counted policy := by
  unfold GuiIpcConnection.advance
  split
  · exact h
  · exact h
  · rename_i hreader
    refine h.same (fun _ => rfl) ?_ (by simp [hreader, Reader.done])
    rw [GuiOutboundChannel.enqueue, writer_pushJob]
    exact id
  · rename_i hreader
    exact h.same (fun _ => rfl) id (by simp [hreader, Reader.done])
  · rename_i hreader
    refine h.same (fun _ => rfl) ?_ (by simp [hreader, Reader.done])
    rw [writer_pushJob]
    exact id
  · rename_i hreader
    exact h.same (fun _ => rfl) id (by simp [hreader, Reader.done])
  · -- What the session forgets is what it has given, which may be nothing.
    rename_i drain hreader
    refine ⟨h.sessionId, h.sourceCommit, h.belongs, h.numbered, h.drawn, fun hlive hzero => ?_, fun _ => rfl⟩
    have hnext := h.next hlive (by
      by_contra hne
      have hover := h.done hne
      rw [hreader] at hover
      exact nomatch hover)
    have hone : c.session.nextServerSequence = 1 := by
      have hforgotten : c.session.nextServerSequence - 1 = 0 := hzero
      calc c.session.nextServerSequence
          = c.session.nextServerSequence - 1 + 1 := (UInt64.sub_add_cancel _ _).symm
        _ = 1 := by rw [hforgotten]; rfl
    exact hone.symm.trans hnext
  · rename_i drain hreader
    refine h.same (fun _ => rfl) ?_ (fun _ => rfl)
    cases drain with
    | true => exact id
    | false => exact id

lemma Counted.step (h : c.Counted policy) (hlined : c.Lined) (s : Step)
    (hrecalls : c.Recalls texts s) : (c.step texts s).Counted policy := by
  cases s with
  | frame f snapshot =>
    unfold GuiIpcConnection.step
    dsimp only
    split_ifs with hreading
    · exact h.handled hlined hreading (GuiIpcConnection.handled texts c snapshot f)
    · exact h
  | lost =>
    unfold GuiIpcConnection.step
    dsimp only
    split_ifs with hreading
    · exact h.same (fun _ => rfl) id (by simp [hreading, Reader.done])
    · exact h
  | advance => exact h.advance
  | post p =>
    unfold GuiIpcConnection.step
    dsimp only
    split_ifs with htrue
    · exact h.same (fun _ => rfl) id id
    · exact h
  | push i =>
    unfold GuiIpcConnection.step
    dsimp only
    split
    · exact h
    · rename_i p hp
      have hbegun : c.Begun := hlined.begun (.inr (by rintro hnil; simp [hnil] at hp))
      obtain ⟨o, hpush, -, hw⟩ : ∃ o, c.push texts p = { c with outbound := o } ∧ _ :=
        moved_push hbegun p
      rw [hpush]
      exact h.same (fun _ => rfl) (by rw [hw]; exact id) id
  | take =>
    refine h.same (fun _ => rfl) (fun hlive hended => hlive ?_) id
    unfold GuiOutboundChannel.take
    simp [hended]
  | draw => exact h.drew hrecalls (GuiIpcConnection.drew texts c)
  | write writeError => exact h.wrote hlined (GuiIpcConnection.wrote texts c writeError)
  | stop => exact h.same (fun _ => rfl) id id

lemma lined_opened (policy : ServerSessionPolicy) (clientProcessId : UInt64) (capacity : ℕ) :
    (opened policy clientProcessId capacity).Lined where
  led := .inl rfl
  begun := by
    rintro (htrue | hne)
    · exact nomatch htrue
    · exact absurd rfl hne
  stage := fun _ => ⟨rfl, rfl⟩
  holding := fun hne => absurd rfl hne

lemma counted_opened (policy : ServerSessionPolicy) (clientProcessId : UInt64) (capacity : ℕ) :
    (opened policy clientProcessId capacity).Counted policy where
  sessionId := rfl
  sourceCommit := rfl
  belongs := by simp [opened]
  numbered := .nil policy
  drawn := fun _ hd => nomatch hd
  next := fun _ _ => rfl
  done := fun hne => absurd rfl hne

end GuiIpcConnection

/-! ### What the window makes of the messages -/

namespace GuiIpcClient

/-- The client after messages of the tray. -/
def after (c : GuiIpcClient) (es : List Envelope) : GuiIpcClient :=
  es.foldl (fun c e => (c.validateServerEnvelope e).2) c

/-- The client accepts each of the messages in their order. -/
def AcceptsAll (c : GuiIpcClient) (es : List Envelope) : Prop :=
  ∀ before e rest, es = before ++ e :: rest → ((c.after before).validateServerEnvelope e).1 = none

lemma after_append (c : GuiIpcClient) (es : List Envelope) (e : Envelope) :
    c.after (es ++ [e]) = ((c.after es).validateServerEnvelope e).2 := by
  rw [after, List.foldl_append]
  rfl

end GuiIpcClient

/-- Messages that are numbered from where the client is are accepted. -/
lemma validate_numbered {c : GuiIpcClient} {policy : ServerSessionPolicy} {e : Envelope}
    (hsession : c.bootstrap.sessionId = policy.sessionId)
    (hcommit : c.bootstrap.sourceCommit = policy.sourceCommit) (he : Belongs policy e)
    (hnext : e.sequence = c.nextServerSequence) :
    c.validateServerEnvelope e =
      (none, { c with nextServerSequence := c.nextServerSequence + 1 }) := by
  obtain ⟨hprotocol, hid, hsource⟩ := he
  simp [GuiIpcClient.validateServerEnvelope, hprotocol, hid, hsource, hsession, hcommit, hnext]

/-- A message and those before it, among messages that are numbered. -/
lemma Numbered.split {policy : ServerSessionPolicy} {before rest : List Envelope} {e : Envelope}
    (h : Numbered policy (before ++ e :: rest)) : Numbered policy before ∧ Belongs policy e ∧
      e.sequence = UInt64.ofNat (before.length + 1) := by
  have hlength : before.length < (before ++ e :: rest).length := by simp
  refine ⟨⟨?_, fun m hm => h.belongs m (by simp [hm])⟩, h.belongs e (by simp), ?_⟩
  · have htake := congrArg (List.take before.length) h.sequence
    rw [← List.map_take, ← List.map_take, List.take_left, List.take_range,
      min_eq_left hlength.le] at htake
    exact htake
  · have hat := congrArg (fun l => l[before.length]?) h.sequence
    simp only [List.getElem?_map, List.getElem?_range hlength] at hat
    simpa using hat

lemma after_numbered {c : GuiIpcClient} {policy : ServerSessionPolicy} {es : List Envelope}
    (hsession : c.bootstrap.sessionId = policy.sessionId)
    (hcommit : c.bootstrap.sourceCommit = policy.sourceCommit)
    (hfirst : c.nextServerSequence = 1) (hes : Numbered policy es) :
    c.after es = { c with nextServerSequence := UInt64.ofNat (es.length + 1) } := by
  induction es using List.reverseRecOn with
  | nil =>
    cases c
    cases hfirst
    rfl
  | append_singleton es e ih =>
    obtain ⟨hes, he, hnext⟩ := hes.split
    have hvalidate := validate_numbered
      (c := { c with nextServerSequence := UInt64.ofNat (es.length + 1) }) hsession hcommit he hnext
    rw [GuiIpcClient.after_append, ih hes, hvalidate, List.length_append, List.length_singleton,
      UInt64.ofNat_add (es.length + 1) 1]
    rfl

lemma acceptsAll_numbered {c : GuiIpcClient} {policy : ServerSessionPolicy} {es : List Envelope}
    (hsession : c.bootstrap.sessionId = policy.sessionId)
    (hcommit : c.bootstrap.sourceCommit = policy.sourceCommit)
    (hfirst : c.nextServerSequence = 1) (hes : Numbered policy es) : c.AcceptsAll es := by
  rintro before e rest rfl
  obtain ⟨hbefore, he, hnext⟩ := hes.split
  rw [after_numbered hsession hcommit hfirst hbefore]
  rw [validate_numbered (c := { c with nextServerSequence := UInt64.ofNat (before.length + 1) })
    hsession hcommit he hnext]

/-- Where the answer to the hello leads, it is on the pipe first, and once. -/
lemma kinds_of_led {c : GuiIpcConnection} (h : Led c.flow) {answer : Envelope}
    {rest : List Envelope} (hwritten : c.written = answer :: rest) :
    answer.kind = .helloResult ∧ ∀ e ∈ rest, e.kind ≠ .helloResult := by
  rw [GuiIpcConnection.flow, List.append_assoc, hwritten, List.map_cons, List.cons_append] at h
  rcases h with h | ⟨n, h⟩
  · cases h
  · rw [List.cons.injEq] at h
    obtain ⟨hanswer, hrest⟩ := h
    obtain ⟨-, hrest, -⟩ := List.append_eq_replicate_iff.mp hrest
    refine ⟨of_decide_eq_true hanswer, fun e he hkind => ?_⟩
    have hfalse := (List.eq_replicate_iff.mp hrest).2 _ (List.mem_map_of_mem he)
    simp [hkind] at hfalse

open GuiIpcConnection in
/-- **The messages after the answer to the hello are numbered from one, and the window accepts each
of them**, as long as none is numbered by a session that has forgotten the numbers that it gave. -/
theorem written_accepted {texts : PayloadTexts} {policy : ServerSessionPolicy}
    {clientProcessId : UInt64} {capacity : ℕ} {steps : List Step}
    (hrecalls : Runs.Along (step texts) (Recalls texts) (opened policy clientProcessId capacity)
      steps) {answer : Envelope} {rest : List Envelope}
    (hwritten : (steps.foldl (step texts) (opened policy clientProcessId capacity)).written =
      answer :: rest) :
    answer.kind = .helloResult ∧
      rest.map (·.sequence) = (List.range rest.length).map (fun i => UInt64.ofNat (i + 1)) ∧
      ∀ (client : GuiIpcClient) (result : HelloResult),
        (client.handleHelloResult answer result).1 = none →
        (client.handleHelloResult answer result).2.AcceptsAll rest := by
  have hkeeps := hrecalls.keeps (P := fun c => c.Lined ∧ c.Counted policy)
    (fun c s hs h => ⟨h.1.step s, h.2.step h.1 s hs⟩) ⟨lined_opened .., counted_opened ..⟩
  obtain ⟨hlined, hcounted⟩ := hkeeps
  generalize steps.foldl (step texts) (opened policy clientProcessId capacity) = c
    at hwritten hlined hcounted
  obtain ⟨hkind, hrest⟩ := kinds_of_led hlined.led hwritten
  have hnumbered := hcounted.numbered
  rw [GuiIpcConnection.numbered, hwritten, List.filter_cons_of_neg (by simp [hkind]),
    List.filter_eq_self.mpr (fun e he => by simp [hrest e he])] at hnumbered
  refine ⟨hkind, hnumbered.sequence, fun client result haccepted => ?_⟩
  obtain ⟨-, hsession, hcommit⟩ := hcounted.belongs answer (by simp [hwritten])
  obtain ⟨hcommit', hsession', hclient⟩ := handleHelloResult_eq_none haccepted
  rw [hclient]
  exact acceptsAll_numbered (hsession'.symm.trans hsession) (hcommit'.symm.trans hcommit) rfl
    hnumbered

/-! ### A message that is refused -/

/-- Texts for the payloads. -/
def plainTexts : PayloadTexts where
  snapshotError _ := none
  deltaError _ := none
  helloResult _ := .ok (str "\x7b\x7d")
  commandStatus _ := .ok (str "\x7b\x7d")
  payload _ := str "\x7b\x7d"

/-- The reader takes a hello, and the writer answers it and shows the snapshot. -/
def greetingSteps : List Step :=
  [.frame (.message helloEnvelope theHello none) {}, .advance, .advance, .advance,
    .take, .draw, .write none, .take, .draw, .write none]

/-- A message has the wrong number. The reader queues the rejection and disconnects the session
before the writer comes to it. -/
def refusedSteps : List Step :=
  [.frame (.message (numbered 2) none none) {}, .advance, .advance, .advance, .advance,
    .take, .draw, .write none]

/-- The connection of the window. -/
def theConnection : GuiIpcConnection := .opened thePolicy 7 64

/-- The hello result that the window takes. -/
def theHelloResult : HelloResult where
  accepted := true
  version := str "1.0.0"
  sourceCommit := str "abc"
  sessionId := str "session"

/-- The window, before it has the answer to its hello. -/
def newClient : GuiIpcClient := { bootstrap := theBootstrap, connected := true }

/-- A message of the tray. -/
def trayEnvelope (kind : MessageKind) (requestId : Bytes) (sequence : UInt64)
    (result : Option ResultCode) (errorCode : Option ErrorCode) : Envelope where
  kind := kind
  requestId := requestId
  sessionId := str "session"
  sequence := sequence
  sourceCommit := str "abc"
  result := result
  errorCode := errorCode

def theAnswer : Envelope :=
  trayEnvelope .helloResult (str "hello") 0 (some .accepted) (some .none)

def theSnapshot : Envelope := trayEnvelope .snapshot (str "initial-snapshot") 1 none none

/-- The rejection has the number of the snapshot. -/
def theRejection : Envelope :=
  trayEnvelope .commandStatus (str "ping") 1 (some .rejected) (some .sequenceRejected)

lemma written_greeting : (greetingSteps.foldl (GuiIpcConnection.step plainTexts)
    theConnection).written = [theAnswer, theSnapshot] := by
  decide

lemma written_refused : ((greetingSteps ++ refusedSteps).foldl (GuiIpcConnection.step plainTexts)
    theConnection).written = [theAnswer, theSnapshot, theRejection] := by
  decide

lemma handleHelloResult_theAnswer : (newClient.handleHelloResult theAnswer theHelloResult).1 = none := by
  decide

lemma along_of_forgotten {texts : PayloadTexts} {c : GuiIpcConnection} {steps : List Step}
    (h : ∀ n ≤ steps.length, ((steps.take n).foldl (GuiIpcConnection.step texts) c).forgotten = 0) :
    Runs.Along (GuiIpcConnection.step texts) (GuiIpcConnection.Recalls texts) c steps := by
  rw [Runs.along_iff]
  rintro before s after rfl
  have hzero := h before.length (by simp)
  rw [List.take_left] at hzero
  cases s with
  | draw => exact fun _ _ _ _ _ _ => hzero
  | _ => trivial

theorem written_accepted_greeting :
    (greetingSteps.foldl (GuiIpcConnection.step plainTexts) theConnection).written =
      [theAnswer, theSnapshot] ∧
    (newClient.handleHelloResult theAnswer theHelloResult).2.AcceptsAll [theSnapshot] := by
  have hrecalls : Runs.Along (GuiIpcConnection.step plainTexts)
      (GuiIpcConnection.Recalls plainTexts) theConnection greetingSteps :=
    along_of_forgotten (by decide)
  exact ⟨written_greeting, (written_accepted hrecalls written_greeting).2.2 newClient theHelloResult
    handleHelloResult_theAnswer⟩

/-- The session is disconnected before the rejection is numbered: the window refuses it. -/
theorem written_accepted_fails :
    ((greetingSteps ++ refusedSteps).foldl (GuiIpcConnection.step plainTexts)
      (.opened thePolicy 7 64)).written = [theAnswer, theSnapshot, theRejection] ∧
    (newClient.handleHelloResult theAnswer theHelloResult).1 = none ∧
    ¬ (newClient.handleHelloResult theAnswer theHelloResult).2.AcceptsAll
      [theSnapshot, theRejection] := by
  refine ⟨written_refused, handleHelloResult_theAnswer, fun h => ?_⟩
  have hrefused : ((((newClient.handleHelloResult theAnswer theHelloResult).2.after
      [theSnapshot]).validateServerEnvelope theRejection).1 = none) := h [theSnapshot] theRejection [] rfl
  have hsome : (((newClient.handleHelloResult theAnswer theHelloResult).2.after
      [theSnapshot]).validateServerEnvelope theRejection).1 ≠ none := by decide
  exact hsome hrefused

end CcsTrans.GuiIpc
