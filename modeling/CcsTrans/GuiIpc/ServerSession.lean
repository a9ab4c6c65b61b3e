import CcsTrans.GuiIpc.Envelope
import CcsTrans.Runs

/-!
The session that the tray keeps for a window.

A session begins with a hello, which must show the token that the window was started with.
The token is good for one hello. From then on the messages of the window are numbered, and the
session takes them only in order, until it is disconnected.
-/

namespace CcsTrans.GuiIpc

open CcsTrans.Text
open CcsTrans.Gui (MessageKind ResultCode ErrorCode)

/-! ### The session -/

/-- The byte at an index, or zero past the end. -/
def byteAt (s : Bytes) (index : ℕ) : ℕ := (s.getD index 0).toNat

/-- `constant_time_equal`. -/
def constantTimeEqual (left right : Bytes) : Bool :=
  let maximum := max left.length right.length
  let difference := (List.range maximum).foldl
    (fun difference index => difference ||| (byteAt left index ^^^ byteAt right index))
    (left.length ^^^ right.length)
  difference == 0

structure ServerSessionPolicy where
  version : Bytes := []
  sourceCommit : Bytes := []
  instanceIdentity : Bytes := []
  handshakeToken : Bytes := []
  sessionId : Bytes := []
  expectedProcessId : Option UInt64 := none
  deriving DecidableEq

structure SessionValidation where
  accepted : Bool := false
  error : ErrorCode := .none
  detail : Bytes := []

def reject (error : ErrorCode) (detail : Bytes) : SessionValidation := ⟨false, error, detail⟩

structure ServerSession where
  policy : ServerSessionPolicy
  lastClientSequence : UInt64 := 0
  nextServerSequence : UInt64 := 1
  authenticated : Bool := false
  tokenConsumed : Bool := false
  deriving DecidableEq

namespace ServerSession

/-- What a hello is refused for, by the checks of `accept_hello` in their order. -/
def helloRefusal (s : ServerSession) (e : Envelope) (hello : Hello) (actualProcessId : UInt64) :
    Option (ErrorCode × Bytes) :=
  let envelopeError := validateEnvelope e
  if envelopeError ≠ none ∨ e.kind ≠ .hello then
    some (.malformedMessage,
      envelopeError.getD (str "the first GUI IPC message must be hello"))
  else if s.authenticated ∨ s.tokenConsumed then
    some (.authenticationFailed, str "the one-time GUI handshake has already been consumed")
  else if hello.version ≠ s.policy.version then
    some (.versionMismatch, str "GUI and tray versions do not match")
  else if hello.sourceCommit ≠ s.policy.sourceCommit ∨ e.sourceCommit ≠ s.policy.sourceCommit then
    some (.sourceMismatch, str "GUI and tray source commits do not match")
  else if hello.instanceIdentity ≠ s.policy.instanceIdentity then
    some (.authenticationFailed, str "GUI instance identity does not match the tray")
  else if !constantTimeEqual hello.handshakeToken s.policy.handshakeToken then
    some (.authenticationFailed, str "GUI handshake token is invalid")
  else if hello.processId ≠ actualProcessId ∨
      s.policy.expectedProcessId.any (· ≠ actualProcessId) then
    some (.authenticationFailed,
      str "GUI process identity does not match the named-pipe client")
  else none

/-- `accept_hello`. -/
def acceptHello (s : ServerSession) (e : Envelope) (hello : Hello)
    (actualProcessId stateRevision : UInt64) : SessionValidation × HelloResult × ServerSession :=
  let result : HelloResult :=
    { version := s.policy.version, sourceCommit := s.policy.sourceCommit,
      sessionId := s.policy.sessionId, stateRevision := stateRevision }
  match s.helloRefusal e hello actualProcessId with
  | some (error, detail) =>
    (reject error detail, { result with error := error, detail := detail }, s)
  | none =>
    (⟨true, .none, []⟩, { result with accepted := true },
      { s with
        authenticated := true
        tokenConsumed := true
        policy := { s.policy with handshakeToken := [] }
        lastClientSequence := 0
        nextServerSequence := 1 })

/-- What a message is refused for, by the checks of `accept_message` in their order. -/
def messageRefusal (s : ServerSession) (e : Envelope) : Option (ErrorCode × Bytes) :=
  if !s.authenticated then
    some (.authenticationFailed, str "GUI IPC session has not completed hello")
  else match validateEnvelope e with
    | some envelopeError => some (.malformedMessage, envelopeError)
    | none =>
      if e.protocol ≠ kProtocol then
        some (.unsupportedProtocol, str "unsupported GUI IPC protocol")
      else if e.sourceCommit ≠ s.policy.sourceCommit then
        some (.sourceMismatch, str "GUI IPC source commit changed during session")
      else if e.sessionId ≠ s.policy.sessionId then
        some (.sessionMismatch, str "GUI IPC session_id does not match")
      else if e.sequence ≠ s.lastClientSequence + 1 then
        some (.sequenceRejected,
          if e.sequence ≤ s.lastClientSequence then str "GUI IPC sequence is duplicate or stale"
          else str "GUI IPC sequence contains a gap")
      else none

/-- `accept_message`. -/
def acceptMessage (s : ServerSession) (e : Envelope) : SessionValidation × ServerSession :=
  match s.messageRefusal e with
  | some (error, detail) => (reject error detail, s)
  | none => (⟨true, .none, []⟩, { s with lastClientSequence := e.sequence })

/-- `next_server_sequence`: the number, and the session after it. -/
def drawServerSequence (s : ServerSession) : UInt64 × ServerSession :=
  (s.nextServerSequence, { s with nextServerSequence := s.nextServerSequence + 1 })

/-- `disconnect`. -/
def disconnect (s : ServerSession) : ServerSession :=
  { s with authenticated := false, lastClientSequence := 0, nextServerSequence := 1 }

end ServerSession

/-! ### The token check -/

lemma foldl_or_eq_zero {α : Type} (f : α → ℕ) (is : List α) (a : ℕ) :
    is.foldl (fun d i => d ||| f i) a = 0 ↔ a = 0 ∧ ∀ i ∈ is, f i = 0 := by
  induction is generalizing a with
  | nil => simp
  | cons i is ih =>
    rw [List.foldl_cons, ih, Nat.or_eq_zero_iff]
    simp only [List.mem_cons, forall_eq_or_imp, and_assoc]

lemma xor_eq_zero (a b : ℕ) : a ^^^ b = 0 ↔ a = b := by
  constructor
  · intro h
    have hcancel : a ^^^ b ^^^ b = a := by
      rw [Nat.xor_assoc, Nat.xor_self, Nat.xor_zero]
    rw [h, Nat.zero_xor] at hcancel
    exact hcancel.symm
  · rintro rfl
    exact Nat.xor_self a

/-- The check of the token, whatever time it takes, is equality. -/
lemma constantTimeEqual_iff (left right : Bytes) :
    constantTimeEqual left right = true ↔ left = right := by
  unfold constantTimeEqual
  rw [beq_iff_eq, foldl_or_eq_zero, xor_eq_zero]
  constructor
  · rintro ⟨hlength, hbytes⟩
    apply List.ext_getElem hlength
    intro index hleft hright
    have hbyte := hbytes index (List.mem_range.mpr (lt_max_of_lt_left hleft))
    rw [xor_eq_zero] at hbyte
    simpa [byteAt, hleft, hright, UInt8.toNat_inj] using hbyte
  · rintro rfl
    exact ⟨rfl, fun index _ => Nat.xor_self _⟩

/-! ### Histories of calls -/

inductive Call where
  | acceptHello (e : Envelope) (hello : Hello) (actualProcessId stateRevision : UInt64)
  | acceptMessage (e : Envelope)
  | nextServerSequence
  | disconnect

/-- What a call makes of a session, as far as the window can tell. -/
inductive Event where
  /-- A hello was accepted, from a process. -/
  | greeted (e : Envelope) (hello : Hello) (actualProcessId : UInt64)
  /-- A message was accepted. -/
  | heard (e : Envelope)
  /-- The session was disconnected. -/
  | ended
  deriving DecidableEq

/-- A session, and what has come of the calls so far. -/
structure History where
  session : ServerSession
  events : List Event := []
  deriving DecidableEq

/-- A call, put on record. -/
def History.call (h : History) : Call → History
  | .acceptHello e hello actualProcessId stateRevision =>
    let (validation, _, session) := h.session.acceptHello e hello actualProcessId stateRevision
    ⟨session, if validation.accepted then h.events ++ [.greeted e hello actualProcessId]
      else h.events⟩
  | .acceptMessage e =>
    let (validation, session) := h.session.acceptMessage e
    ⟨session, if validation.accepted then h.events ++ [.heard e] else h.events⟩
  | .nextServerSequence => { h with session := h.session.drawServerSequence.2 }
  | .disconnect => ⟨h.session.disconnect, h.events ++ [.ended]⟩

/-- The history of a session from its construction. -/
def history (policy : ServerSessionPolicy) (calls : List Call) : History :=
  calls.foldl History.call { session := { policy := policy } }

/-! ### What one call can do -/

/-- The hello shows all that a policy asks of it. -/
structure Greets (policy : ServerSessionPolicy) (e : Envelope) (hello : Hello)
    (actualProcessId : UInt64) : Prop where
  kind : e.kind = .hello
  version : hello.version = policy.version
  helloCommit : hello.sourceCommit = policy.sourceCommit
  envelopeCommit : e.sourceCommit = policy.sourceCommit
  identity : hello.instanceIdentity = policy.instanceIdentity
  token : hello.handshakeToken = policy.handshakeToken
  process : hello.processId = actualProcessId
  expected : ∀ id, policy.expectedProcessId = some id → id = actualProcessId

/-- The message belongs to the session of a policy. -/
def Belongs (policy : ServerSessionPolicy) (e : Envelope) : Prop :=
  e.protocol = kProtocol ∧ e.sessionId = policy.sessionId ∧ e.sourceCommit = policy.sourceCommit

section Calls

variable {s : ServerSession} {e : Envelope} {hello : Hello} {actualProcessId : UInt64}

lemma greets_of_helloRefusal (h : s.helloRefusal e hello actualProcessId = none) :
    s.authenticated = false ∧ s.tokenConsumed = false ∧
      Greets s.policy e hello actualProcessId := by
  unfold ServerSession.helloRefusal at h
  dsimp only at h
  split_ifs at h with hkind hused hversion hcommit hidentity htoken hprocess
  simp only [not_or, ne_eq, not_not] at hkind hversion hcommit hidentity hprocess
  rw [Bool.not_eq_true', Bool.not_eq_false, constantTimeEqual_iff] at htoken
  refine ⟨by simpa using fun h => hused (.inl h), by simpa using fun h => hused (.inr h),
    hkind.2, hversion, hcommit.1, hcommit.2, hidentity, htoken, hprocess.1, ?_⟩
  intro id hid
  simpa [hid] using hprocess.2

lemma belongs_of_messageRefusal (h : s.messageRefusal e = none) :
    s.authenticated = true ∧ Belongs s.policy e ∧ e.sequence = s.lastClientSequence + 1 := by
  unfold ServerSession.messageRefusal at h
  split at h
  · exact nomatch h
  · rename_i hauth
    split at h
    · exact nomatch h
    · split_ifs at h with hprotocol hcommit hsession hnext
      simp only [ne_eq, not_not] at hprotocol hcommit hsession hnext
      exact ⟨by simpa using hauth, ⟨hprotocol, hsession, hcommit⟩, hnext⟩

end Calls

/-- A session that has just accepted a hello. -/
def ServerSession.opened (policy : ServerSessionPolicy) : ServerSession where
  policy := { policy with handshakeToken := [] }
  authenticated := true
  tokenConsumed := true

/-- What a call can do to a history. -/
inductive Called (h : History) : History → Prop
  /-- The call was refused. -/
  | refused : Called h h
  /-- A number was drawn. -/
  | drawn : Called h { h with session := h.session.drawServerSequence.2 }
  | greeted {e hello actualProcessId} (hnew : h.session.authenticated = false)
      (hunused : h.session.tokenConsumed = false)
      (hgreets : Greets h.session.policy e hello actualProcessId) :
      Called h ⟨.opened h.session.policy, h.events ++ [.greeted e hello actualProcessId]⟩
  | heard {e} (hauth : h.session.authenticated = true) (hbelongs : Belongs h.session.policy e)
      (hnext : e.sequence = h.session.lastClientSequence + 1) :
      Called h ⟨{ h.session with lastClientSequence := e.sequence }, h.events ++ [.heard e]⟩
  | ended : Called h ⟨h.session.disconnect, h.events ++ [.ended]⟩

lemma called (h : History) (c : Call) : Called h (h.call c) := by
  cases c with
  | acceptHello e hello actualProcessId stateRevision =>
    unfold History.call
    dsimp only [ServerSession.acceptHello]
    cases hrefusal : h.session.helloRefusal e hello actualProcessId with
    | some refusal => exact .refused
    | none =>
      obtain ⟨hnew, hunused, hgreets⟩ := greets_of_helloRefusal hrefusal
      exact .greeted hnew hunused hgreets
  | acceptMessage e =>
    unfold History.call
    dsimp only [ServerSession.acceptMessage]
    cases hrefusal : h.session.messageRefusal e with
    | some refusal => exact .refused
    | none =>
      obtain ⟨hauth, hbelongs, hnext⟩ := belongs_of_messageRefusal hrefusal
      exact .heard hauth hbelongs hnext
  | nextServerSequence => exact .drawn
  | disconnect => exact .ended

/-! ### Whole histories -/

/-- The messages of a session are numbered from one, and belong to it. -/
structure Numbered (policy : ServerSessionPolicy) (ms : List Envelope) : Prop where
  sequence : ms.map (·.sequence) = (List.range ms.length).map fun i => UInt64.ofNat (i + 1)
  belongs : ∀ m ∈ ms, Belongs policy m

lemma Numbered.nil (policy : ServerSessionPolicy) : Numbered policy [] := ⟨rfl, by simp⟩

lemma Numbered.snoc {policy : ServerSessionPolicy} {ms : List Envelope} {m : Envelope}
    (h : Numbered policy ms) (hm : Belongs policy m)
    (hnext : m.sequence = UInt64.ofNat (ms.length + 1)) : Numbered policy (ms ++ [m]) where
  sequence := by
    rw [List.map_append, List.length_append, List.length_singleton, List.range_succ,
      List.map_append, h.sequence]
    simp [hnext]
  belongs := by
    intro m' hm'
    rcases List.mem_append.mp hm' with hold | hnew
    · exact h.belongs m' hold
    · rw [List.mem_singleton.mp hnew]
      exact hm

/-- How far a history has come. -/
inductive Stage (policy : ServerSessionPolicy) : History → Prop
  /-- No hello was accepted so far. -/
  | waiting {s : ServerSession} (j : ℕ) (hpolicy : s.policy = policy)
      (hauth : s.authenticated = false) : Stage policy ⟨s, List.replicate j .ended⟩
  /-- A hello was accepted, and no disconnect came since. -/
  | live {s : ServerSession} (j : ℕ) {e hello pid ms}
      (hpolicy : s.policy = { policy with handshakeToken := [] })
      (hauth : s.authenticated = true) (hconsumed : s.tokenConsumed = true)
      (hgreets : Greets policy e hello pid) (hms : Numbered policy ms)
      (hlast : s.lastClientSequence = UInt64.ofNat ms.length) :
      Stage policy ⟨s, List.replicate j .ended ++ .greeted e hello pid :: ms.map .heard⟩
  /-- The session of the hello is over. -/
  | left {s : ServerSession} (j k : ℕ) {e hello pid ms}
      (hauth : s.authenticated = false) (hconsumed : s.tokenConsumed = true)
      (hgreets : Greets policy e hello pid) (hms : Numbered policy ms) :
      Stage policy ⟨s, List.replicate j .ended ++ .greeted e hello pid ::
        (ms.map .heard ++ List.replicate (k + 1) .ended)⟩

lemma stage_called {policy : ServerSessionPolicy} {h h' : History} (hstage : Stage policy h)
    (hcall : Called h h') : Stage policy h' := by
  cases hstage with
  | waiting j hpolicy hauth =>
    cases hcall with
    | refused => exact .waiting j hpolicy hauth
    | drawn => exact .waiting j hpolicy hauth
    | greeted hnew hunused hgreets =>
      cases hpolicy
      exact @Stage.live _ _ j _ _ _ [] rfl rfl rfl hgreets (.nil _) rfl
    | heard hlive hbelongs hnext => exact absurd hlive (by simp [hauth])
    | ended =>
      rw [← List.replicate_succ']
      exact .waiting (j + 1) hpolicy rfl
  | @live s j e hello pid ms hpolicy hauth hconsumed hgreets hms hlast =>
    cases hcall with
    | refused => exact .live j hpolicy hauth hconsumed hgreets hms hlast
    | drawn => exact .live j hpolicy hauth hconsumed hgreets hms hlast
    | greeted hnew hunused _ => exact absurd hunused (by simp [hconsumed])
    | @heard m _ hbelongs hnext =>
      have hseq : m.sequence = UInt64.ofNat (ms.length + 1) := by
        rw [hnext, hlast, UInt64.ofNat_add]
        rfl
      have hms' : Numbered policy (ms ++ [m]) := by
        apply hms.snoc _ hseq
        rw [hpolicy] at hbelongs
        exact hbelongs
      have h := Stage.live (s := { s with lastClientSequence := m.sequence }) j hpolicy hauth
        hconsumed hgreets hms' (by simp [hseq])
      simpa using h
    | ended =>
      have h := Stage.left (s := ServerSession.disconnect _) j 0 rfl hconsumed hgreets hms
      simpa using h
  | left j k hauth hconsumed hgreets hms =>
    cases hcall with
    | refused => exact .left j k hauth hconsumed hgreets hms
    | drawn => exact .left j k hauth hconsumed hgreets hms
    | greeted hnew hunused _ => exact absurd hunused (by simp [hconsumed])
    | heard hlive hbelongs hnext => exact absurd hlive (by simp [hauth])
    | ended =>
      have h := Stage.left (s := ServerSession.disconnect _) j (k + 1) rfl hconsumed hgreets hms
      rw [List.replicate_succ'] at h
      simpa using h

lemma stage_history (policy : ServerSessionPolicy) (calls : List Call) :
    Stage policy (history policy calls) :=
  Runs.keeps_run (fun _ _ h => stage_called h (called _ _)) calls (.waiting 0 rfl rfl)

/-- Messages that are numbered in order repeat only when the counter has gone round. -/
lemma Numbered.getElem?_ne {policy : ServerSessionPolicy} {ms : List Envelope}
    (h : Numbered policy ms) {i j : ℕ} (hij : i < j) (hj : j < ms.length)
    (hround : j - i < 2 ^ 64) : ms[i]? ≠ ms[j]? := by
  intro hsame
  have hseq : (ms.map (·.sequence))[i]? = (ms.map (·.sequence))[j]? := by
    rw [List.getElem?_map, List.getElem?_map, hsame]
  rw [h.sequence, List.getElem?_map, List.getElem?_map, List.getElem?_range (by omega),
    List.getElem?_range hj] at hseq
  have hmod := congrArg UInt64.toNat (Option.some.inj hseq)
  simp only [UInt64.toNat_ofNat'] at hmod
  omega

/-- **Only the hello that the policy asks for opens a session, once; then the messages are
taken in order until the first disconnect.** -/
theorem session_events (policy : ServerSessionPolicy) (calls : List Call) :
    (∃ j, (history policy calls).events = List.replicate j .ended) ∨
    ∃ j e hello pid ms k, (history policy calls).events =
        List.replicate j .ended ++ .greeted e hello pid ::
          (ms.map .heard ++ List.replicate k .ended) ∧
      Greets policy e hello pid ∧ Numbered policy ms ∧
      ∀ i j, i < j → j < ms.length → j - i < 2 ^ 64 → ms[i]? ≠ ms[j]? := by
  have hstage := stage_history policy calls
  generalize history policy calls = h at hstage
  cases hstage with
  | waiting j => exact .inl ⟨j, rfl⟩
  | live j _ _ _ hgreets hms =>
    exact .inr ⟨j, _, _, _, _, 0, by simp, hgreets, hms, fun _ _ => hms.getElem?_ne⟩
  | left j k _ _ hgreets hms =>
    exact .inr ⟨j, _, _, _, _, k + 1, rfl, hgreets, hms, fun _ _ => hms.getElem?_ne⟩

/-! ### A disconnect before the hello, and a counter that goes round -/

section Sample

def thePolicy : ServerSessionPolicy where
  version := str "1.0.0"
  sourceCommit := str "abc"
  instanceIdentity := str "tray"
  handshakeToken := str "token"
  sessionId := str "session"

def theHello : Hello where
  version := str "1.0.0"
  sourceCommit := str "abc"
  instanceIdentity := str "tray"
  handshakeToken := str "token"
  processId := 7

def helloEnvelope : Envelope where
  kind := .hello
  requestId := str "hello"
  sourceCommit := str "abc"

/-- A message with a number. Zero is left to a kind that may have it. -/
def numbered (i : ℕ) : Envelope where
  kind := if UInt64.ofNat i = 0 then .helloResult else .ping
  requestId := str "ping"
  sessionId := str "session"
  sourceCommit := str "abc"
  sequence := UInt64.ofNat i
  result := some .accepted

lemma validateEnvelope_numbered (i : ℕ) : validateEnvelope (numbered i) = none := by
  unfold validateEnvelope numbered
  by_cases hzero : UInt64.ofNat i = 0
  · simp only [hzero]
    decide
  · simp only [hzero]
    simp [str, ch, kProtocol, needsResult]

lemma messageRefusal_numbered {s : ServerSession} {i : ℕ}
    (hpolicy : s.policy = { thePolicy with handshakeToken := [] })
    (hauth : s.authenticated = true) (hlast : s.lastClientSequence = UInt64.ofNat i) :
    s.messageRefusal (numbered (i + 1)) = none := by
  have hnext : UInt64.ofNat (i + 1) = s.lastClientSequence + 1 := by
    rw [hlast, UInt64.ofNat_add]
    rfl
  simp [ServerSession.messageRefusal, hauth, hpolicy, validateEnvelope_numbered]
  simp [numbered, thePolicy, hnext]

lemma call_acceptMessage {h : History} {e : Envelope} (hrefusal : h.session.messageRefusal e = none) :
    h.call (.acceptMessage e) =
      ⟨{ h.session with lastClientSequence := e.sequence }, h.events ++ [.heard e]⟩ := by
  simp only [History.call, ServerSession.acceptMessage, hrefusal, if_true]

/-- A hello, and messages in order. -/
def inOrder (n : ℕ) : List Call :=
  .acceptHello helloEnvelope theHello 7 1 ::
    (List.range n).map fun i => .acceptMessage (numbered (i + 1))

lemma history_inOrder (n : ℕ) : history thePolicy (inOrder n) =
    ⟨{ ServerSession.opened thePolicy with lastClientSequence := UInt64.ofNat n },
      .greeted helloEnvelope theHello 7 ::
        ((List.range n).map fun i => numbered (i + 1)).map .heard⟩ := by
  induction n with
  | zero => decide +kernel
  | succ n ih =>
    have hcalls : inOrder (n + 1) = inOrder n ++ [.acceptMessage (numbered (n + 1))] := by
      simp [inOrder, List.range_succ]
    rw [hcalls, history, List.foldl_append, ← history, ih, List.foldl_cons, List.foldl_nil,
      call_acceptMessage (messageRefusal_numbered rfl rfl rfl), List.range_succ]
    simp only [List.map_append, List.map_cons, List.map_nil, List.cons_append]
    rfl

lemma numbered_round : numbered (2 ^ 64 + 1) = numbered 1 := by
  unfold numbered
  have hround : UInt64.ofNat (2 ^ 64 + 1) = UInt64.ofNat 1 := by decide
  rw [hround]

/-- **A disconnect that comes before the hello does not keep messages out, and after `2 ^ 64`
messages the first one is taken again.** -/
theorem session_events_beyond :
    (history thePolicy (.disconnect :: inOrder 1)).events =
      [.ended, .greeted helloEnvelope theHello 7, .heard (numbered 1)] ∧
    ∃ (calls : List Call) (ms : List Envelope), (history thePolicy calls).events =
        .greeted helloEnvelope theHello 7 :: ms.map .heard ∧ ¬ ms.Nodup := by
  refine ⟨by decide +kernel, inOrder (2 ^ 64 + 1),
    (List.range (2 ^ 64 + 1)).map fun i => numbered (i + 1), ?_, ?_⟩
  · rw [history_inOrder]
  · intro hnodup
    have hfirst : 0 = 2 ^ 64 := by
      apply List.inj_on_of_nodup_map hnodup
      · exact List.mem_range.mpr (by omega)
      · exact List.mem_range.mpr (by omega)
      · exact numbered_round.symm
    omega

end Sample

end CcsTrans.GuiIpc
