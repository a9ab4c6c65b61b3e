import CcsTrans.GuiIpc.ClientSends
import CcsTrans.GuiIpc.MessageRoundTrip

/-!
What the window sends is what the tray gets.

The window puts its messages into frames and the frames into a pipe, from which the tray reads in
pieces of its own. In every run of the window the tray decodes just the messages that the socket
has taken, and the commands in them are those that the window was asked to send.
-/

namespace CcsTrans.GuiIpc

open CcsTrans.Text CcsTrans.Json CcsTrans.Fallible
open CcsTrans.Gui (MessageKind ClientStateTracker)

section Pipe

variable [Library]

/-! ### Frames -/

/-- The text of an envelope always makes a frame. -/
lemma encodeFrame_envelope {e : Envelope} {content : Bytes} (h : serializeEnvelope e = .ok content) :
    encodeFrame content = .ok (header content.length.toUInt32 ++ content) := by
  obtain ⟨ms, -, -, hwritten⟩ := serializeEnvelope_ok h
  obtain ⟨hdump, hlength⟩ := dump_of_serializeWith hwritten
  have hne : content ≠ [] := List.length_pos_iff.mp (length_pos_of_dumpAt hdump)
  have hmax : content.length ≤ 2 ^ 32 - 1 := hlength.trans (by decide)
  have hutf8 : validUtf8 content = true := validUtf8_of_json (validUtf8_dumpAt hdump)
  rw [encodeFrame, if_neg hne, if_neg (not_or.mpr ⟨not_lt.mpr hlength, not_lt.mpr hmax⟩), hutf8]
  rfl

lemma frame_ok_iff {e : Envelope} {encoded : Bytes} : GuiIpcClient.frame e = .ok encoded ↔
    ∃ content, serializeEnvelope e = .ok content ∧ encodeFrame content = .ok encoded := by
  unfold GuiIpcClient.frame
  cases hcontent : serializeEnvelope e with
  | error error => simp
  | ok content =>
    simp [encodeFrame_envelope hcontent]

/-- Messages that were put into frames: their texts, and what the tray reads in each. -/
lemma texts_of_frames {es : List Envelope} {frames : List Bytes} (hes : ∀ e ∈ es, Written e)
    (h : es.mapM GuiIpcClient.frame = .ok frames) :
    ∃ contents : List Bytes, contents.mapM encodeFrame = .ok frames ∧ contents.mapM parseEnvelope = .ok es := by
  induction es generalizing frames with
  | nil =>
    cases h
    exact ⟨[], rfl, rfl⟩
  | cons e es ih =>
    obtain ⟨he, hes⟩ := List.forall_mem_cons.mp hes
    obtain ⟨frame, frames, hframe, hframes, rfl⟩ := mapM_cons_eq_ok.mp h
    obtain ⟨content, hcontent, hencode⟩ := frame_ok_iff.mp hframe
    obtain ⟨contents, hcontents, hparse⟩ := ih hes hframes
    exact ⟨content :: contents, mapM_cons_eq_ok.mpr ⟨_, _, hencode, hcontents, rfl⟩,
      mapM_cons_eq_ok.mpr ⟨_, _, parseEnvelope_written he hcontent, hparse, rfl⟩⟩

/-- The reader of the pipe gets the messages, whatever pieces the pipe delivers. -/
def Delivers (es : List Envelope) (frames : List Bytes) : Prop :=
  ∀ chunks : List Bytes, chunks.flatten = frames.flatten →
    (decodeChunks chunks).error = none ∧ (decodeChunks chunks).decoder.finish = none ∧
      (decodeChunks chunks).frames.mapM parseEnvelope = .ok es

lemma delivers_frames {es : List Envelope} {frames : List Bytes} (hes : ∀ e ∈ es, Written e)
    (h : es.mapM GuiIpcClient.frame = .ok frames) : Delivers es frames := by
  obtain ⟨contents, hencode, hparse⟩ := texts_of_frames hes h
  intro chunks hcut
  have hdecoded := consumed_decodeChunks chunks
  have hscan : frameScanner.scan (({} : FrameDecoder).pending ++ chunks.flatten) = ⟨contents, none, []⟩ := by
    rw [hcut]
    exact scan_frames hencode
  have herror : (decodeChunks chunks).error = none := by rw [hdecoded.error, hscan]
  refine ⟨herror, ?_, ?_⟩
  · rw [FrameDecoder.finish_eq_none (hdecoded.sound herror), hdecoded.pending herror, hscan]
  · rw [hdecoded.frames, hscan, List.nil_append, hparse]

/-! ### Runs of the window -/

/-- What one step of the window adds to the commands that went out. -/
def issuedBy (c : GuiIpcClient) : Sending → List Command
  | .command command taken => if (c.sendCommand command taken).1 = none then [c.expecting command] else []
  | _ => []

/-- The commands that went out in a run, as they were sent. -/
def issued (c : GuiIpcClient) : List Sending → List Command
  | [] => []
  | a :: rest => issuedBy c a ++ issued (c.step a) rest

/-- The commands in messages, as the tray reads them. -/
def commandsOf (es : List Envelope) : Except Bytes (List Command) :=
  (es.filter (·.kind = .command)).mapM fun e => parseCommand e.payloadJson

/-- What was sent has frames, payloads of the program, and the commands that were issued. -/
structure Carries (c : GuiIpcClient) (commands : List Command) : Prop where
  frames : ∃ frames, c.sent.mapM GuiIpcClient.frame = .ok frames
  written : ∀ e ∈ c.sent, Written e
  commands : commandsOf c.sent = .ok commands

variable {c : GuiIpcClient} {commands : List Command} {e : Envelope} {taken : Bool}

/-- What `sendEnvelope` does: it fails and nothing was sent, or the message is the last one sent. -/
lemma sendEnvelope_cases (c : GuiIpcClient) (taken : Bool) (hkind : e.kind ≠ .hello) :
    ((c.sendEnvelope e taken).1 ≠ none ∧ (c.sendEnvelope e taken).2.sent = c.sent) ∨
    ((c.sendEnvelope e taken).1 = none ∧ (∃ encoded, GuiIpcClient.frame (c.stamp e) = .ok encoded) ∧
      (c.sendEnvelope e taken).2.sent = c.sent ++ [c.stamp e]) := by
  have hdraw : (c.draw e).sent = c.sent := by
    unfold GuiIpcClient.draw
    split_ifs <;> rfl
  unfold GuiIpcClient.sendEnvelope
  by_cases hconnected : (!c.connected) = true
  · rw [if_pos hconnected]
    exact .inl ⟨nofun, rfl⟩
  rw [if_neg hconnected]
  cases hframe : GuiIpcClient.frame (c.stamp e) with
  | error error => exact .inl ⟨nofun, hdraw⟩
  | ok encoded =>
    dsimp only
    split_ifs
    · exact .inl ⟨nofun, hdraw⟩
    · exact .inl ⟨nofun, hdraw⟩
    · exact .inr ⟨rfl, ⟨encoded, rfl⟩, rfl⟩

omit [Library] in
lemma stamp_kind (c : GuiIpcClient) (e : Envelope) : (c.stamp e).kind = e.kind := by
  unfold GuiIpcClient.stamp
  split_ifs <;> rfl

omit [Library] in
lemma stamp_payloadJson (c : GuiIpcClient) (e : Envelope) : (c.stamp e).payloadJson = e.payloadJson := by
  unfold GuiIpcClient.stamp
  split_ifs <;> rfl

/-- One more message is carried. -/
lemma Carries.append (h : Carries c commands) {d : GuiIpcClient} {more : List Command}
    (hsent : d.sent = c.sent ++ [e]) (hframe : ∃ encoded, GuiIpcClient.frame e = .ok encoded)
    (hwritten : Written e) (hcommands : commandsOf [e] = .ok more) : Carries d (commands ++ more) := by
  obtain ⟨frames, hframes⟩ := h.frames
  obtain ⟨encoded, hencoded⟩ := hframe
  refine ⟨⟨frames ++ [encoded], ?_⟩, ?_, ?_⟩
  · rw [hsent]
    exact mapM_append_one hframes hencoded
  · rw [hsent]
    exact List.forall_mem_append.mpr ⟨h.written, by simpa using hwritten⟩
  · have hbefore := h.commands
    unfold commandsOf at hcommands hbefore ⊢
    rw [hsent, List.filter_append]
    by_cases hkind : e.kind = .command
    · simp only [List.filter_cons, hkind, decide_true, if_true, List.filter_nil] at hcommands ⊢
      obtain ⟨command, rest, hcommand, hrest, rfl⟩ := mapM_cons_eq_ok.mp hcommands
      cases hrest
      exact mapM_append_one hbefore hcommand
    · simp only [List.filter_cons, hkind, decide_false, Bool.false_eq_true, if_false, List.filter_nil,
        List.append_nil] at hcommands ⊢
      cases hcommands
      simpa using hbefore

lemma Carries.same (h : Carries c commands) {d : GuiIpcClient} (hsent : d.sent = c.sent) :
    Carries d commands :=
  ⟨by rw [hsent]; exact h.frames, by rw [hsent]; exact h.written, by rw [hsent]; exact h.commands⟩

lemma written_braces {e : Envelope} (h : e.payloadJson = str "\x7b\x7d") : Written e :=
  ⟨.obj [], by simp, by rw [h]; rfl⟩

/-- A message of the window goes out with what is in it, or does not go out. -/
lemma Carries.sendEnvelope (h : Carries c commands) (taken : Bool) (hkind : e.kind ≠ .hello)
    (hwritten : Written e) {more : List Command} (hcommands : commandsOf [e] = .ok more) :
    Carries (c.sendEnvelope e taken).2
      (commands ++ if (c.sendEnvelope e taken).1 = none then more else []) := by
  rcases sendEnvelope_cases c taken hkind with ⟨hfailed, hsent⟩ | ⟨hnone, hframe, hsent⟩
  · rw [if_neg hfailed, List.append_nil]
    exact h.same hsent
  · rw [if_pos hnone]
    refine h.append hsent hframe ?_ ?_
    · obtain ⟨root, hroot, hpayload⟩ := hwritten
      exact ⟨root, hroot, by rw [stamp_payloadJson]; exact hpayload⟩
    · simp only [commandsOf, List.filter_cons, stamp_kind, List.filter_nil] at hcommands ⊢
      split_ifs at hcommands ⊢
      · simp only [List.mapM_cons, stamp_payloadJson] at hcommands ⊢
        exact hcommands
      · exact hcommands

/-- A command that has no text, or comes too early, is not sent. -/
lemma sendCommand_cases (command : Command) (taken : Bool) :
    ((c.sendCommand command taken).1 ≠ none ∧ (c.sendCommand command taken).2.sent = c.sent) ∨
    ∃ payload, serializeCommand (c.expecting command) = .ok payload ∧ c.sendCommand command taken =
      c.drawRequestId.sendEnvelope { c.commandEnvelope with payloadJson := payload } taken := by
  unfold GuiIpcClient.sendCommand
  by_cases hready : (!c.ready) = true
  · rw [if_pos hready]
    exact .inl ⟨nofun, rfl⟩
  rw [if_neg hready]
  cases serializeCommand (c.expecting command) with
  | error error => exact .inl ⟨nofun, rfl⟩
  | ok payload => exact .inr ⟨payload, rfl, rfl⟩

lemma carries_step (h : Carries c commands) (a : Sending) : Carries (c.step a) (commands ++ issuedBy c a) := by
  cases a with
  | command command taken =>
    simp only [GuiIpcClient.step, issuedBy]
    rcases sendCommand_cases (c := c) command taken with ⟨hfailed, hsent⟩ | ⟨payload, hpayload, hsend⟩
    · rw [if_neg hfailed, List.append_nil]
      exact h.same hsent
    · rw [hsend]
      have hwritten : Written { c.commandEnvelope with payloadJson := payload } :=
        ⟨commandJson (c.expecting command), document_commandJson _, hpayload⟩
      have hparse : parseCommand payload = .ok (c.expecting command) :=
        parsePayload_serializeWith (document_commandJson _) (parseCommandJson_canon _ _) hpayload
      have hkind : { c.commandEnvelope with payloadJson := payload }.kind ≠ MessageKind.hello :=
        fun heq => by cases heq
      exact (h.same (d := c.drawRequestId) rfl).sendEnvelope taken hkind hwritten
        (mapM_cons_eq_ok.mpr ⟨_, [], hparse, rfl, rfl⟩)
  | snapshotRequest taken =>
    have hsent := (h.same (d := c.drawRequestId) rfl).sendEnvelope taken
      (e := { kind := .snapshotRequest, requestId := str "snapshot-" ++ decimal c.nextRequestId.toNat })
      (fun heq => by cases heq) (written_braces rfl) (show commandsOf _ = .ok [] from rfl)
    simpa [issuedBy, GuiIpcClient.step, GuiIpcClient.sendSnapshotRequest] using hsent
  | receive tracker ready => simpa [issuedBy] using h.same (d := c.step (.receive tracker ready)) rfl
  | written bytes => simpa [issuedBy] using h.same (d := c.step (.written bytes)) rfl
  | disconnected => simpa [issuedBy] using h.same (d := c.step .disconnected) rfl

lemma carries_run (h : Carries c commands) (steps : List Sending) :
    Carries (steps.foldl GuiIpcClient.step c) (commands ++ issued c steps) := by
  induction steps generalizing c commands with
  | nil => simpa [issued] using h
  | cons a rest ih =>
    rw [issued, ← List.append_assoc]
    exact ih (carries_step h a)

/-- **The tray gets what the window has sent.** Whatever happens at the window after the hello, the
bytes in the pipe are decoded to the messages that the socket has taken, in whatever pieces they
come, and the commands in them are those that the window has issued, in their order. As long as no
number is drawn in vain the session accepts each of the messages. -/
theorem window_delivers {bootstrap : LaunchBootstrap} {policy : ServerSessionPolicy}
    {processId actualProcessId stateRevision : UInt64} {s : ServerSession}
    (hshake : handshake bootstrap policy processId actualProcessId stateRevision = some (c, s))
    (steps : List Sending) :
    ∃ frames, (steps.foldl GuiIpcClient.step c).sent.mapM GuiIpcClient.frame = .ok frames ∧
      Delivers (steps.foldl GuiIpcClient.step c).sent frames ∧
      commandsOf (steps.foldl GuiIpcClient.step c).sent = .ok (issued c steps) ∧
      (Runs.Along GuiIpcClient.step GuiIpcClient.Spares c steps →
        s.AcceptsAll (steps.foldl GuiIpcClient.step c).sent) := by
  have hagree := agree_handshake hshake
  have hsent : c.sent = [] := by
    unfold handshake at hshake
    dsimp only at hshake
    split_ifs at hshake with hboth
    obtain ⟨-, -, hclient⟩ := handleHelloResult_eq_none hboth.2
    cases hshake
    rw [hclient]
  have hnothing : Carries c [] :=
    ⟨⟨[], by rw [hsent]; rfl⟩, by simp [hsent], by rw [hsent]; rfl⟩
  have hcarries := carries_run hnothing steps
  obtain ⟨frames, hframes⟩ := hcarries.frames
  exact ⟨frames, hframes, delivers_frames hcarries.written hframes, hcarries.commands,
    fun hspares => (hspares.keeps (fun _ a => agree_step a) hagree).accepts⟩

end Pipe

section Window

attribute [local instance] bitLibrary

/-- A window that has got a state and asks for another one. -/
theorem window_delivers_request : ∃ frames,
    ([firstSnapshot, .snapshotRequest true].foldl GuiIpcClient.step greetedClient).sent.mapM
      GuiIpcClient.frame = .ok frames ∧
    Delivers ([firstSnapshot, .snapshotRequest true].foldl GuiIpcClient.step greetedClient).sent frames ∧
    (ServerSession.opened thePolicy).AcceptsAll
      ([firstSnapshot, .snapshotRequest true].foldl GuiIpcClient.step greetedClient).sent := by
  obtain ⟨frames, hframes, hdelivers, -, haccepts⟩ :=
    window_delivers handshake_theBootstrap [firstSnapshot, .snapshotRequest true]
  exact ⟨frames, hframes, hdelivers, haccepts along_request⟩

end Window

end CcsTrans.GuiIpc
