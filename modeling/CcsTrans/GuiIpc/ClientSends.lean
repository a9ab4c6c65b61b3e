import CcsTrans.GuiIpc.Client
import CcsTrans.Json.Length

/-!
What the tray makes of the messages of the window.

A message gets its number before it is known whether it goes out. The tray takes the messages
only without a gap, so the window must not draw a number in vain.
-/

namespace CcsTrans.GuiIpc

open CcsTrans.Text CcsTrans.Json
open CcsTrans.Gui (MessageKind ResultCode ErrorCode ClientStateTracker)

/-! ### After the hello -/

lemma acceptHello_accepted {s : ServerSession} {e : Envelope} {hello : Hello}
    {actualProcessId stateRevision : UInt64}
    (h : (s.acceptHello e hello actualProcessId stateRevision).1.accepted = true) :
    Greets s.policy e hello actualProcessId ∧
      (s.acceptHello e hello actualProcessId stateRevision).2.2 = .opened s.policy := by
  unfold ServerSession.acceptHello at h ⊢
  cases hrefusal : s.helloRefusal e hello actualProcessId with
  | some refusal =>
    rw [hrefusal] at h
    exact nomatch h
  | none => exact ⟨(greets_of_helloRefusal hrefusal).2.2, rfl⟩

lemma handleHelloResult_eq_none {c : GuiIpcClient} {e : Envelope} {result : HelloResult}
    (h : (c.handleHelloResult e result).1 = none) :
    e.sourceCommit = c.bootstrap.sourceCommit ∧ e.sessionId = c.bootstrap.sessionId ∧
      (c.handleHelloResult e result).2 =
        { c with
          authenticated := true
          bootstrap := { c.bootstrap with handshakeToken := [] }
          nextServerSequence := 1 } := by
  unfold GuiIpcClient.handleHelloResult at h ⊢
  split_ifs at h ⊢ with hresponse hresult
  simp only [ne_eq, not_or, not_not] at hresponse
  exact ⟨hresponse.2.2.2.1, hresponse.2.2.2.2, rfl⟩

lemma agree_handshake {bootstrap : LaunchBootstrap} {policy : ServerSessionPolicy}
    {processId actualProcessId stateRevision : UInt64} {c : GuiIpcClient} {s : ServerSession}
    (h : handshake bootstrap policy processId actualProcessId stateRevision = some (c, s)) :
    Agree s c := by
  unfold handshake at h
  dsimp only at h
  split_ifs at h with hboth
  obtain ⟨-, hopened⟩ := acceptHello_accepted hboth.1
  obtain ⟨hcommit, hsession, hclient⟩ := handleHelloResult_eq_none hboth.2
  cases h
  rw [hopened, hclient]
  exact ⟨ServerSession.acceptsAll_nil _, rfl, hcommit, hsession, rfl⟩

/-- **Every message that the window has sent is accepted**, as long as no number was drawn for a
message that did not go out. -/
theorem sent_accepted [Library] {bootstrap : LaunchBootstrap} {policy : ServerSessionPolicy}
    {processId actualProcessId stateRevision : UInt64} {c : GuiIpcClient} {s : ServerSession}
    (hshake : handshake bootstrap policy processId actualProcessId stateRevision = some (c, s))
    (steps : List Sending)
    (hspares : Runs.Along GuiIpcClient.step GuiIpcClient.Spares c steps) :
    s.AcceptsAll (steps.foldl GuiIpcClient.step c).sent :=
  (hspares.keeps (fun _ a => agree_step a) (agree_handshake hshake)).accepts

/-! ### A send that fails -/

/-- The bootstrap of a window. -/
def theBootstrap : LaunchBootstrap where
  pipeNameUtf8 := str "pipe"
  version := str "1.0.0"
  sourceCommit := str "abc"
  instanceIdentity := str "tray"
  handshakeToken := str "token"
  sessionId := str "session"

/-- The window after its hello. -/
def greetedClient : GuiIpcClient where
  bootstrap := { theBootstrap with handshakeToken := [] }
  authenticated := true
  connected := true

lemma handshake_theBootstrap :
    handshake theBootstrap thePolicy 7 7 1 = some (greetedClient, .opened thePolicy) := by
  decide

/-- A snapshot from the tray has made the window ready. -/
def firstSnapshot : Sending :=
  .receive ⟨some { revision := 1 }, true, false⟩ true

attribute [local instance] bitLibrary

/-- The window, once it is ready. -/
def readyClient : GuiIpcClient :=
  { greetedClient with
    tracker := ⟨some { revision := 1 }, true, false⟩
    ready := true }

lemma step_firstSnapshot : greetedClient.step firstSnapshot = readyClient := rfl

/-- A request goes out through an empty queue, when its frame is small. -/
lemma spares_snapshotRequest {c : GuiIpcClient} (hqueue : c.bytesToWrite = 0)
    (hframe : (GuiIpcClient.frame (c.drawRequestId.stamp
      { kind := .snapshotRequest,
        requestId := str "snapshot-" ++ decimal c.nextRequestId.toNat })).toOption.any
          (fun encoded => encoded.length ≤ 1024) = true) :
    c.Spares (.snapshotRequest true) := by
  intro _
  cases h : GuiIpcClient.frame (c.drawRequestId.stamp
      { kind := .snapshotRequest,
        requestId := str "snapshot-" ++ decimal c.nextRequestId.toNat }) with
  | error e =>
    rw [h] at hframe
    exact nomatch hframe
  | ok encoded =>
    rw [h] at hframe
    have hlength : encoded.length ≤ 1024 := of_decide_eq_true hframe
    refine ⟨rfl, encoded, rfl, ?_⟩
    change c.bytesToWrite + encoded.length ≤ kMaximumQueuedClientBytes
    rw [hqueue, kMaximumQueuedClientBytes]
    omega

lemma along_request : Runs.Along GuiIpcClient.step GuiIpcClient.Spares greetedClient
    [firstSnapshot, .snapshotRequest true] := by
  rw [Runs.Along, step_firstSnapshot, Runs.Along, Runs.Along, and_true]
  constructor
  · exact trivial
  · exact spares_snapshotRequest rfl (by decide +kernel)

theorem sent_accepted_request :
    handshake theBootstrap thePolicy 7 7 1 = some (greetedClient, .opened thePolicy) ∧
    (ServerSession.opened thePolicy).AcceptsAll
      ([firstSnapshot, .snapshotRequest true].foldl GuiIpcClient.step greetedClient).sent :=
  ⟨handshake_theBootstrap,
    sent_accepted handshake_theBootstrap [firstSnapshot, .snapshotRequest true] along_request⟩

/-! ### A command that is too long for the queue -/

lemma utf8Run_replicate (n : ℕ) : utf8Run .start (List.replicate n 97) = some .start := by
  induction n with
  | zero => rfl
  | succ n ih =>
    rw [List.replicate_succ, utf8Run]
    exact ih

lemma serializeWith_ok {root : Value} {content : Bytes} (h : serializeWith root = .ok content) :
    dump root = some content := by
  unfold serializeWith at h
  split at h
  · exact nomatch h
  · split_ifs at h
    cases h
    assumption

lemma parseJson_dump {root v : Value} (hroot : Document root) {content : Bytes}
    (hdump : dump root = some content) (h : parseJson content = .ok v) : v = canon root := by
  have htree := parseTree_dumpAt (c := false) hdump ends_nil rfl
  rw [List.append_nil] at htree
  unfold parseJson at h
  split_ifs at h
  rw [htree] at h
  simp only [duplicateKey_proper (proper_canon hroot), toDom_proper (proper_canon hroot)] at h
  cases h
  rfl

lemma payload_mem_envelopeJson (e : Envelope) (payload : Value) :
    ∃ ms, envelopeJson e payload = .obj ms ∧ (str "payload", payload) ∈ ms :=
  ⟨_, rfl, by simp⟩

/-- A payload is no longer than the text of the envelope around it. -/
lemma length_payload_le {root : Value} (hroot : Document root) {e : Envelope} {content : Bytes}
    (hpayload : serializeWith root = .ok e.payloadJson) (h : serializeEnvelope e = .ok content) :
    e.payloadJson.length ≤ content.length := by
  have hdump := serializeWith_ok hpayload
  unfold serializeEnvelope at h
  split at h
  · exact nomatch h
  split at h
  · exact nomatch h
  · rename_i ms hparse
    obtain ⟨members, henvelope, hmember⟩ := payload_mem_envelopeJson e (.obj ms)
    have hwritten := serializeWith_ok h
    rw [dump, henvelope] at hwritten
    obtain ⟨w, hw, hle⟩ := length_le_dumpAt_obj hwritten hmember
    have hcanon := parseJson_dump hroot hdump hparse
    rw [hcanon, dumpAt_canon] at hw
    rw [dump] at hdump
    rw [Option.getD_none, Nat.add_zero, hdump] at hw
    cases hw
    exact hle
  · exact nomatch h

/-- A new text for the rules of a profile. -/
def newText (n : ℕ) : Command where
  command := .replaceRulesText
  profileKey := some 1
  text := List.replicate n 97

/-- The command as the window sends it. -/
def sentText (n : ℕ) : Command := { newText n with expectedDraftRevision := some 0 }

lemma expecting_newText (n : ℕ) : readyClient.expecting (newText n) = sentText n := rfl

lemma writable_sentText (n : ℕ) : Writable (commandJson (sentText n)) := by
  have htext : Writable (.str (sentText n).text) := decide_eq_true (utf8Run_replicate n)
  have hcommand : Writable (.str (guiCommandName .replaceRulesText)) := by
    change Json.validUtf8 _ = true
    decide
  have hempty : Writable (.str []) := rfl
  have hedits : Writable (.arr []) := by simp
  refine proper_of_names [str "command", str "enabled", str "expected_base_revision",
    str "expected_draft_revision", str "field_edits", str "position", str "profile_id",
    str "profile_key", str "replace_existing_storage", str "replacement_confirmation",
    str "replacement_profile_id", str "text", str "unsaved_decision"] rfl (by decide)
    (by decide) ?_
  simp only [List.forall_mem_cons, List.not_mem_nil, IsEmpty.forall_iff, implies_true, and_true]
  exact ⟨hcommand, trivial, trivial, trivial, hedits, trivial, hempty, trivial, trivial, hempty,
    hempty, htext, trivial⟩

lemma widthAt_sentText (n : ℕ) : widthAt 0 0 (commandJson (sentText n)) ≤ 6 * n + 2000 := by
  simp [commandJson, widthAt, widthMembers, widthItems, nullable, sentText, newText, str,
    guiCommandName]
  omega

/-- The command has a payload, which is no shorter than the text. -/
lemma serializeCommand_sentText {n : ℕ} (hn : 6 * n + 2000 ≤ kMaximumFrameBytes) :
    ∃ payload, serializeCommand (sentText n) = .ok payload ∧ n ≤ payload.length := by
  obtain ⟨payload, hdump⟩ := dumpAt_writable (writable_sentText n) none 0
  have hfits := (length_dump_le hdump).trans (widthAt_sentText n)
  have hmember := hdump
  rw [commandJson] at hmember
  obtain ⟨w, hw, hlower⟩ := length_le_dumpAt_obj (m := (str "text", .str (sentText n).text)) hmember
    (by simp)
  have hlength := length_le_dumpString hw
  have hsize : (sentText n).text.length = n := List.length_replicate
  refine ⟨payload, ?_, by omega⟩
  rw [serializeCommand, serializeWith, dump, hdump]
  exact if_neg (by omega)

/-- The frame of a message is longer than its payload. -/
lemma length_payload_lt_frame {root : Value} (hroot : Document root) {e : Envelope}
    {encoded : Bytes} (hpayload : serializeWith root = .ok e.payloadJson)
    (h : GuiIpcClient.frame e = .ok encoded) : e.payloadJson.length < encoded.length := by
  unfold GuiIpcClient.frame at h
  split at h
  · exact nomatch h
  · rename_i content hcontent
    have hle := length_payload_le hroot hpayload hcontent
    unfold encodeFrame at h
    split_ifs at h
    all_goals simp at h
    rw [← h, List.length_append]
    simp only [header, List.length_cons, List.length_nil]
    omega

/-- The window after the command, which did not go out. -/
def skippedClient : GuiIpcClient :=
  { readyClient with nextRequestId := 2, nextClientSequence := 2 }

lemma sendCommand_payload {c : GuiIpcClient} {command : Command} {payload : Bytes}
    (hready : c.ready = true) (h : serializeCommand (c.expecting command) = .ok payload)
    (taken : Bool) :
    c.sendCommand command taken = c.drawRequestId.sendEnvelope
      { c.commandEnvelope with payloadJson := payload } taken := by
  simp [GuiIpcClient.sendCommand, hready, h]

lemma step_newText {n : ℕ} (hlong : kMaximumQueuedClientBytes ≤ n)
    (hn : 6 * n + 2000 ≤ kMaximumFrameBytes) :
    readyClient.step (.command (newText n) true) = skippedClient := by
  obtain ⟨payload, hpayload, hlength⟩ := serializeCommand_sentText hn
  have hdraw : readyClient.drawRequestId.draw { readyClient.commandEnvelope with payloadJson := payload } =
      skippedClient := rfl
  have hstamp : (readyClient.drawRequestId.stamp
      { readyClient.commandEnvelope with payloadJson := payload }).payloadJson = payload := rfl
  rw [GuiIpcClient.step, sendCommand_payload rfl (expecting_newText n ▸ hpayload)]
  unfold GuiIpcClient.sendEnvelope
  rw [if_neg (by decide)]
  split
  · exact hdraw
  · rename_i encoded hframe
    have hdocument := (writable_sentText n).mono fun _ _ => trivial
    have hlt := length_payload_lt_frame hdocument (by rw [hstamp]; exact hpayload) hframe
    rw [hstamp] at hlt
    rw [if_pos (by omega)]
    exact hdraw

lemma sent_sendEnvelope {c : GuiIpcClient} {e : Envelope} {taken : Bool} (hkind : e.kind ≠ .hello)
    (hconnected : c.connected = true) (hgoes : c.Goes e taken) :
    (c.sendEnvelope e taken).2.sent = c.sent ++ [c.stamp e] := by
  obtain ⟨rfl, encoded, hframe, hroom⟩ := hgoes hconnected
  unfold GuiIpcClient.sendEnvelope
  simp [hconnected, hframe, not_lt.mpr hroom, hkind]

lemma sent_snapshotRequest {c : GuiIpcClient} (hconnected : c.connected = true)
    (hspares : c.Spares (.snapshotRequest true)) :
    (c.step (.snapshotRequest true)).sent = c.sent ++ [c.drawRequestId.stamp
      { kind := .snapshotRequest,
        requestId := str "snapshot-" ++ decimal c.nextRequestId.toNat }] :=
  sent_sendEnvelope nofun hconnected hspares

/-- The request that goes out after the command. -/
def lateRequest : Envelope :=
  skippedClient.drawRequestId.stamp
    { kind := .snapshotRequest,
      requestId := str "snapshot-" ++ decimal skippedClient.nextRequestId.toNat }

/-- A command fails in the window because its frame is longer than the queue may be, and the tray
refuses the request that goes out after it. -/
theorem sent_accepted_fails :
    handshake theBootstrap thePolicy 7 7 1 = some (greetedClient, .opened thePolicy) ∧
    ¬ (ServerSession.opened thePolicy).AcceptsAll
      ([firstSnapshot, .command (newText (2 ^ 20)) true, .snapshotRequest true].foldl
        GuiIpcClient.step greetedClient).sent := by
  refine ⟨handshake_theBootstrap, fun h => ?_⟩
  have hspares : skippedClient.Spares (.snapshotRequest true) :=
    spares_snapshotRequest rfl (by decide +kernel)
  have hskipped := step_newText (n := 2 ^ 20) (by decide) (by decide)
  have hsent : ([firstSnapshot, .command (newText (2 ^ 20)) true, .snapshotRequest true].foldl
      GuiIpcClient.step greetedClient).sent = [lateRequest] := by
    rw [List.foldl_cons, step_firstSnapshot, List.foldl_cons, hskipped, List.foldl_cons,
      List.foldl_nil, sent_snapshotRequest rfl hspares]
    rfl
  have hrefused : ((ServerSession.opened thePolicy).acceptMessage lateRequest).1.accepted = false := by
    decide
  rw [hsent] at h
  have haccepted : ((ServerSession.opened thePolicy).acceptMessage lateRequest).1.accepted = true :=
    h [] lateRequest [] rfl
  exact Bool.false_ne_true (hrefused.symm.trans haccepted)

end CcsTrans.GuiIpc
