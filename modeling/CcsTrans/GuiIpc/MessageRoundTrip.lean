import CcsTrans.GuiIpc.FrameStream
import CcsTrans.GuiIpc.JsonMessages

/-!
Messages from one end of the pipe to the other.

An envelope that was written is read as it was, but for the text of its payload, which is the one
that the library gives the same document. For the payloads that the program writes this is the text
that they had. So whatever the window sends arrives as it was sent, however the pipe cuts it.
-/

namespace CcsTrans.GuiIpc

open CcsTrans.Text CcsTrans.Json CcsTrans.Fallible
open CcsTrans.Config (member checkObjectKeys_ok)
open CcsTrans.Gui

/-! ### Envelopes -/

/-- Where the members of an envelope are. -/
structure EnvelopeFound (e : Envelope) (payload : Value) (ms : Members) : Prop where
  protocol : find (str "protocol") ms = some (.str e.protocol)
  kind : find (str "kind") ms = some (.str (messageKindName e.kind))
  requestId : find (str "request_id") ms = some (.str e.requestId)
  sessionId : find (str "session_id") ms = some (.str e.sessionId)
  sequence : find (str "sequence") ms = some (.uint e.sequence)
  baseRevision : find (str "base_revision") ms = some (.str e.baseRevision)
  sourceCommit : find (str "source_commit") ms = some (.str e.sourceCommit)
  payload : find (str "payload") ms = some payload
  result : find (str "result") ms = e.result.map (.str ∘ resultCodeName)
  errorCode : find (str "error_code") ms = e.errorCode.map (.str ∘ errorCodeName)

lemma found_envelope (e : Envelope) (payload : Value) :
    EnvelopeFound e payload (members (envelopeJson e payload)) := by
  constructor <;> simp only [envelopeJson, members, find_append, find_optionalMember]
  case result => cases e.result <;> rfl
  case errorCode => cases e.errorCode <;> rfl
  all_goals rfl

/-- The names of an envelope that has everything, in their order. -/
def envelopeNames : List Bytes :=
  [str "base_revision", str "error_code", str "kind", str "payload", str "protocol", str "request_id",
    str "result", str "sequence", str "session_id", str "source_commit"]

lemma sublist_envelopeNames (e : Envelope) (payload : Value) :
    ((members (envelopeJson e payload)).map Prod.fst).Sublist envelopeNames := by
  simp only [envelopeJson, members, List.map_append]
  exact ((((List.Sublist.refl [str "base_revision"]).append (sublist_optionalMember _ _ _)).append
    (.refl [str "kind", str "payload", str "protocol", str "request_id"])).append
    (sublist_optionalMember _ _ _)).append (.refl [str "sequence", str "session_id", str "source_commit"])

lemma document_envelopeJson (e : Envelope) {payload : Value} (h : Document payload) :
    Document (envelopeJson e payload) := by
  refine document_obj _ rfl
    ((by decide : envelopeNames.Pairwise (· < ·)).sublist (sublist_envelopeNames e payload)) ?_
  simp only [List.forall_mem_append, and_assoc]
  exact ⟨by simp [document_str], document_optionalMember (fun _ => document_str _) _ _,
    by simp [document_str, h], document_optionalMember (fun _ => document_str _) _ _,
    by simp [document_str, document_uint]⟩

lemma checkKeys_envelope (e : Envelope) (payload : Value) (path : Bytes) :
    checkKeys (canon (envelopeJson e payload)) envelopeKeys envelopeRequired path =
      .ok (canonMembers (members (envelopeJson e payload))) := by
  have hfound := found_envelope e payload
  have hnames : ((canonMembers (members (envelopeJson e payload))).map Prod.fst) =
      (members (envelopeJson e payload)).map Prod.fst := by
    simp [canonMembers_eq]
  change checkKeys (.obj (canonMembers (members (envelopeJson e payload)))) _ _ _ = _
  refine checkObjectKeys_ok ?_ ?_
  · rw [hnames, List.all_eq_true]
    intro name hname
    have hall : ∀ name ∈ envelopeNames, envelopeKeys.contains name = true := by decide
    exact hall name ((sublist_envelopeNames e payload).subset hname)
  · have hmem {name : Bytes} {v : Value} (h : find name (members (envelopeJson e payload)) = some v) :
        ((members (envelopeJson e payload)).map Prod.fst).contains name = true :=
      List.contains_iff_mem.mpr (List.mem_map_of_mem (mem_of_find h))
    rw [hnames]
    simp only [envelopeRequired, List.all_cons, hmem hfound.protocol, hmem hfound.kind,
      hmem hfound.requestId, hmem hfound.sessionId, hmem hfound.sequence, hmem hfound.baseRevision,
      hmem hfound.sourceCommit, hmem hfound.payload, List.all_nil, Bool.and_self]

/-- The check of an envelope looks at its payload only to see that there is one. -/
lemma validateEnvelope_payload {e : Envelope} {payload : Bytes} (h : validateEnvelope e = none)
    (hpayload : payload ≠ []) : validateEnvelope { e with payloadJson := payload } = none := by
  unfold validateEnvelope at h ⊢
  dsimp only at h ⊢
  split_ifs at h ⊢ <;> rfl

/-- One step of a reader, for a member of a written object. -/
lemma then_member {ms : Members} {name : String} {v : Value} {α β : Type}
    {read : Value → Bytes → Except Bytes α} {path : Bytes} {a : α} {f : α → Except Bytes β}
    {r : Except Bytes β} (hfind : find (str name) ms = some v) (hread : read (canon v) path = .ok a)
    (hf : f a = r) : (read (member (canonMembers ms) name) path >>= f) = r := by
  rw [member_canonMembers hfind]
  exact then_ok hread hf

section Texts

variable [Library]

lemma parseEnvelopeJson_canon {e : Envelope} {ms : Members} {payload : Bytes} (hdump : dump (.obj ms) = some payload)
    (hvalid : validateEnvelope e = none) : parseEnvelopeJson (canon (envelopeJson e (.obj ms))) (str "$") =
      .ok { e with payloadJson := payload } := by
  have hfound := found_envelope e (.obj ms)
  have hpayload : (dump (.obj (canonMembers ms))).getD [] = payload := by
    rw [show Value.obj (canonMembers ms) = canon (.obj ms) from rfl, dump, dumpAt_canon, ← dump, hdump]
    rfl
  have hne : payload ≠ [] := List.length_pos_iff.mp (length_pos_of_dumpAt hdump)
  have hread : readObject (member (canonMembers (members (envelopeJson e (.obj ms)))) "payload")
      (str "$.payload must be a JSON object") = .ok (canonMembers ms) := by
    rw [member_canonMembers hfound.payload]
    rfl
  refine then_ok (checkKeys_envelope e _ _) <| then_member hfound.protocol rfl <|
    then_member hfound.kind (readName_name parseMessageKind_iff _ e.kind _) <|
    then_member hfound.requestId rfl <| then_member hfound.sessionId rfl <|
    then_member hfound.sequence (readUInt64_uint e.sequence _) <|
    then_member hfound.baseRevision rfl <| then_member hfound.sourceCommit rfl <|
    then_ok hread <|
    then_ok (readOptional_canon hfound.result fun c _ => readName_name parseResultCode_iff _ c _) <|
    then_ok (readOptional_canon hfound.errorCode fun c _ => readName_name parseErrorCode_iff _ c _) ?_
  dsimp only
  rw [hpayload, validateEnvelope_payload hvalid hne]

lemma serializeEnvelope_ok {e : Envelope} {content : Bytes} (h : serializeEnvelope e = .ok content) :
    ∃ ms, validateEnvelope e = none ∧ parseJson e.payloadJson = .ok (.obj ms) ∧
      serializeWith (envelopeJson e (.obj ms)) = .ok content := by
  unfold serializeEnvelope at h
  split at h
  · cases h
  next hvalid =>
  split at h
  · cases h
  · next ms hparse => exact ⟨ms, hvalid, hparse, h⟩
  · cases h

/-- What was read is a document, and it has a text. -/
lemma parseJson_writable {content : Bytes} {v : Value} (h : parseJson content = .ok v) : Writable v := by
  unfold parseJson at h
  split_ifs at h
  split at h
  · cases h
  next tree htree =>
  split at h
  · cases h
  · cases h
    exact parseTree_writable htree

omit [Library] in
lemma document_of_writable {v : Value} (h : Writable v) : Document v := h.mono fun _ _ => trivial

/-- The payload of an envelope has a text of its own, which is a part of that of the envelope. -/
lemma payload_text {e : Envelope} {ms : Members} {content : Bytes} (hms : Document (.obj ms))
    (h : serializeWith (envelopeJson e (.obj ms)) = .ok content) :
    ∃ payload, dump (.obj ms) = some payload ∧ serializeWith (.obj ms) = .ok payload ∧
      parseJson payload = .ok (canon (.obj ms)) := by
  obtain ⟨hdump, hlength⟩ := dump_of_serializeWith h
  have hmem : (str "payload", Value.obj ms) ∈ members (envelopeJson e (.obj ms)) :=
    mem_of_find (found_envelope e (.obj ms)).payload
  obtain ⟨payload, hpayload, hle⟩ := length_le_dumpAt_obj hdump hmem
  have hserialize : serializeWith (.obj ms) = .ok payload := by
    rw [serializeWith, show dump (.obj ms) = some payload from hpayload]
    exact if_neg (not_lt.mpr (hle.trans hlength))
  exact ⟨payload, hpayload, hserialize, parseJson_serializeWith hms hserialize⟩

/-- The text of an envelope does not depend on how its payload was written. -/
lemma serializeWith_canon_payload {e : Envelope} {payload : Value} {content : Bytes}
    (h : serializeWith (envelopeJson e payload) = .ok content) :
    serializeWith (envelopeJson e (canon payload)) = .ok content := by
  obtain ⟨hdump, hlength⟩ := dump_of_serializeWith h
  have hcanon : canon (envelopeJson e (canon payload)) = canon (envelopeJson e payload) := by
    simp [envelopeJson, canon, canonMembers_eq, canon_canon]
  have hsame : dump (envelopeJson e (canon payload)) = some content := by
    rw [dump, ← dumpAt_canon, hcanon, dumpAt_canon, ← dump, hdump]
  rw [serializeWith, hsame]
  exact if_neg (not_lt.mpr hlength)

/-- **An envelope that was written is read as it was**, with its payload in the words of the library;
written again it has the text that it had. -/
theorem envelope_read_back {e : Envelope} {content : Bytes} (h : serializeEnvelope e = .ok content) :
    ∃ payload, parseEnvelope content = .ok { e with payloadJson := payload } ∧
      serializeEnvelope { e with payloadJson := payload } = .ok content ∧
      parseJson payload = canon <$> parseJson e.payloadJson := by
  obtain ⟨ms, hvalid, hparse, hwritten⟩ := serializeEnvelope_ok h
  have hms := document_of_writable (parseJson_writable hparse)
  obtain ⟨payload, hdump, -, hagain⟩ := payload_text hms hwritten
  have hne : payload ≠ [] := List.length_pos_iff.mp (length_pos_of_dumpAt hdump)
  refine ⟨payload, ?_, ?_, ?_⟩
  · exact parsePayload_serializeWith (document_envelopeJson e hms) (parseEnvelopeJson_canon hdump hvalid)
      hwritten
  · have hcanon : canon (.obj ms) = .obj (canonMembers ms) := rfl
    simp only [serializeEnvelope, validateEnvelope_payload hvalid hne, hagain, hcanon]
    exact serializeWith_canon_payload hwritten
  · rw [hagain, hparse, map_ok]

/-- The payload is a text that the program has written. -/
def Written (e : Envelope) : Prop := ∃ root, Document root ∧ serializeWith root = .ok e.payloadJson

/-- An envelope of which the program has written the payload is read as it was. -/
lemma parseEnvelope_written {e : Envelope} {content : Bytes} (hpayload : Written e)
    (h : serializeEnvelope e = .ok content) : parseEnvelope content = .ok e := by
  obtain ⟨root, hroot, hwritten⟩ := hpayload
  obtain ⟨ms, hvalid, hparse, hcontent⟩ := serializeEnvelope_ok h
  have hms := document_of_writable (parseJson_writable hparse)
  rw [parseJson_serializeWith hroot hwritten] at hparse
  cases hobj : canon root with
  | obj ns =>
    rw [hobj] at hparse
    cases hparse
    have hdump : dump (.obj ms) = some e.payloadJson := by
      rw [← hobj, dump, dumpAt_canon, ← dump, (dump_of_serializeWith hwritten).1]
    exact parsePayload_serializeWith (document_envelopeJson e hms) (parseEnvelopeJson_canon hdump hvalid)
      hcontent
  | _ =>
    rw [hobj] at hparse
    cases hparse

/-! ### Payloads -/

/-- The strings of the value are UTF-8, and its text is no longer than a frame. -/
def Fits (root : Value) : Prop :=
  Writable root ∧ ∀ content, dump root = some content → content.length ≤ kMaximumFrameBytes

lemma exists_serializeWith_iff {root : Value} (hroot : Document root) :
    (∃ content, serializeWith root = .ok content) ↔ Fits root := by
  constructor
  · rintro ⟨content, h⟩
    obtain ⟨hdump, hlength⟩ := dump_of_serializeWith h
    refine ⟨writable_of_dumpAt hroot hdump, fun content' hdump' => ?_⟩
    rw [hdump] at hdump'
    cases hdump'
    exact hlength
  · rintro ⟨hwritable, hlength⟩
    obtain ⟨content, hdump⟩ := dumpAt_writable hwritable none 0
    refine ⟨content, ?_⟩
    rw [serializeWith, show dump root = some content from hdump]
    exact if_neg (not_lt.mpr (hlength content hdump))

/-- The value is written when its text fits, and read back from that text. -/
def RoundTrips {α : Type} (json : α → Value) (serialize : α → Except Bytes Bytes)
    (parse : Bytes → Except Bytes α) (value : α) : Prop :=
  ((∃ content, serialize value = .ok content) ↔ Fits (json value)) ∧
    ∀ content, serialize value = .ok content → parse content = .ok value

lemma roundTrips {α : Type} {json : α → Value} {parse : Value → Bytes → Except Bytes α} {value : α}
    (hdocument : Document (json value)) (hparse : parse (canon (json value)) (str "$") = .ok value) :
    RoundTrips json (fun value => serializeWith (json value)) (parsePayload parse) value :=
  ⟨exists_serializeWith_iff hdocument, fun _ => parsePayload_serializeWith hdocument hparse⟩

/-- **Every payload is read as it was written.** -/
theorem payloads_round_trip :
    (∀ value, RoundTrips helloJson serializeHello parseHello value) ∧
    (∀ value, RoundTrips helloResultJson serializeHelloResult parseHelloResult value) ∧
    (∀ value, RoundTrips launchBootstrapJson serializeLaunchBootstrap parseLaunchBootstrap value) ∧
    (∀ value, RoundTrips commandJson serializeCommand parseCommand value) ∧
    (∀ value, RoundTrips maintenanceRequestJson serializeMaintenanceRequest parseMaintenanceRequest value) ∧
    (∀ value, RoundTrips maintenanceResultJson serializeMaintenanceResult parseMaintenanceResult value) ∧
    (∀ value : CommandStatus, value.Sized →
      RoundTrips commandStatusJson serializeCommandStatus parseCommandStatus value) ∧
    (∀ value : Snapshot, value.Sized → value.selection.Paired →
      RoundTrips snapshotJson serializeSnapshot parseSnapshot value) :=
  ⟨fun v => roundTrips (document_helloJson v) (parseHelloJson_canon v _),
    fun v => roundTrips (document_helloResultJson v) (parseHelloResultJson_canon v _),
    fun v => roundTrips (document_launchBootstrapJson v) (parseLaunchBootstrapJson_canon v _),
    fun v => roundTrips (document_commandJson v) (parseCommandJson_canon v _),
    fun v => roundTrips (document_maintenanceRequestJson v) (parseMaintenanceRequestJson_canon v _),
    fun v => roundTrips (document_maintenanceResultJson v) (parseMaintenanceResultJson_canon v _),
    fun v h => roundTrips (document_commandStatusJson v) (parseCommandStatusJson_canon h _),
    fun v h hpaired => roundTrips (document_snapshotJson v)
      (by rw [parseSnapshotJson_canon h, if_pos hpaired])⟩

/-! ### Deltas -/

omit [Library] in
lemma mem_changed {α : Type} [DecidableEq α] {a b c : α} (h : c ∈ changed a b) : a ≠ b ∧ b = c := by
  unfold changed at h
  split_ifs at h with hne
  · exact ⟨hne, Option.some.inj h⟩
  · cases h

omit [Library] in
lemma mem_changedPart {α : Type} [DecidableEq α] {a b : Option α} {c : α} (h : c ∈ changedPart a b) :
    c ∈ b := by
  unfold changedPart at h
  split_ifs at h
  · exact h
  · cases h

omit [Library] in
lemma sized_build {s t : Snapshot} (hs : s.revision < 2 ^ 64) (ht : t.Sized) :
    (buildGuiStateDelta s t).Sized where
  fromRevision := hs
  revision := ht.revision
  application _ ha := (mem_changed ha).2 ▸ ht.application
  profiles _ hps := (mem_changed hps).2 ▸ ht.profiles
  selection _ hv := (mem_changed hv).2 ▸ ht.selection
  profileEditor e he := ht.profileEditor e (mem_changedPart he)
  rulesEditor e he := ht.rulesEditor e (mem_changedPart he)
  draft _ hd := (mem_changed hd).2 ▸ ht.draft
  lastCommand c hc := ht.lastCommand c (mem_changedPart hc)

omit [Library] in
lemma pairedDelta_build {s t : Snapshot} :
    PairedDelta (buildGuiStateDelta s t) ↔ s.selection = t.selection ∨ t.selection.Paired := by
  change (∀ v ∈ changed s.selection t.selection, v.Paired) ↔ _
  by_cases h : s.selection = t.selection
  · simp [changed, h]
  · simp [changed, h]

/-- A delta that was written is read as it was, when it names no half of a selection. -/
lemma parseStateDelta_serialize {d : StateDelta} (h : d.Sized) {content : Bytes}
    (hwritten : serializeStateDelta d = .ok content) :
    parseStateDelta content = if PairedDelta d then .ok (tidyDelta d) else .error unpaired := by
  unfold serializeStateDelta at hwritten
  split_ifs at hwritten with hsent
  exact parsePayload_serializeWith (document_stateDeltaJson d) (parseStateDeltaJson_canon h hsent) hwritten

/-- **A delta leads the window from the one state to the other, by way of its text.** -/
theorem delta_law {s t : Snapshot} (hrevision : s.revision < t.revision) (ht : t.Sized) :
    ((buildGuiStateDelta s t).empty = true ↔ s.Same t) ∧
    (¬ s.Same t →
      ((∃ content, serializeStateDelta (buildGuiStateDelta s t) = .ok content) ↔
        Fits (stateDeltaJson (buildGuiStateDelta s t))) ∧
      ∀ content, serializeStateDelta (buildGuiStateDelta s t) = .ok content →
        (parseStateDelta content = if s.selection = t.selection ∨ t.selection.Paired
          then .ok (buildGuiStateDelta s t) else .error unpaired) ∧
        ∀ tracker : ClientStateTracker, tracker.snapshot = some s → tracker.snapshotRequired = false →
          tracker.applyDelta (buildGuiStateDelta s t) = (none, { tracker with snapshot := some t })) := by
  refine ⟨empty_buildGuiStateDelta s t, fun hdiffer => ?_⟩
  have hsent : ¬ ((buildGuiStateDelta s t).revision ≤ (buildGuiStateDelta s t).fromRevision ∨
      (buildGuiStateDelta s t).empty = true) := by
    rw [empty_buildGuiStateDelta]
    exact not_or.mpr ⟨not_le.mpr hrevision, hdiffer⟩
  refine ⟨?_, fun content hcontent => ⟨?_, fun tracker hsnapshot hrequired => ?_⟩⟩
  · rw [serializeStateDelta, if_neg hsent]
    exact exists_serializeWith_iff (document_stateDeltaJson _)
  · rw [parseStateDelta_serialize (sized_build (hrevision.trans ht.revision) ht) hcontent, tidyDelta_build]
    simp only [pairedDelta_build]
  · have hgap : ¬ ((buildGuiStateDelta s t).fromRevision ≠ s.revision ∨
        (buildGuiStateDelta s t).revision ≤ (buildGuiStateDelta s t).fromRevision ∨
        (buildGuiStateDelta s t).empty = true) :=
      not_or.mpr ⟨not_not.mpr rfl, hsent⟩
    simp only [ClientStateTracker.applyDelta, hsnapshot, hrequired, Bool.false_eq_true, if_false,
      if_neg hgap, apply_buildGuiStateDelta]

end Texts

section Examples

attribute [local instance] bitLibrary

/-- A ping with a payload that is not in the words of the library. -/
def thePing : Envelope where
  requestId := str "a"
  sessionId := str "s"
  sequence := 1
  payloadJson := str "\x7b \x7d"

theorem envelope_read_back_ping : ∃ content payload, serializeEnvelope thePing = .ok content ∧
    parseEnvelope content = .ok { thePing with payloadJson := payload } ∧
    parseJson payload = canon <$> parseJson thePing.payloadJson := by
  have htext : (serializeEnvelope thePing).toOption.isSome = true := by decide +kernel
  obtain ⟨content, hcontent⟩ := Option.isSome_iff_exists.mp htext
  obtain ⟨payload, hread, -, hsame⟩ := envelope_read_back (toOption_eq_some.mp hcontent)
  exact ⟨content, payload, toOption_eq_some.mp hcontent, hread, hsame⟩

/-- The first state of the tray. -/
def theFirst : Snapshot where
  revision := 1

/-- The next one. -/
def theNext : Snapshot where
  revision := 2
  commandPending := true

lemma theFirst_sized : theFirst.Sized where
  revision := by decide
  application := ⟨by decide, by decide⟩
  profiles := by simp [theFirst]
  selection := nofun
  profileEditor := by simp [theFirst]
  rulesEditor := by simp [theFirst]
  draft := by norm_num [DraftStatus.Sized, theFirst]
  lastCommand := by simp [theFirst]

lemma theNext_sized : theNext.Sized where
  revision := by decide
  application := theFirst_sized.application
  profiles := theFirst_sized.profiles
  selection := theFirst_sized.selection
  profileEditor := theFirst_sized.profileEditor
  rulesEditor := theFirst_sized.rulesEditor
  draft := theFirst_sized.draft
  lastCommand := theFirst_sized.lastCommand

theorem payloads_round_trip_first : ∃ content, serializeSnapshot theFirst = .ok content ∧
    parseSnapshot content = .ok theFirst := by
  obtain ⟨-, -, -, -, -, -, -, hsnapshots⟩ := payloads_round_trip
  obtain ⟨-, hread⟩ := hsnapshots theFirst theFirst_sized rfl
  have htext : (serializeSnapshot theFirst).toOption.isSome = true := by decide +kernel
  obtain ⟨content, hcontent⟩ := Option.isSome_iff_exists.mp htext
  exact ⟨content, toOption_eq_some.mp hcontent, hread content (toOption_eq_some.mp hcontent)⟩

/-- A command is pending now. -/
theorem delta_law_next : ∃ content, serializeStateDelta (buildGuiStateDelta theFirst theNext) = .ok content ∧
    parseStateDelta content = .ok (buildGuiStateDelta theFirst theNext) := by
  have hdiffer : ¬ theFirst.Same theNext := by decide
  obtain ⟨-, hdelta⟩ := delta_law (s := theFirst) (by decide) theNext_sized
  obtain ⟨-, hread⟩ := hdelta hdiffer
  have htext : (serializeStateDelta (buildGuiStateDelta theFirst theNext)).toOption.isSome = true := by
    decide +kernel
  obtain ⟨content, hcontent⟩ := Option.isSome_iff_exists.mp htext
  have hparse := (hread content (toOption_eq_some.mp hcontent)).1
  rw [if_pos (.inl rfl)] at hparse
  exact ⟨content, toOption_eq_some.mp hcontent, hparse⟩

end Examples

end CcsTrans.GuiIpc
