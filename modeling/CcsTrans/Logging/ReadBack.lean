import CcsTrans.Logging.Lines

/-!
What a reader makes of a line.

Nothing that a client sends can end a text in a line or end the line. So a line of texts, numbers,
bools and headers is one JSON object, and it has what was put into it.
-/

namespace CcsTrans.Logging.Lines

open CcsTrans.Text CcsTrans.Json

/-! ### Texts -/

/-- Where a reader stands: in a text, behind a backslash, or at the digits of a code unit. -/
inductive ReadState where
  | text
  | backslash
  | digits (left acc : ℕ)

/-- A text from behind its opening quote, byte by byte, and what is behind its closing quote. -/
def readText : ReadState → Bytes → Option (Bytes × Bytes)
  | _, [] => none
  | .text, b :: t =>
    if b = ch '"' then some ([], t)
    else if b = ch '\\' then readText .backslash t
    else if b < 0x20 then none
    else (readText .text t).map fun (s, rest) => (b :: s, rest)
  | .backslash, b :: t =>
    if b = ch 'u' then readText (.digits 4 0) t
    else (unescape b).bind fun c => (readText .text t).map fun (s, rest) => (c :: s, rest)
  | .digits left acc, b :: t =>
    (hexValue b).bind fun d =>
      if 1 < left then readText (.digits (left - 1) (acc * 16 + d)) t
      else (readText .text t).map fun (s, rest) => (utf8Encode (acc * 16 + d) ++ s, rest)

lemma readText_pair {b c : UInt8} (hc : c ≠ ch 'u') (h : unescape c = some b) (t : Bytes) :
    readText .text (ch '\\' :: c :: t) = (readText .text t).map fun (s, rest) => (b :: s, rest) := by
  have hquote : ch '\\' ≠ ch '"' := by decide
  rw [readText, if_neg hquote, if_pos rfl, readText, if_neg hc, h]
  rfl

lemma readText_plain {b : UInt8} (hquote : b ≠ ch '"') (hbackslash : b ≠ ch '\\') (hcontrol : ¬ b < 0x20)
    (t : Bytes) : readText .text (b :: t) = (readText .text t).map fun (s, rest) => (b :: s, rest) := by
  rw [readText, if_neg hquote, if_neg hbackslash, if_neg hcontrol]

lemma hexValue_hexDigit {n : ℕ} (h : n < 16) : hexValue (hexDigit n) = some n := by
  interval_cases n <;> rfl

lemma readText_control {b : UInt8} (h : b ≤ 0x1F) (t : Bytes) :
    readText .text (ch '\\' :: ch 'u' :: ch '0' :: ch '0' :: hexDigit (b.toNat / 16) ::
      hexDigit (b.toNat % 16) :: t) = (readText .text t).map fun (s, rest) => (b :: s, rest) := by
  have hb : b.toNat ≤ 31 := UInt8.le_iff_toNat_le.mp h
  have hvalue : utf8Encode ((0 * 16 + b.toNat / 16) * 16 + b.toNat % 16) = [b] := by
    rw [show (0 * 16 + b.toNat / 16) * 16 + b.toNat % 16 = b.toNat by omega, utf8Encode,
      if_pos (by omega), Nat.toUInt8_eq, UInt8.ofNat_toNat]
  calc readText .text (ch '\\' :: ch 'u' :: ch '0' :: ch '0' :: hexDigit (b.toNat / 16) ::
        hexDigit (b.toNat % 16) :: t)
      = readText (.digits 2 0) (hexDigit (b.toNat / 16) :: hexDigit (b.toNat % 16) :: t) := rfl
    _ = readText (.digits 1 (0 * 16 + b.toNat / 16)) (hexDigit (b.toNat % 16) :: t) := by
      rw [readText, hexValue_hexDigit (by omega)]
      rfl
    _ = (readText .text t).map fun (s, rest) => (b :: s, rest) := by
      rw [readText, hexValue_hexDigit (by omega), Option.bind_some, if_neg (by decide), hvalue]
      rfl

/-- A byte reads as itself. -/
lemma readText_escapeByte (b : UInt8) (t : Bytes) :
    readText .text (escapeByte b ++ t) = (readText .text t).map fun (s, rest) => (b :: s, rest) := by
  unfold escapeByte
  split_ifs with h₁ h₂ h₃ h₄ h₅ hquote hbackslash hcontrol
  · exact readText_pair (by decide) (by rw [h₁]; rfl) t
  · exact readText_pair (by decide) (by rw [h₂]; rfl) t
  · exact readText_pair (by decide) (by rw [h₃]; rfl) t
  · exact readText_pair (by decide) (by rw [h₄]; rfl) t
  · exact readText_pair (by decide) (by rw [h₅]; rfl) t
  · exact readText_pair (by decide) (by rw [hquote]; rfl) t
  · exact readText_pair (by decide) (by rw [hbackslash]; rfl) t
  · exact readText_control hcontrol t
  · refine readText_plain hquote hbackslash (fun hlt => hcontrol ?_) t
    rw [UInt8.lt_iff_toNat_lt] at hlt
    rw [UInt8.le_iff_toNat_le]
    exact Nat.lt_succ_iff.mp hlt

/-- **A text reads as itself**, whatever its bytes are: no quote in it ends it. -/
theorem readText_appendEscaped (x rest : Bytes) :
    readText .text (appendEscaped [] x ++ ch '"' :: rest) = some (x, rest) := by
  rw [appendEscaped_eq, List.nil_append]
  induction x with
  | nil => rfl
  | cons b x ih =>
    have hesc : escape (b :: x) ++ ch '"' :: rest = escapeByte b ++ (escape x ++ ch '"' :: rest) := by
      simp [escape]
    rw [hesc, readText_escapeByte, ih]
    rfl

/-! ### Line breaks -/

/-- No control characters below the space. -/
def Visible (s : Bytes) : Prop := ∀ b ∈ s, 0x20 ≤ b

instance (s : Bytes) : Decidable (Visible s) := List.decidableBAll (0x20 ≤ ·) s

lemma Visible.append {s t : Bytes} (hs : Visible s) (ht : Visible t) : Visible (s ++ t) :=
  List.forall_mem_append.mpr ⟨hs, ht⟩

lemma visible_escapeByte (b : UInt8) : Visible (escapeByte b) := by
  have h : ∀ n < 256, Visible (escapeByte n.toUInt8) := by decide +kernel
  have hb := h b.toNat b.toNat_lt
  rwa [Nat.toUInt8_eq, UInt8.ofNat_toNat] at hb

lemma visible_escape (s : Bytes) : Visible (escape s) := by
  intro c hc
  obtain ⟨b, -, hmem⟩ := List.mem_flatMap.mp hc
  exact visible_escapeByte b c hmem

lemma visible_decimal (n : ℕ) : Visible (decimal n) := by
  intro b hb
  have hdigit := decimal_isDigit n b hb
  simp only [isDigit, Bool.and_eq_true, decide_eq_true_eq] at hdigit
  exact UInt8.le_trans (show (32 : UInt8) ≤ 48 by decide) hdigit.1

lemma visible_decimalInt (n : ℤ) : Visible (decimalInt n) := by
  unfold decimalInt
  split_ifs
  · exact List.forall_mem_cons.mpr ⟨by decide, visible_decimal _⟩
  · exact visible_decimal _

lemma visible_renderHeaders (headers : Headers) (redactSensitive : Bool) :
    Visible (renderHeaders headers redactSensitive) := by
  have hmember (header : Bytes × Bytes) : Visible (member redactSensitive header) :=
    ((((show Visible (str "\"") by decide).append (visible_escape _)).append (by decide)).append
      (visible_escape _)).append (by decide)
  cases headers with
  | nil => exact show Visible (str "\x7b\x7d") by decide
  | cons header headers =>
    rw [renderHeaders_cons]
    refine List.forall_mem_cons.mpr ⟨by decide, ((hmember header).append fun b hb => ?_).append (by decide)⟩
    obtain ⟨header', -, hmem⟩ := List.mem_flatMap.mp hb
    exact Visible.append (by decide) (hmember header') b hmem

/-! ### Lines of an event -/

/-- What a field is made of: a text, a text of someone else, a number, a bool or headers. -/
inductive Content where
  | text (value : Bytes)
  | view (value : Bytes)
  | number (value : Int64)
  | bool (value : Bool)
  | headers (headers : Headers) (redactSensitive : Bool)

def makeField (name : Bytes) : Content → LogField
  | .text value => fieldString name value
  | .view value => fieldStringView name value
  | .number value => fieldNumber name value
  | .bool value => fieldBool name value
  | .headers headers redactSensitive => fieldHeaders name headers redactSensitive

/-- The line of an event with fields. -/
def eventLine (tm : Tm) (count : ℤ) (level event : Bytes) (fields : List (Bytes × Content)) : Bytes :=
  renderLine tm count level event (fields.map fun (name, content) => makeField name content)

/-- The value of a content. Numbers that are not negative are read as unsigned ones. -/
def Content.value : Content → Value
  | .text value => .str value
  | .view value => .str value
  | .number value => if 0 ≤ value.toInt then .uint value.toInt.toNat.toUInt64 else .int value
  | .bool value => .bool value
  | .headers pairs _ => .obj (pairs.map fun (name, value) => (name, .str value))

/-- Stars for the values of sensitive headers, where they are asked for. -/
def Content.redacted : Content → Content
  | .headers pairs true =>
    .headers (pairs.map fun (name, value) =>
      (name, if name.map toLower ∈ sensitive then str "***" else value)) true
  | content => content

/-- All the texts of a content are UTF-8. -/
def Content.Valid : Content → Prop
  | .text value => validUtf8 value = true
  | .view value => validUtf8 value = true
  | .headers pairs _ => ∀ header ∈ pairs, validUtf8 header.1 = true ∧ validUtf8 header.2 = true
  | _ => True

/-- What stands behind the colon of a field. -/
def valueText : Logging.FieldValue → Bytes
  | .headers headers redactSensitive => renderHeaders headers redactSensitive
  | .quoted text => str "\"" ++ escape text ++ str "\""
  | .plain text => text

lemma renderField_eq (field : Logging.LogField) : renderField field =
    str ",\"" ++ escape field.name ++ str "\":" ++ valueText field.value := by
  obtain ⟨name, value⟩ := field
  cases value <;> rfl

lemma visible_makeField (name : Bytes) (content : Content) :
    Visible (renderField (makeField name content).record) := by
  have hquote : Visible (str "\"") := by decide
  have hvalue : Visible (valueText (makeField name content).record.value) := by
    cases content with
    | text value => exact (hquote.append (visible_escape value)).append hquote
    | view value => exact (hquote.append (visible_escape value)).append hquote
    | number value => exact visible_decimalInt _
    | bool value =>
      cases value with
      | false => exact show Visible (str "false") by decide
      | true => exact show Visible (str "true") by decide
    | headers headers redactSensitive => exact visible_renderHeaders headers redactSensitive
  rw [renderField_eq]
  exact (((show Visible (str ",\"") by decide).append (visible_escape _)).append (by decide)).append hvalue

/-- **A line ends where it ends**: nothing in it breaks it. -/
theorem visible_eventLine (tm : Tm) (count : ℤ) (level event : Bytes) (fields : List (Bytes × Content)) :
    ∃ body, eventLine tm count level event fields = body ++ [ch '\n'] ∧ Visible body := by
  refine ⟨ch '{' :: (str "\"time\":\"" ++ escape (timestamp tm count) ++ str "\",\"level\":\"" ++
    escape level ++ str "\",\"event\":\"" ++ escape event ++ str "\"" ++
    ((fields.map fun (name, content) => makeField name content).map LogField.record).flatMap renderField ++
    [ch '}']), ?_, ?_⟩
  · rw [eventLine, renderLine_eq, Logging.renderLine]
    simp only [List.append_assoc, List.cons_append, List.nil_append]
  · refine List.forall_mem_cons.mpr ⟨by decide, Visible.append (Visible.append ?_ fun b hb => ?_) (by decide)⟩
    · exact ((((((show Visible (str "\"time\":\"") by decide).append (visible_escape _)).append
        (by decide)).append (visible_escape _)).append (by decide)).append (visible_escape _)).append (by decide)
    · obtain ⟨field, hfield, hmem⟩ := List.mem_flatMap.mp hb
      obtain ⟨field', hfield', rfl⟩ := List.mem_map.mp hfield
      obtain ⟨⟨name, content⟩, -, rfl⟩ := List.mem_map.mp hfield'
      exact visible_makeField name content b hmem

/-! ### Lines as objects -/

section Objects

variable [Library]

/-- Members on one line, of which the values are written as they should be. -/
lemma dumpMembers_compact {α : Type} (xs : List α) (member : α → Bytes × Value) (text : α → Bytes)
    (h : ∀ x ∈ xs, validUtf8 (member x).1 = true ∧ dumpAt none 0 (member x).2 = some (text x)) :
    dumpMembers none 0 (xs.map member) =
      some (xs.flatMap fun x => str ",\"" ++ escape (member x).1 ++ str "\":" ++ text x) := by
  induction xs with
  | nil => rfl
  | cons x xs ih =>
    obtain ⟨hx, hxs⟩ := List.forall_mem_cons.mp h
    obtain ⟨hname, hvalue⟩ := hx
    rw [List.map_cons, dumpMembers, hvalue, ih hxs, dumpString, if_pos hname, List.flatMap_cons]
    simp [indentation, colon, str, ch]

/-- An object on one line. -/
lemma dumpAt_compact {k : Bytes} {v : Value} {ms : List (Bytes × Value)} {first rest : Bytes}
    (hname : validUtf8 k = true) (hfirst : dumpAt none 0 v = some first)
    (hrest : dumpMembers none 0 ms = some rest) : dumpAt none 0 (.obj ((k, v) :: ms)) =
      some (ch '{' :: (str "\"" ++ escape k ++ str "\":" ++ first ++ rest ++ [ch '}'])) := by
  rw [dumpAt]
  simp only [Option.getD_none, Nat.add_zero, hfirst, hrest, dumpString, if_pos hname]
  simp [indentation, colon, str, ch]

lemma dumpAt_number (n : Int64) :
    dumpAt none 0 (if 0 ≤ n.toInt then .uint n.toInt.toNat.toUInt64 else .int n) = some (decimalInt n.toInt) := by
  split_ifs with h
  · have hlt : n.toInt.toNat < 2 ^ 64 := by
      have := n.toInt_lt
      omega
    rw [dumpAt, Nat.toUInt64_eq, UInt64.toNat_ofNat_of_lt' hlt, decimalInt, if_neg (by omega)]
    congr 2
    omega
  · rw [dumpAt]

omit [Library] in
lemma value_headers (headers : Headers) (redactSensitive : Bool) :
    (Content.headers headers redactSensitive).redacted.value =
      .obj (headers.map fun header => (header.1, .str (shown redactSensitive header))) := by
  cases redactSensitive with
  | false => rfl
  | true =>
    rw [Content.redacted, Content.value, List.map_map]
    refine congrArg Value.obj (List.map_congr_left fun header _ => ?_)
    simp only [Function.comp_apply, shown, ← isSensitiveHeader_eq, isSensitiveHeader_iff, Bool.true_and]

lemma dumpAt_str {s : Bytes} (h : validUtf8 s = true) :
    dumpAt none 0 (.str s) = some (str "\"" ++ escape s ++ str "\"") := by
  rw [dumpAt, dumpString, if_pos h]
  rfl

lemma dumpAt_headers {headers : Headers} (redactSensitive : Bool)
    (h : (Content.headers headers redactSensitive).Valid) :
    dumpAt none 0 (Content.headers headers redactSensitive).redacted.value =
      some (renderHeaders headers redactSensitive) := by
  have hshown : ∀ header ∈ headers, validUtf8 header.1 = true ∧ dumpAt none 0
      (.str (shown redactSensitive header)) =
        some (str "\"" ++ escape (shown redactSensitive header) ++ str "\"") := by
    intro header hmem
    refine ⟨(h header hmem).1, dumpAt_str ?_⟩
    unfold shown
    split_ifs
    · decide
    · exact (h header hmem).2
  rw [value_headers]
  cases headers with
  | nil => rfl
  | cons header headers =>
    obtain ⟨hheader, hheaders⟩ := List.forall_mem_cons.mp hshown
    have hrest := dumpMembers_compact headers
      (fun header => (header.1, .str (shown redactSensitive header))) _ hheaders
    rw [List.map_cons, dumpAt_compact hheader.1 hheader.2 hrest, renderHeaders_cons]
    simp [member, str]

lemma dumpAt_content (name : Bytes) {content : Content} (h : content.Valid) :
    dumpAt none 0 content.redacted.value = some (valueText (makeField name content).record.value) := by
  cases content with
  | text value => exact dumpAt_str h
  | view value => exact dumpAt_str h
  | number value => exact dumpAt_number value
  | bool value => cases value <;> rfl
  | headers headers redactSensitive => exact dumpAt_headers redactSensitive h

omit [Library] in
lemma canon_value (content : Content) : canon content.value = content.value := by
  cases content with
  | text value => rfl
  | view value => rfl
  | number value =>
    unfold Content.value
    dsimp only
    split_ifs with h
    · rfl
    · rw [canon, if_neg h]
  | bool value => rfl
  | headers headers redactSensitive =>
    rw [Content.value, canon, canonMembers_eq, List.map_map]
    rfl

/-- **A line is one object**, with what was put into it. -/
theorem parseTree_eventLine (tm : Tm) (count : ℤ) (level event : Bytes) (fields : List (Bytes × Content))
    (hlevel : validUtf8 level = true) (hevent : validUtf8 event = true)
    (hfields : ∀ field ∈ fields, validUtf8 field.1 = true ∧ field.2.Valid) :
    parseTree false (eventLine tm count level event fields) =
      .ok (.obj ([(str "time", .str (timestamp tm count)), (str "level", .str level),
        (str "event", .str event)] ++ fields.map fun (name, content) => (name, content.redacted.value))) := by
  -- the level and the event are written as fields are
  obtain ⟨all, hall⟩ : ∃ all, all = (str "level", .text level) :: (str "event", .text event) :: fields := ⟨_, rfl⟩
  have htime : validUtf8 (timestamp tm count) = true :=
    validUtf8_of_ascii fun b hb => ((plain_timestamp tm count).1 b hb).1
  have hvalid : ∀ field ∈ all, validUtf8 field.1 = true ∧ dumpAt none 0 field.2.redacted.value =
      some (valueText (makeField field.1 field.2).record.value) := by
    rw [hall]
    refine List.forall_mem_cons.mpr ⟨⟨rfl, dumpAt_content _ hlevel⟩, ?_⟩
    refine List.forall_mem_cons.mpr ⟨⟨rfl, dumpAt_content _ hevent⟩, fun field hmem => ?_⟩
    exact ⟨(hfields field hmem).1, dumpAt_content _ (hfields field hmem).2⟩
  have hdump := dumpAt_compact (k := str "time") rfl (dumpAt_str htime)
    (dumpMembers_compact all (fun field => (field.1, field.2.redacted.value)) _ hvalid)
  have hline : eventLine tm count level event fields =
      ch '{' :: (str "\"" ++ escape (str "time") ++ str "\":" ++
        (str "\"" ++ escape (timestamp tm count) ++ str "\"") ++
        (all.flatMap fun field => str ",\"" ++ escape field.1 ++ str "\":" ++
          valueText (makeField field.1 field.2).record.value) ++ [ch '}']) ++ [ch '\n'] := by
    have h₁ : str "\"time\":\"" = str "\"" ++ escape (str "time") ++ str "\":" ++ str "\"" := rfl
    have h₂ : str "\",\"level\":\"" = str "\"" ++ (str ",\"" ++ escape (str "level") ++ str "\":" ++ str "\"") := rfl
    have h₃ : str "\",\"event\":\"" = str "\"" ++ (str ",\"" ++ escape (str "event") ++ str "\":" ++ str "\"") := rfl
    have h₄ : [ch '}', ch '\n'] = [ch '}'] ++ [ch '\n'] := rfl
    have hrest : ((fields.map fun (name, content) => makeField name content).map LogField.record).flatMap
        renderField = fields.flatMap fun field => str ",\"" ++ escape field.1 ++ str "\":" ++
          valueText (makeField field.1 field.2).record.value := by
      rw [List.map_map, List.flatMap_map]
      refine List.flatMap_congr fun field _ => ?_
      obtain ⟨name, content⟩ := field
      rw [Function.comp_apply, renderField_eq]
      cases content <;> rfl
    rw [eventLine, renderLine_eq, Logging.renderLine, hrest, hall, List.flatMap_cons, List.flatMap_cons,
      h₁, h₂, h₃, h₄]
    simp only [makeField, fieldString, LogField.record, fieldText, valueText, if_true, List.append_assoc,
      List.cons_append]
  rw [hline, parseTree_dumpAt hdump (ends_cons [] (by decide)) rfl, canon, canonMembers_eq, hall]
  simp only [List.map_cons, List.map_map, canon_value, Function.comp_def]
  rfl

/-- **Lines cannot be forged.** Whatever the bytes are, a line has no control character and no line
break but its last byte, and every text in it is read up to its own end. Where the texts are UTF-8,
the line is one object with the time, the level, the event and the fields, in this order, with their
values; of a sensitive header that is to be redacted the value is stars. -/
theorem lines_not_forged :
    (∀ tm count level event fields, ∃ body, eventLine tm count level event fields = body ++ [ch '\n'] ∧
      ∀ b ∈ body, 0x20 ≤ b) ∧
    (∀ tm count level event fields, validUtf8 level = true → validUtf8 event = true →
      (∀ field ∈ fields, validUtf8 field.1 = true ∧ field.2.Valid) →
      parseTree false (eventLine tm count level event fields) =
        .ok (.obj ([(str "time", .str (timestamp tm count)), (str "level", .str level),
          (str "event", .str event)] ++ fields.map fun (name, content) => (name, content.redacted.value)))) ∧
    ∀ x rest, readText .text (appendEscaped [] x ++ ch '"' :: rest) = some (x, rest) :=
  ⟨visible_eventLine, parseTree_eventLine, readText_appendEscaped⟩

end Objects

section Samples

attribute [local instance] bitLibrary

/-- The first of January of 2026. -/
def newYear : Tm := ⟨2026, 0, 1, 0, 0, 0, by decide, by decide, by decide, by decide, by decide⟩

theorem lines_not_forged_cookie :
    parseTree false (eventLine newYear 0 (str "info") (str "request_received")
      [(str "query", .text (str "a\"\n")), (str "headers", .headers [(str "Cookie", str "a")] true)]) =
      .ok (.obj [(str "time", .str (timestamp newYear 0)), (str "level", .str (str "info")),
        (str "event", .str (str "request_received")), (str "query", .str (str "a\"\n")),
        (str "headers", .obj [(str "Cookie", .str (str "***"))])]) :=
  lines_not_forged.2.1 newYear 0 _ _ _ (by decide) (by decide)
    (List.forall_mem_cons.mpr ⟨⟨by decide, rfl⟩, List.forall_mem_cons.mpr ⟨⟨by decide,
      List.forall_mem_cons.mpr ⟨⟨rfl, rfl⟩, List.forall_mem_nil _⟩⟩, List.forall_mem_nil _⟩⟩)

/-- The value of a redacted header is not the one that it has. -/
theorem redacted_not_original : ¬ ∀ tm count level event (fields : List (Bytes × Content)),
    validUtf8 level = true → validUtf8 event = true →
    (∀ field ∈ fields, validUtf8 field.1 = true ∧ field.2.Valid) →
    parseTree false (eventLine tm count level event fields) =
      .ok (.obj ([(str "time", .str (timestamp tm count)), (str "level", .str level),
        (str "event", .str event)] ++ fields.map fun (name, content) => (name, content.value))) := by
  intro h
  have hvalid : ∀ field ∈ [(str "headers", Content.headers [(str "Cookie", str "a")] true)],
      validUtf8 field.1 = true ∧ field.2.Valid :=
    List.forall_mem_cons.mpr ⟨⟨by decide, List.forall_mem_cons.mpr ⟨⟨rfl, rfl⟩, List.forall_mem_nil _⟩⟩,
      List.forall_mem_nil _⟩
  have horiginal := h newYear 0 (str "info") (str "request_received") _ (by decide) (by decide) hvalid
  have hread := parseTree_eventLine newYear 0 (str "info") (str "request_received") _ (by decide) (by decide) hvalid
  have hstars : str "***" = str "a" := by
    simpa [Content.value, Content.redacted, sensitive, str, ch, toLower, isUpper] using hread.symm.trans horiginal
  exact absurd hstars (by decide)

end Samples

end CcsTrans.Logging.Lines
