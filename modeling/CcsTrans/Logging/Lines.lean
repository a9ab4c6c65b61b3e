import CcsTrans.Json.Document
import CcsTrans.Logging.Record

/-!
Lines, as they are put together.

A line grows piece by piece, and its size is counted piece by piece before. Both loops are the
source's here; what they come to is the line of a record and its size.
-/

namespace CcsTrans.Logging.Lines

open CcsTrans.Text CcsTrans.Json

abbrev Headers := List (Bytes × Bytes)

/-! ### Fields -/

/-- `LogHeadersRef`, which may refer to nothing. -/
structure LogHeadersRef where
  headers : Option Headers := none
  redactSensitive : Bool := true

/-- The variants of a field's value: a text of its own, a text of someone else, or headers. -/
inductive FieldValue where
  | owned (text : Bytes)
  | borrowed (text : Bytes)
  | headers (reference : LogHeadersRef)

structure LogField where
  name : Bytes
  value : FieldValue
  quoted : Bool := true

def fieldString (name value : Bytes) : LogField := ⟨name, .owned value, true⟩
def fieldStringView (name value : Bytes) : LogField := ⟨name, .borrowed value, true⟩
def fieldNumber (name : Bytes) (value : Int64) : LogField := ⟨name, .owned (decimalInt value.toInt), false⟩
def fieldBool (name : Bytes) (value : Bool) : LogField :=
  ⟨name, .owned (if value then str "true" else str "false"), false⟩
def fieldRaw (name rawJson : Bytes) : LogField := ⟨name, .owned rawJson, false⟩
def fieldHeaders (name : Bytes) (headers : Headers) (redactSensitive : Bool) : LogField :=
  ⟨name, .headers ⟨some headers, redactSensitive⟩, false⟩

/-- `field_text`. -/
def fieldText (field : LogField) : Bytes :=
  match field.value with
  | .owned text => text
  | .borrowed text => text
  | .headers _ => []

/-! ### Times -/

/-- What `localtime_r` fills in. A month counts from zero, and a time that there is not is all zeros. -/
structure Tm where
  year : ℕ
  month : ℕ
  day : ℕ
  hour : ℕ
  minute : ℕ
  second : ℕ
  hmonth : month < 12
  hday : day ≤ 31
  hhour : hour < 24
  hminute : minute < 60
  hsecond : second ≤ 60

/-- Digits, with zeros in front up to a width. -/
def padded (width n : ℕ) : Bytes := List.replicate (width - (decimal n).length) (ch '0') ++ decimal n

def twoDigits (n : ℕ) : Bytes := [digit (n / 10), digit (n % 10)]

/-- `strftime` of `%Y-%m-%dT%H:%M:%S` into twenty bytes, the last of which is zero. -/
def strftime (tm : Tm) : Option Bytes :=
  let text := padded 4 tm.year ++ str "-" ++ twoDigits (tm.month + 1) ++ str "-" ++ twoDigits tm.day ++
    str "T" ++ twoDigits tm.hour ++ str ":" ++ twoDigits tm.minute ++ str ":" ++ twoDigits tm.second
  if text.length < 20 then some text else none

/-- `snprintf` of `.%03lld`. A minus counts to the width. -/
def printMillis (millis : ℤ) : Bytes :=
  str "." ++ if millis < 0 then ch '-' :: padded 2 millis.natAbs else padded 3 millis.natAbs

/-- `timestamp`, of a local time and the milliseconds since 1970. -/
def timestamp (tm : Tm) (count : ℤ) : Bytes :=
  match strftime tm with
  | none => str "1970-01-01T00:00:00.000"
  | some text => text ++ (printMillis (count.tmod 1000)).take 4

/-! ### Escapes -/

/-- What the loop of `append_escaped` appends for a byte. -/
def escapedByte (b : UInt8) : Bytes :=
  if b = ch '\\' then str "\\\\"
  else if b = ch '"' then str "\\\""
  else if b = 0x08 then str "\\b"
  else if b = 0x0C then str "\\f"
  else if b = 0x0A then str "\\n"
  else if b = 0x0D then str "\\r"
  else if b = 0x09 then str "\\t"
  else if b < 0x20 then
    str "\\u00" ++ [(str "0123456789abcdef").getD ((b >>> 4) &&& 0x0F).toNat 0,
      (str "0123456789abcdef").getD (b &&& 0x0F).toNat 0]
  else [b]

def appendEscaped (output value : Bytes) : Bytes := value.foldl (fun output b => output ++ escapedByte b) output

/-! ### Headers -/

/-- `ascii_case_equal`. -/
def asciiCaseEqual (left right : Bytes) : Bool :=
  left.length == right.length && (left.zip right).all fun (l, r) => toLower l == toLower r

def sensitive : List Bytes :=
  [str "authorization", str "proxy-authorization", str "cookie", str "set-cookie", str "x-api-key",
    str "api-key"]

/-- `is_sensitive_header`. -/
def isSensitiveHeader (name : Bytes) : Bool := sensitive.any fun candidate => asciiCaseEqual name candidate

/-- What is rendered of a header. -/
def rendered (reference : LogHeadersRef) (name value : Bytes) : Bytes :=
  if reference.redactSensitive && isSensitiveHeader name then str "***" else value

/-- The loop of `headers_size`, with the size and whether the header is the first. -/
def countHeader (reference : LogHeadersRef) : ℕ × Bool → Bytes × Bytes → ℕ × Bool :=
  fun (size, first) (name, value) =>
    (size + ((if first then 0 else 1) + 5 + escapedSize name + escapedSize (rendered reference name value)), false)

def headersSize (reference : LogHeadersRef) : ℕ :=
  match reference.headers with
  | none => 2
  | some headers => (headers.foldl (countHeader reference) (2, true)).1

/-- The loop of `append_headers`, with the output and whether the header is the first. -/
def appendHeader (reference : LogHeadersRef) : Bytes × Bool → Bytes × Bytes → Bytes × Bool :=
  fun (output, first) (name, value) =>
    let output := if first then output else output ++ [ch ',']
    let output := appendEscaped (output ++ [ch '"']) name ++ str "\":\""
    (appendEscaped output (rendered reference name value) ++ [ch '"'], false)

def appendHeaders (output : Bytes) (reference : LogHeadersRef) : Bytes :=
  let output := output ++ [ch '{']
  let output := match reference.headers with
    | none => output
    | some headers => (headers.foldl (appendHeader reference) (output, true)).1
  output ++ [ch '}']

/-! ### Lines -/

/-- The loop of `rendered_line_size`. -/
def countField (size : ℕ) (field : LogField) : ℕ :=
  let size := size + (4 + escapedSize field.name)
  match field.value with
  | .headers reference => size + headersSize reference
  | _ => size + if field.quoted then escapedSize (fieldText field) + 2 else (fieldText field).length

def renderedLineSize (level event : Bytes) (fields : List LogField) : ℕ :=
  fields.foldl countField (32 + 23 + escapedSize level + escapedSize event) + 2

/-- The loop of `render_line`. -/
def appendField (output : Bytes) (field : LogField) : Bytes :=
  let output := appendEscaped (output ++ str ",\"") field.name ++ str "\":"
  match field.value with
  | .headers reference => appendHeaders output reference
  | _ =>
    if field.quoted then appendEscaped (output ++ [ch '"']) (fieldText field) ++ [ch '"']
    else output ++ fieldText field

/-- `render_line`, at a time. -/
def renderLine (tm : Tm) (count : ℤ) (level event : Bytes) (fields : List LogField) : Bytes :=
  let output := appendEscaped (str "\x7b\"time\":\"") (timestamp tm count) ++ str "\",\"level\":\""
  let output := appendEscaped output level ++ str "\",\"event\":\""
  let output := appendEscaped output event ++ [ch '"']
  fields.foldl appendField output ++ str "\x7d\n"

/-- What `Logger::log` does with the memory for a line once the line is there. -/
inductive LeaseStep where
  | keep
  | shrink (bytes : ℕ)
  | grow (bytes : ℕ)

def leaseStep (leased lineSize : ℕ) : LeaseStep :=
  if lineSize < leased then .shrink (leased - lineSize)
  else if lineSize > leased then .grow (lineSize - leased)
  else .keep

/-! ### The record of a line -/

/-- A field as a record has it. -/
def LogField.record (field : LogField) : Logging.LogField :=
  ⟨field.name, match field.value with
    | .headers reference => .headers (reference.headers.getD []) reference.redactSensitive
    | _ => if field.quoted then .quoted (fieldText field) else .plain (fieldText field)⟩

lemma escapedByte_eq (b : UInt8) : escapedByte b = escapeByte b := by
  have h : ∀ n < 256, escapedByte n.toUInt8 = escapeByte n.toUInt8 := by decide +kernel
  have hb := h b.toNat b.toNat_lt
  rwa [Nat.toUInt8_eq, UInt8.ofNat_toNat] at hb

lemma appendEscaped_eq (output value : Bytes) : appendEscaped output value = output ++ escape value := by
  induction value generalizing output with
  | nil => simp [appendEscaped, escape]
  | cons b value ih =>
    calc appendEscaped output (b :: value)
        = appendEscaped (output ++ escapedByte b) value := rfl
      _ = output ++ escapeByte b ++ escape value := by rw [ih, escapedByte_eq]
      _ = output ++ escape (b :: value) := by rw [List.append_assoc]; rfl

lemma asciiCaseEqual_iff (left right : Bytes) :
    asciiCaseEqual left right = true ↔ left.map toLower = right.map toLower := by
  induction left generalizing right with
  | nil => cases right <;> simp [asciiCaseEqual]
  | cons b left ih =>
    cases right with
    | nil => simp [asciiCaseEqual]
    | cons c right =>
      have h := ih right
      simp only [asciiCaseEqual, Bool.and_eq_true, beq_iff_eq] at h
      simp only [asciiCaseEqual, List.length_cons, List.zip_cons_cons, List.all_cons, Bool.and_eq_true,
        beq_iff_eq, List.map_cons, List.cons.injEq, Nat.add_right_cancel_iff, ← h]
      exact and_left_comm

/-- The names that are looked for are in lower-case letters. -/
lemma isSensitiveHeader_iff (name : Bytes) :
    isSensitiveHeader name = true ↔ name.map toLower ∈ sensitive := by
  have hlower : ∀ candidate ∈ sensitive, candidate.map toLower = candidate := by decide
  simp only [isSensitiveHeader, List.any_eq_true, asciiCaseEqual_iff]
  constructor
  · rintro ⟨candidate, hmem, heq⟩
    rw [heq, hlower candidate hmem]
    exact hmem
  · intro hmem
    exact ⟨_, hmem, (hlower _ hmem).symm⟩

lemma isSensitiveHeader_eq (name : Bytes) : isSensitiveHeader name = Logging.isSensitiveHeader name := by
  rw [Bool.eq_iff_iff, isSensitiveHeader_iff]
  simp only [Logging.isSensitiveHeader, sensitive, List.any_eq_true, decide_eq_true_eq, exists_eq_right']

lemma rendered_eq (reference : LogHeadersRef) (name value : Bytes) :
    rendered reference name value = shown reference.redactSensitive (name, value) := by
  rw [rendered, shown, isSensitiveHeader_eq]

/-! ### What the loops come to -/

section Loops

variable (reference : LogHeadersRef) (headers : Headers)

lemma foldl_countHeader (size : ℕ) : headers.foldl (countHeader reference) (size, false) =
    (size + (headers.length + (headers.map fun header => 5 + escapedSize header.1 +
      escapedSize (shown reference.redactSensitive header)).sum), false) := by
  induction headers generalizing size with
  | nil => rfl
  | cons header headers ih =>
    obtain ⟨name, value⟩ := header
    rw [List.foldl_cons, countHeader, rendered_eq, ih]
    simp only [List.length_cons, List.map_cons, List.sum_cons, Bool.false_eq_true, if_false]
    congr 1
    omega

lemma headersSize_eq :
    headersSize reference = Logging.headersSize (reference.headers.getD []) reference.redactSensitive := by
  unfold headersSize
  cases reference.headers with
  | none => rfl
  | some headers =>
    cases headers with
    | nil => rfl
    | cons header headers =>
      obtain ⟨name, value⟩ := header
      dsimp only
      rw [List.foldl_cons, countHeader, rendered_eq, foldl_countHeader]
      simp only [Logging.headersSize, Option.getD_some, List.length_cons, List.map_cons, List.sum_cons,
        if_true]
      omega

/-- A header as it stands in a line. -/
def member (redactSensitive : Bool) (header : Bytes × Bytes) : Bytes :=
  str "\"" ++ escape header.1 ++ str "\":\"" ++ escape (shown redactSensitive header) ++ str "\""

lemma intercalate_cons (sep x : Bytes) (xs : List Bytes) :
    List.intercalate sep (x :: xs) = x ++ xs.flatMap fun y => sep ++ y := by
  induction xs generalizing x with
  | nil => simp [List.intercalate]
  | cons y xs ih =>
    have h := ih y
    rw [List.intercalate] at h ⊢
    rw [List.intersperse_cons_cons, List.flatten_cons, List.flatten_cons, h, List.flatMap_cons,
      List.append_assoc]

lemma renderHeaders_cons (redactSensitive : Bool) (header : Bytes × Bytes) :
    renderHeaders (header :: headers) redactSensitive = ch '{' :: (member redactSensitive header ++
      (headers.flatMap fun header => str "," ++ member redactSensitive header) ++ [ch '}']) := by
  rw [renderHeaders, List.map_cons, intercalate_cons, List.flatMap_map]
  rfl

lemma appendHeader_eq (output : Bytes) (first : Bool) (header : Bytes × Bytes) :
    appendHeader reference (output, first) header =
      (output ++ ((if first then [] else str ",") ++ member reference.redactSensitive header), false) := by
  obtain ⟨name, value⟩ := header
  have h₁ : [ch '"'] = str "\"" := rfl
  have h₂ : [ch ','] = str "," := rfl
  cases first with
  | false =>
    simp only [appendHeader, appendEscaped_eq, rendered_eq, member, h₁, h₂, Bool.false_eq_true, if_false,
      List.append_assoc]
  | true =>
    simp only [appendHeader, appendEscaped_eq, rendered_eq, member, h₁, if_true, List.nil_append,
      List.append_assoc]

lemma foldl_appendHeader (output : Bytes) : headers.foldl (appendHeader reference) (output, false) =
    (output ++ headers.flatMap fun header => str "," ++ member reference.redactSensitive header, false) := by
  induction headers generalizing output with
  | nil => simp
  | cons header headers ih =>
    rw [List.foldl_cons, appendHeader_eq, ih, List.flatMap_cons, List.append_assoc]
    rfl

lemma appendHeaders_eq (output : Bytes) : appendHeaders output reference =
    output ++ renderHeaders (reference.headers.getD []) reference.redactSensitive := by
  unfold appendHeaders
  cases reference.headers with
  | none => simp [renderHeaders, List.intercalate]
  | some headers =>
    cases headers with
    | nil => simp [renderHeaders, List.intercalate]
    | cons header headers =>
      dsimp only
      rw [List.foldl_cons, appendHeader_eq, foldl_appendHeader, Option.getD_some, renderHeaders_cons]
      simp only [if_true, List.nil_append, List.append_assoc, List.cons_append]

end Loops

lemma countField_eq (size : ℕ) (field : LogField) :
    countField size field = size + fieldSize field.record := by
  obtain ⟨name, value, quoted⟩ := field
  cases value with
  | headers reference =>
    simp only [countField, LogField.record, fieldSize, headersSize_eq]
    omega
  | owned text =>
    cases quoted <;> simp [countField, LogField.record, fieldSize, fieldText] <;> omega
  | borrowed text =>
    cases quoted <;> simp [countField, LogField.record, fieldSize, fieldText] <;> omega

lemma appendField_eq (output : Bytes) (field : LogField) :
    appendField output field = output ++ renderField field.record := by
  obtain ⟨name, value, quoted⟩ := field
  have h : [ch '"'] = str "\"" := rfl
  cases value with
  | headers reference =>
    simp only [appendField, LogField.record, renderField, appendEscaped_eq, appendHeaders_eq,
      List.append_assoc]
  | owned text =>
    cases quoted <;> simp [appendField, LogField.record, renderField, fieldText, appendEscaped_eq, h]
  | borrowed text =>
    cases quoted <;> simp [appendField, LogField.record, renderField, fieldText, appendEscaped_eq, h]

/-- The size is that of a record. -/
theorem renderedLineSize_eq (level event : Bytes) (fields : List LogField) :
    renderedLineSize level event fields =
      Logging.renderedLineSize ⟨level, event, fields.map LogField.record⟩ := by
  have hloop (size : ℕ) : fields.foldl countField size =
      size + ((fields.map LogField.record).map fieldSize).sum := by
    induction fields generalizing size with
    | nil => rfl
    | cons field fields ih =>
      rw [List.foldl_cons, countField_eq, ih, List.map_cons, List.map_cons, List.sum_cons, Nat.add_assoc]
  rw [renderedLineSize, hloop]
  rfl

/-- The line is that of a record. -/
theorem renderLine_eq (tm : Tm) (count : ℤ) (level event : Bytes) (fields : List LogField) :
    renderLine tm count level event fields =
      Logging.renderLine (timestamp tm count) ⟨level, event, fields.map LogField.record⟩ := by
  have hloop (output : Bytes) : fields.foldl appendField output =
      output ++ (fields.map LogField.record).flatMap renderField := by
    induction fields generalizing output with
    | nil => simp
    | cons field fields ih =>
      rw [List.foldl_cons, appendField_eq, ih, List.map_cons, List.flatMap_cons, List.append_assoc]
  have h : [ch '"'] = str "\"" := rfl
  simp only [renderLine, Logging.renderLine, hloop, appendEscaped_eq, h, List.append_assoc]
  rfl

/-! ### Times are plain -/

/-- Every byte is ASCII and counts once. -/
def Plain (s : Bytes) : Prop := ∀ b ∈ s, b ≤ 0x7F ∧ escapedByteSize b = 1

instance (s : Bytes) : Decidable (Plain s) :=
  List.decidableBAll (fun b => b ≤ 0x7F ∧ escapedByteSize b = 1) s

lemma plain_digit {d : ℕ} (h : d < 10) : digit d ≤ 0x7F ∧ escapedByteSize (digit d) = 1 := by
  interval_cases d <;> decide

lemma Plain.append {s t : Bytes} (hs : Plain s) (ht : Plain t) : Plain (s ++ t) :=
  List.forall_mem_append.mpr ⟨hs, ht⟩

lemma plain_decimal (n : ℕ) : Plain (decimal n) := by
  unfold decimal
  split_ifs
  · decide
  · intro b hb
    obtain ⟨d, hd, rfl⟩ := List.mem_map.mp hb
    exact plain_digit (Nat.digits_lt_base (by omega) (List.mem_reverse.mp hd))

lemma plain_padded (width n : ℕ) : Plain (padded width n) := by
  refine Plain.append (fun b hb => ?_) (plain_decimal n)
  rw [List.eq_of_mem_replicate hb]
  decide

lemma plain_twoDigits {n : ℕ} (h : n < 100) : Plain (twoDigits n) := by
  intro b hb
  simp only [twoDigits, List.mem_cons, List.not_mem_nil, or_false] at hb
  rcases hb with rfl | rfl
  · exact plain_digit (by omega)
  · exact plain_digit (by omega)

lemma length_decimal_le {width n : ℕ} (hwidth : 0 < width) (h : n < 10 ^ width) : (decimal n).length ≤ width := by
  unfold decimal
  split_ifs with hzero
  · exact hwidth
  · rw [List.length_map, List.length_reverse]
    exact (Nat.digits_length_le_iff (by omega) n).mpr h

lemma length_padded {width n : ℕ} (hwidth : 0 < width) (h : n < 10 ^ width) :
    (padded width n).length = width := by
  have := length_decimal_le hwidth h
  rw [padded, List.length_append, List.length_replicate]
  omega

lemma plain_strftime {tm : Tm} {text : Bytes} (h : strftime tm = some text) :
    Plain text ∧ text.length = 19 := by
  have hmonth := tm.hmonth
  have hday := tm.hday
  have hhour := tm.hhour
  have hminute := tm.hminute
  have hsecond := tm.hsecond
  unfold strftime at h
  dsimp only at h
  split_ifs at h with hfits
  obtain rfl := Option.some.inj h
  constructor
  · have hdash : Plain (str "-") := by decide
    have hcolon : Plain (str ":") := by decide
    have hletter : Plain (str "T") := by decide
    exact ((((((((((plain_padded 4 _).append hdash).append (plain_twoDigits (by omega))).append hdash).append
      (plain_twoDigits (by omega))).append hletter).append (plain_twoDigits (by omega))).append hcolon).append
      (plain_twoDigits (by omega))).append hcolon).append (plain_twoDigits (by omega))
  · have hwidth : 4 ≤ (padded 4 tm.year).length := by
      rw [padded, List.length_append, List.length_replicate]
      omega
    have h₁ : (str "-").length = 1 := rfl
    have h₂ : (str "T").length = 1 := rfl
    have h₃ : (str ":").length = 1 := rfl
    simp only [List.length_append, twoDigits, List.length_cons, List.length_nil, h₁, h₂, h₃] at hfits ⊢
    omega

lemma plain_printMillis {millis : ℤ} (h : millis.natAbs < 1000) :
    Plain (printMillis millis) ∧ 4 ≤ (printMillis millis).length := by
  have hdot : (str ".").length = 1 := rfl
  unfold printMillis
  split_ifs with hnegative
  · constructor
    · refine Plain.append (by decide) (List.forall_mem_cons.mpr ⟨by decide, plain_padded 2 _⟩)
    · rw [List.length_append, List.length_cons, padded, List.length_append, List.length_replicate]
      omega
  · exact ⟨Plain.append (by decide) (plain_padded 3 _), by
      rw [List.length_append, length_padded (by omega) h]
      omega⟩

/-- A time has 23 bytes, and none of them is escaped. -/
lemma plain_timestamp (tm : Tm) (count : ℤ) :
    Plain (timestamp tm count) ∧ (timestamp tm count).length = timestampSize := by
  unfold timestamp
  cases h : strftime tm with
  | none =>
    show Plain (str "1970-01-01T00:00:00.000") ∧ (str "1970-01-01T00:00:00.000").length = timestampSize
    decide
  | some text =>
    obtain ⟨hplain, hlength⟩ := plain_strftime h
    have hmillis : (count.tmod 1000).natAbs < 1000 := by
      rw [Int.natAbs_tmod]
      exact Nat.mod_lt _ (by decide)
    obtain ⟨hplain', hlength'⟩ := plain_printMillis hmillis
    constructor
    · exact hplain.append fun b hb => hplain' b (List.mem_of_mem_take hb)
    · rw [List.length_append, List.length_take, hlength, Nat.min_eq_left hlength']
      rfl

/-- **The size of a line is known** before the line is made. -/
theorem length_renderLine (tm : Tm) (count : ℤ) (level event : Bytes) (fields : List LogField) :
    (renderLine tm count level event fields).length = renderedLineSize level event fields := by
  obtain ⟨hplain, hlength⟩ := plain_timestamp tm count
  rw [renderLine_eq, renderedLineSize_eq, Logging.length_renderLine hlength fun b hb => (hplain b hb).2]

end CcsTrans.Logging.Lines
