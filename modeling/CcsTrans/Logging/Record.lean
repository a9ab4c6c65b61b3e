import CcsTrans.Json.Dump
import Mathlib.Algebra.BigOperators.Group.List.Basic

/-!
The lines of a log.

A record has a level, an event and fields. The size of its line is known before the line is
made: the memory for it is reserved first.
-/

namespace CcsTrans.Logging

open CcsTrans.Text CcsTrans.Json

/-! ### Records -/

inductive FieldValue where
  | quoted (text : Bytes)
  | plain (text : Bytes)
  | headers (headers : List (Bytes × Bytes)) (redactSensitive : Bool)

structure LogField where
  name : Bytes
  value : FieldValue

structure LogRecord where
  level : Bytes
  event : Bytes
  fields : List LogField

def fieldString (name value : Bytes) : LogField := ⟨name, .quoted value⟩
def fieldNumber (name : Bytes) (value : ℕ) : LogField := ⟨name, .plain (decimal value)⟩
def fieldBool (name : Bytes) (value : Bool) : LogField :=
  ⟨name, .plain (if value then str "true" else str "false")⟩
def fieldHeaders (name : Bytes) (headers : List (Bytes × Bytes)) (redactSensitive : Bool) : LogField :=
  ⟨name, .headers headers redactSensitive⟩

def levelValue (level : Bytes) : ℕ :=
  if level = str "trace" then 0
  else if level = str "debug" then 1
  else if level = str "info" then 2
  else if level = str "warn" then 3
  else if level = str "error" then 4
  else 2

/-- `is_sensitive_header`. -/
def isSensitiveHeader (name : Bytes) : Bool :=
  [str "authorization", str "proxy-authorization", str "cookie", str "set-cookie",
    str "x-api-key", str "api-key"].any fun candidate => name.map toLower = candidate

/-- What is shown of a header. -/
def shown (redactSensitive : Bool) (header : Bytes × Bytes) : Bytes :=
  if redactSensitive && isSensitiveHeader header.1 then str "***" else header.2

/-! ### Sizes -/

/-- The size of one byte in `escaped_size`. -/
def escapedByteSize (b : UInt8) : ℕ :=
  if b = ch '\\' ∨ b = ch '"' ∨ b = 8 ∨ b = 12 ∨ b = 10 ∨ b = 13 ∨ b = 9 then 2
  else if b < 32 then 6
  else 1

def escapedSize (value : Bytes) : ℕ := (value.map escapedByteSize).sum

def headersSize (headers : List (Bytes × Bytes)) (redactSensitive : Bool) : ℕ :=
  2 + (headers.length - 1) + (headers.map fun header =>
    5 + escapedSize header.1 + escapedSize (shown redactSensitive header)).sum

def fieldSize (field : LogField) : ℕ :=
  4 + escapedSize field.name + match field.value with
    | .headers headers redactSensitive => headersSize headers redactSensitive
    | .quoted text => escapedSize text + 2
    | .plain text => text.length

def timestampSize : ℕ := 23

/-- `rendered_line_size`. -/
def renderedLineSize (r : LogRecord) : ℕ :=
  32 + timestampSize + escapedSize r.level + escapedSize r.event + (r.fields.map fieldSize).sum + 2

/-! ### Lines -/

/-- `append_headers`. -/
def renderHeaders (headers : List (Bytes × Bytes)) (redactSensitive : Bool) : Bytes :=
  ch '{' :: (List.intercalate (str ",") (headers.map fun header =>
    str "\"" ++ escape header.1 ++ str "\":\"" ++ escape (shown redactSensitive header) ++ str "\"") ++
    [ch '}'])

def renderField (field : LogField) : Bytes :=
  str ",\"" ++ escape field.name ++ str "\":" ++ match field.value with
    | .headers headers redactSensitive => renderHeaders headers redactSensitive
    | .quoted text => str "\"" ++ escape text ++ str "\""
    | .plain text => text

/-- `render_line`, at a time. -/
def renderLine (timestamp : Bytes) (r : LogRecord) : Bytes :=
  ch '{' :: (str "\"time\":\"" ++ escape timestamp ++ str "\",\"level\":\"" ++ escape r.level ++
    str "\",\"event\":\"" ++ escape r.event ++ str "\"" ++ r.fields.flatMap renderField ++
    [ch '}', ch '\n'])

/-! ### The size is right -/

lemma length_escapeByte (b : UInt8) : (escapeByte b).length = escapedByteSize b := by
  have hall : ∀ n < 256, (escapeByte n.toUInt8).length = escapedByteSize n.toUInt8 := by
    decide +kernel
  simpa using hall b.toNat b.toNat_lt

lemma length_escape (s : Bytes) : (escape s).length = escapedSize s := by
  rw [escape, List.length_flatMap, escapedSize]
  exact congrArg List.sum (List.map_congr_left fun b _ => length_escapeByte b)

lemma length_intercalate (sep : Bytes) (xs : List Bytes) :
    (List.intercalate sep xs).length = (xs.map List.length).sum + sep.length * (xs.length - 1) := by
  induction xs with
  | nil => simp [List.intercalate]
  | cons x xs ih =>
    cases xs with
    | nil => simp [List.intercalate]
    | cons y ys =>
      rw [List.intercalate, List.intersperse_cons_cons, List.flatten_cons, List.flatten_cons,
        List.length_append, List.length_append]
      rw [List.intercalate] at ih
      rw [ih]
      simp only [List.map_cons, List.sum_cons, List.length_cons, Nat.add_sub_cancel]
      ring

lemma length_renderHeaders (headers : List (Bytes × Bytes)) (redactSensitive : Bool) :
    (renderHeaders headers redactSensitive).length = headersSize headers redactSensitive := by
  rw [renderHeaders, List.length_cons, List.length_append, length_intercalate, List.map_map,
    List.length_map]
  have hsize : (List.length ∘ fun header : Bytes × Bytes => str "\"" ++ escape header.1 ++
      str "\":\"" ++ escape (shown redactSensitive header) ++ str "\"") = fun header =>
      5 + escapedSize header.1 + escapedSize (shown redactSensitive header) := by
    ext header
    simp only [Function.comp_apply, List.length_append, length_escape]
    have h₁ : (str "\"").length = 1 := rfl
    have h₂ : (str "\":\"").length = 3 := rfl
    omega
  rw [hsize, headersSize]
  have h₁ : (str ",").length = 1 := rfl
  rw [h₁, List.length_singleton]
  omega

lemma length_renderField (field : LogField) : (renderField field).length = fieldSize field := by
  have h₁ : (str ",\"").length = 2 := rfl
  have h₂ : (str "\":").length = 2 := rfl
  have h₃ : (str "\"").length = 1 := rfl
  obtain ⟨name, value⟩ := field
  cases value with
  | quoted text =>
    simp only [renderField, fieldSize, List.length_append, length_escape]
    omega
  | plain text =>
    simp only [renderField, fieldSize, List.length_append, length_escape]
    omega
  | headers headers redactSensitive =>
    simp only [renderField, fieldSize, List.length_append, length_escape, length_renderHeaders]
    omega

/-- A time has no character that is escaped. -/
lemma length_escape_plain {s : Bytes} (h : ∀ b ∈ s, escapedByteSize b = 1) :
    escapedSize s = s.length := by
  rw [escapedSize, List.map_congr_left h, List.map_const', List.sum_replicate]
  simp

/-- The size that is reserved is the size of the line. -/
theorem length_renderLine {timestamp : Bytes} (hlength : timestamp.length = timestampSize)
    (hplain : ∀ b ∈ timestamp, escapedByteSize b = 1) (r : LogRecord) :
    (renderLine timestamp r).length = renderedLineSize r := by
  have hfields : (r.fields.flatMap renderField).length = (r.fields.map fieldSize).sum := by
    rw [List.length_flatMap]
    exact congrArg List.sum (List.map_congr_left fun f _ => length_renderField f)
  have htime : (escape timestamp).length = timestampSize := by
    rw [length_escape, length_escape_plain hplain, hlength]
  have h₁ : (str "\"time\":\"").length = 8 := rfl
  have h₂ : (str "\",\"level\":\"").length = 11 := rfl
  have h₃ : (str "\",\"event\":\"").length = 11 := rfl
  have h₄ : (str "\"").length = 1 := rfl
  simp only [renderLine, renderedLineSize, List.length_cons, List.length_append, htime, hfields,
    length_escape, List.length_nil]
  omega

end CcsTrans.Logging
