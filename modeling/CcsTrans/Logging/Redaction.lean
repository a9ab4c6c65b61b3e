import CcsTrans.Logging.Lines
import Mathlib.Data.List.Forall2

/-!
What redaction hides.

Two runs over headers that differ in sensitive values only do the same, step by step: both loops
look at what is rendered of a header, and that is the same.
-/

namespace CcsTrans.Logging.Lines

open CcsTrans.Text

/-- A loop does the same on lists of which it does the same at each place. -/
lemma foldl_forall₂ {σ α : Type} {R : α → α → Prop} {step : σ → α → σ}
    (h : ∀ s a b, R a b → step s a = step s b) {xs ys : List α} (hxs : List.Forall₂ R xs ys) (s : σ) :
    xs.foldl step s = ys.foldl step s := by
  induction hxs generalizing s with
  | nil => rfl
  | cons hab _ ih => rw [List.foldl_cons, List.foldl_cons, h _ _ _ hab, ih]

/-- Two headers with one name, and with one value unless the name is sensitive, in whatever letters. -/
def HeaderAlike (header header' : Bytes × Bytes) : Prop :=
  header.1 = header'.1 ∧ (header.1.map toLower ∉ sensitive → header.2 = header'.2)

abbrev Alike (headers headers' : Headers) : Prop := List.Forall₂ HeaderAlike headers headers'

/-- Two fields that are the same, or redacted headers that are alike. -/
inductive FieldAlike : LogField → LogField → Prop where
  | same (field : LogField) : FieldAlike field field
  | redacted (name : Bytes) (quoted : Bool) {headers headers' : Headers} (h : Alike headers headers') :
    FieldAlike ⟨name, .headers ⟨some headers, true⟩, quoted⟩ ⟨name, .headers ⟨some headers', true⟩, quoted⟩

/-- The same is rendered of headers that are alike. -/
lemma rendered_alike (reference : LogHeadersRef) (hredact : reference.redactSensitive = true)
    {header header' : Bytes × Bytes} (h : HeaderAlike header header') :
    rendered reference header.1 header.2 = rendered reference header'.1 header'.2 := by
  obtain ⟨hname, hvalue⟩ := h
  rw [rendered, rendered, hredact, ← hname, Bool.true_and]
  split_ifs with hsensitive
  · rfl
  · exact hvalue fun hmem => hsensitive ((isSensitiveHeader_iff _).mpr hmem)

lemma countHeader_alike (reference : LogHeadersRef) (hredact : reference.redactSensitive = true)
    (s : ℕ × Bool) (header header' : Bytes × Bytes) (h : HeaderAlike header header') :
    countHeader reference s header = countHeader reference s header' := by
  have hrendered := rendered_alike reference hredact h
  obtain ⟨name, value⟩ := header
  obtain ⟨name', value'⟩ := header'
  obtain rfl : name = name' := h.1
  simp only [countHeader, hrendered]

lemma appendHeader_alike (reference : LogHeadersRef) (hredact : reference.redactSensitive = true)
    (s : Bytes × Bool) (header header' : Bytes × Bytes) (h : HeaderAlike header header') :
    appendHeader reference s header = appendHeader reference s header' := by
  have hrendered := rendered_alike reference hredact h
  obtain ⟨name, value⟩ := header
  obtain ⟨name', value'⟩ := header'
  obtain rfl : name = name' := h.1
  simp only [appendHeader, hrendered]

lemma headersSize_alike {headers headers' : Headers} (h : Alike headers headers') :
    headersSize ⟨some headers, true⟩ = headersSize ⟨some headers', true⟩ :=
  congrArg Prod.fst (foldl_forall₂ (countHeader_alike ⟨none, true⟩ rfl) h (2, true))

lemma appendHeaders_alike {headers headers' : Headers} (h : Alike headers headers') (output : Bytes) :
    appendHeaders output ⟨some headers, true⟩ = appendHeaders output ⟨some headers', true⟩ :=
  congrArg (fun p => p.1 ++ [ch '}'])
    (foldl_forall₂ (appendHeader_alike ⟨none, true⟩ rfl) h (output ++ [ch '{'], true))

lemma countField_alike (size : ℕ) (field field' : LogField) (h : FieldAlike field field') :
    countField size field = countField size field' := by
  cases h with
  | same => rfl
  | redacted name quoted h => simp only [countField, headersSize_alike h]

lemma appendField_alike (output : Bytes) (field field' : LogField) (h : FieldAlike field field') :
    appendField output field = appendField output field' := by
  cases h with
  | same => rfl
  | redacted name quoted h => simp only [appendField, appendHeaders_alike h]

/-- **Redaction hides.** Headers that are alike are rendered the same and counted the same, and so
are lines with such headers anywhere in them. -/
theorem redaction_noninterference :
    (∀ headers headers', Alike headers headers' →
      (∀ output, appendHeaders output ⟨some headers, true⟩ = appendHeaders output ⟨some headers', true⟩) ∧
      headersSize ⟨some headers, true⟩ = headersSize ⟨some headers', true⟩) ∧
    ∀ fields fields', List.Forall₂ FieldAlike fields fields' → ∀ tm count level event,
      renderLine tm count level event fields = renderLine tm count level event fields' ∧
      renderedLineSize level event fields = renderedLineSize level event fields' := by
  refine ⟨fun headers headers' h => ⟨appendHeaders_alike h, headersSize_alike h⟩,
    fun fields fields' h tm count level event => ⟨?_, ?_⟩⟩
  · simp only [renderLine, foldl_forall₂ appendField_alike h]
  · rw [renderedLineSize, renderedLineSize, foldl_forall₂ countField_alike h]

theorem redaction_noninterference_cookie :
    appendHeaders [] ⟨some [(str "COOKIE", str "a"), (str "Accept", str "x")], true⟩ =
      appendHeaders [] ⟨some [(str "COOKIE", str "secret"), (str "Accept", str "x")], true⟩ ∧
    renderedLineSize [] [] [⟨[], .headers ⟨some [(str "Cookie", str "a")], true⟩, false⟩] =
      renderedLineSize [] [] [⟨[], .headers ⟨some [(str "Cookie", str "bc")], true⟩, false⟩] :=
  ⟨(redaction_noninterference.1 _ _ (.cons ⟨rfl, fun h => absurd (by decide) h⟩
      (.cons ⟨rfl, fun _ => rfl⟩ .nil))).1 [],
    (redaction_noninterference.2 _ _ (.cons (.redacted _ _ (.cons ⟨rfl, fun h => absurd (by decide) h⟩ .nil))
      .nil) ⟨2026, 0, 1, 0, 0, 0, by decide, by decide, by decide, by decide, by decide⟩ 0 [] []).2⟩

end CcsTrans.Logging.Lines
