import CcsTrans.Fallible
import CcsTrans.Json.Parse
import Mathlib.Tactic.IntervalCases

/-!
Reading back what was written.

The text of a value, on one line or indented, reads as the value it denotes, whatever
follows it. For a document, whose names are sorted and distinct, the tree read is already
the document.
-/

namespace CcsTrans.Json

open CcsTrans.Text CcsTrans.Fallible

/-! ### Blanks -/

/-- A byte at which a token may start: no blank, no comment, no byte order mark. -/
def TokenHead (b : UInt8) : Prop := isBlank b = false ∧ b ≠ ch '/' ∧ b ≠ 0xEF

lemma skipBlanks_cons {b : UInt8} (h : isBlank b = false) (t : Bytes) :
    skipBlanks (b :: t) = b :: t := by
  simp [skipBlanks, h]

lemma skipBlanks_indentation (step : Option ℕ) (n : ℕ) (s : Bytes) :
    skipBlanks (indentation step n ++ s) = skipBlanks s := by
  have hsp : ∀ k, skipBlanks (List.replicate k (ch ' ') ++ s) = skipBlanks s := by
    intro k
    induction k with
    | zero => rfl
    | succ k ih =>
      have hb : isBlank (ch ' ') = true := by decide
      simp [List.replicate_succ, skipBlanks, hb, ih]
  unfold indentation
  have hb : isBlank (ch '\n') = true := by decide
  split
  · simp [skipBlanks, hb, hsp]
  · rfl

lemma skip_of_skipBlanks {c : Bool} {s t : Bytes} {b : UInt8} (h : skipBlanks s = b :: t)
    (hb : b ≠ ch '/') : skip c s = .ok (b :: t) := by
  unfold skip
  cases c
  · simp [h]
  · simp only [if_true, skipComments, h]
    rcases t with _ | ⟨d, t⟩
    · rfl
    · simp [hb]

lemma skip_cons {c : Bool} {b : UInt8} (h : TokenHead b) (t : Bytes) :
    skip c (b :: t) = .ok (b :: t) :=
  skip_of_skipBlanks (skipBlanks_cons h.1 t) h.2.1

lemma skip_indentation {c : Bool} {b : UInt8} (h : TokenHead b) (step : Option ℕ) (n : ℕ)
    (t : Bytes) : skip c (indentation step n ++ b :: t) = .ok (b :: t) :=
  skip_of_skipBlanks (by rw [skipBlanks_indentation, skipBlanks_cons h.1]) h.2.1

/-! ### Strings -/

/-- Every byte below 128, by enumeration. -/
lemma forall_ascii {P : UInt8 → Prop} (h : ∀ n < 128, P n.toUInt8) {b : UInt8} (hb : b ≤ 0x7F) :
    P b := by
  have hn : b.toNat < 128 := by have := UInt8.le_iff_toNat_le.mp hb; simp at this; omega
  simpa using h b.toNat hn

lemma ascii_of_escaped {b : UInt8} (h : escapeByte b ≠ [b]) : b ≤ 0x7F := by
  have hall : ∀ n < 256, escapeByte n.toUInt8 ≠ [n.toUInt8] → n.toUInt8 ≤ 0x7F := by
    decide +kernel
  simpa using hall b.toNat b.toNat_lt (by simpa using h)

/-- A byte from the middle of a character is written as it is. -/
lemma escapeByte_need {low high : UInt8} {more : ℕ} {b : UInt8} {q : Utf8State}
    (hlow : 0x80 ≤ low) (h : utf8Step (.need low high more) b = some q) : escapeByte b = [b] := by
  by_contra hc
  have h1 := ascii_of_escaped hc
  simp only [utf8Step, Option.ite_none_right_eq_some] at h
  have h2 := UInt8.le_iff_toNat_le.mp h.1.1
  have h3 := UInt8.le_iff_toNat_le.mp hlow
  have h4 := UInt8.le_iff_toNat_le.mp h1
  simp at h3 h4
  omega

/-- A state that may be reached: the octet owed is a tail. -/
def Utf8State.Proper : Utf8State → Prop
  | .start => True
  | .need low _ _ => 0x80 ≤ low

lemma utf8Step_proper {q q' : Utf8State} {b : UInt8} (h : utf8Step q b = some q') : q'.Proper := by
  cases q with
  | start =>
    simp only [utf8Step] at h
    split_ifs at h <;> cases h <;> simp [Utf8State.Proper]
  | need low high more =>
    simp only [utf8Step, Option.ite_none_right_eq_some, Option.some.injEq] at h
    obtain ⟨-, rfl⟩ := h
    cases more <;> simp [Utf8State.Proper]

/-- The bytes of a string are read one state at a time. -/
def scanRun : StringState → Bytes → Option (Bytes × StringState)
  | q, [] => some ([], q)
  | q, b :: t =>
    match stringStep q b with
    | .next out q' => (scanRun q' t).map fun p => (out ++ p.1, p.2)
    | _ => none

lemma scanString_run {q q' : StringState} {u out : Bytes} (h : scanRun q u = some (out, q'))
    (t : Bytes) : scanString q (u ++ t) = (scanString q' t).map fun p => (out ++ p.1, p.2) := by
  induction u generalizing q out with
  | nil =>
    simp only [scanRun, Option.some.injEq, Prod.mk.injEq] at h
    obtain ⟨rfl, rfl⟩ := h
    cases hs : scanString q t <;> simp [hs, Except.map]
  | cons b u ih =>
    simp only [scanRun] at h
    rw [List.cons_append, scanString]
    split at h
    · next out₁ q₁ hstep =>
      obtain ⟨⟨out₂, q₂⟩, h2, h3⟩ := Option.map_eq_some_iff.mp h
      simp only [Prod.mk.injEq] at h3
      obtain ⟨rfl, rfl⟩ := h3
      simp only [hstep, ih h2]
      cases scanString q₂ t <;> simp [Except.map]
    · cases h

/-- An escaped ASCII byte reads as the byte. -/
lemma scanRun_escapeByte {b : UInt8} (hb : b ≤ 0x7F) :
    scanRun (.text .start) (escapeByte b) = some ([b], .text .start) :=
  forall_ascii (P := fun b => scanRun (.text .start) (escapeByte b) = some ([b], .text .start))
    (by decide) hb

/-- A byte of a longer character reads as itself. -/
lemma scanRun_raw {q q' : Utf8State} {b : UInt8} (hq : q.Proper) (h : utf8Step q b = some q')
    (hb : q ≠ .start ∨ 0x7F < b) : scanRun (.text q) [b] = some ([b], .text q') := by
  cases q with
  | start =>
    have hb' : 0x7F < b := by simpa using hb
    have hn := UInt8.lt_iff_toNat_lt.mp hb'
    have h1 : b ≠ ch '"' := by rintro rfl; revert hb'; decide
    have h2 : b ≠ ch '\\' := by rintro rfl; revert hb'; decide
    have h3 : ¬ b ≤ 0x1F := by
      rw [UInt8.le_iff_toNat_le]; simp at hn ⊢; omega
    simp [scanRun, stringStep, h1, h2, h3, h]
  | need low high more => simp [scanRun, stringStep, h]

/-- **The written bytes of a string read back**, up to the closing quote. -/
lemma scanString_escape {q : Utf8State} (hq : q.Proper) {s : Bytes}
    (h : utf8Run q s = some .start) (t : Bytes) :
    scanString (.text q) (escape s ++ ch '"' :: t) = .ok (s, t) := by
  induction s generalizing q with
  | nil =>
    simp only [utf8Run, Option.some.injEq] at h
    subst h
    rfl
  | cons b s ih =>
    simp only [utf8Run, Option.bind_eq_some_iff] at h
    obtain ⟨q', hstep, hrun⟩ := h
    have hrest := ih (utf8Step_proper hstep) hrun
    have hesc : escape (b :: s) ++ ch '"' :: t = escapeByte b ++ (escape s ++ ch '"' :: t) := by
      simp [escape]
    have hone : scanRun (.text q) (escapeByte b) = some ([b], .text q') := by
      cases q with
      | start =>
        by_cases hb : b ≤ 0x7F
        · have : q' = .start := by simpa [utf8Step, hb] using hstep.symm
          subst this
          exact scanRun_escapeByte hb
        · have he : escapeByte b = [b] := by
            by_contra hc; exact hb (ascii_of_escaped hc)
          rw [he]
          exact scanRun_raw hq hstep (Or.inr (UInt8.not_le.mp hb))
      | need low high more =>
        rw [escapeByte_need hq hstep]
        exact scanRun_raw hq hstep (Or.inl (by simp))
    rw [hesc, scanString_run hone, hrest]
    rfl

lemma dumpString_eq {s u : Bytes} (h : dumpString s = some u) :
    validUtf8 s = true ∧ u = ch '"' :: (escape s ++ [ch '"']) := by
  unfold dumpString at h
  split at h
  · next hv => exact ⟨hv, (Option.some.inj h).symm⟩
  · cases h

/-- A written string reads back after its opening quote. -/
lemma scanString_dumpString {s u : Bytes} (h : dumpString s = some u) (t : Bytes) :
    ∃ u', u = ch '"' :: u' ∧ scanString (.text .start) (u' ++ t) = .ok (s, t) := by
  obtain ⟨hv, rfl⟩ := dumpString_eq h
  refine ⟨_, rfl, ?_⟩
  have hrun : utf8Run .start s = some .start := by simpa [validUtf8] using hv
  have := scanString_escape (q := .start) trivial hrun t
  simpa using this

/-! ### Numbers -/

/-- The byte after a number is not one that could continue it. -/
def Ends (r : Bytes) : Prop :=
  ∀ b ∈ r.head?, isDigit b = false ∧ b ≠ ch '.' ∧ b ≠ ch 'e' ∧ b ≠ ch 'E'

lemma ends_nil : Ends [] := by simp [Ends]

lemma ends_cons {b : UInt8} (t : Bytes)
    (h : isDigit b = false ∧ b ≠ ch '.' ∧ b ≠ ch 'e' ∧ b ≠ ch 'E') : Ends (b :: t) := by
  simpa [Ends] using h

lemma ends_indentation (step : Option ℕ) (n : ℕ) {b : UInt8} (t : Bytes)
    (h : isDigit b = false ∧ b ≠ ch '.' ∧ b ≠ ch 'e' ∧ b ≠ ch 'E') :
    Ends (indentation step n ++ b :: t) := by
  unfold indentation
  split
  · exact ends_cons _ (by decide)
  · exact ends_cons _ h

lemma spanDigits_append {ds r : Bytes} (hds : ∀ b ∈ ds, isDigit b = true)
    (hr : ∀ b ∈ r.head?, isDigit b = false) : spanDigits (ds ++ r) = (ds, r) := by
  induction ds with
  | nil =>
    rcases r with _ | ⟨b, t⟩
    · rfl
    · simp [spanDigits, hr b (by simp)]
  | cons b t ih =>
    rw [List.cons_append, spanDigits, ih fun x hx => hds x (by simp [hx])]
    simp [hds b (by simp)]

lemma scanWhole_decimal (n : ℕ) {r : Bytes} (hr : ∀ b ∈ r.head?, isDigit b = false) :
    scanWhole (decimal n ++ r) = .ok (decimal n, r) := by
  by_cases hn : n = 0
  · subst hn; rfl
  · rcases hd : decimal n with _ | ⟨b, t⟩
    · exact absurd hd (decimal_ne_nil n)
    · have hall := decimal_isDigit n
      rw [hd] at hall
      have hb : b ≠ ch '0' := decimal_head hd hn
      have hspan : spanDigits (t ++ r) = (t, r) :=
        spanDigits_append (fun x hx => hall x (by simp [hx])) hr
      simp [scanWhole, hb, hall b (by simp), hspan]

lemma scanFraction_ends {r : Bytes} (hr : Ends r) : scanFraction r = .ok ([], r) := by
  rcases r with _ | ⟨b, t⟩
  · rfl
  · simp [scanFraction, (hr b (by simp)).2.1]

lemma scanExponent_ends {r : Bytes} (hr : Ends r) : scanExponent r = .ok ([], r) := by
  rcases r with _ | ⟨b, t⟩
  · rfl
  · simp [scanExponent, (hr b (by simp)).2.2.1, (hr b (by simp)).2.2.2]

lemma decimal_head_digit (n : ℕ) : ∃ b t, decimal n = b :: t ∧ isDigit b = true := by
  rcases hd : decimal n with _ | ⟨b, t⟩
  · exact absurd hd (decimal_ne_nil n)
  · exact ⟨b, t, rfl, decimal_isDigit n b (by simp [hd])⟩

lemma scanNumber_decimal (n : ℕ) {r : Bytes} (hr : Ends r) :
    scanNumber (decimal n ++ r) = .ok (⟨false, decimal n, []⟩, r) := by
  obtain ⟨b, t, hd, hb⟩ := decimal_head_digit n
  have hne : b ≠ ch '-' := by rintro rfl; revert hb; decide
  have hw := scanWhole_decimal n fun b hb => (hr b hb).1
  rw [hd, List.cons_append] at hw ⊢
  simp [scanNumber, hne, hw, scanFraction_ends hr, scanExponent_ends hr]

lemma scanNumber_negative (n : ℕ) {r : Bytes} (hr : Ends r) :
    scanNumber (ch '-' :: (decimal n ++ r)) = .ok (⟨true, decimal n, []⟩, r) := by
  have hw := scanWhole_decimal n fun b hb => (hr b hb).1
  simp [scanNumber, hw, scanFraction_ends hr, scanExponent_ends hr]

/-! ### A library -/

/-- A library whose doubles are written by their bits. It stands for the real one on texts and
values without doubles. -/
@[reducible] def bitLibrary : Library where
  strtod s := match cut (str ".") s with
    | some (whole, _) =>
      let d : Double := ⟨(digitsValue whole).toUInt64⟩
      if d.isFinite then some d else none
    | none => none
  toChars d := decimal d.bits.toNat ++ str ".0"
  ofInt n := ⟨n.toNat.toUInt64⟩
  floatEq a b := a == b
  what
    | .malformed => str "parse error"
    | .outOfRange => str "number overflow"
  whatDump _ := str "invalid UTF-8 byte"
  floatEq_refl := by simp
  strtod_finite s d h := by
    split at h
    · dsimp only at h
      split_ifs at h with hf
      cases h
      exact hf
    · cases h
  toChars_token d _ := by
    refine ⟨⟨false, decimal d.bits.toNat, str ".0"⟩, rfl, List.cons_ne_nil _ _, fun r hr => ?_⟩
    obtain ⟨b, t, hd, hb⟩ := decimal_head_digit d.bits.toNat
    have hne : b ≠ ch '-' := by rintro rfl; revert hb; decide
    have hw : scanWhole (decimal d.bits.toNat ++ (str ".0" ++ r)) =
        .ok (decimal d.bits.toNat, str ".0" ++ r) :=
      scanWhole_decimal _ (by simp [str]; decide)
    have hf : scanFraction (str ".0" ++ r) = .ok (str ".0", r) := by
      have hspan : spanDigits (str "0" ++ r) = (str "0", r) :=
        spanDigits_append (fun b hb => by rw [List.mem_singleton.mp hb]; rfl)
          fun b hb => (hr b hb).1
      rw [show str ".0" ++ r = ch '.' :: (str "0" ++ r) from rfl, scanFraction, hspan]
      rfl
    rw [hd, List.cons_append] at hw
    rw [List.append_assoc, hd, List.cons_append, scanNumber]
    simp [hne, hw, hf, scanExponent_ends hr]
  strtod_toChars d hd := by
    have hcut : ∀ ds : Bytes, (∀ b ∈ ds, isDigit b = true) →
        cut (str ".") (ds ++ str ".0") = some (ds, str "0") := by
      intro ds hds
      induction ds with
      | nil => rfl
      | cons b t ih =>
        have hb : startsWith (str ".") (b :: (t ++ str ".0")) = false := by
          have hne : (ch '.' == b) = false := by
            rw [beq_eq_false_iff_ne]
            rintro rfl
            have := hds (ch '.') (by simp)
            revert this
            decide
          simp [startsWith, str, List.isPrefixOf, hne]
        rw [List.cons_append, cut, if_neg (by simp [hb]), ih fun x hx => hds x (by simp [hx])]
        rfl
    simp [hcut _ (decimal_isDigit _), digitsValue_decimal, hd]

/-! ### Heads of values -/

lemma tokenHead_digit {b : UInt8} (h : isDigit b = true) : TokenHead b := by
  have hall : ∀ n < 256, isDigit n.toUInt8 = true →
      isBlank n.toUInt8 = false ∧ n.toUInt8 ≠ ch '/' ∧ n.toUInt8 ≠ 0xEF := by decide +kernel
  have := hall b.toNat b.toNat_lt (by simpa using h)
  simpa [TokenHead] using this

/-- A byte that opens a number and nothing else. -/
def NumberHead (b : UInt8) : Prop := b = ch '-' ∨ isDigit b = true

variable [Library]

lemma parseValue_number {c : Bool} {n : ℕ} {b : UInt8} {t r : Bytes} {tok : NumberToken} {v : Value}
    (hb : NumberHead b) (hs : scanNumber (b :: t) = .ok (tok, r)) (hv : numberValue tok = .ok v) :
    parseValue c (n + 1) (b :: t) = .ok (v, r) := by
  have hne : TokenHead b ∧ b ≠ ch '[' ∧ b ≠ ch '{' ∧ b ≠ ch '"' ∧ b ≠ ch 't' ∧ b ≠ ch 'f' ∧
      b ≠ ch 'n' := by
    rcases hb with rfl | hb
    · unfold TokenHead; decide
    · refine ⟨tokenHead_digit hb, ?_, ?_, ?_, ?_, ?_, ?_⟩ <;> (rintro rfl; revert hb; decide)
  obtain ⟨h0, h1, h2, h3, h4, h5, h6⟩ := hne
  have hor : b = ch '-' ∨ isDigit b = true := hb
  simp [parseValue, skip_cons h0, h1, h2, h3, h4, h5, h6, hor, hs, hv]

lemma parseValue_decimal {c : Bool} {n m : ℕ} (hm : m < 2 ^ 64) {r : Bytes} (hr : Ends r) :
    parseValue c (n + 1) (decimal m ++ r) = .ok (.uint m.toUInt64, r) := by
  have hs := scanNumber_decimal m hr
  obtain ⟨b, t, hd, hb⟩ := decimal_head_digit m
  rw [hd, List.cons_append] at hs ⊢
  refine parseValue_number (Or.inr hb) hs ?_
  rw [← hd]
  simp only [numberValue, digitsValue_decimal]
  rw [if_neg (by simp), if_neg (by simp), if_pos hm]

lemma parseValue_negative {c : Bool} {n m : ℕ} (hm : m ≤ 2 ^ 63) {r : Bytes} (hr : Ends r) :
    parseValue c (n + 1) (ch '-' :: (decimal m ++ r)) = .ok (.int (Int64.ofInt (-m)), r) := by
  refine parseValue_number (Or.inl rfl) (scanNumber_negative m hr) ?_
  simp only [numberValue, digitsValue_decimal]
  rw [if_neg (by simp), if_pos trivial, if_pos hm]

lemma toChars_head {d : Double} (hd : d.isFinite = true) :
    ∃ b u, Library.toChars d = b :: u ∧ NumberHead b := by
  obtain ⟨t, -, -, hscan⟩ := Library.toChars_token d hd
  have h0 := hscan [] ends_nil
  rw [List.append_nil] at h0
  rcases hu : Library.toChars d with _ | ⟨b, u⟩
  · rw [hu] at h0; simp [scanNumber, scanWhole] at h0
  · rw [hu] at h0
    refine ⟨b, u, rfl, ?_⟩
    by_cases hm : b = ch '-'
    · exact Or.inl hm
    · right
      by_contra hdig
      have hz : b ≠ ch '0' := by rintro rfl; exact hdig (by decide)
      simp [scanNumber, hm, scanWhole, hz, hdig] at h0

lemma parseValue_float {c : Bool} {n : ℕ} {d : Double} (hd : d.isFinite = true) {r : Bytes}
    (hr : Ends r) : parseValue c (n + 1) (Library.toChars d ++ r) = .ok (.float d, r) := by
  obtain ⟨t, htext, htail, hscan⟩ := Library.toChars_token d hd
  have hs := hscan r hr
  have hv : numberValue t = .ok (.float d) := by
    simp [numberValue, htail, htext, Library.strtod_toChars d hd]
  obtain ⟨b, u, hu, hb⟩ := toChars_head hd
  rw [hu, List.cons_append] at hs ⊢
  exact parseValue_number hb hs hv

lemma parseValue_string {c : Bool} {n : ℕ} {s u : Bytes} (h : dumpString s = some u) (r : Bytes) :
    parseValue c (n + 1) (u ++ r) = .ok (.str s, r) := by
  obtain ⟨u', rfl, hs⟩ := scanString_dumpString h r
  have hh : TokenHead (ch '"') := by unfold TokenHead; decide
  have h1 : ch '"' ≠ ch '[' := by decide
  have h2 : ch '"' ≠ ch '{' := by decide
  simp [parseValue, skip_cons hh, h1, h2, hs]

lemma parseValue_literal {c : Bool} {n : ℕ} (r : Bytes) :
    parseValue c (n + 1) (str "null" ++ r) = .ok (.null, r) ∧
    parseValue c (n + 1) (str "true" ++ r) = .ok (.bool true, r) ∧
    parseValue c (n + 1) (str "false" ++ r) = .ok (.bool false, r) := by
  have hn : TokenHead (ch 'n') ∧ TokenHead (ch 't') ∧ TokenHead (ch 'f') := by
    unfold TokenHead; decide
  refine ⟨?_, ?_, ?_⟩
  · rw [show str "null" ++ r = ch 'n' :: (str "ull" ++ r) from rfl, parseValue, skip_cons hn.1]
    rfl
  · rw [show str "true" ++ r = ch 't' :: (str "rue" ++ r) from rfl, parseValue, skip_cons hn.2.1]
    rfl
  · rw [show str "false" ++ r = ch 'f' :: (str "alse" ++ r) from rfl, parseValue, skip_cons hn.2.2]
    rfl

/-! ### Values -/

mutual

/-- The calls it takes to read a value. -/
def cost : Value → ℕ
  | .arr [] => 2
  | .arr (x :: xs) => 2 + cost x + costItems xs
  | .obj [] => 2
  | .obj ((_, v) :: ms) => 3 + cost v + costMembers ms
  | _ => 1

def costItems : List Value → ℕ
  | [] => 1
  | x :: xs => 1 + cost x + costItems xs

def costMembers : List (Bytes × Value) → ℕ
  | [] => 1
  | (_, v) :: ms => 2 + cost v + costMembers ms

end

/-- Something other than a bracket that closes, to start a value with. -/
def OpensValue (u : Bytes) : Prop :=
  ∃ b t, u = b :: t ∧ TokenHead b ∧ b ≠ ch ']' ∧ b ≠ ch '}'

omit [Library] in
lemma opensValue_append {u : Bytes} (h : OpensValue u) (r : Bytes) : OpensValue (u ++ r) := by
  obtain ⟨b, t, rfl, hb⟩ := h
  exact ⟨b, t ++ r, rfl, hb⟩

omit [Library] in
lemma opensValue_digit {b : UInt8} (t : Bytes) (h : isDigit b = true) : OpensValue (b :: t) := by
  refine ⟨b, t, rfl, tokenHead_digit h, ?_, ?_⟩ <;> (rintro rfl; revert h; decide)

omit [Library] in
lemma opensValue_of {b : UInt8} {t : Bytes}
    (h : (isBlank b = false ∧ b ≠ ch '/' ∧ b ≠ 0xEF) ∧ b ≠ ch ']' ∧ b ≠ ch '}') : OpensValue (b :: t) :=
  ⟨b, t, rfl, h.1, h.2⟩

omit [Library] in
lemma opensValue_dumpString {s u : Bytes} (h : dumpString s = some u) : OpensValue u := by
  obtain ⟨-, rfl⟩ := dumpString_eq h
  exact opensValue_of (by decide)

omit [Library] in
lemma opensValue_decimal (n : ℕ) : OpensValue (decimal n) := by
  obtain ⟨b, t, hd, hb⟩ := decimal_head_digit n
  rw [hd]
  exact opensValue_digit t hb

lemma opensValue_toChars {d : Double} (hd : d.isFinite = true) :
    OpensValue (Library.toChars d) := by
  obtain ⟨b, t, ht, hb⟩ := toChars_head hd
  rw [ht]
  rcases hb with rfl | hb
  · exact opensValue_of (by decide)
  · exact opensValue_digit t hb

/-- The text of a value opens a value. -/
lemma opensValue_dumpAt {step : Option ℕ} {cur : ℕ} {v : Value} {u : Bytes}
    (h : dumpAt step cur v = some u) : OpensValue u := by
  have lit : ∀ b t, (isBlank b = false ∧ b ≠ ch '/' ∧ b ≠ 0xEF) ∧ b ≠ ch ']' ∧ b ≠ ch '}' →
      some (b :: t) = some u → OpensValue u := by
    intro b t hb hu
    cases hu
    exact opensValue_of hb
  cases v with
  | null => exact lit (ch 'n') (str "ull") (by decide) h
  | bool b =>
    cases b
    · exact lit (ch 'f') (str "alse") (by decide) h
    · exact lit (ch 't') (str "rue") (by decide) h
  | int n =>
    simp only [dumpAt, Option.some.injEq, decimalInt] at h
    subst h
    split
    · exact opensValue_of (by decide)
    · exact opensValue_decimal _
  | uint n =>
    simp only [dumpAt, Option.some.injEq] at h
    subst h
    exact opensValue_decimal _
  | float d =>
    simp only [dumpAt, Option.some.injEq] at h
    subst h
    split
    · next hd => exact opensValue_toChars hd
    · exact opensValue_of (b := ch 'n') (t := str "ull") (by decide)
  | str s => exact opensValue_dumpString (by simpa [dumpAt] using h)
  | arr xs =>
    rcases xs with _ | ⟨x, xs⟩
    · exact lit (ch '[') [ch ']'] (by decide) h
    · simp only [dumpAt, Option.bind_eq_bind, Option.bind_eq_some_iff] at h
      obtain ⟨_, -, _, -, h⟩ := h
      exact lit (ch '[') _ (by decide) h
  | obj ms =>
    rcases ms with _ | ⟨⟨k, v⟩, ms⟩
    · exact lit (ch '{') [ch '}'] (by decide) h
    · simp only [dumpAt, Option.bind_eq_bind, Option.bind_eq_some_iff] at h
      obtain ⟨_, -, _, -, _, -, h⟩ := h
      exact lit (ch '{') _ (by decide) h

/-- Blanks before a value are skipped. -/
lemma parseValue_blanks {c : Bool} {n : ℕ} {p u : Bytes} (hu : OpensValue u)
    (hp : skipBlanks (p ++ u) = skipBlanks u) :
    parseValue c n (p ++ u) = parseValue c n u := by
  obtain ⟨b, t, rfl, hb, -⟩ := hu
  cases n with
  | zero => simp [parseValue]
  | succ n =>
    rw [parseValue, parseValue, skip_cons hb,
      skip_of_skipBlanks (by rw [hp, skipBlanks_cons hb.1]) hb.2.1]

/-- The text of `v` reads as what it denotes. -/
def ReadsBack (v : Value) : Prop :=
  ∀ (c : Bool) (step : Option ℕ) (cur : ℕ) (u : Bytes) (n : ℕ) (r : Bytes),
    dumpAt step cur v = some u → cost v ≤ n → Ends r → parseValue c n (u ++ r) = .ok (canon v, r)

lemma ends_dumpItems {step : Option ℕ} {cur : ℕ} {xs : List Value} {u r : Bytes}
    (h : dumpItems step cur xs = some u) (hr : Ends r) : Ends (u ++ r) := by
  cases xs with
  | nil => cases h; exact hr
  | cons x xs =>
    simp only [dumpItems, Option.bind_eq_bind, Option.bind_eq_some_iff] at h
    obtain ⟨_, -, _, -, h⟩ := h
    cases h
    exact ends_cons _ (by decide)

lemma ends_dumpMembers {step : Option ℕ} {cur : ℕ} {ms : List (Bytes × Value)} {u r : Bytes}
    (h : dumpMembers step cur ms = some u) (hr : Ends r) : Ends (u ++ r) := by
  cases ms with
  | nil => cases h; exact hr
  | cons m ms =>
    obtain ⟨k, v⟩ := m
    simp only [dumpMembers, Option.bind_eq_bind, Option.bind_eq_some_iff] at h
    obtain ⟨_, -, _, -, _, -, h⟩ := h
    cases h
    exact ends_cons _ (by decide)

/-- A value reads back after the blanks that stand before it. -/
lemma ReadsBack.after_indentation {v : Value} (h : ReadsBack v) {c : Bool} {step : Option ℕ}
    {cur col n : ℕ} {u r : Bytes} (hu : dumpAt step cur v = some u) (hn : cost v ≤ n)
    (hr : Ends r) : parseValue c n (indentation step col ++ (u ++ r)) = .ok (canon v, r) := by
  rw [parseValue_blanks (opensValue_append (opensValue_dumpAt hu) r) (skipBlanks_indentation ..)]
  exact h c step cur u n r hu hn hr

/-- The elements after the first read back, up to the bracket. -/
lemma parseItems_dumpItems {xs : List Value} (hxs : ∀ x ∈ xs, ReadsBack x) {c : Bool}
    {step : Option ℕ} {cur col : ℕ} {u : Bytes} {n : ℕ} {r : Bytes}
    (hu : dumpItems step cur xs = some u) (hn : costItems xs ≤ n) :
    parseItems c n (u ++ (indentation step col ++ ch ']' :: r)) = .ok (canonItems xs, r) := by
  induction xs generalizing u n with
  | nil =>
    cases hu
    obtain ⟨n, rfl⟩ : ∃ m, n = m + 1 := Nat.exists_eq_add_of_le' (by simpa [costItems] using hn)
    have hh : TokenHead (ch ']') := by unfold TokenHead; decide
    simp [parseItems, skip_indentation hh, canonItems]
  | cons x xs ih =>
    simp only [dumpItems, Option.bind_eq_bind, Option.bind_eq_some_iff] at hu
    obtain ⟨first, hf, rest, hrest, hu⟩ := hu
    cases hu
    rw [costItems] at hn
    obtain ⟨n, rfl⟩ : ∃ m, n = m + 1 := ⟨n - 1, by omega⟩
    have hh : TokenHead (ch ',') := by unfold TokenHead; decide
    have hend : Ends (rest ++ (indentation step col ++ ch ']' :: r)) :=
      ends_dumpItems hrest (ends_indentation _ _ _ (by decide))
    have hx : parseValue c n (indentation step cur ++
        (first ++ (rest ++ (indentation step col ++ ch ']' :: r)))) =
          .ok (canon x, rest ++ (indentation step col ++ ch ']' :: r)) :=
      (hxs x (by simp)).after_indentation hf (by omega) hend
    have hne : ch ',' ≠ ch ']' := by decide
    have htail := ih (fun y hy => hxs y (by simp [hy])) (n := n) hrest (by omega)
    simp [parseItems, skip_cons hh, hne, hx, canonItems, htail]

/-- A member reads back. -/
lemma parseMember_dump {v : Value} (hv : ReadsBack v) {c : Bool} {step : Option ℕ} {cur : ℕ}
    {k name first : Bytes} (hk : dumpString k = some name) (hf : dumpAt step cur v = some first)
    {n : ℕ} (hn : 1 + cost v ≤ n) {r : Bytes} (hr : Ends r) :
    parseMember c n (name ++ (colon step ++ (first ++ r))) = .ok ((k, canon v), r) := by
  obtain ⟨n, rfl⟩ : ∃ m, n = m + 1 := ⟨n - 1, by omega⟩
  obtain ⟨name', rfl, hs⟩ := scanString_dumpString hk (colon step ++ (first ++ r))
  have hq : TokenHead (ch '"') := by unfold TokenHead; decide
  have hc : TokenHead (ch ':') := by unfold TokenHead; decide
  have hval : parseValue c n ((if step.isSome then [ch ' '] else []) ++ (first ++ r)) =
      .ok (canon v, r) := by
    have hblank : isBlank (ch ' ') = true := by decide
    rw [parseValue_blanks (opensValue_append (opensValue_dumpAt hf) r)
      (by split <;> simp [skipBlanks, hblank])]
    exact hv c step cur first n r hf (by omega) hr
  have hskip : skip c (colon step ++ (first ++ r)) = .ok (ch ':' ::
      ((if step.isSome then [ch ' '] else []) ++ (first ++ r))) := by
    rw [colon, List.cons_append]
    exact skip_cons hc _
  rw [parseMember, List.cons_append, skip_cons hq]
  simp only [ok_bind, if_true, hs, hskip, hval, pure_eq_ok]

/-- Blanks before a member are skipped. -/
lemma parseMember_blanks {c : Bool} {n : ℕ} {step : Option ℕ} {col : ℕ} {k name : Bytes}
    (hk : dumpString k = some name) (r : Bytes) :
    parseMember c n (indentation step col ++ (name ++ r)) = parseMember c n (name ++ r) := by
  obtain ⟨b, t, hbt, hb, -⟩ := opensValue_append (opensValue_dumpString hk) r
  rw [hbt]
  cases n with
  | zero => simp [parseMember]
  | succ n => rw [parseMember, parseMember, skip_cons hb, skip_indentation hb]

/-- The members after the first read back, up to the brace. -/
lemma parseMembers_dumpMembers {ms : List (Bytes × Value)} (hms : ∀ m ∈ ms, ReadsBack m.2)
    {c : Bool} {step : Option ℕ} {cur col : ℕ} {u : Bytes} {n : ℕ} {r : Bytes}
    (hu : dumpMembers step cur ms = some u) (hn : costMembers ms ≤ n) :
    parseMembers c n (u ++ (indentation step col ++ ch '}' :: r)) = .ok (canonMembers ms, r) := by
  induction ms generalizing u n with
  | nil =>
    cases hu
    obtain ⟨n, rfl⟩ : ∃ m, n = m + 1 := Nat.exists_eq_add_of_le' (by simpa [costMembers] using hn)
    have hh : TokenHead (ch '}') := by unfold TokenHead; decide
    simp [parseMembers, skip_indentation hh, canonMembers]
  | cons m ms ih =>
    obtain ⟨k, v⟩ := m
    simp only [dumpMembers, Option.bind_eq_bind, Option.bind_eq_some_iff] at hu
    obtain ⟨name, hk, first, hf, rest, hrest, hu⟩ := hu
    cases hu
    rw [costMembers] at hn
    obtain ⟨n, rfl⟩ : ∃ m, n = m + 1 := ⟨n - 1, by omega⟩
    have hh : TokenHead (ch ',') := by unfold TokenHead; decide
    have hend : Ends (rest ++ (indentation step col ++ ch '}' :: r)) :=
      ends_dumpMembers hrest (ends_indentation _ _ _ (by decide))
    have hm : parseMember c n (indentation step cur ++ (name ++ (colon step ++ (first ++
        (rest ++ (indentation step col ++ ch '}' :: r)))))) =
          .ok ((k, canon v), rest ++ (indentation step col ++ ch '}' :: r)) := by
      rw [parseMember_blanks hk]
      exact parseMember_dump (hms (k, v) (by simp)) hk hf (by dsimp only; omega) hend
    have hne : ch ',' ≠ ch '}' := by decide
    have htail := ih (fun y hy => hms y (by simp [hy])) (n := n) hrest (by omega)
    simp [parseMembers, skip_cons hh, hne, hm, canonMembers, htail]

lemma readsBack_int (n : Int64) : ReadsBack (.int n) := by
  intro c step cur u k r hu hk hr
  obtain ⟨k, rfl⟩ : ∃ m, k = m + 1 := Nat.exists_eq_add_of_le' (by simpa [cost] using hk)
  simp only [dumpAt, Option.some.injEq, decimalInt] at hu
  subst hu
  have hmin := n.le_toInt
  have hmax := n.toInt_lt
  by_cases hn : n.toInt < 0
  · have hneg : Int64.ofInt (-(n.toInt.natAbs : ℤ)) = n := by
      rw [show -(n.toInt.natAbs : ℤ) = n.toInt by omega, Int64.ofInt_toInt]
    rw [if_pos hn, List.cons_append, parseValue_negative (by omega) hr, hneg, canon, if_neg (by omega)]
  · rw [if_neg hn, parseValue_decimal (by omega) hr, canon, if_pos (by omega),
      show n.toInt.natAbs = n.toInt.toNat by omega]

lemma readsBack_float (d : Double) : ReadsBack (.float d) := by
  intro c step cur u k r hu hk hr
  obtain ⟨k, rfl⟩ : ∃ m, k = m + 1 := Nat.exists_eq_add_of_le' (by simpa [cost] using hk)
  simp only [dumpAt, Option.some.injEq] at hu
  subst hu
  by_cases hd : d.isFinite = true
  · simp only [hd, if_true, canon]
    exact parseValue_float hd hr
  · simp only [hd, canon]
    exact (parseValue_literal r).1

lemma readsBack_arr {xs : List Value} (hxs : ∀ x ∈ xs, ReadsBack x) : ReadsBack (.arr xs) := by
  intro c step cur u k r hu hk hr
  have hopen : TokenHead (ch '[') := by unfold TokenHead; decide
  cases xs with
  | nil =>
    cases hu
    obtain ⟨k, rfl⟩ : ∃ m, k = m + 2 := Nat.exists_eq_add_of_le' (by simpa [cost] using hk)
    have hh : TokenHead (ch ']') := by unfold TokenHead; decide
    simp [parseValue, parseArray, skip_cons hopen, skip_cons hh, canon, canonItems]
  | cons x xs =>
    simp only [dumpAt, Option.bind_eq_bind, Option.bind_eq_some_iff] at hu
    obtain ⟨first, hf, rest, hrest, hu⟩ := hu
    cases hu
    rw [cost] at hk
    obtain ⟨k, rfl⟩ : ∃ m, k = m + 2 := ⟨k - 2, by omega⟩
    have hend : Ends (rest ++ (indentation step cur ++ ch ']' :: r)) :=
      ends_dumpItems hrest (ends_indentation _ _ _ (by decide))
    have hitems : parseItems c k (rest ++ (indentation step cur ++ ch ']' :: r)) =
        .ok (canonItems xs, r) :=
      parseItems_dumpItems (fun y hy => hxs y (by simp [hy])) hrest (by omega)
    have hx := hxs x (by simp) c step _ first k (rest ++ (indentation step cur ++ ch ']' :: r)) hf
      (by omega) hend
    obtain ⟨b, t, hbt, hb, hne, -⟩ := opensValue_append (opensValue_dumpAt hf)
      (rest ++ (indentation step cur ++ ch ']' :: r))
    rw [hbt] at hx
    have hskip := skip_indentation (c := c) hb step (cur + step.getD 0) t
    simp [parseValue, parseArray, skip_cons hopen, hskip, hbt, hne, hx, hitems, canon, canonItems]

lemma readsBack_obj {ms : List (Bytes × Value)} (hms : ∀ m ∈ ms, ReadsBack m.2) :
    ReadsBack (.obj ms) := by
  intro c step cur u k r hu hk hr
  have hopen : TokenHead (ch '{') := by unfold TokenHead; decide
  have hne' : ch '{' ≠ ch '[' := by decide
  cases ms with
  | nil =>
    cases hu
    obtain ⟨k, rfl⟩ : ∃ m, k = m + 2 := Nat.exists_eq_add_of_le' (by simpa [cost] using hk)
    have hh : TokenHead (ch '}') := by unfold TokenHead; decide
    simp [parseValue, parseObject, skip_cons hopen, skip_cons hh, hne', canon, canonMembers]
  | cons m ms =>
    obtain ⟨key, v⟩ := m
    simp only [dumpAt, Option.bind_eq_bind, Option.bind_eq_some_iff] at hu
    obtain ⟨name, hname, first, hf, rest, hrest, hu⟩ := hu
    cases hu
    rw [cost] at hk
    obtain ⟨k, rfl⟩ : ∃ m, k = m + 2 := ⟨k - 2, by omega⟩
    have hend : Ends (rest ++ (indentation step cur ++ ch '}' :: r)) :=
      ends_dumpMembers hrest (ends_indentation _ _ _ (by decide))
    have hmembers : parseMembers c k (rest ++ (indentation step cur ++ ch '}' :: r)) =
        .ok (canonMembers ms, r) :=
      parseMembers_dumpMembers (fun y hy => hms y (by simp [hy])) hrest (by omega)
    have hm : parseMember c k (name ++ (colon step ++ (first ++
        (rest ++ (indentation step cur ++ ch '}' :: r))))) =
          .ok ((key, canon v), rest ++ (indentation step cur ++ ch '}' :: r)) :=
      parseMember_dump (hms (key, v) (by simp)) hname hf (by dsimp only; omega) hend
    obtain ⟨b, t, hbt, hb, -, hne⟩ := opensValue_append (opensValue_dumpString hname)
      (colon step ++ (first ++ (rest ++ (indentation step cur ++ ch '}' :: r))))
    rw [hbt] at hm
    have hskip := skip_indentation (c := c) hb step (cur + step.getD 0) t
    simp [parseValue, parseObject, skip_cons hopen, hne', hskip, hbt, hne, hm, hmembers, canon,
      canonMembers]

/-- **Every text reads back.** -/
theorem readsBack (v : Value) : ReadsBack v := by
  induction v using Value.induction with
  | null | bool b =>
    intro c step cur u k r hu hk hr
    obtain ⟨k, rfl⟩ : ∃ m, k = m + 1 := Nat.exists_eq_add_of_le' (by simpa [cost] using hk)
    first | cases b | skip
    all_goals cases hu
    all_goals first
      | exact (parseValue_literal r).1
      | exact (parseValue_literal r).2.1
      | exact (parseValue_literal r).2.2
  | int n => exact readsBack_int n
  | uint n =>
    intro c step cur u k r hu hk hr
    obtain ⟨k, rfl⟩ : ∃ m, k = m + 1 := Nat.exists_eq_add_of_le' (by simpa [cost] using hk)
    cases hu
    rw [parseValue_decimal n.toNat_lt hr]
    simp [canon]
  | float d => exact readsBack_float d
  | str s =>
    intro c step cur u k r hu hk hr
    obtain ⟨k, rfl⟩ : ∃ m, k = m + 1 := Nat.exists_eq_add_of_le' (by simpa [cost] using hk)
    exact parseValue_string (by simpa [dumpAt] using hu) r
  | arr xs ih => exact readsBack_arr ih
  | obj ms ih => exact readsBack_obj ih

end CcsTrans.Json
