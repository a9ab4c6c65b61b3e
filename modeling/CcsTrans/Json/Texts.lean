import CcsTrans.Json.Document

/-!
The texts of values.

They are UTF-8: a string is written only when it is, and what is escaped in it is ASCII. All else
that a text has is ASCII, whatever way the library writes doubles.
-/

namespace CcsTrans.Json

open CcsTrans.Text CcsTrans.Fallible

/-! ### Parts of a text -/

lemma validUtf8_iff {s : Bytes} : validUtf8 s = true ↔ utf8Run .start s = some .start := by
  simp [validUtf8]

lemma validUtf8_append {s t : Bytes} (hs : validUtf8 s = true) (ht : validUtf8 t = true) :
    validUtf8 (s ++ t) = true := by
  rw [validUtf8_iff] at *
  rw [utf8Run_append, hs]
  exact ht

lemma validUtf8_cons {b : UInt8} {t : Bytes} (hb : b ≤ 0x7F) (ht : validUtf8 t = true) :
    validUtf8 (b :: t) = true := by
  rw [validUtf8_iff] at *
  simp [utf8Run, utf8Step, hb, ht]

lemma validUtf8_ascii {s : Bytes} (h : ∀ b ∈ s, b ≤ 0x7F) : validUtf8 s = true := by
  induction s with
  | nil => rfl
  | cons b s ih =>
    obtain ⟨hb, hs⟩ := List.forall_mem_cons.mp h
    exact validUtf8_cons hb (ih hs)

/-! ### Strings -/

/-- What stands for a byte in a string is ASCII, or is the byte. -/
lemma escapeByte_ascii {b : UInt8} (hb : b ≤ 0x7F) : ∀ c ∈ escapeByte b, c ≤ 0x7F := by
  have hall : (escapeByte b).all (· ≤ 0x7F) = true :=
    forall_ascii (P := fun b => (escapeByte b).all (· ≤ 0x7F) = true) (by decide +kernel) hb
  simpa using hall

lemma utf8Run_escape {q : Utf8State} (hq : q.Proper) {s : Bytes} (h : utf8Run q s = some .start) :
    utf8Run q (escape s) = some .start := by
  induction s generalizing q with
  | nil => exact h
  | cons b s ih =>
    simp only [utf8Run, Option.bind_eq_some_iff] at h
    obtain ⟨q', hstep, hrun⟩ := h
    have hrest := ih (utf8Step_proper hstep) hrun
    have hone : utf8Run q (escapeByte b) = some q' := by
      by_cases he : escapeByte b = [b]
      · rw [he]
        simp [utf8Run, hstep]
      · -- only between characters is there a byte to escape
        have hb := ascii_of_escaped he
        cases q with
        | start =>
          have hq' : q' = .start := by simpa [utf8Step, hb] using hstep.symm
          rw [hq']
          exact validUtf8_iff.mp (validUtf8_ascii (escapeByte_ascii hb))
        | need low high more => exact absurd (escapeByte_need hq hstep) he
    rw [escape, List.flatMap_cons, utf8Run_append, hone]
    exact hrest

lemma validUtf8_dumpString {s u : Bytes} (h : dumpString s = some u) : validUtf8 u = true := by
  obtain ⟨hs, rfl⟩ := dumpString_eq h
  refine validUtf8_cons (by decide) (validUtf8_append ?_ (by decide))
  exact validUtf8_iff.mpr (utf8Run_escape (q := .start) trivial (validUtf8_iff.mp hs))

/-! ### Numbers -/

lemma ascii_of_isDigit {b : UInt8} (h : isDigit b = true) : b ≤ 0x7F := by
  simp only [isDigit, Bool.and_eq_true, decide_eq_true_eq, UInt8.le_iff_toNat_le] at h ⊢
  have h57 := h.2
  simp at h57 ⊢
  omega

lemma ascii_decimal (n : ℕ) : ∀ b ∈ decimal n, b ≤ 0x7F :=
  fun b hb => ascii_of_isDigit (decimal_isDigit n b hb)

lemma ascii_decimalInt (n : ℤ) : ∀ b ∈ decimalInt n, b ≤ 0x7F := by
  unfold decimalInt
  split_ifs
  · exact List.forall_mem_cons.mpr ⟨by decide, ascii_decimal _⟩
  · exact ascii_decimal _

lemma spanDigits_ascii {s ds r : Bytes} (h : spanDigits s = (ds, r)) : ∀ b ∈ ds, b ≤ 0x7F := by
  induction s generalizing ds r with
  | nil =>
    cases h
    simp
  | cons b t ih =>
    rw [spanDigits] at h
    split_ifs at h with hb
    · cases h
      exact List.forall_mem_cons.mpr ⟨ascii_of_isDigit hb, ih rfl⟩
    · cases h
      simp

lemma scanFraction_ascii {s u r : Bytes} (h : scanFraction s = .ok (u, r)) : ∀ b ∈ u, b ≤ 0x7F := by
  unfold scanFraction at h
  split at h
  · cases h
    simp
  · split_ifs at h with hb
    · split at h
      · cases h
      · next hspan =>
        cases h
        exact List.forall_mem_cons.mpr ⟨hb ▸ by decide, spanDigits_ascii hspan⟩
    · cases h
      simp

lemma scanExponent_ascii {s u r : Bytes} (h : scanExponent s = .ok (u, r)) : ∀ b ∈ u, b ≤ 0x7F := by
  unfold scanExponent at h
  split at h
  · cases h
    simp
  · next b t =>
    split_ifs at h with hb
    · have hb' : b ≤ 0x7F := by rcases hb with rfl | rfl <;> decide
      split at h
      next sign t' hsign =>
      have hsign' : ∀ c ∈ sign, c ≤ 0x7F := by
        split at hsign
        · cases hsign
          simp
        · split_ifs at hsign with hs
          · cases hsign
            rcases hs with rfl | rfl <;> simp [ch]
          · cases hsign
            simp
      split at h
      · cases h
      · next hspan =>
        cases h
        exact List.forall_mem_cons.mpr ⟨hb', List.forall_mem_append.mpr ⟨hsign', spanDigits_ascii hspan⟩⟩
    · cases h
      simp

lemma scanWhole_ascii {s u r : Bytes} (h : scanWhole s = .ok (u, r)) : ∀ b ∈ u, b ≤ 0x7F := by
  unfold scanWhole at h
  split at h
  · cases h
  · split_ifs at h with hzero hdigit
    · cases h
      simpa [hzero] using (by decide : ch '0' ≤ 0x7F)
    · cases h
      exact List.forall_mem_cons.mpr ⟨ascii_of_isDigit hdigit, spanDigits_ascii rfl⟩

/-- A number has no byte that is not ASCII, however it was written. -/
lemma scanNumber_ascii {s r : Bytes} {t : NumberToken} (h : scanNumber s = .ok (t, r)) :
    ∀ b ∈ t.text, b ≤ 0x7F := by
  unfold scanNumber at h
  obtain ⟨⟨whole, s₂⟩, hwhole, h⟩ := bind_eq_ok.mp h
  obtain ⟨⟨fraction, s₃⟩, hfraction, h⟩ := bind_eq_ok.mp h
  obtain ⟨⟨exponent, s₄⟩, hexponent, h⟩ := bind_eq_ok.mp h
  cases h
  simp only [NumberToken.text, List.forall_mem_append]
  refine ⟨⟨?_, scanWhole_ascii hwhole⟩, scanFraction_ascii hfraction, scanExponent_ascii hexponent⟩
  split_ifs
  · simp [ch]
  · simp

section Values

variable [Library]

lemma ascii_toChars {d : Double} (hd : d.isFinite = true) : ∀ b ∈ Library.toChars d, b ≤ 0x7F := by
  obtain ⟨t, htext, -, hscan⟩ := Library.toChars_token d hd
  rw [← htext]
  exact scanNumber_ascii (hscan [] ends_nil)

/-! ### Values -/

omit [Library] in
lemma validUtf8_indentation (step : Option ℕ) (n : ℕ) : validUtf8 (indentation step n) = true := by
  refine validUtf8_ascii fun b hb => ?_
  unfold indentation at hb
  split_ifs at hb
  · rcases List.mem_cons.mp hb with rfl | hb
    · decide
    · rw [List.eq_of_mem_replicate hb]
      decide
  · cases hb

omit [Library] in
lemma validUtf8_colon (step : Option ℕ) : validUtf8 (colon step) = true := by
  unfold colon
  split_ifs <;> decide

variable {step : Option ℕ}

lemma validUtf8_dumpItems {xs : List Value} (hxs : ∀ x ∈ xs, ∀ {cur u}, dumpAt step cur x = some u →
    validUtf8 u = true) {cur : ℕ} {u : Bytes} (h : dumpItems step cur xs = some u) :
    validUtf8 u = true := by
  induction xs generalizing u with
  | nil =>
    cases h
    rfl
  | cons x xs ih =>
    obtain ⟨hx, hxs⟩ := List.forall_mem_cons.mp hxs
    rw [dumpItems] at h
    obtain ⟨first, hfirst, h⟩ := Option.bind_eq_some_iff.mp h
    obtain ⟨rest, hrest, h⟩ := Option.bind_eq_some_iff.mp h
    cases h
    exact validUtf8_cons (by decide) (validUtf8_append
      (validUtf8_append (validUtf8_indentation step cur) (hx hfirst)) (ih hxs hrest))

lemma validUtf8_dumpMembers {ms : List (Bytes × Value)} (hms : ∀ m ∈ ms, ∀ {cur u},
    dumpAt step cur m.2 = some u → validUtf8 u = true) {cur : ℕ} {u : Bytes}
    (h : dumpMembers step cur ms = some u) : validUtf8 u = true := by
  induction ms generalizing u with
  | nil =>
    cases h
    rfl
  | cons m ms ih =>
    obtain ⟨k, v⟩ := m
    obtain ⟨hv, hms⟩ := List.forall_mem_cons.mp hms
    rw [dumpMembers] at h
    obtain ⟨name, hname, h⟩ := Option.bind_eq_some_iff.mp h
    obtain ⟨first, hfirst, h⟩ := Option.bind_eq_some_iff.mp h
    obtain ⟨rest, hrest, h⟩ := Option.bind_eq_some_iff.mp h
    cases h
    have hmember := validUtf8_append (validUtf8_append (validUtf8_dumpString hname)
      (validUtf8_colon step)) (hv hfirst)
    exact validUtf8_cons (by decide) (validUtf8_append
      (validUtf8_append (validUtf8_indentation step cur) hmember) (ih hms hrest))

/-- **A text of a value is UTF-8.** -/
theorem validUtf8_dumpAt {v : Value} {cur : ℕ} {u : Bytes} (h : dumpAt step cur v = some u) :
    validUtf8 u = true := by
  induction v using Value.induction generalizing cur u with
  | null =>
    cases h
    decide
  | bool b => cases b <;> cases h <;> decide
  | int n =>
    cases h
    exact validUtf8_ascii (ascii_decimalInt _)
  | uint n =>
    cases h
    exact validUtf8_ascii (ascii_decimal _)
  | float d =>
    rw [dumpAt, Option.some.injEq] at h
    subst h
    split_ifs with hd
    · exact validUtf8_ascii (ascii_toChars hd)
    · decide
  | str s => exact validUtf8_dumpString h
  | arr xs ih =>
    cases xs with
    | nil =>
      cases h
      decide
    | cons x xs =>
      obtain ⟨hx, hxs⟩ := List.forall_mem_cons.mp ih
      rw [dumpAt] at h
      obtain ⟨first, hfirst, h⟩ := Option.bind_eq_some_iff.mp h
      obtain ⟨rest, hrest, h⟩ := Option.bind_eq_some_iff.mp h
      cases h
      exact validUtf8_cons (by decide) (validUtf8_append (validUtf8_append
        (validUtf8_append (validUtf8_indentation _ _) (hx hfirst)) (validUtf8_dumpItems hxs hrest))
        (validUtf8_append (validUtf8_indentation _ _) (by decide)))
  | obj ms ih =>
    cases ms with
    | nil =>
      cases h
      decide
    | cons m ms =>
      obtain ⟨k, v⟩ := m
      obtain ⟨hv, hms⟩ := List.forall_mem_cons.mp ih
      rw [dumpAt] at h
      obtain ⟨name, hname, h⟩ := Option.bind_eq_some_iff.mp h
      obtain ⟨first, hfirst, h⟩ := Option.bind_eq_some_iff.mp h
      obtain ⟨rest, hrest, h⟩ := Option.bind_eq_some_iff.mp h
      cases h
      have hmember := validUtf8_append (validUtf8_append (validUtf8_dumpString hname)
        (validUtf8_colon step)) (hv hfirst)
      exact validUtf8_cons (by decide) (validUtf8_append (validUtf8_append
        (validUtf8_append (validUtf8_indentation _ _) hmember) (validUtf8_dumpMembers hms hrest))
        (validUtf8_append (validUtf8_indentation _ _) (by decide)))

end Values

end CcsTrans.Json
